import AttachmentIntake.Text.Blank
import AttachmentIntake.Text.Hex
import Mathlib.Data.List.Basic
import Mathlib.Data.List.TakeWhile

/-! Texts cut at a character, and bytes read back from their hexadecimal digits. -/

namespace AttachmentIntake.Text

/-! ### The first occurrence of a character -/

theorem splitFirst?_eq_none_iff {c : Char} {cs : List Char} : splitFirst? c cs = none ↔ c ∉ cs := by
  induction cs with
  | nil => simp [splitFirst?]
  | cons x cs ih =>
    rw [splitFirst?, List.mem_cons, not_or, ← ih]
    by_cases hx : x = c
    · simp [hx]
    · simp [hx, Ne.symm hx]

theorem splitFirst?_append {c : Char} {a b : List Char} (h : c ∉ a) :
    splitFirst? c (a ++ c :: b) = some (a, b) := by
  induction a with
  | nil => simp [splitFirst?]
  | cons x a ih =>
    rw [List.mem_cons, not_or] at h
    rw [List.cons_append, splitFirst?, if_neg (Ne.symm h.1), ih h.2]
    rfl

theorem splitFirst?_eq_some_iff {c : Char} {cs a b : List Char} :
    splitFirst? c cs = some (a, b) ↔ cs = a ++ c :: b ∧ c ∉ a := by
  constructor
  · intro h
    have hmem : c ∈ cs := by
      by_contra hmem
      rw [splitFirst?_eq_none_iff.mpr hmem] at h
      cases h
    obtain ⟨before, after, rfl, hbefore⟩ := List.eq_append_cons_of_mem hmem
    rw [splitFirst?_append hbefore] at h
    cases h
    exact ⟨rfl, hbefore⟩
  · rintro ⟨rfl, h⟩
    exact splitFirst?_append h

/-! ### The last occurrence of a character -/

theorem splitLast?_eq_none_iff {c : Char} {cs : List Char} : splitLast? c cs = none ↔ c ∉ cs := by
  induction cs with
  | nil => simp [splitLast?]
  | cons x cs ih =>
    rw [splitLast?, List.mem_cons, not_or, ← ih]
    cases splitLast? c cs with
    | some p => simp
    | none =>
      by_cases hx : x = c
      · simp [hx]
      · simp [hx, Ne.symm hx]

theorem splitLast?_append {c : Char} {a b : List Char} (h : c ∉ b) :
    splitLast? c (a ++ c :: b) = some (a, b) := by
  induction a with
  | nil => simp [splitLast?, splitLast?_eq_none_iff.mpr h]
  | cons x a ih => simp [splitLast?, ih]

theorem splitLast?_eq_some_iff {c : Char} {cs a b : List Char} :
    splitLast? c cs = some (a, b) ↔ cs = a ++ c :: b ∧ c ∉ b := by
  constructor
  · intro h
    induction cs generalizing a with
    | nil => cases h
    | cons x cs ih =>
      rw [splitLast?] at h
      split at h
      next a' b' hcs =>
        cases h
        obtain ⟨rfl, hb⟩ := ih hcs
        exact ⟨rfl, hb⟩
      next hcs =>
        split at h
        next hx =>
          cases h
          exact ⟨by rw [hx, List.nil_append], splitLast?_eq_none_iff.mp hcs⟩
        next => cases h
  · rintro ⟨rfl, hb⟩
    exact splitLast?_append hb

/-- A text is cut at the last occurrence of a character in one way only. -/
theorem append_cons_inj {c : Char} {a a' b b' : List Char} (hb : c ∉ b) (hb' : c ∉ b')
    (h : a ++ c :: b = a' ++ c :: b') : a = a' ∧ b = b' := by
  have hcut := splitLast?_append (a := a) hb
  rw [h, splitLast?_append hb'] at hcut
  cases hcut
  exact ⟨rfl, rfl⟩

/-! ### White space at the ends -/

theorem trimStart_of_head? {cs : List Char} (h : ∀ c ∈ cs.head?, isBlank c = false) :
    trimStart cs = cs := by
  cases cs with
  | nil => rfl
  | cons c cs => exact List.dropWhile_cons_of_neg (by simp [h c rfl])

theorem trimStart_blanks_append {before : List Char} (h : ∀ c ∈ before, isBlank c = true)
    (cs : List Char) : trimStart (before ++ cs) = trimStart cs := List.dropWhile_append_of_pos h

theorem isBlank_head?_trimStart {cs : List Char} :
    ∀ c ∈ (trimStart cs).head?, isBlank c = false := by
  intro c hc
  have hhead := List.head?_dropWhile_not isBlank cs
  rw [← trimStart, Option.mem_def.mp hc] at hhead
  simpa using hhead

theorem trimEnd_append (cs : List Char) :
    trimEnd cs ++ (cs.reverse.takeWhile isBlank).reverse = cs := by
  rw [trimEnd, ← List.reverse_append, List.takeWhile_append_dropWhile, List.reverse_reverse]

theorem trimEnd_append_blanks {after : List Char} (h : ∀ c ∈ after, isBlank c = true)
    (cs : List Char) : trimEnd (cs ++ after) = trimEnd cs := by
  have hreverse : ∀ c ∈ after.reverse, isBlank c = true := fun c hc => h c (List.mem_reverse.mp hc)
  rw [trimEnd, List.reverse_append, ← trimStart, trimStart_blanks_append hreverse]
  rfl

theorem trimEnd_of_getLast? {cs : List Char} (h : ∀ c ∈ cs.getLast?, isBlank c = false) :
    trimEnd cs = cs := by
  rw [trimEnd, ← trimStart, trimStart_of_head? (by rwa [List.head?_reverse]), List.reverse_reverse]

/-- What is trimmed off is white space. -/
theorem exists_trim (cs : List Char) : ∃ before after, before ++ (trim cs ++ after) = cs ∧
    (∀ c ∈ before, isBlank c = true) ∧ ∀ c ∈ after, isBlank c = true := by
  refine ⟨cs.takeWhile isBlank, ((trimStart cs).reverse.takeWhile isBlank).reverse, ?_, ?_, ?_⟩
  · rw [trim, trimEnd_append]
    exact List.takeWhile_append_dropWhile
  · exact fun c => List.mem_takeWhile_imp
  · exact fun c hc => List.mem_takeWhile_imp (List.mem_reverse.mp hc)

theorem trimEnd_isPrefix (cs : List Char) : trimEnd cs <+: cs := ⟨_, trimEnd_append cs⟩

theorem isBlank_getLast?_trimEnd {cs : List Char} :
    ∀ c ∈ (trimEnd cs).getLast?, isBlank c = false := by
  intro c hc
  rw [trimEnd, List.getLast?_reverse] at hc
  exact isBlank_head?_trimStart c hc

/-- White space is trimmed off the end of a longer text without touching the shorter one. -/
theorem trimEnd_isPrefix_trimEnd {as bs : List Char} (h : as <+: bs) : trimEnd as <+: trimEnd bs := by
  rcases List.prefix_or_prefix_of_prefix ((trimEnd_isPrefix as).trans h) (trimEnd_isPrefix bs) with
    hle | ⟨more, hmore⟩
  · exact hle
  · -- what the shorter text would have in addition is white space, and it does not end in any
    have hwhite : more <+: (bs.reverse.takeWhile isBlank).reverse := by
      rw [← List.prefix_append_right_inj (trimEnd bs), hmore, trimEnd_append]
      exact (trimEnd_isPrefix as).trans h
    cases hlast : more.getLast? with
    | none =>
      rw [List.getLast?_eq_none_iff.mp hlast, List.append_nil] at hmore
      exact hmore ▸ List.prefix_rfl
    | some c =>
      have hblank : isBlank c = true := by
        have hmem := hwhite.subset (List.mem_of_getLast? hlast)
        exact List.mem_takeWhile_imp (List.mem_reverse.mp hmem)
      have hnot : isBlank c = false := by
        apply @isBlank_getLast?_trimEnd as
        rw [← hmore, List.getLast?_append, hlast]
        rfl
      rw [hblank] at hnot
      cases hnot

theorem isBlank_head?_trim {cs : List Char} : ∀ c ∈ (trim cs).head?, isBlank c = false := by
  intro c hc
  refine @isBlank_head?_trimStart cs c ?_
  rw [← trimEnd_append (trimStart cs), ← trim, List.head?_append, Option.mem_def.mp hc]
  rfl

@[simp] theorem trim_trim (cs : List Char) : trim (trim cs) = trim cs := by
  rw [trim, trimStart_of_head? isBlank_head?_trim]
  exact trimEnd_of_getLast? isBlank_getLast?_trimEnd

end AttachmentIntake.Text

/-! ### Hexadecimal digits -/

namespace AttachmentIntake.Text.Hex

def digits : List Char := "0123456789abcdef".toList

/-- The bytes that pairs of digits in lower case stand for. -/
def decode? : List Char → Option (List UInt8)
  | [] => some []
  | [_] => none
  | high :: low :: rest => do
    let h ← digits.idxOf? high
    let l ← digits.idxOf? low
    return UInt8.ofNat (16 * h + l) :: (← decode? rest)

theorem idxOf?_digitChar : ∀ n < 16, digits.idxOf? (Nat.digitChar n) = some n := by decide

theorem decode?_encode (bytes : List UInt8) : decode? (encode bytes) = some bytes := by
  induction bytes with
  | nil => rfl
  | cons b bytes ih =>
    have hb : b.toNat < 256 := b.toNat_lt
    have hencode : encode (b :: bytes) =
        Nat.digitChar (b.toNat / 16) :: Nat.digitChar (b.toNat % 16) :: encode bytes := rfl
    rw [hencode, decode?, idxOf?_digitChar _ (by omega), idxOf?_digitChar _ (by omega), ih]
    change some (UInt8.ofNat (16 * (b.toNat / 16) + b.toNat % 16) :: bytes) = _
    rw [Nat.div_add_mod, UInt8.ofNat_toNat]

@[simp] theorem encode_length (bytes : List UInt8) : (encode bytes).length = 2 * bytes.length := by
  induction bytes with
  | nil => rfl
  | cons b bytes ih =>
    rw [encode, List.flatMap_cons, List.length_append, ← encode, ih]
    simp only [List.length_cons, List.length_nil]
    omega

theorem digitChar_mem_digits : ∀ n < 16, Nat.digitChar n ∈ digits := by decide

theorem mem_digits_of_mem_encode {bytes : List UInt8} {c : Char} (h : c ∈ encode bytes) :
    c ∈ digits := by
  obtain ⟨b, -, hc⟩ := List.mem_flatMap.mp h
  have hb : b.toNat < 256 := b.toNat_lt
  rcases List.mem_pair.mp hc with rfl | rfl
  · exact digitChar_mem_digits _ (by omega)
  · exact digitChar_mem_digits _ (by omega)

end AttachmentIntake.Text.Hex
