import AttachmentIntake.Json.Reader
import AttachmentIntake.Proofs.Basic
import AttachmentIntake.Proofs.JsonSpelling
import AttachmentIntake.Proofs.Utf8
import Mathlib.Data.List.Perm.Basic

/-!
Readers take back what is written. A reader reads a value if it does so from every spelling of the
value, with blanks in front of it and whatever behind it; texts, options, lists and records inherit
that from the readers that they are made of.
-/

namespace AttachmentIntake.Json

open Spelling

namespace Reader

variable {α β σ : Type}

theorem bind_of_ok {x : Reader α} {f : α → Reader β} {s t : List UInt8} {a : α}
    (h : x s = .ok (a, t)) : (x >>= f) s = f a t := by
  change x s >>= _ = _
  rw [h]
  rfl

theorem placed_of_ok {r : Reader α} {s t : List UInt8} {a : α} (h : r s = .ok (a, t)) :
    placed r s = .ok (a, t) := by
  rw [placed, h]

theorem leaving_of_ok {leave : List UInt8 → List UInt8} {r : Reader α} {s t : List UInt8} {a : α}
    (h : r s = .ok (a, t)) : leaving leave r s = .ok (a, t) := by
  rw [leaving, h]

/-! ### Loops -/

/-- A loop that comes to an end, each step before the last one taking bytes. -/
inductive Runs (step : σ → Reader (σ ⊕ α)) : σ → List UInt8 → α → List UInt8 → Prop where
  | done {s : σ} {input rest : List UInt8} {a : α} :
      step s input = .ok (.inr a, rest) → Runs step s input a rest
  | more {s t : σ} {input mid rest : List UInt8} {a : α} :
      step s input = .ok (.inl t, mid) → mid.length < input.length → Runs step t mid a rest →
      Runs step s input a rest

theorem iterateWithin_of_runs {step : σ → Reader (σ ⊕ α)} {s : σ} {input rest : List UInt8} {a : α}
    (h : Runs step s input a rest) {bound : List UInt8} (hbound : input.length < bound.length) :
    iterateWithin step bound s input = .ok (a, rest) := by
  induction h generalizing bound with
  | done hstep =>
    obtain ⟨b, bound, rfl⟩ := List.exists_cons_of_length_pos (Nat.zero_lt_of_lt hbound)
    rw [iterateWithin, hstep]
  | more hstep htakes _ ih =>
    obtain ⟨b, bound, rfl⟩ := List.exists_cons_of_length_pos (Nat.zero_lt_of_lt hbound)
    rw [iterateWithin, hstep]
    rw [List.length_cons] at hbound
    exact ih (by omega)

theorem iterate_of_runs {step : σ → Reader (σ ⊕ α)} {s : σ} {input rest : List UInt8} {a : α}
    (h : Runs step s input a rest) : iterate step s input = .ok (a, rest) :=
  iterateWithin_of_runs h (by simp)

/-! ### Blanks -/

section Blanks

variable {w rest : List UInt8} {b : UInt8}

theorem isBlank_of_mem (hw : Blanks w) (hb : b ∈ w) : isBlank b = true := by
  rcases hw b hb with rfl | rfl | rfl | rfl <;> rfl

theorem dropWhile_blanks (hw : Blanks w) : w.dropWhile isBlank = [] := by
  have hblank : (w ++ []).dropWhile isBlank = [].dropWhile isBlank :=
    List.dropWhile_append_of_pos fun b hb => isBlank_of_mem hw hb
  simpa using hblank

theorem dropWhile_blanks_append (hw : Blanks w) (hb : isBlank b = false) :
    (w ++ b :: rest).dropWhile isBlank = b :: rest := by
  rw [List.dropWhile_append_of_pos fun b hb => isBlank_of_mem hw hb]
  exact List.dropWhile_cons_of_neg (by simp [hb])

theorem peekToken_of_blanks (hw : Blanks w) (hb : isBlank b = false) :
    peekToken (w ++ b :: rest) = .ok (some b, b :: rest) := by
  change Except.ok (((w ++ b :: rest).dropWhile isBlank).head?,
    (w ++ b :: rest).dropWhile isBlank) = _
  rw [dropWhile_blanks_append hw hb, List.head?_cons]

theorem peekToken_of_end (hw : Blanks w) : peekToken w = .ok (none, []) := by
  change Except.ok ((w.dropWhile isBlank).head?, w.dropWhile isBlank) = _
  rw [dropWhile_blanks hw, List.head?_nil]

theorem valueStart_of_blanks (hw : Blanks w) (hb : isBlank b = false) :
    valueStart (w ++ b :: rest) = .ok (b, b :: rest) := by
  rw [valueStart, bind_of_ok (peekToken_of_blanks hw hb)]
  rfl

@[simp] theorem peek_cons : peek (b :: rest) = .ok (some b, b :: rest) := rfl

@[simp] theorem advance_cons : advance (b :: rest) = .ok ((), rest) := rfl

end Blanks

/-! ### Texts -/

section Texts

variable {decode : Reader (List UInt8)} {before input rest out : List UInt8} {c : Char} {b : UInt8}

@[simp] theorem keptStep_quote :
    keptStep before (quote :: rest) = .ok (.inr before.reverse, rest) := rfl

theorem keptStep_plain (hlow : 0x20 ≤ b) (hquote : b ≠ quote) (hslash : b ≠ backslash) :
    keptStep before (b :: rest) = .ok (.inl (b :: before), rest) := by
  have hquote' : b ≠ byte '"' := hquote
  have hslash' : b ≠ byte '\\' := hslash
  rw [keptStep, stringStep, bind_of_ok peek_cons]
  simp only [if_neg (UInt8.not_lt.mpr hlow)]
  rw [bind_of_ok advance_cons, if_neg hquote', if_neg hslash']
  rfl

theorem keptStep_escape (h : escape unicodeEscape input = .ok (out, rest)) :
    keptStep before (backslash :: input) = .ok (.inl (out.reverse ++ before), rest) := by
  change (escape unicodeEscape >>= fun out => pure (Sum.inl (out.reverse ++ before))) input = _
  rw [bind_of_ok h]
  rfl

/-! #### Escapes -/

theorem hexValue?_of_hexDigit {n : Nat} (h : HexDigit n b) : hexValue? b = some n := by
  have hall : ∀ n < 16, hexValue? (Nat.digitChar n).toUInt8 = some n ∧
      hexValue? (Nat.digitChar n).toUpper.toUInt8 = some n := by decide
  obtain ⟨hn, rfl | rfl⟩ := h
  · exact (hall n hn).1
  · exact (hall n hn).2

theorem hexEscape_of_hexCode {n : Nat} {w : List UInt8} (h : HexCode n w) :
    hexEscape (w ++ rest) = .ok (n, rest) := by
  obtain ⟨h₁, h₂, h₃, h₄⟩ := h
  simp only [List.cons_append, List.nil_append, hexEscape, hexValue?_of_hexDigit h₁,
    hexValue?_of_hexDigit h₂, hexValue?_of_hexDigit h₃, hexValue?_of_hexDigit h₄]

theorem escape_letter {l : Char} (h : (c, l) ∈ letters) :
    escape decode (l.toUInt8 :: rest) = .ok (Text.Utf8.encode [c], rest) := by
  simp only [letters, List.mem_cons, Prod.mk.injEq, List.not_mem_nil, or_false] at h
  rcases h with ⟨rfl, rfl⟩ | ⟨rfl, rfl⟩ | ⟨rfl, rfl⟩ | ⟨rfl, rfl⟩ | ⟨rfl, rfl⟩ | ⟨rfl, rfl⟩ |
    ⟨rfl, rfl⟩ | ⟨rfl, rfl⟩ <;> rw [Text.Utf8.encode_one (by decide)] <;> rfl

theorem unicodeEscape_code {w : List UInt8} (h : HexCode c.toNat w) :
    unicodeEscape (w ++ rest) = .ok (Text.Utf8.encode [c], rest) := by
  have hscalar := Text.Utf8.isScalar c
  have hlow : ¬ isLowSurrogate c.toNat = true := by
    simp only [isLowSurrogate, Bool.and_eq_true, decide_eq_true_eq]
    omega
  have hhigh : ¬ isHighSurrogate c.toNat = true := by
    simp only [isHighSurrogate, Bool.and_eq_true, decide_eq_true_eq]
    omega
  rw [unicodeEscape, bind_of_ok (hexEscape_of_hexCode h), if_neg hlow, if_neg hhigh,
    Char.ofNat_toNat]
  rfl

theorem unicodeEscape_pair {high low : List UInt8} (hc : 0x10000 ≤ c.toNat)
    (hhigh : HexCode (0xD800 + (c.toNat - 0x10000) / 0x400) high)
    (hlow : HexCode (0xDC00 + (c.toNat - 0x10000) % 0x400) low) :
    unicodeEscape (high ++ backslash :: 0x75 :: low ++ rest) =
      .ok (Text.Utf8.encode [c], rest) := by
  have hscalar := Text.Utf8.isScalar c
  have hvalue : 0x10000 + (0xD800 + (c.toNat - 0x10000) / 0x400 - 0xD800) * 0x400 +
      (0xDC00 + (c.toNat - 0x10000) % 0x400 - 0xDC00) = c.toNat := by
    omega
  have hisHigh : isHighSurrogate (0xD800 + (c.toNat - 0x10000) / 0x400) = true := by
    simp only [isHighSurrogate, Bool.and_eq_true, decide_eq_true_eq]
    omega
  have hnotLow : ¬ isLowSurrogate (0xD800 + (c.toNat - 0x10000) / 0x400) = true := by
    simp only [isLowSurrogate, Bool.and_eq_true, decide_eq_true_eq]
    omega
  have hisLow : isLowSurrogate (0xDC00 + (c.toNat - 0x10000) % 0x400) = true := by
    simp only [isLowSurrogate, Bool.and_eq_true, decide_eq_true_eq]
    omega
  have hslash : pairByte (byte '\\') (backslash :: 0x75 :: (low ++ rest)) =
      .ok ((), 0x75 :: (low ++ rest)) := rfl
  have hu : pairByte (byte 'u') (0x75 :: (low ++ rest)) = .ok ((), low ++ rest) := rfl
  rw [List.append_assoc, unicodeEscape, bind_of_ok (hexEscape_of_hexCode hhigh), if_neg hnotLow,
    if_pos hisHigh, List.cons_append, List.cons_append, bind_of_ok hslash, bind_of_ok hu,
    bind_of_ok (hexEscape_of_hexCode hlow), if_pos hisLow, hvalue, Char.ofNat_toNat]
  rfl

theorem exists_escape {w : List UInt8} (h : OfChar c w) :
    (w = Text.Utf8.encode [c] ∧ 0x20 ≤ c.toNat ∧ c ≠ '"' ∧ c ≠ '\\') ∨
      ∃ v, w = backslash :: v ∧
        ∀ rest, escape unicodeEscape (v ++ rest) = .ok (Text.Utf8.encode [c], rest) := by
  cases h with
  | plain hlow hquote hslash => exact .inl ⟨rfl, hlow, hquote, hslash⟩
  | letter hl => exact .inr ⟨_, rfl, fun rest => escape_letter hl⟩
  | code hw => exact .inr ⟨_, rfl, fun rest => unicodeEscape_code hw⟩
  | pair hc hhigh hlow =>
    exact .inr ⟨_, rfl, fun rest => unicodeEscape_pair hc hhigh hlow⟩

/-! #### Whole texts -/

variable {cs : List Char} {w : List UInt8}

theorem runs_plain {bytes : List UInt8}
    (hplain : ∀ b ∈ bytes, 0x20 ≤ b ∧ b ≠ quote ∧ b ≠ backslash)
    (h : Runs keptStep (bytes.reverse ++ before) input out rest) :
    Runs keptStep before (bytes ++ input) out rest := by
  induction bytes generalizing before with
  | nil => exact h
  | cons b bytes ih =>
    obtain ⟨⟨hlow, hquote, hslash⟩, hmore⟩ := List.forall_mem_cons.mp hplain
    refine .more (keptStep_plain hlow hquote hslash) (by simp) (ih hmore ?_)
    rwa [List.reverse_cons, List.append_assoc] at h

/-- The bytes of a character that needs no escape. -/
theorem plain_of_mem_encode (hlow : 0x20 ≤ c.toNat) (hquote : c ≠ '"') (hslash : c ≠ '\\')
    (hb : b ∈ Text.Utf8.encode [c]) : 0x20 ≤ b ∧ b ≠ quote ∧ b ≠ backslash := by
  by_cases hascii : c.toNat ≤ 0x7F
  · rw [Text.Utf8.encode_one hascii, List.mem_singleton] at hb
    have hvalue : b.toNat = c.toNat := by rw [hb, Text.Utf8.toNat_ofNat (by omega)]
    refine ⟨UInt8.le_iff_toNat_le.mpr (hvalue ▸ hlow), ?_, ?_⟩
    · rintro rfl
      exact hquote (Char.toNat_inj.mp hvalue.symm)
    · rintro rfl
      exact hslash (Char.toNat_inj.mp hvalue.symm)
  · have hhigh := Text.Utf8.le_of_mem_encode (Nat.lt_of_not_le hascii) hb
    refine ⟨UInt8.le_trans (by decide) hhigh, ?_, ?_⟩
    · rintro rfl
      exact absurd hhigh (by decide)
    · rintro rfl
      exact absurd hhigh (by decide)

theorem runs_char {v : List UInt8} (h : OfChar c v)
    (hmore : Runs keptStep ((Text.Utf8.encode [c]).reverse ++ before) input out rest) :
    Runs keptStep before (v ++ input) out rest := by
  rcases exists_escape h with ⟨rfl, hlow, hquote, hslash⟩ | ⟨v, rfl, hescape⟩
  · exact runs_plain (fun b hb => plain_of_mem_encode hlow hquote hslash hb) hmore
  · have hlength : input.length < (backslash :: v ++ input).length := by
      rw [List.length_append, List.length_cons]
      omega
    exact .more (keptStep_escape (hescape input)) hlength hmore

theorem runs_chars (h : OfChars cs w) :
    Runs keptStep before (w ++ quote :: rest)
      (before.reverse ++ Text.Utf8.encode cs) rest := by
  induction h generalizing before with
  | nil =>
    rw [Text.Utf8.encode_nil, List.append_nil]
    exact .done keptStep_quote
  | cons hc _ ih =>
    rw [List.append_assoc, Text.Utf8.encode_cons]
    refine runs_char hc ?_
    simpa using @ih ((Text.Utf8.encode [_]).reverse ++ before)

theorem stringBody_of_chars {s : String} (h : OfChars s.toList w) :
    stringBody (w ++ quote :: rest) = .ok (s, rest) := by
  have hbytes : stringBytes (w ++ quote :: rest) = .ok (Text.Utf8.encode s.toList, rest) :=
    iterate_of_runs (runs_chars h)
  rw [stringBody, bind_of_ok hbytes, Text.Utf8.text?_encode]
  change Except.ok (String.ofList s.toList, rest) = _
  rw [String.ofList_toList]

end Texts

/-! ### Values -/

/-- The reader takes every spelling of the value, and gives `a` for it. -/
def Reads (r : Reader α) (a : α) (v : Value) : Prop :=
  ∀ before w rest : List UInt8, Blanks before → Spells v w →
    r (before ++ w ++ rest) = .ok (a, rest)

/-- What a spelling begins with tells `null` apart from all else. -/
theorem exists_start {v : Value} {w : List UInt8} (h : Spells v w) :
    ∃ b more, w = b :: more ∧ isBlank b = false ∧ b ≠ 0x5D ∧ (v ≠ .null → b ≠ 0x6E) := by
  cases h with
  | null => exact ⟨_, _, rfl, by decide, by decide, fun hv => absurd rfl hv⟩
  | text hw =>
    obtain ⟨hw⟩ := hw
    exact ⟨_, _, rfl, by decide, by decide, fun _ => by decide⟩
  | array hw => exact ⟨_, _, rfl, by decide, by decide, fun _ => by decide⟩
  | object hw => exact ⟨_, _, rfl, by decide, by decide, fun _ => by decide⟩

theorem length_lt_of_spells {v : Value} {w lead blanks rest : List UInt8} (h : Spells v w) :
    rest.length < (lead ++ (blanks ++ (w ++ rest))).length := by
  obtain ⟨b, more, rfl, -⟩ := exists_start h
  simp only [List.length_append, List.length_cons]
  omega

section Single

variable {s : String} {r : Reader α} {a : α} {v : Value}

theorem reads_textAs (wanted : String) : Reads (textAs wanted) s (.text s) := by
  intro before w rest hbefore hw
  cases hw with
  | text htext =>
    obtain ⟨hchars⟩ := htext
    simp only [List.append_assoc, List.cons_append, List.nil_append]
    rw [textAs, bind_of_ok (valueStart_of_blanks hbefore (by decide))]
    exact stringBody_of_chars hchars

theorem reads_text (s : String) : Reads text s (.text s) := reads_textAs "a string"

theorem reads_optional (hr : Reads r a v) (hv : v ≠ .null) : Reads (optional r) (some a) v := by
  intro before w rest hbefore hw
  obtain ⟨b, more, rfl, hblank, -, hnull⟩ := exists_start hw
  have hread := hr [] _ rest nofun hw
  have hb : ¬ (some b = some (byte 'n')) := fun h => hnull hv (Option.some.inj h)
  rw [List.append_assoc, List.cons_append, optional,
    bind_of_ok (peekToken_of_blanks hbefore hblank), if_neg hb]
  exact bind_of_ok hread

theorem reads_none : Reads (optional r) none .null := by
  intro before w rest hbefore hw
  cases hw
  rw [List.append_assoc, List.cons_append, optional,
    bind_of_ok (peekToken_of_blanks hbefore (by decide))]
  rfl

end Single

theorem reads_ofOption {name : α → String} (hr : ∀ a, Reads r a (.text (name a)))
    (o : Option α) : Reads (optional r) o (ofOption (fun a => .text (name a)) o) := by
  cases o with
  | none => exact reads_none
  | some a => exact reads_optional (hr a) nofun

theorem Reads.bind {f : α → Reader β} {b : β} (hr : Reads r a v)
    (hf : ∀ input, f a input = .ok (b, input)) : Reads (r >>= f) b v := by
  intro before w rest hbefore hw
  rw [bind_of_ok (hr _ _ _ hbefore hw), hf]

theorem Reads.placed (hr : Reads r a v) : Reads (placed r) a v := fun before w rest hbefore hw =>
  placed_of_ok (hr before w rest hbefore hw)

theorem reads_variantName {choose : String → Except Problem α} (h : choose s = .ok a) :
    Reads (variantName choose) a (.text s) := by
  refine Reads.placed (Reads.bind (reads_textAs _) fun input => ?_)
  rw [h]
  rfl

theorem reads_variantWith {choose : String → Except Problem α} (h : choose s = .ok a) :
    Reads (variantWith choose) a (.text s) := by
  intro before w rest hbefore hw
  have hread := reads_variantName h [] w rest nofun hw
  cases hw with
  | text htext =>
    obtain ⟨hchars⟩ := htext
    simp only [List.append_assoc, List.cons_append, List.nil_append] at hread ⊢
    rw [variantWith, bind_of_ok (peekToken_of_blanks hbefore (by decide))]
    exact hread

/-! ### Lists -/

/-- What stands in front of an item: nothing before the first one, and a comma before the others. -/
def Lead (first : Bool) (lead : List UInt8) : Prop :=
  if first then lead = [] else ∃ blanks, Blanks blanks ∧ lead = blanks ++ [0x2C]

@[simp] theorem lead_nil : Lead true [] := rfl

theorem lead_comma {blanks : List UInt8} (h : Blanks blanks) : Lead false (blanks ++ [0x2C]) :=
  ⟨blanks, h, rfl⟩

section Lists

variable {first : Bool} {lead blanks rest : List UInt8} {b : UInt8}

theorem hasItem_more (hlead : Lead first lead) (hblanks : Blanks blanks) (hb : isBlank b = false)
    (hend : b ≠ 0x5D) : hasItem first (lead ++ blanks ++ b :: rest) = .ok (true, b :: rest) := by
  have hend' : b ≠ byte ']' := hend
  cases first with
  | true =>
    cases hlead
    rw [List.nil_append, hasItem, bind_of_ok (peekToken_of_blanks hblanks hb)]
    simp only [if_neg hend', if_true]
    rfl
  | false =>
    obtain ⟨w, hw, rfl⟩ := hlead
    simp only [List.append_assoc, List.cons_append, List.nil_append]
    rw [hasItem, bind_of_ok (peekToken_of_blanks hw (by decide))]
    have hclose : (0x2C : UInt8) ≠ byte ']' := by decide
    have hcomma : (0x2C : UInt8) = byte ',' := rfl
    simp only [if_neg hclose, Bool.false_eq_true, if_false, if_pos hcomma]
    rw [bind_of_ok advance_cons, bind_of_ok (peekToken_of_blanks hblanks hb)]
    simp only [if_neg hend']
    rfl

theorem hasItem_end (hblanks : Blanks blanks) :
    hasItem first (blanks ++ 0x5D :: rest) = .ok (false, 0x5D :: rest) := by
  rw [hasItem, bind_of_ok (peekToken_of_blanks hblanks (by decide))]
  rfl

variable {item : Reader α} {before : List α} {as : List α} {vs : List Value} {w : List UInt8}

theorem itemStep_more {a : α} {v : Value} (rest : List UInt8) (hitem : Reads item a v)
    (hlead : Lead before.isEmpty lead) (hblanks : Blanks blanks) (hw : Spells v w) :
    itemStep item before (lead ++ blanks ++ w ++ rest) = .ok (.inl (a :: before), rest) := by
  obtain ⟨b, more, rfl, hblank, hend, -⟩ := exists_start hw
  have hread := hitem [] _ rest nofun hw
  rw [List.append_assoc, List.cons_append, itemStep,
    bind_of_ok (hasItem_more hlead hblanks hblank hend)]
  exact bind_of_ok hread

theorem itemStep_end (item : Reader α) (before : List α) (rest : List UInt8)
    (hblanks : Blanks blanks) :
    itemStep item before (blanks ++ 0x5D :: rest) = .ok (.inr before.reverse, 0x5D :: rest) := by
  rw [itemStep, bind_of_ok (hasItem_end hblanks)]
  rfl

theorem nextItem_more {item : Reader α} {a : α} {v : Value} {w : List UInt8} (rest : List UInt8)
    (hitem : Reads item a v) (hlead : Lead first lead) (hblanks : Blanks blanks)
    (hw : Spells v w) : nextItem first item (lead ++ blanks ++ w ++ rest) = .ok (some a, rest) := by
  obtain ⟨b, more, rfl, hblank, hend, -⟩ := exists_start hw
  have hread := hitem [] _ rest nofun hw
  rw [List.append_assoc, List.cons_append, nextItem,
    bind_of_ok (hasItem_more hlead hblanks hblank hend)]
  exact bind_of_ok hread

theorem runs_items (hw : Separated Spells vs w) (hitems : List.Forall₂ (Reads item) as vs)
    (hlead : Lead before.isEmpty lead) :
    Runs (itemStep item) before (lead ++ w ++ 0x5D :: rest) (before.reverse ++ as)
      (0x5D :: rest) := by
  induction hw generalizing as before lead with
  | @last v blanks w after hblanks hw hafter =>
    cases hitems with
    | @cons a _ as _ hitem hitems =>
      cases hitems
      have hstep := itemStep_more (after ++ 0x5D :: rest) hitem hlead hblanks hw
      have hlast := itemStep_end item (a :: before) rest hafter
      rw [List.reverse_cons] at hlast
      simp only [List.append_assoc] at hstep ⊢
      exact .more hstep (length_lt_of_spells hw) (.done hlast)
  | @more v vs blanks w after ws hblanks hw hafter _ ih =>
    cases hitems with
    | @cons a _ as _ hitem hitems =>
      have hstep := itemStep_more (after ++ 0x2C :: (ws ++ 0x5D :: rest)) hitem hlead
        hblanks hw
      have hnext := @ih _ (a :: before) _ hitems ⟨after, hafter, rfl⟩
      simp only [List.append_assoc, List.cons_append, List.nil_append,
        List.reverse_cons] at hstep hnext ⊢
      exact .more hstep (length_lt_of_spells hw) hnext

theorem reads_list (hitems : List.Forall₂ (Reads item) as vs) :
    Reads (list item) as (.array vs) := by
  intro before w rest hbefore hw
  cases hw with
  | @array _ w hw =>
    have hruns : Runs (itemStep item) [] (w ++ 0x5D :: rest) as (0x5D :: rest) := by
      cases hw with
      | none hw =>
        cases hitems
        exact .done (itemStep_end item [] rest hw)
      | some hw =>
        have hlead : Lead ([] : List α).isEmpty [] := lead_nil
        exact runs_items hw hitems hlead
    simp only [List.append_assoc, List.cons_append, List.nil_append]
    apply placed_of_ok
    rw [bind_of_ok (valueStart_of_blanks hbefore (by decide)), if_pos (by rfl),
      bind_of_ok advance_cons, bind_of_ok (leaving_of_ok (iterate_of_runs hruns))]
    rfl

theorem endList_of_blanks (hblanks : Blanks blanks) :
    endList (blanks ++ 0x5D :: rest) = .ok ((), rest) := by
  rw [endList, bind_of_ok (peekToken_of_blanks hblanks (by decide))]
  rfl

/-- A record reads a list if its fields, read one after the other, make it. -/
theorem reads_record_list {wanted : String} {fromList fromObject : Reader α} {a : α}
    (h : ∀ w rest, Items Spells vs w → ∃ after, Blanks after ∧
      fromList (w ++ 0x5D :: rest) = .ok (a, after ++ 0x5D :: rest)) :
    Reads (record wanted fromList fromObject) a (.array vs) := by
  intro before w rest hbefore hw
  cases hw with
  | @array _ w hw =>
    obtain ⟨after, hafter, hlist⟩ := h w rest hw
    simp only [List.append_assoc, List.cons_append, List.nil_append]
    apply placed_of_ok
    rw [bind_of_ok (valueStart_of_blanks hbefore (by decide)), if_pos (by rfl),
      bind_of_ok advance_cons, bind_of_ok (leaving_of_ok hlist),
      bind_of_ok (endList_of_blanks hafter)]
    rfl

end Lists

/-! ### Objects -/

/-- The reader takes the colon and every spelling of the value behind it. -/
def ReadsEntry (r : Reader α) (a : α) (v : Value) : Prop :=
  ∀ before after w rest : List UInt8, Blanks before → Blanks after → Spells v w →
    r (before ++ 0x3A :: after ++ w ++ rest) = .ok (a, rest)

/-- What reading entries one after the other makes of a state. -/
inductive Takes (entry : σ → String → Reader σ) : σ → List (String × Value) → σ → Prop where
  | nil {s : σ} : Takes entry s [] s
  | cons {s t u : σ} {key : String} {v : Value} {es : List (String × Value)} :
      ReadsEntry (entry s key) t v → Takes entry t es u → Takes entry s ((key, v) :: es) u

section Objects

variable {first : Bool} {lead blanks w rest : List UInt8} {s t u : σ} {v : Value}
  {entry : σ → String → Reader σ} {es : List (String × Value)}

theorem hasEntry_more (hlead : Lead first lead) (hblanks : Blanks blanks) :
    hasEntry first (lead ++ blanks ++ quote :: rest) = .ok (true, quote :: rest) := by
  cases first with
  | true =>
    cases hlead
    rw [List.nil_append, hasEntry, bind_of_ok (peekToken_of_blanks hblanks (by decide))]
    rfl
  | false =>
    obtain ⟨w, hw, rfl⟩ := hlead
    have hclose : (0x2C : UInt8) ≠ byte '\x7d' := by decide
    have hcomma : (0x2C : UInt8) = byte ',' := rfl
    simp only [List.append_assoc, List.cons_append, List.nil_append]
    rw [hasEntry, bind_of_ok (peekToken_of_blanks hw (by decide))]
    simp only [if_neg hclose, Bool.false_eq_true, if_false, if_pos hcomma]
    rw [bind_of_ok advance_cons, bind_of_ok (peekToken_of_blanks hblanks (by decide))]
    rfl

theorem hasEntry_end (hblanks : Blanks blanks) :
    hasEntry first (blanks ++ 0x7D :: rest) = .ok (false, 0x7D :: rest) := by
  rw [hasEntry, bind_of_ok (peekToken_of_blanks hblanks (by decide))]
  rfl

theorem colon_of_blanks (hblanks : Blanks blanks) :
    colon (blanks ++ 0x3A :: rest) = .ok ((), rest) := by
  rw [colon, bind_of_ok (peekToken_of_blanks hblanks (by decide))]
  rfl

theorem reads_unit : Reads unit () .null := by
  intro before w rest hbefore hw
  cases hw
  rw [List.append_assoc, List.cons_append, unit,
    bind_of_ok (valueStart_of_blanks hbefore (by decide))]
  rfl

/-- A variant is also read from an object that maps its name to `null`. -/
theorem reads_variantWith_null {choose : String → Except Problem α} {name : String} {a : α}
    (h : choose name = .ok a) : Reads (variantWith choose) a (.object [(name, .null)]) := by
  intro before w rest hbefore hw
  cases hw with
  | object hw =>
    obtain ⟨lead, _, after, rfl, hlead, hentry, hafter⟩ := hw.separated.singleton
    obtain @⟨_, _, k, v, colonBefore, colonAfter, hkey, hcolon, hvalue, hnull⟩ := hentry
    have hname := reads_variantName h lead k
      (colonBefore ++ 0x3A :: (colonAfter ++ (v ++ (after ++ 0x7D :: rest)))) hlead (.text hkey)
    have hunit := reads_unit colonAfter v (after ++ 0x7D :: rest) hvalue hnull
    simp only [List.append_assoc, List.cons_append, List.nil_append] at hname hunit ⊢
    rw [variantWith, bind_of_ok (peekToken_of_blanks hbefore (by decide))]
    dsimp only
    rw [if_neg (by decide), if_pos (by rfl), bind_of_ok advance_cons, bind_of_ok hname,
      bind_of_ok (colon_of_blanks hcolon), bind_of_ok hunit,
      bind_of_ok (peekToken_of_blanks hafter (by decide))]
    rfl

theorem Reads.field (name : String) {old : Option α} {r : Reader α} {a : α} (hr : Reads r a v)
    (hold : old = none) : ReadsEntry (field name old r) (some a) v := by
  subst hold
  intro before after w rest hbefore hafter hw
  simp only [List.append_assoc, List.cons_append]
  rw [Reader.field, if_neg (by simp), bind_of_ok (colon_of_blanks hbefore), ← List.append_assoc]
  exact bind_of_ok (hr _ _ _ hafter hw)

theorem ReadsEntry.bind {r : Reader α} {f : α → Reader β} {a : α} {b : β} (hr : ReadsEntry r a v)
    (hf : ∀ input, f a input = .ok (b, input)) : ReadsEntry (r >>= f) b v := by
  intro before after w rest hbefore hafter hw
  rw [bind_of_ok (hr _ _ _ _ hbefore hafter hw), hf]

theorem entryStep_more {e : String × Value} (rest : List UInt8)
    (hentry : ReadsEntry (entry s e.1) t e.2) (hlead : Lead first lead) (hblanks : Blanks blanks)
    (hw : OfEntry Spells e w) :
    entryStep entry (first, s) (lead ++ blanks ++ w ++ rest) = .ok (.inl (false, t), rest) := by
  cases hw with
  | @mk key a k v before after hkey hbefore hafter hvalue =>
    obtain ⟨hchars⟩ := hkey
    have hread := hentry _ _ _ rest hbefore hafter hvalue
    simp only [List.append_assoc lead, List.append_assoc, List.cons_append,
      List.nil_append] at hread ⊢
    rw [← List.append_assoc, entryStep, bind_of_ok (hasEntry_more hlead hblanks)]
    simp only [if_true]
    rw [bind_of_ok advance_cons, bind_of_ok (stringBody_of_chars hchars)]
    exact bind_of_ok hread

theorem entryStep_end (hblanks : Blanks blanks) :
    entryStep entry (first, s) (blanks ++ 0x7D :: rest) = .ok (.inr s, 0x7D :: rest) := by
  rw [entryStep, bind_of_ok (hasEntry_end hblanks)]
  rfl

theorem length_lt_of_ofEntry {e : String × Value} {w lead blanks rest : List UInt8}
    (h : OfEntry Spells e w) : rest.length < (lead ++ (blanks ++ (w ++ rest))).length := by
  obtain ⟨⟨hkey⟩, hbefore, hafter, hvalue⟩ := h
  simp only [List.length_append, List.length_cons]
  omega

theorem runs_entries (hw : Separated (OfEntry Spells) es w) (htakes : Takes entry s es t)
    (hlead : Lead first lead) :
    Runs (entryStep entry) (first, s) (lead ++ w ++ 0x7D :: rest) t (0x7D :: rest) := by
  induction hw generalizing first s lead with
  | @last e blanks w after hblanks hw hafter =>
    cases htakes with
    | @cons s t' u key v es hentry htakes =>
      cases htakes
      have hstep := entryStep_more (after ++ 0x7D :: rest) hentry hlead hblanks hw
      simp only [List.append_assoc] at hstep ⊢
      exact .more hstep (length_lt_of_ofEntry hw) (.done (entryStep_end hafter))
  | @more e es blanks w after ws hblanks hw hafter _ ih =>
    cases htakes with
    | @cons s t' u key v es hentry htakes =>
      have hstep := entryStep_more (after ++ 0x2C :: (ws ++ 0x7D :: rest)) hentry hlead
        hblanks hw
      have hnext := ih htakes (lead_comma hafter)
      simp only [List.append_assoc, List.cons_append, List.nil_append] at hstep hnext ⊢
      exact .more hstep (length_lt_of_ofEntry hw) hnext

theorem entries_of_takes (hw : Items (OfEntry Spells) es w) (htakes : Takes entry s es t) :
    entries entry s (w ++ 0x7D :: rest) = .ok (t, 0x7D :: rest) := by
  refine iterate_of_runs ?_
  cases hw with
  | none hw =>
    cases htakes
    exact .done (entryStep_end hw)
  | some hw => exact runs_entries hw htakes lead_nil

/-- A record reads an object if its fields, read in the order of the entries, make it. -/
theorem reads_record {wanted : String} {fromList : Reader α} {a : α} {f : σ → Reader α}
    (htakes : Takes entry s es t) (hf : ∀ input, f t input = .ok (a, input)) :
    Reads (record wanted fromList (entries entry s >>= f)) a (.object es) := by
  intro before w rest hbefore hw
  cases hw with
  | @object _ w hw =>
    have hobject : (entries entry s >>= f) (w ++ 0x7D :: rest) = .ok (a, 0x7D :: rest) := by
      rw [bind_of_ok (entries_of_takes hw htakes), hf]
    simp only [List.append_assoc, List.cons_append, List.nil_append]
    apply placed_of_ok
    rw [bind_of_ok (valueStart_of_blanks hbefore (by decide)), if_neg (by decide),
      if_pos (by rfl), bind_of_ok advance_cons, bind_of_ok (leaving_of_ok hobject)]
    rfl

end Objects

/-! ### Fields in any order -/

/-- Fields that are put into a state, each into a slot of its own. -/
structure Slots (σ ε : Type) where
  put : σ → ε → σ
  slot : ε → String
  Free : σ → ε → Prop
  free_put : ∀ s e e', slot e ≠ slot e' → Free s e' → Free (put s e) e'
  put_comm : ∀ s e e', slot e ≠ slot e' → put (put s e) e' = put (put s e') e

section Slots

variable {σ ε : Type} (slots : Slots σ ε) {entry : σ → String → Reader σ}
  {Writes : ε → String × Value → Prop} {s : σ} {fields : List ε}
  {entries canonical : List (String × Value)}

theorem takes_of_nodup
    (hread : ∀ s e kv, Writes e kv → slots.Free s e →
      ReadsEntry (entry s kv.1) (slots.put s e) kv.2)
    (hwrites : List.Forall₂ Writes fields entries) (hslots : (fields.map slots.slot).Nodup)
    (hfree : ∀ e ∈ fields, slots.Free s e) : Takes entry s entries (fields.foldl slots.put s) := by
  induction hwrites generalizing s with
  | nil => exact .nil
  | @cons e kv fields entries hwrite _ ih =>
    obtain ⟨hfirst, hmore⟩ := List.forall_mem_cons.mp hfree
    rw [List.map_cons, List.nodup_cons] at hslots
    refine .cons (hread s e kv hwrite hfirst) (ih hslots.2 fun e' he' => ?_)
    refine slots.free_put s e e' (fun heq => hslots.1 ?_) (hmore e' he')
    exact heq ▸ List.mem_map_of_mem he'

/-- The order in which the fields are written makes no difference. -/
theorem takes_of_perm (fields : List ε)
    (hread : ∀ s e kv, Writes e kv → slots.Free s e →
      ReadsEntry (entry s kv.1) (slots.put s e) kv.2)
    (hperm : entries.Perm canonical) (hwrites : List.Forall₂ Writes fields canonical)
    (hslots : (fields.map slots.slot).Nodup) (hfree : ∀ e ∈ fields, slots.Free s e) :
    Takes entry s entries (fields.foldl slots.put s) := by
  obtain ⟨fields', hwrites', hperm'⟩ := List.perm_comp_forall₂ hperm hwrites.flip
  have hcomm : ∀ e ∈ fields', ∀ e' ∈ fields', ∀ s,
      slots.put (slots.put s e) e' = slots.put (slots.put s e') e := by
    intro e he e' he' s
    have hapart := List.inj_on_of_nodup_map ((hperm'.map slots.slot).nodup_iff.mpr hslots)
    by_cases heq : slots.slot e = slots.slot e'
    · rw [hapart he he' heq]
    · exact slots.put_comm s e e' heq
  rw [← hperm'.foldl_eq' hcomm]
  refine takes_of_nodup slots hread hwrites'.flip ?_ fun e he => hfree e (hperm'.mem_iff.mp he)
  exact (hperm'.map slots.slot).nodup_iff.mpr hslots

end Slots

end Reader

/-! ### Documents -/

theorem document_of_spells {α : Type} {r : Reader α} {a : α} {v : Value} {bytes : List UInt8}
    (hr : Reader.Reads r a v) (h : SpellsDocument v bytes) : document r bytes = .ok a := by
  obtain ⟨hbefore, hw, hafter⟩ := h
  rw [document, Reader.whole, Reader.bind_of_ok (hr _ _ _ hbefore hw),
    Reader.bind_of_ok (Reader.peekToken_of_end hafter)]
  rfl

theorem Reader.placed_eq_error {α : Type} {r : Reader α} {bytes : List UInt8} {stop : Stop}
    (h : placed r bytes = .error stop) : ∃ problem left, stop = .placed problem left := by
  unfold placed at h
  split at h
  next problem rest _ =>
    cases h
    exact ⟨problem, rest.length, rfl⟩
  next hplaced =>
    cases stop with
    | placed problem left => exact ⟨problem, left, rfl⟩
    | unplaced problem rest => exact absurd h (hplaced problem rest)

theorem Reader.whole_eq_error {α : Type} {r : Reader α} {bytes : List UInt8} {stop : Stop}
    (h : r.whole bytes = .error stop) :
    r bytes = .error stop ∨ ∃ problem left, stop = .placed problem left := by
  cases hread : r bytes with
  | error stop' =>
    have hstop : r.whole bytes = .error stop' := by
      change r bytes >>= _ = _
      rw [hread]
      rfl
    rw [hstop] at h
    exact .inl h
  | ok pair =>
    obtain ⟨a, rest⟩ := pair
    rw [Reader.whole, bind_of_ok hread] at h
    right
    cases hrest : rest.dropWhile isBlank with
    | nil =>
      have htoken : peekToken rest = .ok (none, []) := by
        change Except.ok ((rest.dropWhile isBlank).head?, rest.dropWhile isBlank) = _
        rw [hrest, List.head?_nil]
      rw [bind_of_ok htoken] at h
      cases h
    | cons b more =>
      have htoken : peekToken rest = .ok (some b, b :: more) := by
        change Except.ok ((rest.dropWhile isBlank).head?, rest.dropWhile isBlank) = _
        rw [hrest, List.head?_cons]
      rw [bind_of_ok htoken] at h
      cases h
      exact ⟨_, _, rfl⟩

/-- What is wrong with a document is told with its place in it. -/
theorem place_of_document {α : Type} {item : Reader α} {bytes : List UInt8} {fault : Fault}
    (h : document (Reader.list item) bytes = .error fault) :
    ∃ left, fault.place = some (.before left bytes) := by
  unfold document at h
  cases hwhole : (Reader.list item).whole bytes with
  | ok pair =>
    rw [hwhole] at h
    cases h
  | error stop =>
    rw [hwhole] at h
    cases h
    have hplaced : ∃ problem left, stop = .placed problem left := by
      rcases Reader.whole_eq_error hwhole with hstop | hplaced
      · exact Reader.placed_eq_error hstop
      · exact hplaced
    obtain ⟨problem, left, rfl⟩ := hplaced
    exact ⟨left, rfl⟩

end AttachmentIntake.Json
