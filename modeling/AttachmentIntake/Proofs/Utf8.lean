import AttachmentIntake.Text.Utf8
import Mathlib.Data.List.Basic

/-! UTF-8 reads back what it writes, character by character, and keeps the order of texts. -/

namespace AttachmentIntake.Text.Utf8

theorem encode_eq_flatMap (cs : List Char) : encode cs = cs.flatMap String.utf8EncodeChar := by
  simp [encode, String.toUTF8, List.utf8Encode]

@[simp] theorem encode_nil : encode [] = [] := by
  simp [encode_eq_flatMap]

theorem encode_cons (c : Char) (cs : List Char) : encode (c :: cs) = encode [c] ++ encode cs := by
  simp [encode_eq_flatMap]

@[simp] theorem encode_append (cs ds : List Char) : encode (cs ++ ds) = encode cs ++ encode ds := by
  simp [encode_eq_flatMap]

/-! ### The forms of a character -/

section Forms

variable {c : Char} (rest : List UInt8)

theorem encode_one (h : c.toNat ≤ 0x7F) : encode [c] = [UInt8.ofNat c.toNat] := by
  rw [encode_eq_flatMap, List.flatMap_singleton]
  exact if_pos h

theorem encode_two (h : 0x7F < c.toNat) (h' : c.toNat ≤ 0x7FF) :
    encode [c] = [UInt8.ofNat (c.toNat / 64 % 0x20 + 0xC0), UInt8.ofNat (c.toNat % 64 + 0x80)] := by
  rw [encode_eq_flatMap, List.flatMap_singleton]
  exact (if_neg (Nat.not_le.mpr h)).trans (if_pos h')

theorem encode_three (h : 0x7FF < c.toNat) (h' : c.toNat ≤ 0xFFFF) :
    encode [c] = [UInt8.ofNat (c.toNat / 4096 % 0x10 + 0xE0),
      UInt8.ofNat (c.toNat / 64 % 64 + 0x80), UInt8.ofNat (c.toNat % 64 + 0x80)] := by
  have hone : ¬ c.toNat ≤ 0x7F := by omega
  rw [encode_eq_flatMap, List.flatMap_singleton]
  exact (if_neg hone).trans ((if_neg (Nat.not_le.mpr h)).trans (if_pos h'))

theorem encode_four (h : 0xFFFF < c.toNat) :
    encode [c] = [UInt8.ofNat (c.toNat / 262144 % 0x08 + 0xF0),
      UInt8.ofNat (c.toNat / 4096 % 64 + 0x80), UInt8.ofNat (c.toNat / 64 % 64 + 0x80),
      UInt8.ofNat (c.toNat % 64 + 0x80)] := by
  have hone : ¬ c.toNat ≤ 0x7F := by omega
  have htwo : ¬ c.toNat ≤ 0x7FF := by omega
  rw [encode_eq_flatMap, List.flatMap_singleton]
  exact (if_neg hone).trans ((if_neg htwo).trans (if_neg (Nat.not_le.mpr h)))

theorem isScalar (c : Char) : c.toNat < 0xD800 ∨ (0xDFFF < c.toNat ∧ c.toNat < 0x110000) :=
  c.valid

theorem toNat_ofNat {n : Nat} (h : n < 256) : (UInt8.ofNat n).toNat = n :=
  UInt8.toNat_ofNat_of_lt' h

@[simp]
theorem isContinuation_ofNat (n : Nat) : isContinuation (UInt8.ofNat (n % 64 + 0x80)) = true := by
  have hb := toNat_ofNat (n := n % 64 + 0x80) (by omega)
  simp only [isContinuation, UInt8.le_iff_toNat_le, hb, Bool.and_eq_true, decide_eq_true_eq,
    UInt8.reduceToNat]
  omega

@[simp] theorem payload_ofNat (n : Nat) : payload (UInt8.ofNat (n % 64 + 0x80)) = n % 64 := by
  rw [payload, toNat_ofNat (by omega)]
  omega

theorem step_one (h : c.toNat ≤ 0x7F) : step (UInt8.ofNat c.toNat) rest = .char c rest := by
  have hlead := toNat_ofNat (n := c.toNat) (by omega)
  have hlow : UInt8.ofNat c.toNat < 0x80 := by
    simp only [UInt8.lt_iff_toNat_lt, hlead, UInt8.reduceToNat]
    omega
  rw [step, if_pos hlow, hlead, Char.ofNat_toNat]

theorem step_two (h : 0x7F < c.toNat) (h' : c.toNat ≤ 0x7FF) :
    step (UInt8.ofNat (c.toNat / 64 % 0x20 + 0xC0)) (UInt8.ofNat (c.toNat % 64 + 0x80) :: rest) =
      .char c rest := by
  have hlead := toNat_ofNat (n := c.toNat / 64 % 0x20 + 0xC0) (by omega)
  generalize UInt8.ofNat (c.toNat / 64 % 0x20 + 0xC0) = lead at hlead ⊢
  have hhigh : ¬ lead < 0x80 := by
    simp only [UInt8.lt_iff_toNat_lt, hlead, UInt8.reduceToNat]
    omega
  have htwo : (0xC2 ≤ lead && lead ≤ 0xDF) = true := by
    simp only [UInt8.le_iff_toNat_le, hlead, Bool.and_eq_true, decide_eq_true_eq,
      UInt8.reduceToNat]
    omega
  have hvalue : (lead.toNat - 0xC0) * 0x40 + c.toNat % 64 = c.toNat := by omega
  rw [step, if_neg hhigh, if_pos htwo, stepTwo, if_pos (isContinuation_ofNat _), payload_ofNat,
    hvalue, Char.ofNat_toNat]

theorem step_three (h : 0x7FF < c.toNat) (h' : c.toNat ≤ 0xFFFF) :
    step (UInt8.ofNat (c.toNat / 4096 % 0x10 + 0xE0))
      (UInt8.ofNat (c.toNat / 64 % 64 + 0x80) :: UInt8.ofNat (c.toNat % 64 + 0x80) :: rest) =
        .char c rest := by
  have hlead := toNat_ofNat (n := c.toNat / 4096 % 0x10 + 0xE0) (by omega)
  have hsecond := toNat_ofNat (n := c.toNat / 64 % 64 + 0x80) (by omega)
  have hcontinues := isContinuation_ofNat (c.toNat / 64)
  have hpayload := payload_ofNat (c.toNat / 64)
  generalize UInt8.ofNat (c.toNat / 4096 % 0x10 + 0xE0) = lead at hlead ⊢
  generalize UInt8.ofNat (c.toNat / 64 % 64 + 0x80) = second at hsecond hcontinues hpayload ⊢
  have hhigh : ¬ lead < 0x80 := by
    simp only [UInt8.lt_iff_toNat_lt, hlead, UInt8.reduceToNat]
    omega
  have htwo : ¬ (0xC2 ≤ lead && lead ≤ 0xDF) = true := by
    simp only [UInt8.le_iff_toNat_le, hlead, Bool.and_eq_true, decide_eq_true_eq,
      UInt8.reduceToNat]
    omega
  have hthree : (0xE0 ≤ lead && lead ≤ 0xEF) = true := by
    simp only [UInt8.le_iff_toNat_le, hlead, Bool.and_eq_true, decide_eq_true_eq,
      UInt8.reduceToNat]
    omega
  have hallowed : secondOfThree lead second = true := by
    have hscalar := isScalar c
    unfold secondOfThree
    split_ifs with hE0 hED
    · subst hE0
      simp only [UInt8.reduceToNat, UInt8.le_iff_toNat_le, hsecond, Bool.and_eq_true,
        decide_eq_true_eq] at hlead ⊢
      omega
    · subst hED
      simp only [UInt8.reduceToNat, UInt8.le_iff_toNat_le, hsecond, Bool.and_eq_true,
        decide_eq_true_eq] at hlead ⊢
      omega
    · exact hcontinues
  have hvalue : ((lead.toNat - 0xE0) * 0x40 + c.toNat / 64 % 64) * 0x40 + c.toNat % 64 =
      c.toNat := by
    omega
  rw [step, if_neg hhigh, if_neg htwo, if_pos hthree, stepThree, if_pos hallowed,
    if_pos (isContinuation_ofNat _), hpayload, payload_ofNat, hvalue, Char.ofNat_toNat]

theorem step_four (h : 0xFFFF < c.toNat) :
    step (UInt8.ofNat (c.toNat / 262144 % 0x08 + 0xF0))
      (UInt8.ofNat (c.toNat / 4096 % 64 + 0x80) :: UInt8.ofNat (c.toNat / 64 % 64 + 0x80) ::
        UInt8.ofNat (c.toNat % 64 + 0x80) :: rest) = .char c rest := by
  have hscalar := isScalar c
  have hlead := toNat_ofNat (n := c.toNat / 262144 % 0x08 + 0xF0) (by omega)
  have hsecond := toNat_ofNat (n := c.toNat / 4096 % 64 + 0x80) (by omega)
  have hcontinues := isContinuation_ofNat (c.toNat / 4096)
  have hpayload := payload_ofNat (c.toNat / 4096)
  generalize UInt8.ofNat (c.toNat / 262144 % 0x08 + 0xF0) = lead at hlead ⊢
  generalize UInt8.ofNat (c.toNat / 4096 % 64 + 0x80) = second at hsecond hcontinues hpayload ⊢
  have hhigh : ¬ lead < 0x80 := by
    simp only [UInt8.lt_iff_toNat_lt, hlead, UInt8.reduceToNat]
    omega
  have htwo : ¬ (0xC2 ≤ lead && lead ≤ 0xDF) = true := by
    simp only [UInt8.le_iff_toNat_le, hlead, Bool.and_eq_true, decide_eq_true_eq,
      UInt8.reduceToNat]
    omega
  have hthree : ¬ (0xE0 ≤ lead && lead ≤ 0xEF) = true := by
    simp only [UInt8.le_iff_toNat_le, hlead, Bool.and_eq_true, decide_eq_true_eq,
      UInt8.reduceToNat]
    omega
  have hfour : (0xF0 ≤ lead && lead ≤ 0xF4) = true := by
    simp only [UInt8.le_iff_toNat_le, hlead, Bool.and_eq_true, decide_eq_true_eq,
      UInt8.reduceToNat]
    omega
  have hallowed : secondOfFour lead second = true := by
    unfold secondOfFour
    split_ifs with hF0 hF4
    · subst hF0
      simp only [UInt8.reduceToNat, UInt8.le_iff_toNat_le, hsecond, Bool.and_eq_true,
        decide_eq_true_eq] at hlead ⊢
      omega
    · subst hF4
      simp only [UInt8.reduceToNat, UInt8.le_iff_toNat_le, hsecond, Bool.and_eq_true,
        decide_eq_true_eq] at hlead ⊢
      omega
    · exact hcontinues
  have hvalue : (((lead.toNat - 0xF0) * 0x40 + c.toNat / 4096 % 64) * 0x40 +
      c.toNat / 64 % 64) * 0x40 + c.toNat % 64 = c.toNat := by
    omega
  rw [step, if_neg hhigh, if_neg htwo, if_neg hthree, if_pos hfour, stepFour, if_pos hallowed,
    if_pos (isContinuation_ofNat _), if_pos (isContinuation_ofNat _), hpayload, payload_ofNat,
    payload_ofNat, hvalue, Char.ofNat_toNat]

end Forms

/-! ### Whole texts -/

/-- The bytes of a character come back as that character, whatever follows them. -/
theorem step_encode (c : Char) :
    ∃ lead more, encode [c] = lead :: more ∧ ∀ rest, step lead (more ++ rest) = .char c rest := by
  by_cases h7F : c.toNat ≤ 0x7F
  · exact ⟨_, _, encode_one h7F, fun rest => step_one rest h7F⟩
  rw [Nat.not_le] at h7F
  by_cases h7FF : c.toNat ≤ 0x7FF
  · exact ⟨_, _, encode_two h7F h7FF, fun rest => step_two rest h7F h7FF⟩
  rw [Nat.not_le] at h7FF
  by_cases hFFFF : c.toNat ≤ 0xFFFF
  · exact ⟨_, _, encode_three h7FF hFFFF, fun rest => step_three rest h7FF hFFFF⟩
  rw [Nat.not_le] at hFFFF
  exact ⟨_, _, encode_four hFFFF, fun rest => step_four rest hFFFF⟩

theorem encode_of_ascii {cs : List Char} (h : ∀ c ∈ cs, c.toNat ≤ 0x7F) :
    encode cs = cs.map Char.toUInt8 := by
  induction cs with
  | nil => exact encode_nil
  | cons c cs ih =>
    obtain ⟨hc, hcs⟩ := List.forall_mem_cons.mp h
    rw [encode_cons, encode_one hc, ih hcs]
    rfl

theorem decode_of_char {lead : UInt8} {rest more : List UInt8} {c : Char}
    (h : step lead rest = .char c more) :
    decode (lead :: rest) = (c :: (decode more).1, (decode more).2) := by
  rw [decode]
  split
  next c' more' hchar =>
    rw [h] at hchar
    cases hchar
    rfl
  next hcut =>
    rw [h] at hcut
    cases hcut
  next hbad =>
    rw [h] at hbad
    cases hbad

@[simp] theorem decode_encode_append (cs : List Char) (rest : List UInt8) :
    decode (encode cs ++ rest) = (cs ++ (decode rest).1, (decode rest).2) := by
  induction cs with
  | nil => rw [encode_nil]; rfl
  | cons c cs ih =>
    obtain ⟨lead, more, hc, hstep⟩ := step_encode c
    rw [encode_cons, hc, List.append_assoc, List.cons_append, decode_of_char (hstep _), ih]
    rfl

@[simp] theorem decode_encode (cs : List Char) : decode (encode cs) = (cs, .complete) := by
  have hread := decode_encode_append cs []
  rwa [List.append_nil, decode, List.append_nil] at hread

@[simp] theorem text?_encode (cs : List Char) : text? (encode cs) = some cs := by
  rw [text?, decode_encode]

theorem decodeLossy_encode (cs : List Char) : decodeLossy (encode cs) = cs := by
  induction cs with
  | nil => rw [encode_nil, decodeLossy]
  | cons c cs ih =>
    obtain ⟨lead, more, hc, hstep⟩ := step_encode c
    rw [encode_cons, hc, List.cons_append, decodeLossy]
    split
    next c' rest hchar =>
      rw [hstep] at hchar
      cases hchar
      rw [ih]
    next hcut =>
      rw [hstep] at hcut
      cases hcut
    next hbad =>
      rw [hstep] at hbad
      cases hbad

theorem le_ofNat {n : Nat} (h : 0x80 ≤ n) (h' : n < 256) : 0x80 ≤ UInt8.ofNat n := by
  simp only [UInt8.le_iff_toNat_le, toNat_ofNat h', UInt8.reduceToNat]
  exact h

/-- Beyond ASCII, no byte of a character is that of an ASCII character. -/
theorem le_of_mem_encode {c : Char} (h : 0x7F < c.toNat) {b : UInt8} (hb : b ∈ encode [c]) :
    0x80 ≤ b := by
  by_cases h7FF : c.toNat ≤ 0x7FF
  · rw [encode_two h h7FF, List.mem_pair] at hb
    rcases hb with rfl | rfl <;> exact le_ofNat (by omega) (by omega)
  rw [Nat.not_le] at h7FF
  by_cases hFFFF : c.toNat ≤ 0xFFFF
  · rw [encode_three h7FF hFFFF] at hb
    simp only [List.mem_cons, List.not_mem_nil, or_false] at hb
    rcases hb with rfl | rfl | rfl <;> exact le_ofNat (by omega) (by omega)
  · rw [encode_four (Nat.not_le.mp hFFFF)] at hb
    simp only [List.mem_cons, List.not_mem_nil, or_false] at hb
    rcases hb with rfl | rfl | rfl | rfl <;> exact le_ofNat (by omega) (by omega)

/-! ### Order -/

section Order

variable {c d : Char} {rest rest' : List UInt8} {cs ds : List Char}

theorem cons_lt_cons {m n : Nat} (hn : n < 256) (hle : m ≤ n) (h : m = n → rest < rest') :
    UInt8.ofNat m :: rest < UInt8.ofNat n :: rest' := by
  rw [List.cons_lt_cons_iff]
  rcases Nat.lt_or_eq_of_le hle with hlt | rfl
  · exact .inl ((UInt8.ofNat_lt_iff_lt (Nat.lt_trans hlt hn) hn).mpr hlt)
  · exact .inr ⟨rfl, h rfl⟩

/-- What the lead byte tells of the number of a character: its form, and the highest digit. -/
def leadByte (n : Nat) : Nat :=
  if n ≤ 0x7F then n
  else if n ≤ 0x7FF then n / 64 % 0x20 + 0xC0
  else if n ≤ 0xFFFF then n / 4096 % 0x10 + 0xE0
  else n / 262144 % 0x08 + 0xF0

theorem encode_eq_leadByte (c : Char) : ∃ more, encode [c] = UInt8.ofNat (leadByte c.toNat) :: more := by
  unfold leadByte
  split_ifs with h1 h2 h3
  · exact ⟨_, encode_one h1⟩
  · exact ⟨_, encode_two (by omega) h2⟩
  · exact ⟨_, encode_three (by omega) h3⟩
  · exact ⟨_, encode_four (by omega)⟩

/-- Characters are in the order of their bytes: a longer form has a higher lead byte, and within a
form the digits of the numbers are compared. -/
theorem encode_append_lt (h : c < d) (rest rest' : List UInt8) :
    encode [c] ++ rest < encode [d] ++ rest' := by
  have hcd : c.toNat < d.toNat := h
  have hd := isScalar d
  by_cases hlead : leadByte c.toNat < leadByte d.toNat
  · obtain ⟨more, hc⟩ := encode_eq_leadByte c
    obtain ⟨more', hd⟩ := encode_eq_leadByte d
    have hbyte : leadByte d.toNat < 256 := by
      unfold leadByte
      split_ifs <;> omega
    rw [hc, hd]
    exact cons_lt_cons hbyte (Nat.le_of_lt hlead) fun heq => absurd heq (Nat.ne_of_lt hlead)
  -- With one lead byte for both, both have one form, and the later bytes tell them apart.
  have hform : 0x7F < c.toNat ∧ (0x7FF < d.toNat → 0x7FF < c.toNat) ∧
      (0xFFFF < d.toNat → 0xFFFF < c.toNat) := by
    unfold leadByte at hlead
    split_ifs at hlead <;> omega
  by_cases h7FF : d.toNat ≤ 0x7FF
  · rw [encode_two (by omega) (by omega), encode_two (by omega) h7FF]
    exact cons_lt_cons (by omega) (by omega) fun hfirst =>
      cons_lt_cons (by omega) (by omega) fun hsecond => by omega
  by_cases hFFFF : d.toNat ≤ 0xFFFF
  · rw [encode_three (by omega) (by omega), encode_three (by omega) hFFFF]
    exact cons_lt_cons (by omega) (by omega) fun hfirst =>
      cons_lt_cons (by omega) (by omega) fun hsecond =>
        cons_lt_cons (by omega) (by omega) fun hthird => by omega
  rw [encode_four (by omega), encode_four (by omega)]
  exact cons_lt_cons (by omega) (by omega) fun hfirst =>
    cons_lt_cons (by omega) (by omega) fun hsecond =>
      cons_lt_cons (by omega) (by omega) fun hthird =>
        cons_lt_cons (by omega) (by omega) fun hfourth => by omega

theorem append_lt_append_left {bytes : List UInt8} (h : rest < rest') :
    bytes ++ rest < bytes ++ rest' := by
  induction bytes with
  | nil => exact h
  | cons b bytes ih => exact List.cons_lt_cons_iff.mpr (.inr ⟨rfl, ih⟩)

theorem encode_lt_encode (h : cs < ds) : encode cs < encode ds := by
  induction h with
  | @nil d ds =>
    obtain ⟨lead, more, hd, -⟩ := step_encode d
    rw [encode_nil, encode_cons, hd]
    exact List.nil_lt_cons _ _
  | @rel c cs d ds h =>
    rw [encode_cons c cs, encode_cons d ds]
    exact encode_append_lt h _ _
  | @cons c cs ds h ih =>
    rw [encode_cons c cs, encode_cons c ds]
    exact append_lt_append_left ih

/-- Texts are in the order of the bytes that encode them. -/
theorem encode_lt_encode_iff : encode cs < encode ds ↔ cs < ds := by
  constructor
  · intro h
    by_contra hlt
    rcases List.le_iff_lt_or_eq.mp (List.not_lt.mp hlt) with hlt | rfl
    · exact List.lt_asymm h (encode_lt_encode hlt)
    · exact List.lt_irrefl _ h
  · exact encode_lt_encode

end Order

end AttachmentIntake.Text.Utf8
