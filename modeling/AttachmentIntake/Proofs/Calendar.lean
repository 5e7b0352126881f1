import AttachmentIntake.Calendar
import AttachmentIntake.Proofs.Basic
import Mathlib.Algebra.Group.Nat.Defs

/-! The text of a date reads back as that date, whatever its year. -/

namespace AttachmentIntake

namespace Number

variable (width n : Nat)

variable {width n} in
theorem isDigit_of_mem_padded {c : Char} (h : c ∈ padded width n) : c.isDigit = true := by
  rcases List.mem_append.mp h with hzero | hdigit
  · rw [List.eq_of_mem_replicate hzero]
    rfl
  · exact Nat.isDigit_of_mem_toDigits (by decide) (by decide) hdigit

variable {width n} in
@[simp] theorem ofDigitChars_padded : Nat.ofDigitChars 10 (padded width n) 0 = n := by
  rw [padded, Nat.ofDigitChars_append, Nat.ofDigitChars_replicate_zero, Nat.mul_zero,
    Nat.ofDigitChars_ten_toDigits]

theorem exists_padded : ∃ c cs, padded width n = c :: cs ∧ c.isDigit = true := by
  have hne : padded width n ≠ [] :=
    List.append_ne_nil_of_right_ne_nil _ Nat.toDigits_ne_nil
  obtain ⟨c, cs, h⟩ := List.exists_cons_of_ne_nil hne
  exact ⟨c, cs, h, isDigit_of_mem_padded (h ▸ List.mem_cons_self)⟩

variable {width n} in
theorem length_padded (hwidth : 0 < width) (hn : n < 10 ^ width) :
    (padded width n).length = width := by
  have hdigits := (Nat.length_toDigits_le_iff (by decide) hwidth).mpr hn
  rw [padded, List.length_append, List.length_replicate]
  omega

end Number

namespace Date

/-- What may follow a number: anything but a digit. -/
def EndsNumber (rest : List Char) : Prop := ∀ c ∈ rest.head?, c.isDigit = false

@[simp] theorem endsNumber_nil : EndsNumber [] := nofun

@[simp] theorem endsNumber_dash (rest : List Char) : EndsNumber ('-' :: rest) := by
  rintro c ⟨⟩
  rfl

theorem le_ofDigitChars (digits : List Char) (n : Nat) : n ≤ Nat.ofDigitChars 10 digits n := by
  induction digits generalizing n with
  | nil => exact Nat.le_refl n
  | cons c digits ih =>
    rw [Nat.ofDigitChars_cons]
    exact Nat.le_trans (by omega) (ih _)

theorem moreDigits_append {n room : Nat} {digits rest : List Char}
    (hdigits : ∀ c ∈ digits, c.isDigit = true) (hroom : digits.length ≤ room)
    (hbound : Nat.ofDigitChars 10 digits n ≤ numberBound) (hrest : EndsNumber rest) :
    moreDigits n room (digits ++ rest) = .ok (Nat.ofDigitChars 10 digits n, rest) := by
  induction digits generalizing n room with
  | nil =>
    cases rest with
    | nil => simp [moreDigits]
    | cons c rest =>
      have hc : c.isDigit = false := hrest c rfl
      cases room <;> simp [moreDigits, hc]
  | cons c digits ih =>
    obtain ⟨hc, hmore⟩ := List.forall_mem_cons.mp hdigits
    obtain ⟨room, rfl⟩ := Nat.exists_eq_add_of_lt hroom
    rw [Nat.ofDigitChars_cons] at hbound ⊢
    have hnext := Nat.le_trans (le_ofDigitChars digits _) hbound
    rw [List.cons_append, moreDigits, if_pos hc, if_pos hnext]
    exact ih hmore (by omega) hbound

theorem number_padded {width room n : Nat} {rest : List Char}
    (hroom : (Number.padded width n).length ≤ room) (hn : n ≤ numberBound)
    (hrest : EndsNumber rest) : number room (Number.padded width n ++ rest) = .ok (n, rest) := by
  have hread := moreDigits_append (n := 0) (fun _ => Number.isDigit_of_mem_padded) hroom
    (Nat.le_trans (Nat.le_of_eq Number.ofDigitChars_padded) hn) hrest
  obtain ⟨c, cs, hpadded, hc⟩ := Number.exists_padded width n
  rw [Number.ofDigitChars_padded] at hread
  rw [hpadded, List.cons_append] at hread ⊢
  rw [number, if_pos hc, hread]

theorem not_blank_of_isDigit {c : Char} (h : c.isDigit = true) : Text.isBlank c = false := by
  have hrange : 0x30 ≤ c.toNat ∧ c.toNat ≤ 0x39 := by
    simpa [Char.isDigit, UInt32.le_iff_toNat_le] using h
  simp only [Text.isBlank, Text.blankRanges, List.any_cons, List.any_nil, Bool.or_false,
    Bool.or_eq_false_iff, Bool.and_eq_false_iff, decide_eq_false_iff_not]
  omega

theorem trimStart_of_head {c : Char} {cs : List Char} (h : Text.isBlank c = false) :
    Text.trimStart (c :: cs) = c :: cs :=
  List.dropWhile_cons_of_neg (by simp [h])

@[simp] theorem readDash_dash (rest : List Char) : readDash ('-' :: rest) = .ok rest := by
  rw [readDash, trimStart_of_head (by decide)]
  rfl

theorem readPart_padded {most n : Nat} {rest : List Char} (hn : 1 ≤ n) (hmost : n ≤ most)
    (htwo : n < 100) (hrest : EndsNumber rest) :
    readPart most (Number.padded 2 n ++ rest) = .ok (n, rest) := by
  have hread : number 2 (Number.padded 2 n ++ rest) = .ok (n, rest) :=
    number_padded (Nat.le_of_eq (Number.length_padded (by decide) htwo))
      (Nat.le_trans (Nat.le_of_lt htwo) (by decide)) hrest
  obtain ⟨c, cs, hpadded, hc⟩ := Number.exists_padded 2 n
  rw [hpadded, List.cons_append] at hread ⊢
  rw [readPart, trimStart_of_head (not_blank_of_isDigit hc), hread]
  exact if_pos ⟨hn, hmost⟩

/-! ### Years -/

section Years

variable {n : Nat} {rest : List Char}

theorem readYear_unsigned {c : Char} {cs : List Char} (hc : c.isDigit = true)
    (hread : number 4 (c :: cs) = .ok (n, rest)) (hn : n < 0x80000000) :
    readYear (c :: cs) = .ok ((n : Int), rest) := by
  have hword : -0x80000000 ≤ (n : Int) ∧ (n : Int) < 0x80000000 := by omega
  have hminus : c ≠ '-' := by
    rintro rfl
    cases hc
  have hplus : c ≠ '+' := by
    rintro rfl
    cases hc
  rw [readYear, trimStart_of_head (not_blank_of_isDigit hc)]
  split
  next h => exact absurd (List.cons.inj h).1 hminus
  next h => exact absurd (List.cons.inj h).1 hplus
  next =>
    exact bind_eq_ok_iff.mpr ⟨(n, rest), hread, bind_eq_ok_iff.mpr ⟨_, rfl, if_pos hword⟩⟩

theorem readYear_minus {cs : List Char} (hread : number cs.length cs = .ok (n, rest))
    (hn : n ≤ 0x80000000) : readYear ('-' :: cs) = .ok (-(n : Int), rest) := by
  have hword : -0x80000000 ≤ -(n : Int) ∧ -(n : Int) < 0x80000000 := by omega
  rw [readYear, trimStart_of_head (by decide)]
  exact bind_eq_ok_iff.mpr ⟨(n, rest), hread, bind_eq_ok_iff.mpr ⟨_, rfl, if_pos hword⟩⟩

theorem readYear_plus {cs : List Char} (hread : number cs.length cs = .ok (n, rest))
    (hn : n < 0x80000000) : readYear ('+' :: cs) = .ok ((n : Int), rest) := by
  have hword : -0x80000000 ≤ (n : Int) ∧ (n : Int) < 0x80000000 := by omega
  rw [readYear, trimStart_of_head (by decide)]
  exact bind_eq_ok_iff.mpr ⟨(n, rest), hread, bind_eq_ok_iff.mpr ⟨_, rfl, if_pos hword⟩⟩

/-- Four digits without a sign, or a sign and all digits that follow. -/
theorem readYear_yearText {year : Int} (hfirst : firstYear ≤ year) (hlast : year ≤ lastYear)
    (hrest : EndsNumber rest) : readYear (yearText year ++ rest) = .ok (year, rest) := by
  have hsize : year.natAbs < 0x80000000 := by
    unfold firstYear at hfirst
    unfold lastYear at hlast
    omega
  have hbound : year.natAbs ≤ numberBound := Nat.le_trans (Nat.le_of_lt hsize) (by decide)
  have hsigned : number (Number.padded 4 year.natAbs ++ rest).length
      (Number.padded 4 year.natAbs ++ rest) = .ok (year.natAbs, rest) :=
    number_padded (by simp) hbound hrest
  unfold yearText
  split_ifs with hfour hneg
  · have hyear : year.toNat = year.natAbs := by omega
    have hwidth : (Number.padded 4 year.natAbs).length = 4 :=
      Number.length_padded (by decide) (by omega)
    have hread := number_padded (Nat.le_of_eq hwidth) hbound hrest
    obtain ⟨c, cs, hpadded, hc⟩ := Number.exists_padded 4 year.natAbs
    rw [hpadded, List.cons_append] at hread
    rw [hyear, hpadded, List.cons_append, readYear_unsigned hc hread hsize,
      Int.natAbs_of_nonneg hfour.1]
  · rw [List.cons_append, readYear_minus hsigned (Nat.le_of_lt hsize)]
    congr 2
    omega
  · rw [List.cons_append, readYear_plus hsigned hsize, Int.natAbs_of_nonneg (by omega)]

end Years

/-! ### Whole dates -/

theorem daysIn_le (year : Int) (month : Nat) : daysIn year month ≤ 31 := by
  unfold daysIn
  split_ifs <;> decide

@[simp] theorem isDate_eq_true_iff {year : Int} {month day : Nat} :
    isDate year month day = true ↔ (firstYear ≤ year ∧ year ≤ lastYear) ∧
      (1 ≤ month ∧ month ≤ 12) ∧ 1 ≤ day ∧ day ≤ daysIn year month := by
  simp [isDate, and_assoc]

/-- Every date that there is reads back from its text. -/
theorem parse_text (d : Date) : parse d.text = .ok d := by
  obtain ⟨year, month, day, hvalid⟩ := d
  obtain ⟨⟨hfirst, hlast⟩, ⟨hmonth, htwelve⟩, hday, hlength⟩ := isDate_eq_true_iff.mp hvalid
  have hdays := daysIn_le year month
  have hreadDay : readPart 31 (Number.padded 2 day) = .ok (day, []) := by
    have hread := readPart_padded hday (Nat.le_trans hlength hdays) (by omega) endsNumber_nil
    rwa [List.append_nil] at hread
  have hreadMonth : readPart 12 (Number.padded 2 month ++ '-' :: Number.padded 2 day) =
      .ok (month, '-' :: Number.padded 2 day) :=
    readPart_padded hmonth htwelve (by omega) (endsNumber_dash _)
  have hreadYear : readYear (yearText year ++
        '-' :: (Number.padded 2 month ++ '-' :: Number.padded 2 day)) =
      .ok (year, '-' :: (Number.padded 2 month ++ '-' :: Number.padded 2 day)) :=
    readYear_yearText hfirst hlast (endsNumber_dash _)
  simp only [parse, text, String.toList_ofList, List.append_assoc, List.cons_append, hreadYear,
    hreadMonth, hreadDay, readDash_dash, Except.bind, bind]
  simp [Text.trimStart, hvalid]

end Date

end AttachmentIntake
