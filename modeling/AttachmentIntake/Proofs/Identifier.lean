import AttachmentIntake.Identifier
import Mathlib.Data.List.TakeWhile
import Mathlib.Tactic.SplitIfs

/-! What identifiers are made of, whether they were read or drawn at random, and what is kept of one
in its short form. -/

namespace AttachmentIntake.Identifier

/-- A text that may stand for a file: it has characters, none that would end a name, and no dash in
front. -/
structure WellFormed (cs : List Char) : Prop where
  nonempty : cs ≠ []
  unreserved : ∀ c ∈ cs, c ≠ '.' ∧ c ≠ '/' ∧ c ≠ '\\' ∧ Text.isBlank c = false
  undashed : cs.head? ≠ some '-'

variable {text : String} {i : Identifier} {c : Char}

@[simp] theorem isReserved_eq_false_iff :
    isReserved c = false ↔ c ≠ '.' ∧ c ≠ '/' ∧ c ≠ '\\' ∧ Text.isBlank c = false := by
  simp only [isReserved, Bool.or_eq_false_iff, beq_eq_false_iff_ne, and_assoc]

theorem fault?_eq_none_iff : fault? text = none ↔ WellFormed text.toList := by
  have hreserved : text.toList.any isReserved = false ↔
      ∀ c ∈ text.toList, c ≠ '.' ∧ c ≠ '/' ∧ c ≠ '\\' ∧ Text.isBlank c = false := by
    simp only [List.any_eq_false, Bool.not_eq_true, isReserved_eq_false_iff]
  unfold fault?
  split_ifs with hempty hany hdash
  · exact iff_of_false nofun fun h => h.nonempty hempty
  · refine iff_of_false nofun fun h => ?_
    rw [hreserved.mpr h.unreserved] at hany
    cases hany
  · exact iff_of_false nofun fun h => h.undashed hdash
  · rw [Bool.not_eq_true, hreserved] at hany
    exact iff_of_true rfl ⟨hempty, hany, hdash⟩

theorem wellFormed (i : Identifier) : WellFormed i.text.toList := fault?_eq_none_iff.mp i.valid

theorem ofText_eq_ok_iff : ofText text = .ok i ↔ i.text = text := by
  constructor
  · intro h
    unfold ofText at h
    split at h
    next => cases h
    next =>
      cases h
      rfl
  · rintro rfl
    exact ofText_text i

theorem exists_ofText_iff : (∃ i, ofText text = .ok i) ↔ WellFormed text.toList := by
  simp only [ofText_eq_ok_iff]
  constructor
  · rintro ⟨i, rfl⟩
    exact i.wellFormed
  · intro h
    exact ⟨⟨text, fault?_eq_none_iff.mpr h⟩, rfl⟩

/-! ### Short forms -/

/-- The short form of a text: its beginning up to the first dash, cut behind the eighth character. -/
structure ShortForm (text short : String) : Prop where
  nonempty : short ≠ ""
  length_le : short.length ≤ 8
  starts : ∃ rest : String, text = short ++ rest
  plain : ∀ c ∈ short.toList,
    c ≠ '-' ∧ c ≠ '.' ∧ c ≠ '/' ∧ c ≠ '\\' ∧ Text.isBlank c = false
  cut : ∃ head rest : List Char, text.toList = head ++ rest ∧ '-' ∉ head ∧
    (∀ c ∈ rest.head?, c = '-') ∧ (head.length ≤ 8 → short.toList = head) ∧
    (8 < head.length → short.toList = head.take 8)

theorem short_toList (i : Identifier) :
    i.short.toList = (i.text.toList.takeWhile (· ≠ '-')).take 8 := String.toList_ofList

theorem short_isPrefix (i : Identifier) : i.short.toList <+: i.text.toList := by
  rw [short_toList]
  exact (List.take_prefix _ _).trans (List.takeWhile_prefix _)

theorem dash_not_mem_takeWhile {cs : List Char} : '-' ∉ cs.takeWhile (· ≠ '-') := by
  intro h
  simpa using List.mem_takeWhile_imp h

@[simp] theorem dash_not_mem_short {i : Identifier} : '-' ∉ i.short.toList := by
  rw [short_toList]
  exact mt List.mem_of_mem_take dash_not_mem_takeWhile

theorem not_reserved_of_mem_short (h : c ∈ i.short.toList) : isReserved c = false :=
  isReserved_eq_false_iff.mpr (i.wellFormed.unreserved c (i.short_isPrefix.subset h))

/-- The first character is no dash, so it is kept. -/
theorem short_ne_empty (i : Identifier) : i.short ≠ "" := by
  obtain ⟨c, cs, hcs⟩ := List.exists_cons_of_ne_nil i.wellFormed.nonempty
  have hdash : c ≠ '-' := by
    have hhead := i.wellFormed.undashed
    rw [hcs] at hhead
    exact fun h => hhead (congrArg some h)
  intro hempty
  have hnil := congrArg String.toList hempty
  rw [short_toList, hcs, List.takeWhile_cons_of_pos (by simpa using hdash)] at hnil
  cases hnil

theorem shortForm (i : Identifier) : ShortForm i.text i.short where
  nonempty := i.short_ne_empty
  length_le := by
    rw [← String.length_toList, short_toList]
    exact List.length_take_le _ _
  starts := by
    obtain ⟨rest, hrest⟩ := i.short_isPrefix
    refine ⟨String.ofList rest, String.toList_inj.mp ?_⟩
    rw [String.toList_append, String.toList_ofList, hrest]
  plain c hc :=
    ⟨fun h => dash_not_mem_short (h ▸ hc), isReserved_eq_false_iff.mp (not_reserved_of_mem_short hc)⟩
  cut := by
    refine ⟨i.text.toList.takeWhile (· ≠ '-'), i.text.toList.dropWhile (· ≠ '-'),
      List.takeWhile_append_dropWhile.symm, dash_not_mem_takeWhile, fun c hc => ?_, fun hle => ?_,
      fun _ => i.short_toList⟩
    · have hhead := List.head?_dropWhile_not (· ≠ '-') i.text.toList
      rw [Option.mem_def.mp hc] at hhead
      simpa using hhead
    · rw [short_toList, List.take_of_length_le hle]

/-! ### Random identifiers -/

/-- A value marked as random: digit 12 is the version 4, and digit 16 begins with the bits 10. -/
def marked (bits : BitVec 128) : BitVec 128 :=
  bits &&& 0xFFFFFFFFFFFF0FFF3FFFFFFFFFFFFFFF#128 ||| 0x40008000000000000000#128

/-- The 32 hexadecimal digits of a value. -/
def hexDigits (value : BitVec 128) : List Char :=
  (List.range 32).map fun i => Nat.digitChar ((value >>> (124 - 4 * i)).toNat % 16)

/-- A value written as a UUID: its digits in five groups. -/
def Written (value : BitVec 128) (text : List Char) : Prop :=
  ∃ a b c d e : List Char, text = a ++ '-' :: b ++ '-' :: c ++ '-' :: d ++ '-' :: e ∧
    [a, b, c, d, e].map List.length = [8, 4, 4, 4, 12] ∧ a ++ b ++ c ++ d ++ e = hexDigits value

theorem marks_mod : ∀ i < 32,
    (0xFFFFFFFFFFFF0FFF3FFFFFFFFFFFFFFF#128 >>> (124 - 4 * i)).toNat % 16 =
      (if i = 12 then 0 else if i = 16 then 3 else 15) ∧
    (0x40008000000000000000#128 >>> (124 - 4 * i)).toNat % 16 =
      (if i = 12 then 4 else if i = 16 then 8 else 0) := by
  decide

theorem and_or_eq : ∀ d < 16, (d &&& 0 ||| 4 = 4) ∧ (d &&& 3 ||| 8 = 8 + d % 4) ∧
    (d &&& 15 ||| 0 = d) := by
  decide

/-- The digits that are written are those of the marked value. -/
theorem uuidDigit_eq {bits : BitVec 128} {i : Nat} (h : i < 32) :
    uuidDigit bits i % 16 = (marked bits >>> (124 - 4 * i)).toNat % 16 := by
  obtain ⟨hkept, hmarks⟩ := marks_mod i h
  have hdigit : digit bits i < 16 := Nat.mod_lt _ (by decide)
  have hmarked : (marked bits >>> (124 - 4 * i)).toNat % 16 =
      digit bits i &&& (if i = 12 then 0 else if i = 16 then 3 else 15) |||
        (if i = 12 then 4 else if i = 16 then 8 else 0) := by
    rw [marked, BitVec.ushiftRight_or_distrib, BitVec.ushiftRight_and_distrib, BitVec.toNat_or,
      BitVec.toNat_and, Nat.or_mod_two_pow (n := 4), Nat.and_mod_two_pow (n := 4), hkept, hmarks]
    rfl
  obtain ⟨hversion, hvariant, hother⟩ := and_or_eq _ hdigit
  rw [hmarked, uuidDigit]
  split_ifs
  · exact hversion.symm
  · rw [hvariant]
    omega
  · rw [hother]
    exact Nat.mod_eq_of_lt hdigit

theorem written_uuid (bits : BitVec 128) : Written (marked bits) (uuid bits) := by
  refine ⟨_, _, _, _, _, rfl, by simp [uuidDigits], ?_⟩
  have hall : uuidDigits bits 0 8 ++ uuidDigits bits 8 4 ++ uuidDigits bits 12 4 ++
      uuidDigits bits 16 4 ++ uuidDigits bits 20 12 = uuidDigits bits 0 32 := by
    simp only [uuidDigits, ← List.map_append]
    rfl
  rw [hall, hexDigits, uuidDigits, List.range_eq_range']
  refine List.map_congr_left fun i hi => ?_
  rw [uuidDigit_eq (by simpa using hi)]

/-! ### All identifiers -/

/-- Exactly the well-formed texts are identifiers, and stay as they are; random identifiers are
well-formed texts of UUIDs; and every identifier has a short form. -/
theorem wellFormed_and_shortForm :
    (∀ text, (∃ i, ofText text = .ok i) ↔ WellFormed text.toList) ∧
    (∀ text i, ofText text = .ok i ↔ i.text = text) ∧
    (∀ bits, Written (marked bits) (ofRandom bits).text.toList ∧
      WellFormed (ofRandom bits).text.toList) ∧
    ∀ i : Identifier, ShortForm i.text i.short := by
  refine ⟨fun _ => exists_ofText_iff, fun _ _ => ofText_eq_ok_iff, fun bits => ⟨?_, ?_⟩, shortForm⟩
  · rw [ofRandom, String.toList_ofList]
    exact written_uuid bits
  · exact (ofRandom bits).wellFormed

/-! Characters are counted, of any script. -/

example : (short ⟨"søknadsbrev-1", by decide⟩) = "søknadsb" := by decide

end AttachmentIntake.Identifier
