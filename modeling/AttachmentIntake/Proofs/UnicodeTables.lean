import AttachmentIntake.Proofs.Canonical
import AttachmentIntake.Proofs.SearchTree
import Mathlib.Data.Option.Basic

/-! What the tables promise about Unicode characters: decomposition ends within the steps that there
are, and it undoes every composition. -/

namespace AttachmentIntake.Text.Canonical

variable {n : Nat} {a b c : Char}

/-! ### The rows as a search tree -/

def decompositionTree : SearchTree (List Nat) := (SearchTree.grow 12 decompositionRows).1

theorem grow_decompositionRows : (SearchTree.grow 12 decompositionRows).2 = [] := by
  decide +kernel

theorem ascending_decompositionRows : SearchTree.Ascending decompositionRows := by
  decide +kernel

@[simp] theorem find?_decompositionTree {ns : List Nat} :
    decompositionTree.find? n = some ns ↔ (n, ns) ∈ decompositionRows :=
  SearchTree.find?_grow_eq_some_iff ascending_decompositionRows grow_decompositionRows

@[simp] theorem decompositions_eq_some_iff {cs : List Char} :
    decompositions[n]? = some cs ↔ ∃ ns, (n, ns) ∈ decompositionRows ∧ ns.map Char.ofNat = cs := by
  rw [decompositions, SearchTree.getElem?_ofList_eq_some_iff]
  · simp [Prod.ext_iff]
  · exact SearchTree.Ascending.map ascending_decompositionRows fun _ => rfl

/-! ### Checks of the rows -/

/-- Whether a number is that of a character, and not of a Hangul syllable or a part of one. -/
def isListed (n : Nat) : Bool :=
  n.blt 0x1100 || ((0x11FF).blt n && n.blt 0xAC00) || ((0xDFFF).blt n && n.blt 0x110000)

/-- Whether nothing of a listed character can be decomposed after so many steps. -/
def settlesIn : Nat → Nat → Bool
  | 0, n => isListed n && (decompositionTree.find? n).isNone
  | steps + 1, n => isListed n && ((decompositionTree.find? n).getD []).all (settlesIn steps)

-- Numbers are compared by functions that the kernel has built in, as the check goes over all rows.
theorem all_settlesIn : (decompositionRows.all fun r => settlesIn 4 r.1) = true := by
  decide +kernel

theorem toNat_ofNat (h : n.isValidChar) : (Char.ofNat n).toNat = n := by
  rw [Char.ofNat, dif_pos h]
  rfl

@[simp] theorem isListed_iff : isListed n = true ↔
    n < 0x1100 ∨ 0x11FF < n ∧ n < 0xAC00 ∨ 0xDFFF < n ∧ n < 0x110000 := by
  simp only [isListed, Bool.or_eq_true, Bool.and_eq_true, Nat.blt_eq, or_assoc]

theorem toNat_ofNat_of_isListed (h : isListed n = true) : (Char.ofNat n).toNat = n := by
  rw [isListed_iff] at h
  apply toNat_ofNat
  unfold Nat.isValidChar
  omega

@[simp] theorem isSyllable_iff : isSyllable c = true ↔ 0xAC00 ≤ c.toNat ∧ c.toNat < 0xD7A4 := by
  simp [isSyllable]

theorem isSyllable_ofNat (h : isListed n = true) : isSyllable (Char.ofNat n) = false := by
  have hn := toNat_ofNat_of_isListed h
  rw [isListed_iff] at h
  rw [← Bool.not_eq_true, isSyllable_iff, hn]
  omega

theorem isListed_of_settlesIn {steps : Nat} (h : settlesIn steps n = true) : isListed n = true := by
  cases steps with
  | zero => exact (Bool.and_eq_true_iff.mp h).1
  | succ steps => exact (Bool.and_eq_true_iff.mp h).1

theorem settlesIn_of_mem {ns : List Nat} (h : (n, ns) ∈ decompositionRows) :
    settlesIn 4 n = true := List.all_eq_true.mp all_settlesIn _ h

/-! ### Decomposition by the rows -/

theorem parts?_of_isSyllable (h : isSyllable c = true) :
    unicode.parts? c = some (splitSyllable c) := if_pos h

theorem parts?_of_not_isSyllable (h : isSyllable c = false) :
    unicode.parts? c = decompositions[c.toNat]? := if_neg (Bool.not_eq_true _ ▸ h)

theorem parts?_ofNat (h : isListed n = true) :
    unicode.parts? (Char.ofNat n) = (decompositionTree.find? n).map (·.map Char.ofNat) := by
  rw [parts?_of_not_isSyllable (isSyllable_ofNat h), toNat_ofNat_of_isListed h]
  ext1 cs
  rw [decompositions_eq_some_iff, Option.map_eq_some_iff]
  simp only [find?_decompositionTree]

theorem settles_ofNat {steps : Nat} (h : settlesIn steps n = true) :
    unicode.Settles steps (Char.ofNat n) := by
  have hparts := parts?_ofNat (isListed_of_settlesIn h)
  induction steps generalizing n with
  | zero =>
    have hnone := Option.isNone_iff_eq_none.mp (Bool.and_eq_true_iff.mp h).2
    rw [hnone] at hparts
    exact hparts
  | succ steps ih =>
    intro cs hcs d hd
    rw [hparts] at hcs
    obtain ⟨ns, hns, rfl⟩ := Option.map_eq_some_iff.mp hcs
    obtain ⟨m, hm, rfl⟩ := List.mem_map.mp hd
    have hall := (Bool.and_eq_true_iff.mp h).2
    rw [hns] at hall
    have hsettles := List.all_eq_true.mp hall m hm
    exact ih hsettles (parts?_ofNat (isListed_of_settlesIn hsettles))

/-! ### Hangul -/

/-- A consonant or a vowel of Hangul. -/
def IsJamo (c : Char) : Prop := 0x1100 ≤ c.toNat ∧ c.toNat < 0x1200

theorem IsJamo.parts?_eq_none (h : IsJamo c) : unicode.parts? c = none := by
  have hsyllable : isSyllable c = false := by
    rw [← Bool.not_eq_true, isSyllable_iff]
    exact fun hc => absurd h.2 (by omega)
  rw [parts?_of_not_isSyllable hsyllable, Option.eq_none_iff_forall_ne_some]
  intro cs hcs
  obtain ⟨ns, hns, -⟩ := decompositions_eq_some_iff.mp hcs
  have hlisted := isListed_iff.mp (isListed_of_settlesIn (settlesIn_of_mem hns))
  unfold IsJamo at h
  omega

theorem isJamo_ofNat (h : 0x1100 ≤ n ∧ n < 0x1200) : IsJamo (Char.ofNat n) := by
  rwa [IsJamo, toNat_ofNat (by unfold Nat.isValidChar; omega)]

theorem splitSyllable_of_trail_eq (h : trail c = 0) :
    splitSyllable c = [Char.ofNat (0x1100 + (c.toNat - 0xAC00) / 588),
      Char.ofNat (0x1161 + (c.toNat - 0xAC00) % 588 / 28)] := if_pos h

theorem splitSyllable_of_trail_ne (h : trail c ≠ 0) :
    splitSyllable c = [Char.ofNat (c.toNat - trail c), Char.ofNat (0x11A7 + trail c)] := if_neg h

theorem exists_splitSyllable_of_trail_eq (hc : isSyllable c = true) (h : trail c = 0) :
    ∃ a b, splitSyllable c = [a, b] ∧ IsJamo a ∧ IsJamo b := by
  rw [isSyllable_iff] at hc
  exact ⟨_, _, splitSyllable_of_trail_eq h, isJamo_ofNat (by omega), isJamo_ofNat (by omega)⟩

theorem exists_splitSyllable_of_trail_ne (hc : isSyllable c = true) (h : trail c ≠ 0) :
    ∃ a b, splitSyllable c = [a, b] ∧ isSyllable a = true ∧ trail a = 0 ∧ IsJamo b := by
  have htrail : trail c = (c.toNat - 0xAC00) % 28 := rfl
  rw [isSyllable_iff] at hc
  have hlead : (Char.ofNat (c.toNat - trail c)).toNat = c.toNat - trail c :=
    toNat_ofNat (by unfold Nat.isValidChar; omega)
  refine ⟨_, _, splitSyllable_of_trail_ne h, ?_, ?_, isJamo_ofNat (by omega)⟩
  · rw [isSyllable_iff, hlead]
    omega
  · rw [trail, hlead]
    omega

theorem IsJamo.settles (h : IsJamo c) (steps : Nat) : unicode.Settles steps c :=
  Properties.settles_of_parts?_eq_none h.parts?_eq_none steps

theorem settles_of_trail_eq (hc : isSyllable c = true) (h : trail c = 0) (steps : Nat) :
    unicode.Settles (steps + 1) c := by
  obtain ⟨a, b, hsplit, ha, hb⟩ := exists_splitSyllable_of_trail_eq hc h
  intro cs hcs
  rw [parts?_of_isSyllable hc, hsplit, Option.some.injEq] at hcs
  subst hcs
  exact List.forall_mem_cons.mpr
    ⟨ha.settles steps, List.forall_mem_singleton.mpr (hb.settles steps)⟩

theorem settles_of_isSyllable (hc : isSyllable c = true) (steps : Nat) :
    unicode.Settles (steps + 2) c := by
  by_cases h : trail c = 0
  · exact settles_of_trail_eq hc h (steps + 1)
  · obtain ⟨a, b, hsplit, ha, hlead, hb⟩ := exists_splitSyllable_of_trail_ne hc h
    intro cs hcs
    rw [parts?_of_isSyllable hc, hsplit, Option.some.injEq] at hcs
    subst hcs
    exact List.forall_mem_cons.mpr
      ⟨settles_of_trail_eq ha hlead steps, List.forall_mem_singleton.mpr (hb.settles (steps + 1))⟩

theorem parts?_of_joinSyllable? (h : joinSyllable? a b = some c) :
    unicode.parts? c = some [a, b] := by
  rw [joinSyllable?] at h
  split_ifs at h with hpair hclosed
  · simp only [Bool.and_eq_true, decide_eq_true_eq] at hpair
    generalize hn : 0xAC00 + ((a.toNat - 0x1100) * 21 + (b.toNat - 0x1161)) * 28 = n at h
    have hc : c.toNat = n := by
      rw [← Option.some.inj h, toNat_ofNat (by unfold Nat.isValidChar; omega)]
    have ha : 0x1100 + (c.toNat - 0xAC00) / 588 = a.toNat := by omega
    have hb : 0x1161 + (c.toNat - 0xAC00) % 588 / 28 = b.toNat := by omega
    have hsyllable : isSyllable c = true := isSyllable_iff.mpr (by omega)
    have htrail : trail c = 0 := by
      rw [trail]
      omega
    rw [parts?_of_isSyllable hsyllable, splitSyllable_of_trail_eq htrail, ha, hb, Char.ofNat_toNat,
      Char.ofNat_toNat]
  · simp only [Bool.and_eq_true, decide_eq_true_eq, isSyllable_iff] at hclosed
    obtain ⟨⟨⟨ha, hopen⟩, hlow⟩, hhigh⟩ := hclosed
    rw [trail] at hopen
    have hlt : b.toNat - 0x11A7 < 28 := by omega
    have hc : c.toNat = a.toNat + (b.toNat - 0x11A7) := by
      rw [← Option.some.inj h, toNat_ofNat (by unfold Nat.isValidChar; omega)]
    have hsyllable : isSyllable c = true := isSyllable_iff.mpr (by omega)
    have htrail : trail c = b.toNat - 0x11A7 := by
      rw [trail, hc, Nat.sub_add_comm ha.1, Nat.add_mod, hopen, Nat.zero_add, Nat.mod_mod,
        Nat.mod_eq_of_lt hlt]
    have hlead : c.toNat - trail c = a.toNat := by omega
    have hrest : 0x11A7 + trail c = b.toNat := by omega
    rw [parts?_of_isSyllable hsyllable, splitSyllable_of_trail_ne (by omega), hlead, hrest,
      Char.ofNat_toNat, Char.ofNat_toNat]

/-! ### The laws -/

theorem toNat_lt (c : Char) : c.toNat < 0x110000 := by
  rcases c.valid with h | ⟨-, h⟩
  · exact Nat.lt_trans h (by decide)
  · exact h

theorem pairKey_inj {a' b' : Char} (h : pairKey a b = pairKey a' b') : a = a' ∧ b = b' := by
  have hb := toNat_lt b
  have hb' := toNat_lt b'
  unfold pairKey at h
  exact ⟨Char.toNat_inj.mp (by omega), Char.toNat_inj.mp (by omega)⟩

theorem parts?_of_compositions (h : compositions[pairKey a b]? = some c) :
    unicode.parts? c = some [a, b] := by
  obtain ⟨⟨n, ns⟩, hrow, hc⟩ := List.mem_filterMap.mp (SearchTree.mem_of_getElem?_ofList h)
  have hlisted : isListed n = true := isListed_of_settlesIn (settlesIn_of_mem hrow)
  unfold composition? at hc
  split at hc
  next _ n x y heq =>
    cases heq
    split_ifs at hc
    obtain ⟨hkey, rfl⟩ := Prod.mk.inj (Option.some.inj hc)
    obtain ⟨rfl, rfl⟩ := pairKey_inj hkey
    rw [parts?_ofNat hlisted, find?_decompositionTree.mpr hrow]
    rfl
  next => cases hc

theorem settles_unicode (c : Char) : unicode.Settles 4 c := by
  cases hsyllable : isSyllable c with
  | true => exact settles_of_isSyllable hsyllable 2
  | false =>
    cases hparts : unicode.parts? c with
    | none => exact Properties.settles_of_parts?_eq_none hparts 4
    | some cs =>
      rw [parts?_of_not_isSyllable hsyllable] at hparts
      obtain ⟨ns, hrow, -⟩ := decompositions_eq_some_iff.mp hparts
      simpa using settles_ofNat (settlesIn_of_mem hrow)

theorem lawful_unicode : unicode.Lawful where
  settles := settles_unicode
  parts?_join {a b c} h := by
    simp only [unicode, Option.orElse_eq_some] at h
    rcases h with h | ⟨-, h⟩
    · exact parts?_of_joinSyllable? h
    · exact parts?_of_compositions h

end AttachmentIntake.Text.Canonical
