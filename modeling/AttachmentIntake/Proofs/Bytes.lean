import AttachmentIntake.Bytes
import Mathlib.Data.List.Infix
import Mathlib.Data.List.TakeWhile

/-! Byte content as a list: what slices and runs are, and which occurrences of a pattern the
searches find. -/

namespace AttachmentIntake.Bytes

/-- A pattern stands at a position of a list of bytes. -/
def OccursAt (pattern bytes : List UInt8) (i : Nat) : Prop := pattern <+: bytes.drop i

/-- The last position of a pattern among those from which it ends at or before a bound. -/
structure IsLast (pattern bytes : List UInt8) (bound i : Nat) : Prop where
  ends : i + pattern.length ≤ bound
  occurs : OccursAt pattern bytes i
  last : ∀ j, OccursAt pattern bytes j → j + pattern.length ≤ bound → j ≤ i

/-- Where bytes from a position on end: in front of the first occurrence of a pattern from there on,
or behind all bytes if there is none. -/
inductive EndsAt (pattern bytes : List UInt8) (start : Nat) : Nat → Prop
  | first {i : Nat} (hstart : start ≤ i) (hoccurs : OccursAt pattern bytes i)
      (hfirst : ∀ j, start ≤ j → OccursAt pattern bytes j → i ≤ j) : EndsAt pattern bytes start i
  | never (hnever : ∀ j, start ≤ j → ¬ OccursAt pattern bytes j) :
      EndsAt pattern bytes start bytes.length

variable {content : ByteArray} {pattern bytes before after : List UInt8} {p : Nat → Bool} {b : UInt8}
  {i j start stop : Nat}

theorem size_eq_length (content : ByteArray) : content.size = content.data.toList.length := by
  simp

theorem getElem?_eq (content : ByteArray) (i : Nat) : content[i]? = content.data.toList[i]? := by
  by_cases h : i < content.size
  · have hlist : i < content.data.toList.length := by rwa [← size_eq_length]
    rw [getElem?_pos content i h, List.getElem?_eq_getElem hlist, Array.getElem_toList]
    rfl
  · have hlist : content.data.toList.length ≤ i := by
      rw [← size_eq_length]
      exact Nat.not_lt.mp h
    rw [getElem?_neg content i h, List.getElem?_eq_none hlist]

/-! ### Slices and runs -/

theorem slice_eq (content : ByteArray) (start stop : Nat) :
    slice content start stop = (content.data.toList.drop start).take (stop - start) := by
  rw [slice, ByteArray.data_extract, Array.toList_extract, List.extract_eq_take_drop]

theorem runEnd_eq (p : UInt8 → Bool) (content : ByteArray) (i : Nat) :
    runEnd p content i = i + ((content.data.toList.drop i).takeWhile p).length := by
  fun_induction runEnd p content i with
  | case1 i h hp ih =>
    have hlist : i < content.data.toList.length := by rwa [← size_eq_length]
    have hget : content.data.toList[i] = content[i] := Array.getElem_toList _
    rw [ih, List.drop_eq_getElem_cons hlist, hget, List.takeWhile_cons_of_pos hp, List.length_cons]
    omega
  | case2 i h hp =>
    have hlist : i < content.data.toList.length := by rwa [← size_eq_length]
    have hget : content.data.toList[i] = content[i] := Array.getElem_toList _
    rw [List.drop_eq_getElem_cons hlist, hget, List.takeWhile_cons_of_neg hp, List.length_nil,
      Nat.add_zero]
  | case3 i h =>
    have hlist : content.data.toList.length ≤ i := by
      rw [← size_eq_length]
      exact Nat.not_lt.mp h
    rw [List.drop_eq_nil_of_le hlist, List.takeWhile_nil, List.length_nil, Nat.add_zero]

/-- What follows the run that content starts with. -/
theorem slice_runEnd (p : UInt8 → Bool) (content : ByteArray) (n : Nat) :
    slice content (runEnd p content 0) (runEnd p content 0 + n) =
      (content.data.toList.dropWhile p).take n := by
  have hdrop : content.data.toList.drop (content.data.toList.takeWhile p).length =
      content.data.toList.dropWhile p := by
    conv_lhs =>
      arg 2
      rw [← List.takeWhile_append_dropWhile (p := p) (l := content.data.toList)]
    exact List.drop_left
  rw [slice_eq, runEnd_eq, List.drop_zero, Nat.zero_add, Nat.add_sub_cancel_left, hdrop]

/-! ### Occurrences of a pattern -/

theorem occursAt_iff_getElem? :
    OccursAt pattern bytes i ↔ ∀ k (h : k < pattern.length), bytes[i + k]? = some pattern[k] := by
  simp only [OccursAt, List.prefix_iff_getElem?, List.getElem?_drop]

theorem infix_iff_occursAt : pattern <:+: bytes ↔ ∃ i, OccursAt pattern bytes i := by
  constructor
  · rintro ⟨before, after, rfl⟩
    refine ⟨before.length, ?_⟩
    rw [OccursAt, List.append_assoc, List.drop_left]
    exact List.prefix_append pattern after
  · rintro ⟨i, h⟩
    exact h.isInfix.trans (List.drop_suffix i bytes).isInfix

@[simp] theorem occursAt_cons_iff :
    OccursAt (b :: pattern) bytes i ↔ bytes[i]? = some b ∧ OccursAt pattern bytes (i + 1) := by
  unfold OccursAt
  by_cases h : i < bytes.length
  · rw [List.drop_eq_getElem_cons h, List.cons_prefix_cons, List.getElem?_eq_getElem h,
      Option.some.injEq, eq_comm]
  · have hlength : bytes.length ≤ i := Nat.not_lt.mp h
    simp [List.drop_eq_nil_of_le hlength, List.getElem?_eq_none hlength]

theorem OccursAt.add_length_le (h : OccursAt pattern bytes i) (hpattern : pattern ≠ []) :
    i + pattern.length ≤ bytes.length := by
  have hlength : pattern.length ≤ (bytes.drop i).length := List.IsPrefix.length_le h
  have hpos : 0 < pattern.length := List.length_pos_iff.mpr hpattern
  rw [List.length_drop] at hlength
  omega

theorem occursAt_append_left (h : i + pattern.length ≤ before.length) :
    OccursAt pattern (before ++ after) i ↔ OccursAt pattern before i := by
  rw [occursAt_iff_getElem?, occursAt_iff_getElem?]
  refine forall₂_congr fun k hk => ?_
  rw [List.getElem?_append_left (by omega)]

@[simp] theorem occursAt_append_right :
    OccursAt pattern (before ++ after) (before.length + i) ↔ OccursAt pattern after i := by
  rw [OccursAt, OccursAt, List.drop_length_add_append]

/-- In a slice stands what stands wholly inside it. -/
theorem occursAt_extract_iff (hpattern : pattern ≠ []) :
    OccursAt pattern (content.extract start stop).data.toList i ↔
      i + pattern.length ≤ stop - start ∧ OccursAt pattern content.data.toList (start + i) := by
  have hpos : 0 < pattern.length := List.length_pos_iff.mpr hpattern
  rw [OccursAt, OccursAt, ← slice, slice_eq, List.drop_take, List.drop_drop, List.prefix_take_iff,
    and_comm]
  refine and_congr_left fun _ => ?_
  omega

/-- A pattern without a byte stands on one side of it. -/
theorem occursAt_append_cons_iff (hb : b ∉ pattern) (hpattern : pattern ≠ []) :
    OccursAt pattern (before ++ b :: after) i ↔
      OccursAt pattern before i ∨ ∃ k, i = before.length + 1 + k ∧ OccursAt pattern after k := by
  have hright (k : Nat) : OccursAt pattern (before ++ b :: after) (before.length + 1 + k) ↔
      OccursAt pattern after k := by
    have hlength : (before ++ [b]).length = before.length + 1 := List.length_append
    rw [List.append_cons, ← hlength]
    exact occursAt_append_right
  constructor
  · intro h
    rcases Nat.lt_or_ge before.length i with hi | hi
    · obtain ⟨k, rfl⟩ := Nat.exists_eq_add_of_le hi
      exact .inr ⟨k, rfl, (hright k).mp h⟩
    · refine .inl ((occursAt_append_left ?_).mp h)
      -- otherwise the byte itself would be one of the pattern
      by_contra hlength
      have hk : before.length - i < pattern.length := by omega
      have hget := occursAt_iff_getElem?.mp h _ hk
      rw [Nat.add_sub_cancel' hi, List.getElem?_append_right (Nat.le_refl _), Nat.sub_self,
        List.getElem?_cons_zero, Option.some.injEq] at hget
      exact hb (hget ▸ List.getElem_mem hk)
  · rintro (h | ⟨k, rfl, h⟩)
    · exact (occursAt_append_left (h.add_length_le hpattern)).mpr h
    · exact (hright k).mpr h

theorem infix_append_cons_iff (hb : b ∉ pattern) (hpattern : pattern ≠ []) :
    pattern <:+: before ++ b :: after ↔ pattern <:+: before ∨ pattern <:+: after := by
  simp only [infix_iff_occursAt, occursAt_append_cons_iff hb hpattern, exists_or]
  refine or_congr_right ⟨fun ⟨_, k, _, h⟩ => ⟨k, h⟩, fun ⟨k, h⟩ => ⟨_, k, rfl, h⟩⟩

theorem standsAt_iff :
    standsAt content i pattern = true ↔
      i ≤ content.size ∧ OccursAt pattern content.data.toList i := by
  induction pattern generalizing i with
  | nil => simp [standsAt, OccursAt]
  | cons b pattern ih =>
    rw [standsAt, Bool.and_eq_true, beq_iff_eq, ih, getElem?_eq, occursAt_cons_iff]
    constructor
    · rintro ⟨hb, hsize, hrest⟩
      exact ⟨by omega, hb, hrest⟩
    · rintro ⟨-, hb, hrest⟩
      have hi : i < content.data.toList.length := (List.getElem?_eq_some_iff.mp hb).1
      exact ⟨hb, by rwa [size_eq_length], hrest⟩

theorem standsAt_iff_occursAt (hpattern : pattern ≠ []) :
    standsAt content i pattern = true ↔ OccursAt pattern content.data.toList i := by
  rw [standsAt_iff, and_iff_right_iff_imp, size_eq_length]
  intro h
  have hlength := h.add_length_le hpattern
  omega

theorem standsAt_eq_false_iff (hpattern : pattern ≠ []) :
    standsAt content i pattern = false ↔ ¬ OccursAt pattern content.data.toList i := by
  rw [← standsAt_iff_occursAt hpattern, Bool.not_eq_true]

/-! ### Searches -/

theorem firstFrom_eq_find? (p : Nat → Bool) (start count : Nat) :
    firstFrom p start count = (List.range' start count).find? p := by
  induction count generalizing start with
  | zero => rfl
  | succ count ih =>
    rw [firstFrom, List.range'_succ, List.find?_cons, ih]
    cases p start <;> rfl

theorem lastBelow_eq_some_iff :
    lastBelow p stop = some i ↔
      i < stop ∧ p i = true ∧ ∀ j, i < j → j < stop → p j = false := by
  induction stop with
  | zero => simp [lastBelow]
  | succ n ih =>
    rw [lastBelow]
    split
    next hp =>
      rw [Option.some.injEq]
      constructor
      · rintro rfl
        exact ⟨by omega, hp, fun j hj hlt => by omega⟩
      · rintro ⟨hstop, -, hafter⟩
        by_contra hne
        simp [hafter n (by omega) (by omega)] at hp
    next hp =>
      rw [Bool.not_eq_true] at hp
      rw [ih]
      constructor
      · rintro ⟨hstop, hpi, hafter⟩
        refine ⟨by omega, hpi, fun j hj hlt => ?_⟩
        rcases Nat.eq_or_lt_of_le (Nat.le_of_lt_succ hlt) with rfl | hlt
        · exact hp
        · exact hafter j hj hlt
      · rintro ⟨hstop, hpi, hafter⟩
        have hne : i ≠ n := by
          rintro rfl
          simp [hp] at hpi
        exact ⟨by omega, hpi, fun j hj hlt => hafter j hj (by omega)⟩

theorem lastBelow_eq_none_iff : lastBelow p stop = none ↔ ∀ j < stop, p j = false := by
  induction stop with
  | zero => simp [lastBelow]
  | succ n ih =>
    rw [lastBelow]
    split
    next hp =>
      refine iff_of_false nofun fun h => ?_
      simp [h n (by omega)] at hp
    next hp =>
      rw [Bool.not_eq_true] at hp
      rw [ih, Nat.forall_lt_succ_right]
      simp [hp]

/-- The search from the front finds the first occurrence that lies between two positions. -/
theorem find?_eq_some_iff (hpattern : pattern ≠ []) :
    find? pattern content start stop = some i ↔
      start ≤ i ∧ i + pattern.length ≤ stop ∧ OccursAt pattern content.data.toList i ∧
        ∀ j, start ≤ j → j < i → ¬ OccursAt pattern content.data.toList j := by
  simp only [find?, firstFrom_eq_find?, List.find?_range'_eq_some, List.mem_range'_1,
    Bool.not_eq_true', standsAt_iff_occursAt hpattern, standsAt_eq_false_iff hpattern]
  constructor
  · rintro ⟨hi, ⟨hstart, hstop⟩, hbefore⟩
    exact ⟨hstart, by omega, hi, hbefore⟩
  · rintro ⟨hstart, hstop, hi, hbefore⟩
    exact ⟨hi, ⟨hstart, by omega⟩, hbefore⟩

theorem find?_eq_none_iff (hpattern : pattern ≠ []) : find? pattern content start stop = none ↔
    ∀ j, start ≤ j → j + pattern.length ≤ stop → ¬ OccursAt pattern content.data.toList j := by
  simp only [find?, firstFrom_eq_find?, List.find?_range'_eq_none, Bool.not_eq_true',
    standsAt_eq_false_iff hpattern]
  constructor
  · intro h j hstart hstop
    exact h j hstart (by omega)
  · intro h j hstart hstop
    exact h j hstart (by omega)

theorem isSome_find?_iff (hpattern : pattern ≠ []) :
    (find? pattern content start stop).isSome = true ↔
      ∃ i, start ≤ i ∧ i + pattern.length ≤ stop ∧ OccursAt pattern content.data.toList i := by
  rw [Option.isSome_iff_ne_none, ne_eq, find?_eq_none_iff hpattern]
  push Not
  rfl

theorem getD_find?_eq_iff (hpattern : pattern ≠ []) :
    (find? pattern content start content.size).getD content.size = stop ↔
      EndsAt pattern content.data.toList start stop := by
  have hend {j : Nat} (hj : OccursAt pattern content.data.toList j) :
      j + pattern.length ≤ content.size := by
    rw [size_eq_length]
    exact hj.add_length_le hpattern
  cases hfound : find? pattern content start content.size with
  | none =>
    have hnever : ∀ j, start ≤ j → ¬ OccursAt pattern content.data.toList j := fun j hj hoccurs =>
      (find?_eq_none_iff hpattern).mp hfound j hj (hend hoccurs) hoccurs
    rw [Option.getD_none, size_eq_length]
    constructor
    · rintro rfl
      exact .never hnever
    · rintro (⟨hstart, hoccurs, -⟩ | -)
      · exact absurd hoccurs (hnever stop hstart)
      · rfl
  | some i =>
    obtain ⟨hstart, -, hoccurs, hbefore⟩ := (find?_eq_some_iff hpattern).mp hfound
    have hfirst : ∀ j, start ≤ j → OccursAt pattern content.data.toList j → i ≤ j := by
      intro j hj hoccursj
      by_contra hlt
      exact hbefore j hj (Nat.not_le.mp hlt) hoccursj
    rw [Option.getD_some]
    constructor
    · rintro rfl
      exact .first hstart hoccurs hfirst
    · rintro (⟨hstart', hoccurs', hfirst'⟩ | hnever)
      · exact Nat.le_antisymm (hfirst stop hstart' hoccurs') (hfirst' i hstart hoccurs)
      · exact absurd hoccurs (hnever i hstart)

theorem exists_endsAt (hpattern : pattern ≠ []) (bytes : List UInt8) (start : Nat) :
    ∃ stop, EndsAt pattern bytes start stop := by
  obtain ⟨stop, hstop⟩ :
      ∃ stop, (find? pattern ⟨bytes.toArray⟩ start bytes.length).getD bytes.length = stop := ⟨_, rfl⟩
  exact ⟨stop, (getD_find?_eq_iff hpattern).mp hstop⟩

/-- A position lies in front of the end exactly if it lies in front of every occurrence. -/
theorem EndsAt.le_iff (hpattern : pattern ≠ []) (h : EndsAt pattern bytes start stop) :
    i ≤ stop ↔ i ≤ bytes.length ∧ ∀ j, start ≤ j → OccursAt pattern bytes j → i ≤ j := by
  cases h with
  | first hstart hoccurs hfirst =>
    have hend := hoccurs.add_length_le hpattern
    refine ⟨fun hi => ⟨by omega, fun j hj hoccursj => hi.trans (hfirst j hj hoccursj)⟩, ?_⟩
    exact fun h => h.2 stop hstart hoccurs
  | never hnever =>
    exact (and_iff_left fun j hj hoccurs => absurd hoccurs (hnever j hj)).symm

theorem IsLast.unique (hi : IsLast pattern bytes stop i) (hj : IsLast pattern bytes stop j) :
    i = j :=
  Nat.le_antisymm (hj.last i hi.occurs hi.ends) (hi.last j hj.occurs hj.ends)

/-- The search from the back finds the last occurrence that ends at or before a position. -/
theorem findLast?_eq_some_iff (hpattern : pattern ≠ []) :
    findLast? pattern content stop = some i ↔ IsLast pattern content.data.toList stop i := by
  simp only [findLast?, lastBelow_eq_some_iff, standsAt_iff_occursAt hpattern,
    standsAt_eq_false_iff hpattern]
  constructor
  · rintro ⟨hstop, hi, hafter⟩
    refine ⟨by omega, hi, fun j hj hend => ?_⟩
    by_contra hij
    exact hafter j (by omega) (by omega) hj
  · rintro ⟨hend, hi, hlast⟩
    refine ⟨by omega, hi, fun j hij hj hoccurs => ?_⟩
    have hle := hlast j hoccurs (by omega)
    omega

theorem findLast?_eq_none_iff (hpattern : pattern ≠ []) :
    findLast? pattern content stop = none ↔
      ∀ j, j + pattern.length ≤ stop → ¬ OccursAt pattern content.data.toList j := by
  simp only [findLast?, lastBelow_eq_none_iff, standsAt_eq_false_iff hpattern]
  constructor
  · intro h j hj
    exact h j (by omega)
  · intro h j hj
    exact h j (by omega)

theorem findLast?_size_eq_none_iff (hpattern : pattern ≠ []) :
    findLast? pattern content content.size = none ↔ ¬ pattern <:+: content.data.toList := by
  rw [findLast?_eq_none_iff hpattern, infix_iff_occursAt, not_exists, size_eq_length]
  exact ⟨fun h i hi => h i (hi.add_length_le hpattern) hi, fun h i _ => h i⟩

theorem exists_isLast (hpattern : pattern ≠ []) (hoccurs : OccursAt pattern bytes i)
    (hend : i + pattern.length ≤ stop) : ∃ j, IsLast pattern bytes stop j := by
  cases hfound : findLast? pattern ⟨bytes.toArray⟩ stop with
  | some j => exact ⟨j, (findLast?_eq_some_iff hpattern).mp hfound⟩
  | none => exact absurd hoccurs ((findLast?_eq_none_iff hpattern).mp hfound i hend)

/-- In bytes that start with a pattern and whatever stands in front of them, the last occurrence is
one of these bytes alone. -/
theorem isLast_append_iff (h : pattern <+: after) :
    IsLast pattern (before ++ after) (before ++ after).length i ↔
      ∃ k, i = before.length + k ∧ IsLast pattern after after.length k := by
  rw [List.length_append]
  constructor
  · rintro ⟨hend, hoccurs, hlast⟩
    have hfront : OccursAt pattern (before ++ after) (before.length + 0) :=
      occursAt_append_right.mpr h
    have hlength := h.length_le
    obtain ⟨k, rfl⟩ := Nat.exists_eq_add_of_le (hlast _ hfront (by omega))
    rw [Nat.add_zero, occursAt_append_right] at hoccurs
    refine ⟨k, by omega, by omega, hoccurs, fun j hj hendj => ?_⟩
    have hle := hlast _ (occursAt_append_right.mpr hj) (by omega)
    omega
  · rintro ⟨k, rfl, hend, hoccurs, hlast⟩
    refine ⟨by omega, occursAt_append_right.mpr hoccurs, fun j hj hendj => ?_⟩
    -- one that starts in front, across the border or not, is not behind the others
    rcases Nat.lt_or_ge j before.length with hlt | hge
    · omega
    · obtain ⟨m, rfl⟩ := Nat.exists_eq_add_of_le hge
      have hle := hlast m (occursAt_append_right.mp hj) (by omega)
      omega

/-! ### Searches in slices -/

/-- A search in a slice finds what a search between its ends does, counted from its start. -/
theorem find?_extract (hpattern : pattern ≠ []) :
    (find? pattern (content.extract start stop) 0 (stop - start)).map (start + ·) =
      find? pattern content start stop := by
  have hpos : 0 < pattern.length := List.length_pos_iff.mpr hpattern
  ext i
  rw [find?_eq_some_iff hpattern, Option.map_eq_some_iff]
  simp only [find?_eq_some_iff hpattern, occursAt_extract_iff hpattern]
  constructor
  · rintro ⟨k, ⟨-, hend, ⟨-, hoccurs⟩, hbefore⟩, rfl⟩
    refine ⟨Nat.le_add_right _ _, by omega, hoccurs, fun j hj hlt hoccursj => ?_⟩
    obtain ⟨m, rfl⟩ := Nat.exists_eq_add_of_le hj
    exact hbefore m (Nat.zero_le _) (by omega) ⟨by omega, hoccursj⟩
  · rintro ⟨hstart, hend, hoccurs, hbefore⟩
    obtain ⟨k, rfl⟩ := Nat.exists_eq_add_of_le hstart
    refine ⟨k, ⟨Nat.zero_le _, by omega, ⟨by omega, hoccurs⟩, fun m _ hlt hm => ?_⟩, rfl⟩
    exact hbefore (start + m) (Nat.le_add_right _ _) (by omega) hm.2

theorem findLast?_extract (hpattern : pattern ≠ []) :
    findLast? pattern (content.extract 0 stop) stop = findLast? pattern content stop := by
  ext i
  rw [findLast?_eq_some_iff hpattern, findLast?_eq_some_iff hpattern]
  constructor
  · rintro ⟨hend, hoccurs, hlast⟩
    simp only [occursAt_extract_iff hpattern, Nat.sub_zero, Nat.zero_add] at hoccurs hlast
    exact ⟨hend, hoccurs.2, fun j hj hendj => hlast j ⟨hendj, hj⟩ hendj⟩
  · rintro ⟨hend, hoccurs, hlast⟩
    refine ⟨hend, ?_, fun j hj hendj => hlast j ?_ hendj⟩
    · rw [occursAt_extract_iff hpattern, Nat.sub_zero, Nat.zero_add]
      exact ⟨hend, hoccurs⟩
    · rw [occursAt_extract_iff hpattern, Nat.sub_zero, Nat.zero_add] at hj
      exact hj.2

end AttachmentIntake.Bytes
