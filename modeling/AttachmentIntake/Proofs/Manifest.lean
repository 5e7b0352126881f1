import AttachmentIntake.Manifest.Reader
import Mathlib.Data.List.Nodup

/-! What an accepted manifest guarantees: groups that expect files, under identifiers whose short
forms differ pairwise. -/

namespace AttachmentIntake.Manifest

/-! ### One collection for two -/

/-- The search for a clash among the earlier identifiers alone: one with the short form of a file
either is its identifier or shares the short form with it. -/
def clash? (earlier : List Identifier) : List ExpectedFile → Option Fault
  | [] => none
  | file :: files =>
    match earlier.find? fun e => e.short = file.identifier.short with
    | some e =>
      if e = file.identifier then some (.repeatedIdentifier e)
      else some (.sharedShortForm e file.identifier)
    | none => clash? (file.identifier :: earlier) files

/-- Identifiers by their short forms. -/
def byShortForm (earlier : List Identifier) : List (String × Identifier) :=
  earlier.map fun i => (i.short, i)

theorem lookup_byShortForm (earlier : List Identifier) (short : String) :
    (byShortForm earlier).lookup short = earlier.find? fun e => e.short = short := by
  induction earlier with
  | nil => rfl
  | cons e earlier ih =>
    rw [byShortForm, List.map_cons, List.lookup_cons, List.find?_cons, ← byShortForm, ih]
    by_cases h : e.short = short
    · simp [h]
    · simp [h, beq_false_of_ne (Ne.symm h)]

/-- While no short form repeats, an identifier seen before is the one that its short form stands
for. -/
theorem find?_short_of_mem {earlier : List Identifier} (h : (earlier.map Identifier.short).Nodup)
    {i : Identifier} (hi : i ∈ earlier) : earlier.find? (fun e => e.short = i.short) = some i := by
  have hsome : (earlier.find? fun e => e.short = i.short).isSome = true :=
    List.find?_isSome.mpr ⟨i, hi, decide_eq_true rfl⟩
  obtain ⟨e, he⟩ := Option.isSome_iff_exists.mp hsome
  have hshort : e.short = i.short := by simpa using List.find?_some he
  rw [he, List.inj_on_of_nodup_map h (List.mem_of_find?_eq_some he) hi hshort]

/-- The invariant of the pass: both collections hold the earlier identifiers, and no two of these
share a short form. -/
theorem identifierFault?_eq_clash? {earlier : List Identifier} {files : List ExpectedFile}
    (h : (earlier.map Identifier.short).Nodup) :
    identifierFault? earlier (byShortForm earlier) files = clash? earlier files := by
  induction files generalizing earlier with
  | nil => rfl
  | cons file files ih =>
    rw [identifierFault?, clash?, lookup_byShortForm]
    by_cases hseen : file.identifier ∈ earlier
    · rw [if_pos hseen, find?_short_of_mem h hseen]
      simp
    · rw [if_neg hseen]
      cases hfind : earlier.find? fun e => e.short = file.identifier.short with
      | some e =>
        have hne : e ≠ file.identifier := fun heq => hseen (heq ▸ List.mem_of_find?_eq_some hfind)
        simp [hne]
      | none =>
        have hnew : file.identifier.short ∉ earlier.map Identifier.short := by
          simpa using List.find?_eq_none.mp hfind
        exact ih (List.nodup_cons.mpr ⟨hnew, h⟩)

theorem identifierFault?_nil (files : List ExpectedFile) :
    identifierFault? [] [] files = clash? [] files := identifierFault?_eq_clash? List.nodup_nil

/-! ### What is accepted -/

/-- The search for a clash comes up empty exactly if no short form occurs twice and none of an
earlier identifier occurs again. -/
theorem clash?_eq_none_iff {earlier : List Identifier} {files : List ExpectedFile} :
    clash? earlier files = none ↔
      (files.map fun f => f.identifier.short).Nodup ∧
        ∀ f ∈ files, ∀ e ∈ earlier, e.short ≠ f.identifier.short := by
  induction files generalizing earlier with
  | nil => simp [clash?]
  | cons file files ih =>
    simp only [clash?, List.map_cons, List.nodup_cons, List.mem_map, List.forall_mem_cons]
    split
    next e he =>
      -- An earlier identifier has the short form of the first file, whichever of the two faults
      -- that makes.
      have hmem := List.mem_of_find?_eq_some he
      have hshort : e.short = file.identifier.short := by simpa using List.find?_some he
      constructor
      · intro h
        split at h <;> cases h
      · rintro ⟨-, hfirst, -⟩
        exact absurd hshort (hfirst e hmem)
    next he =>
      have hfirst : ∀ e ∈ earlier, e.short ≠ file.identifier.short := by
        simpa using List.find?_eq_none.mp he
      rw [ih]
      constructor
      · rintro ⟨hnodup, hnew⟩
        refine ⟨⟨?_, hnodup⟩, hfirst, fun f hf => (List.forall_mem_cons.mp (hnew f hf)).2⟩
        rintro ⟨f, hf, heq⟩
        exact (List.forall_mem_cons.mp (hnew f hf)).1 heq.symm
      · rintro ⟨⟨hhead, hnodup⟩, -, hnew⟩
        refine ⟨hnodup, fun f hf => List.forall_mem_cons.mpr ⟨?_, hnew f hf⟩⟩
        exact fun heq => hhead ⟨f, hf, heq.symm⟩

theorem check_eq_ok_iff {groups kept : List UploadGroup} :
    check groups = .ok kept ↔ kept = groups.filter (fun g => !g.files.isEmpty) ∧
      ((expectedFiles kept).map fun f => f.identifier.short).Nodup := by
  simp only [check]
  split
  next fault hf =>
    refine ⟨nofun, ?_⟩
    rintro ⟨rfl, hnodup⟩
    rw [identifierFault?_nil, clash?_eq_none_iff.mpr ⟨hnodup, by simp⟩] at hf
    cases hf
  next hf =>
    rw [identifierFault?_nil] at hf
    have hnodup := (clash?_eq_none_iff.mp hf).1
    constructor
    · intro h
      cases h
      exact ⟨rfl, hnodup⟩
    · rintro ⟨rfl, -⟩
      rfl

theorem parse_eq_ok_iff {bytes : List UInt8} {kept : List UploadGroup} :
    parse bytes = .ok kept ↔ ∃ groups, readGroups bytes = .ok groups ∧
      kept = groups.filter (fun g => !g.files.isEmpty) ∧
      ((expectedFiles kept).map fun f => f.identifier.short).Nodup := by
  unfold parse
  split
  next fault hread => simp [hread]
  next groups hread => simp [hread, check_eq_ok_iff]

/-- Identifiers with different short forms differ. -/
theorem identifiers_nodup {files : List ExpectedFile}
    (h : (files.map fun f => f.identifier.short).Nodup) :
    (files.map fun f => f.identifier.text).Nodup := by
  rw [List.Nodup, List.pairwise_map] at h ⊢
  exact h.imp fun hne heq => hne (by simp only [Identifier.short, heq])

end AttachmentIntake.Manifest
