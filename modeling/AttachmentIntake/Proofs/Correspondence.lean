import AttachmentIntake.Proofs.Reconciliation

/-! Two runs side by side. Parts are bound by their tokens alone, so uploads in which every token
leads to corresponding parts are bound to corresponding batches, or fail alike. -/

namespace AttachmentIntake

/-- Steps that end alike: with errors that correspond, or with results that do. -/
inductive EndsAlike {ε δ α β : Type} (E : ε → δ → Prop) (S : α → β → Prop) :
    Except ε α → Except δ β → Prop
  | error {e : ε} {d : δ} (h : E e d) : EndsAlike E S (.error e) (.error d)
  | ok {a : α} {b : β} (h : S a b) : EndsAlike E S (.ok a) (.ok b)

theorem EndsAlike.bind {ε δ α β α' β' : Type} {E : ε → δ → Prop} {S : α → β → Prop}
    {T : α' → β' → Prop} {x : Except ε α} {y : Except δ β} {f : α → Except ε α'}
    {g : β → Except δ β'} (h : EndsAlike E S x y)
    (hfg : ∀ a b, S a b → EndsAlike E T (f a) (g b)) : EndsAlike E T (x >>= f) (y >>= g) := by
  cases h with
  | error he => exact .error he
  | ok hab => exact hfg _ _ hab

namespace Reconciliation

/-- Uploads in which every token leads to corresponding parts, or to none. -/
def Correspond (R : Part → Part → Prop) (uploads others : Uploads) : Prop :=
  ∀ token, Option.Rel R (uploads.lookup token) (others.lookup token)

/-- One expected file, bound to corresponding parts. -/
structure SameFile (R : Part → Part → Prop) (file other : BoundFile) : Prop where
  expected : file.expected = other.expected
  part : R file.part other.part

structure SameGroup (R : Part → Part → Prop) (group other : BoundGroup) : Prop where
  info : group.info = other.info
  files : List.Forall₂ (SameFile R) group.files other.files

def SameBatch (R : Part → Part → Prop) (batch other : BoundBatch) : Prop :=
  List.Forall₂ (SameGroup R) batch.groups other.groups

@[simp] theorem sameFile_eq : SameFile Eq = Eq := by
  ext ⟨expected, part⟩ ⟨expected', part'⟩
  constructor
  · rintro ⟨rfl, rfl⟩
    rfl
  · rintro ⟨⟩
    exact ⟨rfl, rfl⟩

theorem SameBatch.eq {batch other : BoundBatch} (h : SameBatch Eq batch other) :
    batch = other := by
  have hgroup : SameGroup Eq = Eq := by
    ext ⟨info, files⟩ ⟨info', files'⟩
    constructor
    · rintro ⟨rfl, hfiles⟩
      rw [sameFile_eq, List.forall₂_eq_eq_eq] at hfiles
      exact congrArg _ hfiles
    · rintro ⟨⟩
      refine ⟨rfl, ?_⟩
      rw [sameFile_eq, List.forall₂_eq_eq_eq]
  rw [SameBatch, hgroup, List.forall₂_eq_eq_eq] at h
  obtain ⟨groups⟩ := batch
  exact congrArg _ h

variable {R : Part → Part → Prop} {E : BatchError → BatchError → Prop}
  {uploads others : Uploads}

theorem Correspond.filter (h : Correspond R uploads others) (p : String → Bool) :
    Correspond R (uploads.filter fun u => p u.1) (others.filter fun u => p u.1) := by
  intro token
  rw [lookup_filter, lookup_filter]
  split
  · exact h token
  · exact .none

theorem take_endsAlike (hE : ∀ e, E e e) (h : Correspond R uploads others)
    (expected : ExpectedFile) :
    EndsAlike E (fun a b => SameFile R a.1 b.1 ∧ Correspond R a.2 b.2)
      (take uploads expected) (take others expected) := by
  have hfound := h expected.identifier.text
  unfold take
  generalize uploads.lookup expected.identifier.text = found at hfound ⊢
  generalize others.lookup expected.identifier.text = found' at hfound ⊢
  cases hfound with
  | none => exact .error (hE _)
  | some hpart =>
    exact .ok ⟨⟨rfl, hpart⟩, h.filter fun token => token ≠ expected.identifier.text⟩

theorem bindFiles_endsAlike (hE : ∀ e, E e e) (h : Correspond R uploads others)
    (expected : List ExpectedFile) :
    EndsAlike E (fun a b => List.Forall₂ (SameFile R) a.1 b.1 ∧ Correspond R a.2 b.2)
      (bindFiles uploads expected) (bindFiles others expected) := by
  induction expected generalizing uploads others with
  | nil => exact .ok ⟨.nil, h⟩
  | cons first later ih =>
    rw [bindFiles, bindFiles]
    refine (take_endsAlike hE h first).bind ?_
    rintro ⟨file, rest⟩ ⟨file', rest'⟩ ⟨hfile, hrest⟩
    refine (ih hrest).bind ?_
    rintro ⟨files, left⟩ ⟨files', left'⟩ ⟨hfiles, hleft⟩
    exact .ok ⟨.cons hfile hfiles, hleft⟩

/-- Corresponding uploads are bound to corresponding groups, or lack a part for the same file. -/
theorem bindGroups_endsAlike (hE : ∀ e, E e e) (h : Correspond R uploads others)
    (groups : List UploadGroup) :
    EndsAlike E (List.Forall₂ (SameGroup R)) (bindGroups uploads groups)
      (bindGroups others groups) := by
  induction groups generalizing uploads others with
  | nil => exact .ok .nil
  | cons first later ih =>
    rw [bindGroups, bindGroups]
    refine (bindFiles_endsAlike hE h first.files).bind ?_
    rintro ⟨files, rest⟩ ⟨files', rest'⟩ ⟨hfiles, hrest⟩
    refine (ih hrest).bind fun groups groups' hgroups => ?_
    exact .ok (.cons ⟨rfl, hfiles⟩ hgroups)

/-- Two batches end alike if their parts besides the manifest are as many, and are collected to
corresponding uploads or fail alike. -/
theorem reconcile_endsAlike {config : Config} {parts parts' : List Part}
    {groups : List UploadGroup} (hE : ∀ e, E e e)
    (hlength : (filesOf config parts).length = (filesOf config parts').length)
    (hcollect : EndsAlike E (Correspond R) (collect (identifiers groups) [] (filesOf config parts))
      (collect (identifiers groups) [] (filesOf config parts'))) :
    EndsAlike E (SameBatch R) (reconcile config parts groups) (reconcile config parts' groups) := by
  have hempty : (filesOf config parts).isEmpty = (filesOf config parts').isEmpty := by
    rw [Bool.eq_iff_iff, List.isEmpty_iff_length_eq_zero, List.isEmpty_iff_length_eq_zero, hlength]
  rw [reconcile_eq, reconcile_eq, hempty, hlength]
  split_ifs
  · exact .error (hE _)
  · exact .error (hE _)
  · refine hcollect.bind fun uploads others h => ?_
    refine (bindGroups_endsAlike hE h groups).bind fun bound bound' hbound => ?_
    exact .ok hbound

end Reconciliation

end AttachmentIntake
