import AttachmentIntake.Proofs.Correspondence
import AttachmentIntake.Proofs.Pipeline

/-! What a client declares about its parts. Of the name of a part only its token matters and whether
it carries a refused extension, and the declared type does not matter at all. -/

namespace AttachmentIntake

/-- Parts with the same content whose names tie them to the same file, and carry a refused extension
both or neither. -/
structure Renamed (part other : Part) : Prop where
  data : part.data = other.data
  token : part.token = other.token
  refused : FileName.CarriesRefusedExtension part.filename ↔
    FileName.CarriesRefusedExtension other.filename

/-- Parts that differ at most in what the client declares: their types and, if they are not named
like the manifest, their names. -/
inductive Redeclared (config : Config) (part other : Part) : Prop
  | manifest (hpart : part.filename = config.manifestName)
      (hother : other.filename = config.manifestName) (hdata : part.data = other.data)
  | file (hpart : part.filename ≠ config.manifestName)
      (hother : other.filename ≠ config.manifestName) (h : Renamed part other)

/-- Errors that are equal, or name a part and the one in its place as unmatched. -/
def SameError (pairs : List (Part × Part)) (e e' : BatchError) : Prop :=
  e = e' ∨ ∃ p ∈ pairs, e = .unmatchedFile p.1.filename ∧ e' = .unmatchedFile p.2.filename

/-! ### Binding -/

namespace Reconciliation

variable {config : Config} {parts others : List Part} {E : BatchError → BatchError → Prop}

theorem manifestPart_redeclared (hE : ∀ e, E e e)
    (h : List.Forall₂ (Redeclared config) parts others) :
    EndsAlike E (fun p q => p.data = q.data) (manifestPart config parts)
      (manifestPart config others) := by
  unfold manifestPart
  induction h with
  | nil => exact .error (hE _)
  | @cons part other _ _ hpart _ ih =>
    rw [List.find?_cons, List.find?_cons]
    cases hpart with
    | manifest hp ho hdata =>
      simp only [hp, ho, decide_true]
      exact .ok hdata
    | file hp ho _ =>
      simp only [hp, ho, decide_false]
      exact ih

/-- The parts besides the manifest stay in their places. -/
theorem filesOf_redeclared (h : List.Forall₂ (Redeclared config) parts others) :
    List.Forall₂ (fun p q => Renamed p q ∧ (p, q) ∈ parts.zip others) (filesOf config parts)
      (filesOf config others) := by
  unfold filesOf
  induction h with
  | nil => exact .nil
  | @cons part other parts others hpart _ ih =>
    have hlater := ih.imp fun p q hpq => And.intro hpq.1 (List.mem_cons_of_mem (part, other) hpq.2)
    rw [List.zip_cons_cons]
    cases hpart with
    | manifest hp ho hdata => simpa [hp, ho] using hlater
    | file hp ho hrenamed => simpa [hp, ho, hrenamed] using hlater

theorem collect_renamed (known : List String) {uploads uploads' : Uploads}
    (hup : Correspond Renamed uploads uploads') {pairs : List (Part × Part)}
    (h : List.Forall₂ (fun p q => Renamed p q ∧ (p, q) ∈ pairs) parts others) :
    EndsAlike (SameError pairs) (Correspond Renamed) (collect known uploads parts)
      (collect known uploads' others) := by
  induction h generalizing uploads uploads' with
  | nil => exact .ok hup
  | @cons part other _ _ hpart _ ih =>
    obtain ⟨hrenamed, hpair⟩ := hpart
    have hfound := hup part.token
    rw [collect, collect, ← hrenamed.token]
    split
    · exact .error (.inr ⟨_, hpair, rfl, rfl⟩)
    generalize uploads.lookup part.token = found at hfound ⊢
    generalize uploads'.lookup part.token = found' at hfound ⊢
    cases hfound with
    | some => exact .error (.inl rfl)
    | none =>
      apply ih
      intro token
      rw [List.lookup_cons, List.lookup_cons]
      split
      · exact .some hrenamed
      · exact hup token

theorem bindParts_redeclared (h : List.Forall₂ (Redeclared config) parts others) :
    EndsAlike (SameError (parts.zip others)) (SameBatch Renamed) (Pipeline.bindParts config parts)
      (Pipeline.bindParts config others) := by
  have hsame (e : BatchError) : SameError (parts.zip others) e e := .inl rfl
  have hfiles := filesOf_redeclared h
  refine (manifestPart_redeclared hsame h).bind fun manifest manifest' hdata => ?_
  rw [hdata]
  cases parseManifest manifest'.data with
  | error e => exact .error (hsame e)
  | ok groups =>
    refine reconcile_endsAlike hsame hfiles.length_eq (collect_renamed _ ?_ hfiles)
    exact fun token => .none

end Reconciliation

/-! ### Validation -/

theorem Validation.judge_renamed (category : Category) (name : String) {part other : Part}
    (h : Renamed part other) : (judge category name part).1 = (judge category name other).1 := by
  have himage (hi : category.isImage = true) :
      (judge category name part).1 = (judge category name other).1 := by
    have hrefused : refusedExtension? category name part = none ↔
        refusedExtension? category name other = none := by
      rw [refusedExtension?_eq_none_iff hi, refusedExtension?_eq_none_iff hi, h.refused]
    rw [judge_image hi, judge_image hi]
    cases hp : refusedExtension? category name part <;>
      cases ho : refusedExtension? category name other <;> simp_all
  cases category with
  | jpeg | png => exact himage rfl
  | unknown => rfl
  | pdf =>
    simp only [judge, h.data]

namespace BatchValidation

open Reconciliation

variable {m : Type → Type} [Monad m] {config : Config} {scan : Scanner m} {file other : BoundFile}
  {batch batch' : BoundBatch}

theorem size_eq_of_renamed {part other : Part} (h : Renamed part other) :
    part.size = other.size := by
  rw [Part.size, h.data, Part.size]

theorem validateOne_renamed (h : SameFile Renamed file other) :
    validateOne config scan file = validateOne config scan other := by
  have hsize := size_eq_of_renamed h.part
  have hcontent : contentVerdict file = contentVerdict other := by
    simp only [contentVerdict, Validation.validate_fst, h.expected, h.part.data,
      Validation.judge_renamed _ _ h.part]
  have hafter : afterScan file = afterScan other := by
    funext answer
    cases answer <;> simp only [afterScan, hcontent]
  simp only [validateOne, precheck?, Validation.precheck?, request, h.expected, hsize, h.part.data,
    hafter]

theorem run_renamed {tasks tasks' : List (Position × BoundFile)}
    (h : List.Forall₂ (fun t u => t.1 = u.1 ∧ SameFile Renamed t.2 u.2) tasks tasks') :
    run config scan tasks = run config scan tasks' := by
  induction h with
  | nil => rfl
  | @cons t u _ _ htask _ ih =>
    obtain ⟨position, file⟩ := t
    obtain ⟨position', file'⟩ := u
    obtain ⟨rfl, hfile⟩ := htask
    simp only [run, validateOne_renamed hfile, ih]

theorem zipIdx_related {α β : Type} {R : α → β → Prop} {as : List α} {bs : List β}
    (h : List.Forall₂ R as bs) (n : Nat) :
    List.Forall₂ (fun x y => R x.1 y.1 ∧ x.2 = y.2) (as.zipIdx n) (bs.zipIdx n) := by
  induction h generalizing n with
  | nil => exact .nil
  | cons hab _ ih => exact .cons ⟨hab, rfl⟩ (ih (n + 1))

theorem tasks_renamed (h : SameBatch Renamed batch batch') :
    List.Forall₂ (fun t u => t.1 = u.1 ∧ SameFile Renamed t.2 u.2) (tasks batch)
      (tasks batch') := by
  refine List.rel_flatMap (zipIdx_related h 0) ?_
  rintro ⟨group, g⟩ ⟨group', g'⟩ ⟨hgroup, rfl⟩
  refine List.rel_map ?_ (zipIdx_related hgroup.files 0)
  rintro ⟨file, f⟩ ⟨file', f'⟩ ⟨hfile, rfl⟩
  exact ⟨rfl, hfile⟩

theorem unknown_renamed (h : SameBatch Renamed batch batch') :
    Verdicts.unknown batch = Verdicts.unknown batch' :=
  map_eq_map_of_related h fun _ _ hgroup => map_eq_map_of_related hgroup.files fun _ _ _ => rfl

theorem zipWith_related {α β γ δ : Type} {R : α → β → Prop} {f : α → γ → δ} {g : β → γ → δ}
    {as : List α} {bs : List β} (h : List.Forall₂ R as bs)
    (hfg : ∀ a b c, R a b → f a c = g b c) (cs : List γ) :
    as.zipWith f cs = bs.zipWith g cs := by
  induction h generalizing cs with
  | nil => rfl
  | cons hab _ ih =>
    cases cs with
    | nil => rfl
    | cons c cs => rw [List.zipWith_cons_cons, List.zipWith_cons_cons, hfg _ _ c hab, ih]

/-- Renamed parts are reported on alike: a report names files as the manifest does. -/
theorem report_renamed (h : SameBatch Renamed batch batch') (verdicts : List (List Verdict)) :
    ValidatedBatch.report { batch, verdicts } =
      ValidatedBatch.report { batch := batch', verdicts } := by
  unfold ValidatedBatch.report
  congr 1
  refine zipWith_related h (fun g g' vs hgroup => ?_) verdicts
  rw [hgroup.info, zipWith_related hgroup.files fun f f' v hfile => ?_]
  simp only [ValidatedBatch.fileVerdict, hfile.expected]

theorem prepare_renamed (h : SameFile Renamed file other) (v : Verdict) (limit : Nat) :
    (ValidatedBatch.acceptedFile file v).prepare limit =
      (ValidatedBatch.acceptedFile other v).prepare limit := by
  simp only [AcceptedFile.prepare, ValidatedBatch.acceptedFile, h.expected, h.part.data,
    size_eq_of_renamed h.part]

/-- Whatever the verdicts are, renamed parts are forwarded or reported on alike. -/
theorem finish_renamed (h : SameBatch Renamed batch batch') (verdicts : List (List Verdict)) :
    Pipeline.finish config { batch, verdicts } =
      Pipeline.finish config { batch := batch', verdicts } := by
  unfold Pipeline.finish ValidatedBatch.accepted
  rw [report_renamed h]
  by_cases hok : verdicts.flatten.all Verdict.isOk = true
  · simp only [ValidatedBatch.isAccepted, hok, ↓reduceIte, AcceptedBatch.prepare, List.map_zipWith,
      Except.ok.injEq, PreparedBatch.mk.injEq]
    refine zipWith_related h (fun g g' vs hgroup => ?_) verdicts
    rw [hgroup.info, zipWith_related hgroup.files fun f f' v hfile => prepare_renamed hfile v _]
  · simp only [ValidatedBatch.isAccepted, hok, Bool.false_eq_true, ↓reduceIte]

variable (config) in
theorem conclude_renamed (h : SameBatch Renamed batch batch') (completions : List Completion) :
    EndsAlike Eq (fun v v' => Pipeline.finish config v = Pipeline.finish config v')
      (conclude batch completions) (conclude batch' completions) := by
  unfold conclude
  rw [unknown_renamed h]
  cases gather (Verdicts.unknown batch') completions with
  | error e => exact .error rfl
  | ok known =>
    change EndsAlike _ _ (known.complete >>= _) (known.complete >>= _)
    cases known.complete with
    | error e => exact .error rfl
    | ok verdicts => exact .ok (finish_renamed h verdicts)

variable (config) in
theorem settle_renamed (h : SameBatch Renamed batch batch') (completions : List Completion) :
    Pipeline.settle config (conclude batch completions) =
      Pipeline.settle config (conclude batch' completions) := by
  have hconclude := conclude_renamed config h completions
  generalize conclude batch completions = result at hconclude ⊢
  generalize conclude batch' completions = result' at hconclude ⊢
  cases hconclude with
  | error he => rw [he]
  | ok hfinish => exact hfinish

end BatchValidation

open Reconciliation BatchValidation

/-- Parts with the same content come to the same, if what validates them settles renamed parts
alike. -/
theorem processBy_redeclared {m : Type → Type} [Monad m] {config : Config}
    {validate : BoundBatch → m (Except BatchError ValidatedBatch)} {parts others : List Part}
    (h : List.Forall₂ (Redeclared config) parts others)
    (hvalidate : ∀ batch batch', SameBatch Renamed batch batch' →
      Pipeline.settle config <$> validate batch = Pipeline.settle config <$> validate batch') :
    Pipeline.processBy config validate parts = Pipeline.processBy config validate others ∨
      ∃ q ∈ parts.zip others,
        Pipeline.processBy config validate parts =
            pure (.error (.fatal (.unmatchedFile q.1.filename))) ∧
          Pipeline.processBy config validate others =
            pure (.error (.fatal (.unmatchedFile q.2.filename))) := by
  have hbind := bindParts_redeclared h
  unfold Pipeline.processBy
  generalize Pipeline.bindParts config parts = bound at hbind ⊢
  generalize Pipeline.bindParts config others = bound' at hbind ⊢
  cases hbind with
  | error he =>
    rcases he with rfl | ⟨q, hq, rfl, rfl⟩
    · exact .inl rfl
    · exact .inr ⟨q, hq, rfl, rfl⟩
  | ok hbatch => exact .inl (hvalidate _ _ hbatch)

/-- Whatever a client declares, a batch with the same content comes to the same: it is forwarded or
reported on alike, and fails alike. Only the name of an unmatched part is given back as declared. -/
theorem process_redeclared {m : Type → Type} [Monad m] [LawfulMonad m] (p : Pipeline m)
    {parts others : List Part} (h : List.Forall₂ (Redeclared p.config) parts others) :
    p.process parts = p.process others ∨ ∃ q ∈ parts.zip others,
      p.process parts = pure (.error (.fatal (.unmatchedFile q.1.filename))) ∧
        p.process others = pure (.error (.fatal (.unmatchedFile q.2.filename))) := by
  refine processBy_redeclared h fun batch batch' hbatch => ?_
  simp only [validateBatch, Functor.map_map, run_renamed (tasks_renamed hbatch),
    settle_renamed p.config hbatch]

namespace Sample

/-- The sample parts under other names and types. -/
def redeclared : List Part :=
  [{ filename := "ef", contentType := some "text/html", data := png },
    { manifest with contentType := some "image/png" },
    { filename := " ab-1.tar.gz", data := jpeg },
    { filename := "cd-1.", contentType := some "application/pdf", data := jpeg }]

theorem renamed {part other : Part} (hdata : part.data = other.data)
    (htoken : part.token = other.token)
    (hpart : FileName.refusedExtension? .jpeg part.filename = none)
    (hother : FileName.refusedExtension? .jpeg other.filename = none) : Renamed part other where
  data := hdata
  token := htoken
  refused := iff_of_false ((FileName.refusedExtension?_eq_none_iff rfl).mp hpart)
    ((FileName.refusedExtension?_eq_none_iff rfl).mp hother)

end Sample

/-- Other names and types make no difference to a batch that is forwarded. -/
theorem process_redeclared_sample : ∃ prepared,
    List.Forall₂ (Redeclared Sample.pipeline.config) Sample.parts Sample.redeclared ∧
      ((Sample.pipeline.process Sample.parts).run []).1 = .ok prepared ∧
      ((Sample.pipeline.process Sample.redeclared).run []).1 = .ok prepared := by
  have hmanifest : Redeclared Sample.pipeline.config Sample.manifest
      { Sample.manifest with contentType := some "image/png" } := .manifest rfl rfl rfl
  have hfiles : List.Forall₂ (Redeclared Sample.pipeline.config) Sample.parts
      Sample.redeclared := by
    refine .cons (.file ?_ ?_ (Sample.renamed rfl ?_ ?_ ?_)) (.cons hmanifest
      (.cons (.file ?_ ?_ (Sample.renamed rfl ?_ ?_ ?_))
        (.cons (.file ?_ ?_ (Sample.renamed rfl ?_ ?_ ?_)) .nil)))
    all_goals decide +kernel
  obtain ⟨prepared, hprepared⟩ := Sample.exists_prepared
  refine ⟨prepared, hfiles, hprepared, ?_⟩
  rcases process_redeclared Sample.pipeline hfiles with hsame | ⟨q, -, hunmatched, -⟩
  · rw [← hsame, hprepared]
  · rw [hunmatched] at hprepared
    cases hprepared

end AttachmentIntake
