import AttachmentIntake.Pipeline
import AttachmentIntake.Proofs.BatchValidation
import AttachmentIntake.Proofs.Manifest
import AttachmentIntake.Proofs.Reconciliation

/-! The way of a batch through the stages: what is forwarded is determined by the bound batch alone,
and whether it is forwarded by its files one by one. -/

namespace AttachmentIntake

open BatchValidation

/-! ### Accepted batches -/

section Accepted

variable [Text.Normalization]

theorem verdictOf_isOk_iff {config : Config} {file : BoundFile} :
    (verdictOf config file).isOk = true ↔
      precheck? config file = none ∧ (contentVerdict file).isOk = true := by
  unfold verdictOf
  cases hpre : precheck? config file with
  | none => simp
  | some outcome =>
    have hne : outcome ≠ .ok := by
      rintro rfl
      exact precheck?_outcome_not_mem hpre (by decide)
    simp [Verdict.isOk, Verdict.rejected, Outcome.isOk, hne]

theorem verdictOf_eq_accepted {config : Config} {file : BoundFile}
    (h : (verdictOf config file).isOk = true) :
    verdictOf config file = .accepted (Validation.categoryOf file.part.data) ∧
      Validation.categoryOf file.part.data ≠ .unknown := by
  obtain ⟨hpre, hcontent⟩ := verdictOf_isOk_iff.mp h
  have hverdict : verdictOf config file = contentVerdict file := by rw [verdictOf, hpre]
  rw [contentVerdict, Validation.validate_fst] at hcontent
  rw [hverdict, contentVerdict, Validation.validate_fst]
  exact Validation.judge_eq_accepted hcontent

theorem verdictOf_category_eq_unknown_iff {config : Config} {file : BoundFile} :
    (verdictOf config file).category = .unknown ↔ (verdictOf config file).outcome ≠ .ok := by
  cases hok : (verdictOf config file).isOk with
  | true =>
    obtain ⟨haccepted, hknown⟩ := verdictOf_eq_accepted hok
    simpa [haccepted, Verdict.accepted] using hknown
  | false =>
    have hne : (verdictOf config file).outcome ≠ .ok := by
      simpa [Verdict.isOk, Outcome.isOk] using hok
    refine iff_of_true ?_ hne
    unfold verdictOf at hok ⊢
    cases hpre : precheck? config file with
    | some outcome => rfl
    | none =>
      rw [hpre] at hok
      simp only [contentVerdict, Validation.validate_fst] at hok ⊢
      rw [Validation.judge_eq_rejected hok]
      rfl

/-- A bound file made ready under the category of its content. -/
def BoundFile.prepared (config : Config) (file : BoundFile) : PreparedFile :=
  { finalFilename := FileName.finalize file.expected.originalFilename
      (Validation.categoryOf file.part.data) file.expected.identifier config.maxBaseNameLength
    mimeType := (Validation.categoryOf file.part.data).mimeType
    size := file.part.size
    identifier := file.expected.identifier
    sha512 := digestText file.part.data
    data := file.part.data }

/-- A bound batch made ready, group by group. -/
def BoundBatch.prepared (config : Config) (batch : BoundBatch) : PreparedBatch :=
  { groups := batch.groups.map fun g =>
      { info := g.info, files := g.files.map (·.prepared config) } }

@[simp] theorem isAccepted_validatedOf_iff {config : Config} {batch : BoundBatch} :
    (validatedOf config batch).isAccepted = true ↔
      ∀ file ∈ batch.files, (verdictOf config file).isOk = true := by
  have hflatten : (allVerdicts batch (verdictOf config)).flatten =
      batch.files.map (verdictOf config) := by
    rw [allVerdicts, BoundBatch.files, List.map_flatMap, List.flatMap]
  rw [ValidatedBatch.isAccepted, validatedOf, hflatten, List.all_eq_true]
  simp

/-- The files of an accepted batch, each with the category of its verdict. -/
theorem accepted_validatedOf {config : Config} {batch : BoundBatch}
    (h : (validatedOf config batch).isAccepted = true) :
    (validatedOf config batch).accepted = .ok { groups := batch.groups.map fun g =>
      { info := g.info
        files := g.files.map fun f => ValidatedBatch.acceptedFile f (verdictOf config f) } } := by
  rw [ValidatedBatch.accepted, if_pos h]
  simp only [validatedOf, allVerdicts, List.zipWith_map_right, List.zipWith_self]

theorem prepare_accepted (file : BoundFile) (category : Category) (limit : Nat) :
    (ValidatedBatch.acceptedFile file (.accepted category)).prepare limit =
      { finalFilename :=
          FileName.finalize file.expected.originalFilename category file.expected.identifier limit
        mimeType := category.mimeType
        size := file.part.size
        identifier := file.expected.identifier
        sha512 := digestText file.part.data
        data := file.part.data } := rfl

theorem prepare_verdictOf {config : Config} {file : BoundFile}
    (h : (verdictOf config file).isOk = true) :
    (ValidatedBatch.acceptedFile file (verdictOf config file)).prepare config.maxBaseNameLength =
      file.prepared config := by
  rw [(verdictOf_eq_accepted h).1, prepare_accepted, BoundFile.prepared]

theorem finish_eq_ok_iff {config : Config} {batch : BoundBatch} {prepared : PreparedBatch} :
    Pipeline.finish config (validatedOf config batch) = .ok prepared ↔
      (∀ file ∈ batch.files, (verdictOf config file).isOk = true) ∧
        prepared = batch.prepared config := by
  rw [← isAccepted_validatedOf_iff, Pipeline.finish]
  by_cases hacc : (validatedOf config batch).isAccepted = true
  · have hok := isAccepted_validatedOf_iff.mp hacc
    have hprepared : AcceptedBatch.prepare { groups := batch.groups.map fun g =>
          { info := g.info
            files := g.files.map fun f => ValidatedBatch.acceptedFile f (verdictOf config f) } }
          config = batch.prepared config := by
      simp only [AcceptedBatch.prepare, BoundBatch.prepared, List.map_map, Function.comp_def,
        PreparedBatch.mk.injEq]
      refine List.map_congr_left fun g hg => ?_
      simp only [PreparedGroup.mk.injEq, true_and]
      exact List.map_congr_left fun f hf =>
        prepare_verdictOf (hok f (List.mem_flatMap.mpr ⟨g, hg, hf⟩))
    rw [accepted_validatedOf hacc]
    simp only [hprepared, hacc, true_and, Except.ok.injEq, eq_comm]
  · have herror : (validatedOf config batch).accepted =
        .error (validatedOf config batch).report := by
      rw [ValidatedBatch.accepted, if_neg hacc]
    rw [herror]
    exact ⟨nofun, fun h => absurd h.1 hacc⟩

end Accepted

/-! ### The stages in a row -/

@[simp] theorem parseManifest_eq_ok_iff {data : ByteArray} {groups : List UploadGroup} :
    parseManifest data = .ok groups ↔ Manifest.parse data.data.toList = .ok groups := by
  unfold parseManifest
  cases Manifest.parse data.data.toList <;> simp

theorem bindParts_eq_ok_iff {config : Config} {parts : List Part} {batch : BoundBatch} :
    Pipeline.bindParts config parts = .ok batch ↔ ∃ manifest groups,
      parts.find? (fun p => p.filename = config.manifestName) = some manifest ∧
        parseManifest manifest.data = .ok groups ∧ reconcile config parts groups = .ok batch := by
  simp only [Pipeline.bindParts, bind_eq_ok_iff, Reconciliation.manifestPart]
  constructor
  · rintro ⟨manifest, hmanifest, groups, hgroups, hbatch⟩
    split at hmanifest
    next part hpart =>
      cases hmanifest
      exact ⟨_, groups, hpart, hgroups, hbatch⟩
    next => cases hmanifest
  · rintro ⟨manifest, groups, hmanifest, hgroups, hbatch⟩
    exact ⟨manifest, by rw [hmanifest], groups, hgroups, hbatch⟩

section ProcessBy

variable {m : Type → Type} [Monad m] {config : Config} {parts : List Part}
  {validate : BoundBatch → m (Except BatchError ValidatedBatch)}

theorem processBy_of_unbound {e : BatchError} (h : Pipeline.bindParts config parts = .error e) :
    Pipeline.processBy config validate parts = pure (.error (.fatal e)) := by
  rw [Pipeline.processBy, h]

theorem processBy_of_bound {batch : BoundBatch} (h : Pipeline.bindParts config parts = .ok batch) :
    Pipeline.processBy config validate parts = Pipeline.settle config <$> validate batch := by
  rw [Pipeline.processBy, h]

end ProcessBy

section OfFunction

variable {config : Config} {answer : Scan.Request → Scan.Answer} {parts : List Part}
  {batch : BoundBatch}

theorem process_of_unbound {e : BatchError} (h : Pipeline.bindParts config parts = .error e) :
    Id.run (Pipeline.process { config, scanner := Scanner.ofFunction answer } parts) =
      .error (.fatal e) := by
  rw [Pipeline.process, processBy_of_unbound h]
  rfl

theorem process_of_bound (h : Pipeline.bindParts config parts = .ok batch) :
    Id.run (Pipeline.process { config, scanner := Scanner.ofFunction answer } parts) =
      Pipeline.settle config (Id.run (validateBatch config (Scanner.ofFunction answer) batch)) := by
  rw [Pipeline.process, processBy_of_bound h, Id.run_map]

/-- A bound batch gets past validation exactly if each file is cleared, with its own verdicts. -/
theorem process_of_cleared (h : Pipeline.bindParts config parts = .ok batch)
    (hcleared : ∀ file ∈ batch.files, Cleared config answer file) :
    Id.run (Pipeline.process { config, scanner := Scanner.ofFunction answer } parts) =
      Pipeline.finish config (validatedOf config batch) := by
  rw [process_of_bound h, validateBatch_eq_ok_iff.mpr ⟨hcleared, rfl⟩, Pipeline.settle]

theorem process_of_not_cleared (h : Pipeline.bindParts config parts = .ok batch)
    (hnot : ¬ ∀ file ∈ batch.files, Cleared config answer file) :
    ∃ e, Id.run (validateBatch config (Scanner.ofFunction answer) batch) = .error e ∧
      Id.run (Pipeline.process { config, scanner := Scanner.ofFunction answer } parts) =
        .error (.fatal e) := by
  cases hvalidated : Id.run (validateBatch config (Scanner.ofFunction answer) batch) with
  | error e => exact ⟨e, rfl, by rw [process_of_bound h, hvalidated, Pipeline.settle]⟩
  | ok validated => exact absurd (validateBatch_eq_ok_iff.mp hvalidated).1 hnot

/-- A batch is forwarded exactly if it can be bound and each file is cleared and found fine. -/
theorem process_eq_ok_iff {prepared : PreparedBatch} :
    Id.run (Pipeline.process { config, scanner := Scanner.ofFunction answer } parts) =
        .ok prepared ↔
      ∃ batch, Pipeline.bindParts config parts = .ok batch ∧
        (∀ file ∈ batch.files, Cleared config answer file ∧ (verdictOf config file).isOk = true) ∧
        prepared = batch.prepared config := by
  cases hbind : Pipeline.bindParts config parts with
  | error e =>
    rw [process_of_unbound hbind]
    exact ⟨nofun, fun ⟨_, h, _⟩ => by cases h⟩
  | ok batch =>
    simp only [Except.ok.injEq, exists_eq_left', forall_and]
    by_cases hcleared : ∀ file ∈ batch.files, Cleared config answer file
    · rw [process_of_cleared hbind hcleared, finish_eq_ok_iff]
      tauto
    · obtain ⟨e, -, he⟩ := process_of_not_cleared hbind hcleared
      rw [he]
      exact ⟨nofun, fun h => absurd h.1.1 hcleared⟩

end OfFunction

/-- Whatever a scanner remembers and answers, what is forwarded is the bound batch made ready. -/
theorem process_state {σ : Type} {p : Pipeline (StateM σ)} {s : σ} {parts : List Part}
    {prepared : PreparedBatch} (h : ((p.process parts).run s).1 = .ok prepared) :
    ∃ batch, Pipeline.bindParts p.config parts = .ok batch ∧
      (∀ file ∈ batch.files, (verdictOf p.config file).isOk = true) ∧
      prepared = batch.prepared p.config := by
  cases hbind : Pipeline.bindParts p.config parts with
  | error e =>
    rw [Pipeline.process, processBy_of_unbound hbind] at h
    cases h
  | ok batch =>
    rw [Pipeline.process, processBy_of_bound hbind, StateT.run_map] at h
    change Pipeline.settle p.config ((validateBatch p.config p.scanner batch).run s).1 = _ at h
    cases hvalidated : ((validateBatch p.config p.scanner batch).run s).1 with
    | error e =>
      rw [hvalidated] at h
      cases h
    | ok validated =>
      rw [hvalidated, validateBatch_state hvalidated] at h
      exact ⟨batch, rfl, finish_eq_ok_iff.mp h⟩

/-! ### A small batch

Two files of one group have the same name, nothing of any name is kept, and one part claims to be
something else than it is. -/

namespace Sample

def manifest : Part :=
  { filename := "metadata.json"
    data := ("[\x7b\"type\":\"a\",\"files\":[\x7b\"filnavn\":\"x\",\"uuid\":\"ab-1\"\x7d," ++
      "\x7b\"filnavn\":\"x\",\"uuid\":\"cd-1\"\x7d]\x7d," ++
      "\x7b\"type\":\"b\",\"files\":[\x7b\"filnavn\":\"x.png\",\"uuid\":\"ef\"\x7d]\x7d]").toUTF8 }

def jpeg : ByteArray := ⟨#[0xFF, 0xD8, 0xFF, 0xE0]⟩

def png : ByteArray := ⟨#[0x89, 0x50, 0x4E, 0x47, 0x0D, 0x0A, 0x1A, 0x0A, 0x00]⟩

def parts : List Part :=
  [{ filename := "ef.png", data := png }, manifest, { filename := "ab-1.jpg", data := jpeg },
    { filename := "cd-1.exe", data := jpeg }]

def pipeline : Pipeline (StateM (List Scan.Request)) :=
  { config := { Config.production with maxBaseNameLength := 0 }
    scanner := Scanner.recorded Scanner.disabled }

theorem exists_prepared : ∃ prepared, ((pipeline.process parts).run []).1 = .ok prepared :=
  exists_ok_of_isOk (by decide +kernel)

end Sample

end AttachmentIntake
