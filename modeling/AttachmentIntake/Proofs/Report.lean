import AttachmentIntake.Proofs.Pipeline

/-! The report on a rejected batch: when there is one, what it says of each expected file, and why
it does not matter which part of a validated batch is asked whether the batch was accepted. -/

namespace AttachmentIntake

open BatchValidation Reconciliation

/-! ### Accepted or not -/

/-- The files of all groups that were not accepted, each with its own group. -/
theorem Report.rejectedFiles_eq_filter (r : Report) :
    r.rejectedFiles = (r.groups.flatMap fun g => g.files.map fun f => (g.info, f)).filter
      fun entry => entry.2.outcome ≠ .ok := by
  simp [Report.rejectedFiles, List.filter_flatMap, List.filter_map, Function.comp_def,
    Outcome.isOk]

@[simp]
theorem Report.rejectedFiles_isEmpty (r : Report) : r.rejectedFiles.isEmpty = r.isAccepted := by
  rw [Bool.eq_iff_iff]
  simp [Report.rejectedFiles, Report.isAccepted, GroupVerdict.isAccepted]

theorem Report.rejectedFiles_length_le (r : Report) : r.rejectedFiles.length ≤ r.fileCount := by
  have hcount : r.fileCount =
      (r.groups.flatMap fun g => g.files.map fun f => (g.info, f)).length := by
    simp [Report.fileCount]
  rw [Report.rejectedFiles_eq_filter, hcount]
  exact List.length_filter_le _ _

namespace ValidatedBatch

variable {b : ValidatedBatch}

/-- There is a verdict for each file and no other. -/
def Complete (b : ValidatedBatch) : Prop :=
  List.Forall₂ (fun group verdicts => group.files.length = verdicts.length) b.batch.groups
    b.verdicts

theorem all_fileVerdict {files : List BoundFile} {verdicts : List Verdict}
    (h : files.length = verdicts.length) :
    (files.zipWith fileVerdict verdicts).all (fun f => f.outcome.isOk) =
      verdicts.all Verdict.isOk := by
  induction files generalizing verdicts with
  | nil =>
    rw [List.length_eq_zero_iff.mp h.symm]
    rfl
  | cons file files ih =>
    cases verdicts with
    | nil => cases h
    | cons v verdicts =>
      rw [List.zipWith_cons_cons, List.all_cons, List.all_cons, ih (Nat.succ.inj h)]
      rfl

/-- No verdict is lost on the way into the report, so the report is accepted with the batch. -/
theorem report_isAccepted (h : b.Complete) : b.report.isAccepted = b.isAccepted := by
  obtain ⟨⟨groups⟩, verdicts⟩ := b
  unfold Complete at h
  simp only [report, isAccepted, Report.isAccepted] at h ⊢
  induction h with
  | nil => rfl
  | cons hlength _ ih =>
    rw [List.zipWith_cons_cons, List.all_cons, ih, List.flatten_cons, List.all_append,
      GroupVerdict.isAccepted, all_fileVerdict hlength]

theorem accepted_eq_ok_iff : (∃ accepted, b.accepted = .ok accepted) ↔ b.isAccepted = true := by
  unfold accepted
  cases b.isAccepted <;> simp

theorem accepted_eq_error_iff {r : Report} :
    b.accepted = .error r ↔ b.isAccepted = false ∧ r = b.report := by
  unfold accepted
  cases b.isAccepted <;> simp [eq_comm]

/-- The verdicts, the report, the list of rejected files and the accepted batch say the same. -/
structure Agrees (b : ValidatedBatch) : Prop where
  report : b.report.isAccepted = b.isAccepted
  rejected : b.report.rejectedFiles.isEmpty = b.isAccepted
  accepted : (∃ accepted, b.accepted = .ok accepted) ↔ b.isAccepted = true
  refused : b.accepted = .error b.report ↔ b.isAccepted = false

theorem agrees (h : b.Complete) : b.Agrees where
  report := report_isAccepted h
  rejected := by rw [Report.rejectedFiles_isEmpty, report_isAccepted h]
  accepted := accepted_eq_ok_iff
  refused := by rw [accepted_eq_error_iff, and_iff_left rfl]

end ValidatedBatch

@[simp] theorem validatedOf_complete (config : Config) (batch : BoundBatch) :
    (validatedOf config batch).Complete := by
  simp [ValidatedBatch.Complete, validatedOf, allVerdicts, List.forall₂_map_right_iff,
    List.forall₂_same]

/-! ### What is said of a file -/

/-- The outcome of a file that no scan stops: its size comes first, then its name, and its content
last. -/
def outcomeOf (config : Config) (expected : ExpectedFile) (part : Part) : Outcome :=
  if config.maxFileSize < part.size then .fileTooLarge
  else if FileName.hasIllegalCharacter (FileName.sanitize expected.originalFilename) then
    .illegalFilename
  else (Validation.validate (FileName.sanitize expected.originalFilename) part).1.outcome

theorem verdictOf_outcome (config : Config) (file : BoundFile) :
    (verdictOf config file).outcome = outcomeOf config file.expected file.part := by
  unfold verdictOf outcomeOf BatchValidation.precheck? Validation.precheck?
  split_ifs <;> simp only [Verdict.rejected, contentVerdict]

/-- What the report says of an expected file, judged by the only part with its identifier. -/
structure FileReported (config : Config) (parts : List Part) (expected : ExpectedFile)
    (verdict : FileVerdict) : Prop where
  filename : verdict.filename = FileName.sanitize expected.originalFilename
  identifier : verdict.identifier = expected.identifier
  outcome : ∃ part, (filesOf config parts).filter (fun p => p.token = expected.identifier.text) =
    [part] ∧ verdict.outcome = outcomeOf config expected part
  category : verdict.category = .unknown ↔ verdict.outcome ≠ .ok

/-- A group is reported on under its own metadata, file by file. -/
structure GroupReported (config : Config) (parts : List Part) (group : UploadGroup)
    (verdict : GroupVerdict) : Prop where
  info : verdict.info = group.info
  files : List.Forall₂ (FileReported config parts) group.files verdict.files

variable {config : Config} {parts : List Part}

theorem fileReported {wanted : ExpectedFile} {file : BoundFile}
    (hnodup : ((filesOf config parts).map Part.token).Nodup)
    (htied : Tied (filesOf config parts) wanted file) :
    FileReported config parts wanted
      (ValidatedBatch.fileVerdict file (verdictOf config file)) := by
  obtain rfl := htied.same
  exact ⟨rfl, rfl, ⟨file.part, tied_part_filter hnodup htied, verdictOf_outcome config file⟩,
    verdictOf_category_eq_unknown_iff⟩

theorem report_validatedOf [Text.Normalization] (config : Config) (batch : BoundBatch) :
    (validatedOf config batch).report = { groups := batch.groups.map fun g =>
      { info := g.info
        files := g.files.map fun f =>
          ValidatedBatch.fileVerdict f (verdictOf config f) } } := by
  simp only [ValidatedBatch.report, validatedOf, allVerdicts, List.zipWith_map_right,
    List.zipWith_self]

theorem groupsReported {groups : List UploadGroup} {batch : BoundBatch}
    (h : reconcile config parts groups = .ok batch) :
    List.Forall₂ (GroupReported config parts) groups (validatedOf config batch).report.groups := by
  obtain ⟨-, -, -, hnodup, -, htied⟩ := reconcile_eq_ok_iff.mp h
  rw [report_validatedOf, List.forall₂_map_right_iff]
  refine htied.imp fun group bound hgroup => ⟨hgroup.1, ?_⟩
  rw [List.forall₂_map_right_iff]
  exact hgroup.2.imp fun wanted file ht => fileReported hnodup ht

theorem fileCount_of_reported {groups : List UploadGroup} {report : Report}
    (h : List.Forall₂ (GroupReported config parts) groups report.groups) :
    report.fileCount = (Manifest.expectedFiles groups).length := by
  have hlengths := map_eq_map_of_related h fun _ _ hg => hg.files.length_eq
  rw [Report.fileCount, Manifest.expectedFiles, List.length_flatMap, List.length_flatMap, hlengths]

/-! ### Whole batches -/

/-- What a report says of a batch with these groups that is not accepted. -/
structure BatchReported (config : Config) (parts : List Part) (groups : List UploadGroup)
    (report : Report) : Prop where
  files : List.Forall₂ (GroupReported config parts) groups report.groups
  rejected : report.rejectedFiles =
    (report.groups.flatMap fun g => g.files.map fun f => (g.info, f)).filter
      fun entry => entry.2.outcome ≠ .ok
  rejected_ne : report.rejectedFiles ≠ []
  message : ∃ k n, 1 ≤ k ∧ k ≤ n ∧ k = report.rejectedFiles.length ∧
    n = (Manifest.expectedFiles groups).length ∧
    (Rejection.invalid report).message = s!"{k} of {n} files failed validation"

theorem batchReported {groups : List UploadGroup} {batch : BoundBatch}
    (h : reconcile config parts groups = .ok batch)
    (hrejected : (validatedOf config batch).isAccepted = false) :
    BatchReported config parts groups (validatedOf config batch).report := by
  have hfiles := groupsReported h
  have hempty := (ValidatedBatch.agrees (validatedOf_complete config batch)).rejected
  rw [hrejected, List.isEmpty_eq_false_iff] at hempty
  refine ⟨hfiles, Report.rejectedFiles_eq_filter _, hempty, _, _, ?_, ?_, rfl,
    fileCount_of_reported hfiles, rfl⟩
  · exact List.length_pos_iff.mpr hempty
  · exact Report.rejectedFiles_length_le _

theorem finish_eq_invalid_iff {batch : BoundBatch} {report : Report} :
    Pipeline.finish config (validatedOf config batch) = .error (.invalid report) ↔
      (validatedOf config batch).isAccepted = false ∧
        report = (validatedOf config batch).report := by
  rw [← ValidatedBatch.accepted_eq_error_iff, Pipeline.finish]
  cases (validatedOf config batch).accepted <;> simp

/-- A batch is reported on exactly if it can be bound, each file is cleared, and some file is not
found fine. -/
theorem process_eq_invalid_iff {answer : Scan.Request → Scan.Answer} {report : Report} :
    Id.run (Pipeline.process { config, scanner := Scanner.ofFunction answer } parts) =
        .error (.invalid report) ↔
      ∃ batch, Pipeline.bindParts config parts = .ok batch ∧
        (∀ file ∈ batch.files, Cleared config answer file) ∧
        (validatedOf config batch).isAccepted = false ∧
        report = (validatedOf config batch).report := by
  cases hbind : Pipeline.bindParts config parts with
  | error e =>
    rw [process_of_unbound hbind]
    simp
  | ok batch =>
    simp only [Except.ok.injEq, exists_eq_left']
    by_cases hcleared : ∀ file ∈ batch.files, Cleared config answer file
    · rw [process_of_cleared hbind hcleared, finish_eq_invalid_iff, and_iff_right hcleared]
    · obtain ⟨e, -, he⟩ := process_of_not_cleared hbind hcleared
      rw [he]
      exact ⟨nofun, fun h => absurd h.1 hcleared⟩

theorem isAccepted_validatedOf_eq_false_iff {batch : BoundBatch} :
    (validatedOf config batch).isAccepted = false ↔
      ∃ file ∈ batch.files, outcomeOf config file.expected file.part ≠ .ok := by
  rw [← Bool.not_eq_true, isAccepted_validatedOf_iff]
  simp [Verdict.isOk, Outcome.isOk, verdictOf_outcome]

/-- A batch is reported on exactly if it can be bound, no file fails its scan, and some file has an
outcome that is not fine. The report speaks of each expected file in its place, and whether the
batch was accepted is the same question to the verdicts, the report and the list of rejected
files. -/
theorem process_reports (config : Config) (answer : Scan.Request → Scan.Answer)
    (parts : List Part) :
    ((∃ report, Id.run (Pipeline.process { config, scanner := Scanner.ofFunction answer } parts) =
        .error (.invalid report)) ↔
      ∃ manifest groups batch, manifestPart config parts = .ok manifest ∧
        parseManifest manifest.data = .ok groups ∧ reconcile config parts groups = .ok batch ∧
        (∀ file ∈ batch.files, precheck? config file = none → answer (request file) = .clean) ∧
        ∃ file ∈ batch.files, outcomeOf config file.expected file.part ≠ .ok) ∧
    (∀ report, Id.run (Pipeline.process { config, scanner := Scanner.ofFunction answer } parts) =
        .error (.invalid report) →
      ∃ manifest groups, manifestPart config parts = .ok manifest ∧
        parseManifest manifest.data = .ok groups ∧ BatchReported config parts groups report) ∧
    ∀ (σ : Type) (scan : Scanner (StateM σ)) (s : σ) (batch : BoundBatch)
      (validated : ValidatedBatch),
      ((validateBatch config scan batch).run s).1 = .ok validated → validated.Agrees := by
  simp only [process_eq_invalid_iff, Pipeline.bindParts, bind_eq_ok_iff,
    isAccepted_validatedOf_eq_false_iff]
  refine ⟨⟨?_, ?_⟩, ?_, ?_⟩
  · rintro ⟨-, batch, ⟨manifest, hmanifest, groups, hgroups, hbatch⟩, hcleared, hrejected, -⟩
    exact ⟨manifest, groups, batch, hmanifest, hgroups, hbatch, hcleared, hrejected⟩
  · rintro ⟨manifest, groups, batch, hmanifest, hgroups, hbatch, hcleared, hrejected⟩
    exact ⟨_, batch, ⟨manifest, hmanifest, groups, hgroups, hbatch⟩, hcleared, hrejected, rfl⟩
  · rintro - ⟨batch, ⟨manifest, hmanifest, groups, hgroups, hbatch⟩, -, hrejected, rfl⟩
    exact ⟨manifest, groups, hmanifest, hgroups,
      batchReported hbatch (isAccepted_validatedOf_eq_false_iff.mpr hrejected)⟩
  · intro σ scan s batch validated h
    rw [validateBatch_state h]
    exact ValidatedBatch.agrees (validatedOf_complete config batch)

namespace Sample

/-- Under this limit the image of the last group is too large. -/
def tight : Config := { Config.production with maxFileSize := 4 }

end Sample

/-- One of three files is too large, and the two before it are still reported on. -/
theorem process_reports_sample : ∃ report manifest groups,
    Id.run (Pipeline.process
      { config := Sample.tight, scanner := Scanner.ofFunction fun _ => .clean } Sample.parts) =
        .error (.invalid report) ∧
      manifestPart Sample.tight Sample.parts = .ok manifest ∧
      parseManifest manifest.data = .ok groups ∧
      BatchReported Sample.tight Sample.parts groups report := by
  have hinvalid : (match Id.run (Pipeline.process
      { config := Sample.tight, scanner := Scanner.ofFunction fun _ => .clean } Sample.parts) with
      | .error (.invalid _) => true
      | .error (.fatal _) => false
      | .ok _ => false) = true := by decide +kernel
  split at hinvalid
  next report hreport =>
    obtain ⟨-, hreported, -⟩ := process_reports Sample.tight (fun _ => .clean) Sample.parts
    obtain ⟨manifest, groups, hmanifest, hgroups, h⟩ := hreported report hreport
    exact ⟨report, manifest, groups, hreport, hmanifest, hgroups, h⟩
  all_goals cases hinvalid

end AttachmentIntake
