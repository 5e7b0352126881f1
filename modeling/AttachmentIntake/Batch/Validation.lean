import AttachmentIntake.Batch.Reconciliation
import AttachmentIntake.Batch.Report
import AttachmentIntake.Scan
import AttachmentIntake.Text.Quoted
import AttachmentIntake.Validation

/-!
Validation of a bound batch, one task for each file. Tasks may end in any order; their results are
put in place by the position of the file. The first failed scan aborts the batch.
-/

namespace AttachmentIntake

structure ValidatedBatch where
  batch : BoundBatch
  verdicts : List (List Verdict)

namespace BatchValidation

variable [Text.Normalization]

structure Position where
  group : Nat
  file : Nat
  deriving DecidableEq, Repr

/-- The files of a batch with their positions, in manifest order. -/
def tasks (batch : BoundBatch) : List (Position × BoundFile) :=
  batch.groups.zipIdx.flatMap fun (group, g) =>
    group.files.zipIdx.map fun (file, f) => (⟨g, f⟩, file)

abbrev Completion := Position × Except BatchError Verdict

def request (file : BoundFile) : Scan.Request :=
  { filename := FileName.sanitize file.expected.originalFilename
    size := file.part.size
    content := file.part.data }

def precheck? (config : Config) (file : BoundFile) : Option Outcome :=
  Validation.precheck? (FileName.sanitize file.expected.originalFilename) file.part
    config.maxFileSize

def contentVerdict (file : BoundFile) : Verdict :=
  (Validation.validate (FileName.sanitize file.expected.originalFilename) file.part).1

def afterScan (file : BoundFile) : Scan.Answer → Except BatchError Verdict
  | .clean => .ok (contentVerdict file)
  | .failed failure => .error (.scanFailure failure)
  | .crashed text => .error (.taskFailed ("task N panicked with message " ++ Text.quoted text))

variable {m : Type → Type} [Monad m]

/-- Validates one file; it is handed to the scanner only if its size and name are fine. -/
def validateOne (config : Config) (scan : Scanner m) (file : BoundFile) :
    m (Except BatchError Verdict) :=
  match precheck? config file with
  | some outcome => pure (.ok (.rejected outcome))
  | none => afterScan file <$> scan (request file)

/-- Runs tasks one after the other, up to the first that fails. -/
def run (config : Config) (scan : Scanner m) : List (Position × BoundFile) → m (List Completion)
  | [] => pure []
  | (position, file) :: later => do
    match ← validateOne config scan file with
    | .ok verdict => do return (position, .ok verdict) :: (← run config scan later)
    | .error e => return [(position, .error e)]

/-- The verdicts known so far, by position. -/
abbrev Verdicts := List (List (Option Verdict))

def Verdicts.unknown (batch : BoundBatch) : Verdicts :=
  batch.groups.map fun g => g.files.map fun _ => none

def Verdicts.put (known : Verdicts) (position : Position) (verdict : Verdict) : Verdicts :=
  known.modify position.group fun files => files.set position.file (some verdict)

/-- Puts results in place in the order in which their tasks ended. -/
def gather : Verdicts → List Completion → Except BatchError Verdicts
  | known, [] => .ok known
  | known, (position, .ok verdict) :: later => gather (known.put position verdict) later
  | _, (_, .error e) :: _ => .error e

def Verdicts.complete (known : Verdicts) : Except BatchError (List (List Verdict)) :=
  match known.mapM fun files => files.mapM id with
  | some verdicts => .ok verdicts
  | none => .error (.taskFailed "validation result missing")

/-- The outcome of a batch whose tasks ended like this, in any order. -/
def conclude (batch : BoundBatch) (completions : List Completion) :
    Except BatchError ValidatedBatch := do
  let known ← gather (Verdicts.unknown batch) completions
  return { batch, verdicts := ← known.complete }

end BatchValidation

open BatchValidation in
def validateBatch [Text.Normalization] {m : Type → Type} [Monad m] (config : Config)
    (scan : Scanner m) (batch : BoundBatch) : m (Except BatchError ValidatedBatch) :=
  conclude batch <$> run config scan (tasks batch)

structure AcceptedFile where
  expected : ExpectedFile
  part : Part
  category : Category

structure AcceptedGroup where
  info : GroupInfo
  files : List AcceptedFile

structure AcceptedBatch where
  groups : List AcceptedGroup

namespace ValidatedBatch

variable [Text.Normalization]

def fileVerdict (file : BoundFile) (v : Verdict) : FileVerdict :=
  { filename := FileName.sanitize file.expected.originalFilename
    identifier := file.expected.identifier
    outcome := v.outcome
    category := v.category }

def report (b : ValidatedBatch) : Report :=
  { groups := b.batch.groups.zipWith (fun g vs =>
      { info := g.info, files := g.files.zipWith fileVerdict vs }) b.verdicts }

def isAccepted (b : ValidatedBatch) : Bool := b.verdicts.flatten.all Verdict.isOk

def acceptedFile (file : BoundFile) (v : Verdict) : AcceptedFile :=
  { expected := file.expected, part := file.part, category := v.category }

def accepted (b : ValidatedBatch) : Except Report AcceptedBatch :=
  if b.isAccepted then
    .ok { groups := b.batch.groups.zipWith (fun g vs =>
      { info := g.info, files := g.files.zipWith acceptedFile vs }) b.verdicts }
  else .error b.report

end ValidatedBatch

end AttachmentIntake
