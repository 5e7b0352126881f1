import AttachmentIntake.Batch.Prepared
import AttachmentIntake.Manifest.Reader

/-!
The way of a batch from uploaded parts to files that are ready to be sent on. Nothing is forwarded
unless every file of every group is accepted.
-/

namespace AttachmentIntake

inductive Rejection where
  /-- An error of the whole batch. -/
  | fatal (e : BatchError)
  /-- Every file was validated and at least one did not pass. -/
  | invalid (report : Report)
  deriving DecidableEq

def Rejection.message : Rejection → String
  | .fatal e => e.message
  | .invalid report =>
    s!"{report.rejectedFiles.length} of {report.fileCount} files failed validation"

def parseManifest (data : ByteArray) : Except BatchError (List UploadGroup) :=
  match Manifest.parse data.data.toList with
  | .ok groups => .ok groups
  | .error fault => .error (.malformedManifest fault.message)

/-- The limits and the scanner that batches are held to. Batches leave nothing behind. -/
structure Pipeline (m : Type → Type) where
  config : Config
  scanner : Scanner m

namespace Pipeline

variable [Text.Normalization] {m : Type → Type}

def production (scanner : Scanner m) : Pipeline m := { config := .production, scanner }

def bindParts (config : Config) (parts : List Part) : Except BatchError BoundBatch := do
  let manifest ← Reconciliation.manifestPart config parts
  let groups ← parseManifest manifest.data
  reconcile config parts groups

def finish (config : Config) (validated : ValidatedBatch) : Except Rejection PreparedBatch :=
  match validated.accepted with
  | .ok accepted => .ok (accepted.prepare config)
  | .error report => .error (.invalid report)

def settle (config : Config) : Except BatchError ValidatedBatch → Except Rejection PreparedBatch
  | .error e => .error (.fatal e)
  | .ok validated => finish config validated

/-- Binds a batch, has it validated and, if every file passes, prepares it. The manifest is looked
for and read before anything else. -/
def processBy [Monad m] (config : Config)
    (validate : BoundBatch → m (Except BatchError ValidatedBatch)) (parts : List Part) :
    m (Except Rejection PreparedBatch) :=
  match bindParts config parts with
  | .error e => pure (.error (.fatal e))
  | .ok batch => settle config <$> validate batch

def process [Monad m] (p : Pipeline m) (parts : List Part) : m (Except Rejection PreparedBatch) :=
  processBy p.config (validateBatch p.config p.scanner) parts

end Pipeline

end AttachmentIntake
