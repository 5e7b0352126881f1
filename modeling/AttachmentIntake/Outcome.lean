import AttachmentIntake.Category

/-!
The outcome of validation for one file. Anything but `ok` rejects the whole batch.
-/

namespace AttachmentIntake

inductive Outcome where
  | ok
  | fileTooLarge
  | illegalFilename
  | illegalFileType
  | pdfIsEncrypted
  | couldNotLoadDocument
  deriving DecidableEq, Repr

namespace Outcome

def name : Outcome → String
  | .ok => "OK"
  | .fileTooLarge => "FILE_TOO_LARGE"
  | .illegalFilename => "ILLEGAL_FILENAME"
  | .illegalFileType => "ILLEGAL_FILE_TYPE"
  | .pdfIsEncrypted => "PDF_IS_ENCRYPTED"
  | .couldNotLoadDocument => "COULD_NOT_LOAD_DOCUMENT"

def isOk (o : Outcome) : Bool := o = .ok

end Outcome

/-- An outcome and the category that the content resolved to, which is unknown for a rejected
file. -/
structure Verdict where
  outcome : Outcome
  category : Category
  deriving DecidableEq, Repr

namespace Verdict

def accepted (category : Category) : Verdict := { outcome := .ok, category }

def rejected (outcome : Outcome) : Verdict := { outcome, category := .unknown }

def isOk (v : Verdict) : Bool := v.outcome.isOk

end Verdict

end AttachmentIntake
