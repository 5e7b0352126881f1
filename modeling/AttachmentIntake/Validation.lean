import AttachmentIntake.FileName
import AttachmentIntake.Part
import AttachmentIntake.Pdf.Inspection

/-!
Validation of one file: size and name before it is scanned, content after.
-/

namespace AttachmentIntake.Validation

/-- The outcome that stops a file before it is handed to a scanner. -/
def precheck? [Text.Normalization] (name : String) (part : Part) (sizeLimit : Nat) :
    Option Outcome :=
  if sizeLimit < part.size then some .fileTooLarge
  else if FileName.hasIllegalCharacter name then some .illegalFilename
  else none

def unsupportedEvent (name : String) (part : Part) : Event :=
  { level := .warn
    message := "ILLEGAL_FILE_TYPE: content does not map to a supported category"
    fields := [
      ("claimed_extension", (FileName.claimedExtension? name).getD ""),
      ("category", Category.unknown.name),
      ("sniffed", (Signature.sniff part.data).name),
      ("declared_content_type", part.contentType.getD ""),
      ("leading_bytes", Event.listText ((part.leadingBytes 8).map fun b => toString b.toNat))] }

def refusedEvent (category : Category) (extension : String) : Event :=
  { level := .warn
    message := "ILLEGAL_FILE_TYPE: refused image extension"
    fields := [("extension", extension), ("category", category.name)] }

def overrideEvent (o : Signature.Override) : Event :=
  { level := .info
    message := o.notice
    fields := [("detected", o.detected.name), ("actual", o.actual.name)] }

/-- The extension for which an image is refused, looked for in its name and in that of the part. -/
def refusedExtension? (category : Category) (name : String) (part : Part) : Option String :=
  FileName.refusedExtension? category name <|> FileName.refusedExtension? category part.filename

/-- The checks for the category of a file, and the event that a rejection leaves. -/
def judge (category : Category) (name : String) (part : Part) : Verdict × Option Event :=
  match category with
  | .unknown => (.rejected .illegalFileType, some (unsupportedEvent name part))
  | .jpeg | .png =>
    match refusedExtension? category name part with
    | some extension => (.rejected .illegalFileType, some (refusedEvent category extension))
    | none => (.accepted category, none)
  | .pdf =>
    let finding := Pdf.inspect part.data
    if finding.outcome.isOk then (.accepted .pdf, none)
    else (.rejected finding.outcome, finding.event?)

def categoryOf (data : ByteArray) : Category := (Signature.sniff data).resolve.category

/-- Classifies a file by its content and runs the checks for its category. -/
def validate (name : String) (part : Part) : Verdict × List Event :=
  let notice := ((Signature.sniff part.data).override?.map overrideEvent).toList
  let (verdict, event?) := judge (categoryOf part.data) name part
  (verdict, notice ++ event?.toList)

end AttachmentIntake.Validation
