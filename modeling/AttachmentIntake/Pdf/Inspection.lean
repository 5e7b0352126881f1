import AttachmentIntake.Event
import AttachmentIntake.Outcome
import AttachmentIntake.Pdf.Document
import AttachmentIntake.Pdf.Protection

/-!
Inspection of a PDF document: whether it can be opened without a password and has what a reader
needs, a catalog and at least one page.
-/

namespace AttachmentIntake.Pdf

inductive Finding where
  | sound
  /-- It cannot be loaded, and its trailer names an encryption dictionary. -/
  | locked
  | unreadable
  /-- It can be loaded, but is encrypted. -/
  | encrypted
  | noCatalog
  | noPages
  deriving DecidableEq, Repr

namespace Finding

def outcome : Finding → Outcome
  | .sound => .ok
  | .locked | .encrypted => .pdfIsEncrypted
  | .unreadable | .noCatalog | .noPages => .couldNotLoadDocument

def event? : Finding → Option Event
  | .sound => none
  | .locked =>
    some { level := .warn, message := "PDF_IS_ENCRYPTED: could not open protected document" }
  | .encrypted =>
    some { level := .warn, message := "PDF_IS_ENCRYPTED: document opened but reports encryption" }
  | .unreadable => some { level := .warn, message := "COULD_NOT_LOAD_DOCUMENT" }
  | .noCatalog =>
    some {
      level := .warn
      message := "COULD_NOT_LOAD_DOCUMENT"
      fields := [("reason", "missing or invalid catalog")] }
  | .noPages =>
    some {
      level := .warn
      message := "COULD_NOT_LOAD_DOCUMENT"
      fields := [("reason", "document has no pages")] }

end Finding

def Document.inspect (doc : Document) : Finding :=
  if doc.isProtected then .encrypted
  else if doc.catalog?.isNone then .noCatalog
  else if doc.hasPage then .sound
  else .noPages

def inspect (data : ByteArray) : Finding :=
  match Document.load? data with
  | some doc => doc.inspect
  | none => if Protection.isDeclared data then .locked else .unreadable

end AttachmentIntake.Pdf
