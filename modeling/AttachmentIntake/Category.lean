import AttachmentIntake.Json.Value

/-!
The closed set of file types that a batch may contain. Whatever is not a PDF document, a JPEG or a
PNG image is unknown, and refused.
-/

namespace AttachmentIntake

inductive Category where
  | pdf
  | jpeg
  | png
  | unknown
  deriving DecidableEq, Repr

namespace Category

def name : Category → String
  | .pdf => "PDF"
  | .jpeg => "JPEG"
  | .png => "PNG"
  | .unknown => "UNKNOWN"

/-- The extension, dot included, of a renamed file. -/
def extension? : Category → Option String
  | .pdf => some ".pdf"
  | .jpeg => some ".jpg"
  | .png => some ".png"
  | .unknown => none

def mimeType : Category → String
  | .pdf => "application/pdf"
  | .jpeg => "image/jpeg"
  | .png => "image/png"
  | .unknown => "application/octet-stream"

def isImage : Category → Bool
  | .jpeg | .png => true
  | .pdf | .unknown => false

def all : List Category := [.pdf, .jpeg, .png, .unknown]

def ofName? (name : String) : Option Category := all.find? fun c => c.name = name

/-- Reads a category from a JSON value: its name, or an object whose only key is its name and whose
value is null. -/
def ofJson (v : Json.Value) : Except Json.Fault Category :=
  (Json.variantOf (all.map fun c => (c.name, c)) v).mapError fun problem => ⟨problem, none⟩

end Category

end AttachmentIntake
