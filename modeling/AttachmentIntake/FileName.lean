import AttachmentIntake.Category
import AttachmentIntake.Identifier
import AttachmentIntake.Text.Canonical
import AttachmentIntake.Text.Latin

/-!
File name policy: the characters a name may hold, the extensions that are refused, and the name that
a file gets before it leaves the system.
-/

namespace AttachmentIntake.FileName

variable [Text.Normalization]

/-- The normal form of a name without white space at its ends. -/
def sanitize (name : String) : String :=
  String.ofList (Text.trim (Text.normalize name.toList))

/-- Latin letters, digits, the space and `( ) , . _ – -`. -/
def isAllowed (c : Char) : Bool :=
  Text.isLatin c || c.isDigit || c ∈ [' ', '(', ')', ',', '.', '_', '–', '-']

def hasIllegalCharacter (name : String) : Bool :=
  (sanitize name).toList.any fun c => !isAllowed c

/-- A name cut in front of a recognized extension; the extension holds its dot and may be empty. -/
structure Split where
  name : String
  extension : String
  deriving DecidableEq, Repr

/-- Extensions taken off before a file is renamed. -/
def recognizedExtensions : List String := ["jpg", "jpeg", "png", "pdf"]

def isAmong (extensions : List String) (extension : List Char) : Bool :=
  extensions.any fun e => Text.sameIgnoringCase e.toList extension

def split (name : String) : Split :=
  match Text.splitLast? '.' name.toList with
  | some (base, extension) =>
    if isAmong recognizedExtensions extension then
      ⟨String.ofList base, String.ofList ('.' :: extension)⟩
    else ⟨name, ""⟩
  | none => ⟨name, ""⟩

def claimedExtension? (name : String) : Option String :=
  match Text.splitLast? '.' (Text.trim name.toList) with
  | some (_, extension) => if extension.isEmpty then none else some (String.ofList extension)
  | none => none

/-- The extensions refused for a category even where the content is fine. -/
def refusedExtensions : Category → List String
  | .jpeg | .png => ["jfif", "pjpeg", "pjp"]
  | .pdf | .unknown => []

def refusedExtension? (category : Category) (name : String) : Option String :=
  (claimedExtension? name).filter fun e => isAmong (refusedExtensions category) e.toList

/-- The part of a sanitized name that is kept: at most `limit` characters without the extension and
without white space at the end. -/
def base (name : String) (limit : Nat) : List Char :=
  Text.trimEnd ((split (sanitize name)).name.toList.take limit)

/-- `<base>-<short id><extension>`; the extension is always that of the category. -/
def finalize (name : String) (category : Category) (identifier : Identifier) (limit : Nat) :
    String :=
  String.ofList (base name limit) ++ "-" ++ identifier.short ++ category.extension?.getD ""

end AttachmentIntake.FileName
