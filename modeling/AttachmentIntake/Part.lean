import AttachmentIntake.Signature
import AttachmentIntake.Text.Blank

/-!
Uploaded parts, as they come from the transport, and the directories they may be read from instead.
-/

namespace AttachmentIntake

/-- One uploaded file. Its name is normally `<identifier>.<ext>`, and the type that the client
declares for it is only ever logged. -/
structure Part where
  filename : String
  contentType : Option String := none
  data : ByteArray

namespace Part

def size (part : Part) : Nat := part.data.size

def leadingBytes (part : Part) (n : Nat) : List UInt8 := Bytes.slice part.data 0 n

/-- The name up to its first dot, which must equal an identifier of the manifest. -/
def token (part : Part) : String :=
  let name := Text.trim part.filename.toList
  match Text.splitFirst? '.' name with
  | some (head, _) => String.ofList head
  | none => String.ofList name

/-- The pieces of a path between slashes, of which empty ones and single dots name nothing. -/
def components (path : List Char) : List (List Char) :=
  (path.splitOn '/').filter fun c => c ≠ [] ∧ c ≠ ['.']

/-- What follows the last dot of the last component, unless that dot stands in front. -/
def extension? (part : Part) : Option String :=
  match (components part.filename.toList).getLast? with
  | none => none
  | some file =>
    if file = ['.', '.'] then none
    else
      match Text.splitLast? '.' file with
      | some ([], _) | none => none
      | some (_, extension) => some (String.ofList extension)

end Part

namespace Directory

inductive Content where
  | file (data : ByteArray)
  | directory
  | link

/-- An entry of a directory under its raw name. -/
structure Entry where
  name : List UInt8
  content : Content

def part? (entry : Entry) : Option Part :=
  match entry.content with
  | .file data => some { filename := String.ofList (Text.Utf8.decodeLossy entry.name), data }
  | .directory | .link => none

/-- The regular files of a directory as parts named after them, sorted by name. -/
def parts (entries : List Entry) : List Part :=
  (entries.filterMap part?).mergeSort fun a b => a.filename ≤ b.filename

end Directory

end AttachmentIntake
