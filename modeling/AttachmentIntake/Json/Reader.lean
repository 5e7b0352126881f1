import AttachmentIntake.Json.Reader.Shape
import AttachmentIntake.Json.Reader.Skipped

/-!
Reading of whole JSON documents into wanted shapes. Of several problems the first in reading order
is reported.
-/

namespace AttachmentIntake.Json

/-- One value with nothing but blanks behind it. -/
def Reader.whole {α : Type} (r : Reader α) : Reader α := do
  let a ← r
  match ← peekToken with
  | none => pure a
  | some _ => faultAhead .trailingCharacters

def document {α : Type} (r : Reader α) (bytes : List UInt8) : Except Fault α :=
  match r.whole bytes with
  | .ok (a, _) => .ok a
  | .error stop => .error (stop.fault bytes)

end AttachmentIntake.Json
