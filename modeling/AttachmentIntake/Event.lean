import AttachmentIntake.Json.Value

/-!
Diagnostic events: what is noted, in order, while a manifest is read, a file validated or scanned.
-/

namespace AttachmentIntake

inductive Level where
  | debug
  | info
  | warn
  deriving DecidableEq, Repr

def Level.name : Level → String
  | .debug => "DEBUG"
  | .info => "INFO"
  | .warn => "WARN"

structure Event where
  level : Level
  message : String
  fields : List (String × String) := []
  deriving DecidableEq, Repr

namespace Event

def toJson (e : Event) : Json.Value :=
  .object [("level", .text e.level.name), ("message", .text e.message),
    ("fields", .object (e.fields.map fun (k, v) => (k, .text v)))]

def listText (items : List String) : String := "[" ++ ", ".intercalate items ++ "]"

def optionText : Option String → String
  | none => "None"
  | some s => s!"Some({Text.quoted s})"

end Event

end AttachmentIntake
