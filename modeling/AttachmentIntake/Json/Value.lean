import AttachmentIntake.Json.Fault
import AttachmentIntake.Number.Shortest

/-!
JSON values as the program prints them, and the reading of a named variant from a value at hand.
Keys keep the order in which they are written.
-/

namespace AttachmentIntake.Json

inductive Value where
  | null
  | boolean (b : Bool)
  | integer (n : Int)
  | float (x : Float)
  | text (s : String)
  | array (items : List Value)
  | object (entries : List (String × Value))
  deriving Inhabited

/-- Numbers with a fraction or an exponent: positional from `0.00001` up to sixteen digits, and with
an exponent that is not padded. -/
def floatLayout : Number.Layout := ⟨-5, 15, 1⟩

def floatText (x : Float) : String := Number.floatText floatLayout x

def ofOption {α : Type} (f : α → Value) : Option α → Value
  | none => .null
  | some a => f a

namespace Value

def found : Value → Found
  | .null => .null
  | .boolean b => .boolean b
  | .integer n => .integer n
  | .float x => .float (floatText x)
  | .text s => .text s
  | .array _ => .sequence
  | .object _ => .mapping

/-- Marks, backslashes and control characters are escaped and all else is written as it is. -/
def escapedChar (c : Char) : List Char :=
  match c with
  | '"' => ['\\', '"']
  | '\\' => ['\\', '\\']
  | '\n' => ['\\', 'n']
  | '\r' => ['\\', 'r']
  | '\t' => ['\\', 't']
  | c =>
    if c.toNat = 0x08 then ['\\', 'b']
    else if c.toNat = 0x0C then ['\\', 'f']
    else if c.toNat < 0x20 then
      ['\\', 'u', '0', '0', Nat.digitChar (c.toNat / 16), Nat.digitChar (c.toNat % 16)]
    else [c]

def writeText (s : String) : String :=
  String.ofList ('"' :: s.toList.flatMap escapedChar ++ ['"'])

mutual

def compact : Value → String
  | .null => "null"
  | .boolean b => toString b
  | .integer n => toString n
  | .float x => floatText x
  | .text s => writeText s
  | .array items => "[" ++ ",".intercalate (compactItems items) ++ "]"
  | .object entries => "\x7b" ++ ",".intercalate (compactEntries entries) ++ "\x7d"

def compactItems : List Value → List String
  | [] => []
  | v :: vs => compact v :: compactItems vs

def compactEntries : List (String × Value) → List String
  | [] => []
  | (k, v) :: es => (writeText k ++ ":" ++ compact v) :: compactEntries es

end

def indent (depth : Nat) : String := String.ofList (List.replicate (2 * depth) ' ')

/-- Brackets around one line per item; an empty collection stays on its line. -/
def block (opening closing : String) (depth : Nat) (lines : List String) : String :=
  if lines.isEmpty then opening ++ closing
  else
    opening ++ "\n" ++ ",\n".intercalate (lines.map fun l => indent (depth + 1) ++ l) ++ "\n" ++
      indent depth ++ closing

mutual

def pretty (depth : Nat) : Value → String
  | .null => "null"
  | .boolean b => toString b
  | .integer n => toString n
  | .float x => floatText x
  | .text s => writeText s
  | .array items => block "[" "]" depth (prettyItems depth items)
  | .object entries => block "\x7b" "\x7d" depth (prettyEntries depth entries)

def prettyItems (depth : Nat) : List Value → List String
  | [] => []
  | v :: vs => pretty (depth + 1) v :: prettyItems depth vs

def prettyEntries (depth : Nat) : List (String × Value) → List String
  | [] => []
  | (k, v) :: es => (writeText k ++ ": " ++ pretty (depth + 1) v) :: prettyEntries depth es

end

end Value

def variant {α : Type} (known : List (String × α)) (name : String) : Except Problem α :=
  match known.lookup name with
  | some a => .ok a
  | none => .error (.unknownVariant name (known.map Prod.fst))

/-- A variant is given by its name, or by an object whose only key is its name and whose value is
null. -/
def variantOf {α : Type} (known : List (String × α)) : Value → Except Problem α
  | .text name => variant known name
  | .object [(name, payload)] => do
    let a ← variant known name
    match payload with
    | .null => .ok a
    | other => .error (.wrongType other.found "unit")
  | .object _ => .error (.wrongValue .mapping "map with a single key")
  | other => .error (.wrongType other.found "string or map")

end AttachmentIntake.Json
