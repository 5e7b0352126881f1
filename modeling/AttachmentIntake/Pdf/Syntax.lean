import AttachmentIntake.Pdf.Object

/-!
The grammar of PDF values, as readers that move a position forward in the bytes of a document or
fail and leave it where it was.
-/

namespace AttachmentIntake.Pdf

/-- Reads a value from the bytes at a position and gives the position after it. -/
abbrev Reader := ReaderT ByteArray (StateT Nat Option)

namespace Reader

def at? {α : Type} (r : Reader α) (content : ByteArray) (position : Nat) : Option α :=
  (r content position).map (·.1)

def exactly (pattern : List UInt8) : Reader Unit := fun content i =>
  if Bytes.standsAt content i pattern then some ((), i + pattern.length) else none

def keyword (text : String) : Reader Unit := exactly (Bytes.ascii text)

def run (p : UInt8 → Bool) : Reader (List UInt8) := fun content i =>
  let stop := Bytes.runEnd p content i
  some (Bytes.slice content i stop, stop)

def run1 (p : UInt8 → Bool) : Reader (List UInt8) := do
  let bytes ← run p
  if bytes.isEmpty then failure else return bytes

def many {α : Type} (r : Reader α) : Nat → List α → Reader (List α)
  | 0, done => fun _ i => some (done.reverse, i)
  | fuel + 1, done => fun content i =>
    match r content i with
    | none => some (done.reverse, i)
    | some (a, next) => many r fuel (a :: done) content next

def all {α : Type} (r : Reader α) : Reader (List α) := fun content i =>
  many r (content.size - i) [] content i

def optionally (r : Reader Unit) : Reader Unit := r <|> pure ()

end Reader

open Reader

namespace Syntax

def isWhite (b : UInt8) : Bool :=
  b = 0x20 || b = 0x09 || b = 0x0A || b = 0x0D || b = 0x00 || b = 0x0C

def isDelimiter (b : UInt8) : Bool :=
  [0x28, 0x29, 0x3C, 0x3E, 0x5B, 0x5D, 0x7B, 0x7D, 0x2F, 0x25].contains b

def isRegular (b : UInt8) : Bool := !isWhite b && !isDelimiter b

def isLineEnd (b : UInt8) : Bool := b = 0x0A || b = 0x0D

def lineEnd : Reader Unit := keyword "\r\n" <|> keyword "\n" <|> keyword "\r"

def comment : Reader Unit := do
  keyword "%"
  let _ ← run fun b => !isLineEnd b
  lineEnd

def space : Reader Unit := do
  let _ ← all ((do let _ ← run1 isWhite) <|> comment)

def natural (limit : Nat) : Reader Nat := do
  let n := Bytes.decimal (← run1 Bytes.isDigit)
  if n < limit then return n else failure

def sign : Reader Bool :=
  (do keyword "-"; return true) <|> (do keyword "+"; return false) <|> pure false

/-- Positive integers stay below this, and negative ones go down to it. -/
def integerRange : Nat := 0x8000000000000000

def numberRange : Nat := 0x100000000

def generationRange : Nat := 0x10000

def integer : Reader Int := do
  if ← sign then
    return -(← natural (integerRange + 1))
  else
    return ← natural integerRange

def real : Reader Unit := do
  let _ ← sign
  let whole ← run Bytes.isDigit
  keyword "."
  let part ← run Bytes.isDigit
  if whole.isEmpty && part.isEmpty then failure

def reference : Reader Reference := do
  let number ← natural numberRange
  space
  let generation ← natural generationRange
  space
  return ⟨number, generation⟩

def nameByte : Reader UInt8 := fun content i =>
  match content[i]? with
  | none => none
  | some b =>
    if b = 0x23 then
      match content[i + 1]?, content[i + 2]? with
      | some x, some y =>
        if Bytes.isHexDigit x && Bytes.isHexDigit y then
          some (Bytes.hexValue x * 16 + Bytes.hexValue y, i + 3)
        else none
      | _, _ => none
    else if isRegular b then some (b, i + 1)
    else none

def name : Reader (List UInt8) := do
  keyword "/"
  all nameByte

def nestingLimit : Nat := 100

/-- The position after a string of which `depth + 1` parentheses are open. -/
def textEnd (content : ByteArray) : Nat → Nat → Nat → Option Nat
  | 0, _, _ => none
  | fuel + 1, depth, i =>
    match content[i]? with
    | none => none
    | some b =>
      if b = 0x29 then
        match depth with
        | 0 => some (i + 1)
        | depth + 1 => textEnd content fuel depth (i + 1)
      else if b = 0x28 then
        if depth < nestingLimit then textEnd content fuel (depth + 1) (i + 1) else none
      else if b = 0x5C then
        if i + 1 < content.size then textEnd content fuel depth (i + 2) else none
      else textEnd content fuel depth (i + 1)

/-- A string in parentheses, which may hold balanced ones; a backslash takes the next byte out of
the count. -/
def text : Reader Unit := do
  keyword "("
  fun content i => (textEnd content (content.size - i + 1) 0 i).map fun stop => ((), stop)

def hexText : Reader Unit := do
  keyword "<"
  let _ ← run fun b => isWhite b || Bytes.isHexDigit b
  keyword ">"

/-- The kinds of value that hold no other values, in the order in which they are tried. -/
def simple : Reader Object :=
  (do keyword "null"; return .null) <|>
  (do keyword "true"; return .boolean true) <|>
  (do keyword "false"; return .boolean false) <|>
  (do let r ← reference; keyword "R"; return .reference r) <|>
  (do real; return .real) <|>
  (do return .integer (← integer)) <|>
  (do return .name (← name)) <|>
  (do text; return .text) <|>
  (do hexText; return .text)

mutual

def value : Nat → Reader Object
  | 0 => failure
  | fuel + 1 => do
    let v ← simple <|> array fuel <|> (do return .dictionary (← dictionary fuel))
    space
    return v

def array : Nat → Reader Object
  | 0 => failure
  | fuel + 1 => do
    keyword "["
    space
    let items ← items fuel
    keyword "]"
    return .array items

def items : Nat → Reader (List Object)
  | 0 => failure
  | fuel + 1 => do
    match ← optional (value fuel) with
    | none => return []
    | some v => return v :: (← items fuel)

def dictionary : Nat → Reader Dictionary
  | 0 => failure
  | fuel + 1 => do
    keyword "<<"
    space
    let entries ← entries fuel
    keyword ">>"
    return entries

def entries : Nat → Reader Dictionary
  | 0 => failure
  | fuel + 1 => do
    match ← optional (entry fuel) with
    | none => return []
    | some e => return e :: (← entries fuel)

def entry : Nat → Reader (List UInt8 × Object)
  | 0 => failure
  | fuel + 1 => do
    let key ← name
    space
    return (key, ← value fuel)

end

/-- Enough for every value in the content, as each nested reader starts after a byte or is one of
three that pass on to the next without reading. -/
def fuelFor (content : ByteArray) : Nat := 3 * content.size + 3

def direct : Reader Object := fun content => value (fuelFor content) content

def directDictionary : Reader Dictionary := fun content => dictionary (fuelFor content) content

def streamHead : Reader Dictionary := do
  let d ← directDictionary
  space
  keyword "stream"
  let _ ← run fun b => b = 0x20 || b = 0x09
  lineEnd
  return d

def streamBytes (length : Nat) : Reader ByteArray := fun content i =>
  if i + length ≤ content.size then
    match (do optionally lineEnd; keyword "endstream" : Reader Unit) content (i + length) with
    | some (_, stop) => some (content.extract i (i + length), stop)
    | none => none
  else none

/-- What stands under an object number. `lengthAt?` looks up a length that is given by reference.
A stream without a length is empty, one whose bytes do not end where they should is only its
dictionary, and a negative length fails. -/
def item (lengthAt? : Reference → Option Int) : Reader Item := fun content i =>
  match streamHead content i with
  | none => (Item.value <$> direct) content i
  | some (d, start) =>
    let length? :=
      match d.get? "Length" with
      | some (.reference r) => lengthAt? r
      | some o => o.integer?
      | none => none
    match length? with
    | none => some (.stream d .empty, start)
    | some (.negSucc _) => none
    | some (.ofNat length) =>
      match streamBytes length content start with
      | some (bytes, stop) => some (.stream d bytes, stop)
      | none => (Item.value <$> direct) content i

def itemHead : Reader Reference := do
  space
  let r ← reference
  keyword "obj"
  space
  return r

end Syntax

end AttachmentIntake.Pdf
