import AttachmentIntake.Json.Value
import AttachmentIntake.Text.Utf8

/-!
Readers of JSON: they take what they read off the front of the bytes, and stop at the first problem
that they meet.
-/

namespace AttachmentIntake.Json

/-- Why a reader stops. What is wrong with a value beyond its syntax gets its place only once the
value is left, along with the collection that it is in. -/
inductive Stop where
  /-- A problem in front of the last `left` bytes. -/
  | placed (problem : Problem) (left : Nat)
  | unplaced (problem : Problem) (rest : List UInt8)

def Stop.fault (bytes : List UInt8) : Stop → Fault
  | .placed problem left => ⟨problem, some (.before left bytes)⟩
  | .unplaced problem _ => ⟨problem, none⟩

abbrev Reader := StateT (List UInt8) (Except Stop)

namespace Reader

variable {α σ : Type}

/-- A problem with what was taken last. -/
def fault (problem : Problem) : Reader α := fun s => .error (.placed problem s.length)

/-- A problem with the next byte, behind which it is placed. -/
def faultAhead (problem : Problem) : Reader α := fun s => .error (.placed problem (s.length - 1))

/-- A problem with the value that was read. -/
def refuse (problem : Problem) : Reader α := fun s => .error (.unplaced problem s)

def placed (r : Reader α) : Reader α := fun s =>
  match r s with
  | .error (.unplaced problem rest) => .error (.placed problem rest.length)
  | result => result

/-- Goes on to what `leave` makes of the rest, if a problem of a value is met. -/
def leaving (leave : List UInt8 → List UInt8) (r : Reader α) : Reader α := fun s =>
  match r s with
  | .error (.unplaced problem rest) => .error (.unplaced problem (leave rest))
  | result => result

def isBlank (b : UInt8) : Bool := b = 0x20 || b = 0x09 || b = 0x0A || b = 0x0D

def isDigit (b : UInt8) : Bool := 0x30 ≤ b && b ≤ 0x39

def byte (c : Char) : UInt8 := c.toUInt8

def peek : Reader (Option UInt8) := fun s => .ok (s.head?, s)

def advance : Reader Unit := fun s => .ok ((), s.drop 1)

def next : Reader (Option UInt8) := fun s => .ok (s.head?, s.drop 1)

def skipBlanks : Reader Unit := fun s => .ok ((), s.dropWhile isBlank)

/-- The next byte that is not blank, left in place. -/
def peekToken : Reader (Option UInt8) := do
  skipBlanks
  peek

def iterateWithin (step : σ → Reader (σ ⊕ α)) :
    List UInt8 → σ → List UInt8 → Except Stop (α × List UInt8)
  | [], _, input => .error (.placed .endInValue input.length)
  | _ :: bound, s, input =>
    match step s input with
    | .error stop => .error stop
    | .ok (.inr a, rest) => .ok (a, rest)
    | .ok (.inl t, rest) => iterateWithin step bound t rest

/-- Repeats a step until it gives a result. A step that does not end the loop takes at least one
byte, so one step more than there are bytes at hand is always enough. -/
def iterate (step : σ → Reader (σ ⊕ α)) (s : σ) : Reader α :=
  fun input => iterateWithin step (0 :: input) s input

/-- The rest of `null`, `true` or `false`. -/
def ident : List UInt8 → Reader Unit
  | [] => pure ()
  | expected :: more => do
    match ← next with
    | none => fault .endInValue
    | some b => if b = expected then ident more else fault .expectedIdent

def word (rest : String) : Reader Unit := ident (Text.Utf8.encode rest.toList)

end Reader

end AttachmentIntake.Json
