import AttachmentIntake.Json.Reader.Number
import AttachmentIntake.Json.Reader.Text

/-!
Readers of wanted shapes: texts, optional values, lists, records and variants. A value of another
kind is reported with what was wanted in its place.
-/

namespace AttachmentIntake.Json.Reader

variable {α σ : Type}

/-! ### Single values -/

/-- Reports the value at hand, of which the kind is told by its first byte. Strings and numbers are
read first, and their own faults win. -/
def wrongType (wanted : String) : Reader α := do
  match ← peek with
  | none => faultAhead .expectedValue
  | some b =>
    if b = byte 'n' then do advance; word "ull"; fault (.wrongType .null wanted)
    else if b = byte 't' then do advance; word "rue"; fault (.wrongType (.boolean true) wanted)
    else if b = byte 'f' then do advance; word "alse"; fault (.wrongType (.boolean false) wanted)
    else if b = byte '-' then do
      advance
      let n ← number false
      fault (.wrongType n.found wanted)
    else if isDigit b then do
      let n ← number true
      fault (.wrongType n.found wanted)
    else if b = byte '"' then do
      advance
      let s ← stringBody
      fault (.wrongType (.text s) wanted)
    else if b = byte '[' then fault (.wrongType .sequence wanted)
    else if b = byte '\x7b' then fault (.wrongType .mapping wanted)
    else faultAhead .expectedValue

def valueStart : Reader UInt8 := do
  match ← peekToken with
  | none => fault .endInValue
  | some b => pure b

def textAs (wanted : String) : Reader String := do
  if (← valueStart) = byte '"' then do
    advance
    stringBody
  else wrongType wanted

def text : Reader String := textAs "a string"

def optional (r : Reader α) : Reader (Option α) := do
  if (← peekToken) = some (byte 'n') then do
    advance
    word "ull"
    pure none
  else return some (← r)

def unit : Reader Unit := do
  if (← valueStart) = byte 'n' then do
    advance
    word "ull"
  else wrongType "unit"

/-! ### Lists -/

/-- Whether a further item follows, with the comma before it taken. -/
def hasItem (first : Bool) : Reader Bool := do
  match ← peekToken with
  | none => fault .endInList
  | some b =>
    if b = byte ']' then pure false
    else if first then pure true
    else if b = byte ',' then do
      advance
      match ← peekToken with
      | none => fault .endInValue
      | some c => if c = byte ']' then faultAhead .trailingComma else pure true
    else faultAhead .expectedListEnd

def endList : Reader Unit := do
  match ← peekToken with
  | none => fault .endInList
  | some b =>
    if b = byte ']' then advance
    else if b = byte ',' then do
      advance
      if (← peekToken) = some (byte ']') then faultAhead .trailingComma
      else faultAhead .trailingCharacters
    else faultAhead .trailingCharacters

/-- What is left when the end of a list was looked for, whether it was there or not. -/
def pastList (s : List UInt8) : List UInt8 :=
  match s.dropWhile isBlank with
  | [] => []
  | b :: rest =>
    if b = byte ']' then rest
    else if b = byte ',' then rest.dropWhile isBlank
    else b :: rest

def itemStep (item : Reader α) (before : List α) : Reader (List α ⊕ List α) := do
  if ← hasItem before.isEmpty then
    let a ← item
    pure (.inl (a :: before))
  else pure (.inr before.reverse)

def list (item : Reader α) : Reader (List α) := placed do
  if (← valueStart) = byte '[' then do
    advance
    let items ← leaving pastList (iterate (itemStep item) [])
    endList
    pure items
  else wrongType "a sequence"

def nextItem (first : Bool) (item : Reader α) : Reader (Option α) := do
  if ← hasItem first then return some (← item) else pure none

/-! ### Objects -/

def hasEntry (first : Bool) : Reader Bool := do
  match ← peekToken with
  | none => fault .endInObject
  | some b =>
    if b = byte '\x7d' then pure false
    else if first then if b = byte '"' then pure true else faultAhead .keyNotString
    else if b = byte ',' then do
      advance
      match ← peekToken with
      | none => fault .endInValue
      | some c =>
        if c = byte '"' then pure true
        else if c = byte '\x7d' then faultAhead .trailingComma
        else faultAhead .keyNotString
    else faultAhead .expectedObjectEnd

def colon : Reader Unit := do
  match ← peekToken with
  | none => fault .endInObject
  | some b => if b = byte ':' then advance else faultAhead .expectedColon

def endObject : Reader Unit := do
  match ← peekToken with
  | none => fault .endInObject
  | some b =>
    if b = byte '\x7d' then advance
    else if b = byte ',' then faultAhead .trailingComma
    else faultAhead .trailingCharacters

def pastObject (s : List UInt8) : List UInt8 :=
  match s.dropWhile isBlank with
  | [] => []
  | b :: rest => if b = byte '\x7d' then rest else b :: rest

def entryStep (entry : σ → String → Reader σ) (state : Bool × σ) : Reader ((Bool × σ) ⊕ σ) := do
  if ← hasEntry state.1 then
    advance
    let key ← stringBody
    let s ← entry state.2 key
    pure (.inl (false, s))
  else pure (.inr state.2)

/-- The entries of an object whose opening bracket is taken. `entry` is given the key and reads from
the colon on. -/
def entries (entry : σ → String → Reader σ) (s : σ) : Reader σ :=
  iterate (entryStep entry) (true, s)

/-- A record, written as an object or as a list of its fields in order. -/
def record (wanted : String) (fromList fromObject : Reader α) : Reader α := placed do
  let b ← valueStart
  if b = byte '[' then do
    advance
    let a ← leaving pastList fromList
    endList
    pure a
  else if b = byte '\x7b' then do
    advance
    let a ← leaving pastObject fromObject
    endObject
    pure a
  else wrongType wanted

def field (name : String) (old : Option α) (r : Reader α) : Reader (Option α) := do
  if old.isSome then refuse (.duplicateField name)
  else do
    colon
    return some (← r)

def required (name : String) : Option α → Reader α
  | some a => pure a
  | none => refuse (.missingField name)

def variantName (choose : String → Except Problem α) : Reader α := placed do
  match choose (← textAs "variant identifier") with
  | .ok a => pure a
  | .error problem => refuse problem

/-- A variant is its name, or an object with its name as the only key and `null` as the value. -/
def variantWith (choose : String → Except Problem α) : Reader α := do
  match ← peekToken with
  | none => fault .endInValue
  | some b =>
    if b = byte '"' then variantName choose
    else if b = byte '\x7b' then do
      advance
      let a ← variantName choose
      colon
      unit
      match ← peekToken with
      | none => fault .endInObject
      | some c => if c = byte '\x7d' then do advance; pure a else fault .expectedValue
    else faultAhead .expectedValue

end AttachmentIntake.Json.Reader
