import AttachmentIntake.Json.Reader.Basic

/-!
Reading of JSON numbers. Digits beyond 64 bits are dropped, and the value is scaled by powers of
ten, so a number with a fraction is near what is written but not always nearest.
-/

namespace AttachmentIntake.Json.Reader

def digits : Reader (List Nat) := fun s =>
  .ok ((s.takeWhile isDigit).map fun b => b.toNat - 0x30, s.dropWhile isDigit)

/-- Takes digits into a number of 64 bits as long as they fit; gives how many were taken and how
many were left over. -/
def accumulate (n : Nat) : List Nat → Nat × Nat × Nat
  | [] => (n, 0, 0)
  | d :: ds =>
    if n * 10 + d < 0x10000000000000000 then
      let (m, taken, dropped) := accumulate (n * 10 + d) ds
      (m, taken + 1, dropped)
    else (n, 0, ds.length + 1)

/-- `x * 10 ^ e`, scaled in at most four steps; `none` if it is too large. -/
def scale (x : Float) (e : Int) : Nat → Option Float
  | 0 => some x
  | fuel + 1 =>
    if e.natAbs ≤ 308 then
      let power := Float.ofScientific 1 false e.natAbs
      if 0 ≤ e then
        let y := x * power
        if y.isInf then none else some y
      else some (x / power)
    else if x == 0.0 then some x
    else if 0 ≤ e then none
    else scale (x / Float.ofScientific 1 false 308) (e + 308) fuel

def signed (positive : Bool) (x : Float) : Float := if positive then x else -x

def float (positive : Bool) (significand : Nat) (e : Int) : Reader Float :=
  match scale (Float.ofNat significand) e 4 with
  | some x => pure (signed positive x)
  | none => fault .numberOutOfRange

/-- The least exponent that is cut off rather than kept. -/
def exponentBound : Nat := 0x80000000

/-- The value of the digits of an exponent, or how many there are behind the one that makes it too
large. -/
def exponentValue (e : Nat) : List Nat → Except Nat Nat
  | [] => .ok e
  | d :: ds =>
    if exponentBound ≤ e * 10 + d then .error ds.length else exponentValue (e * 10 + d) ds

def exponent (positive : Bool) (significand : Nat) (base : Int) : Reader Float := do
  advance
  let up ← do
    match ← peek with
    | some b =>
      if b = byte '+' then do advance; pure true
      else if b = byte '-' then do advance; pure false
      else pure true
    | none => pure true
  match ← peek with
  | none => fault .endInValue
  | some b => if isDigit b then pure () else faultAhead .invalidNumber
  match exponentValue 0 (← digits) with
  | .ok e => float positive significand (if up then base + e else base - e)
  | .error behind =>
    if significand ≠ 0 ∧ up then
      fun s => .error (.placed .numberOutOfRange (behind + s.length))
    else pure (signed positive 0.0)

def isExponentMark (b : Option UInt8) : Bool := b = some (byte 'e') || b = some (byte 'E')

/-- A fraction, its point included. Digits that no longer fit are dropped. -/
def fraction (positive : Bool) (significand : Nat) (base : Int) : Reader Float := do
  advance
  let (m, taken, dropped) := accumulate significand (← digits)
  if taken + dropped = 0 then
    match ← peek with
    | some _ => faultAhead .invalidNumber
    | none => fault .endInValue
  else if isExponentMark (← peek) then exponent positive m (base - taken)
  else float positive m (base - taken)

inductive Number where
  | integer (n : Int)
  | float (x : Float)

def hasLeadingZero : List UInt8 → Bool
  | first :: second :: _ => first = byte '0' && isDigit second
  | _ => false

/-- A number must not go on with digits behind a zero; the second digit is then the problem. -/
def noLeadingZero : Reader Unit := fun s =>
  if hasLeadingZero s then .error (.placed .invalidNumber (s.length - 2)) else .ok ((), s)

/-- A number whose sign is taken. Integers beyond 64 bits are floating point, and so is `-0`. -/
def number (positive : Bool) : Reader Number := do
  match ← peek with
  | none => fault .endInValue
  | some first =>
    if isDigit first then
      noLeadingZero
      let ds ← digits
      let (m, _, dropped) := accumulate 0 ds
      let mark ← peek
      if mark = some (byte '.') then return .float (← fraction positive m dropped)
      else if isExponentMark mark then return .float (← exponent positive m dropped)
      else if 0 < dropped then return .float (← float positive m dropped)
      else if positive then return .integer m
      else if m = 0 ∨ 0x8000000000000000 < m then return .float (-(Float.ofNat m))
      else return .integer (-(m : Int))
    else faultAhead .invalidNumber

def Number.found : Number → Found
  | .integer n => .integer n
  | .float x => .float (floatText x)

def skipNumber : Reader Unit := do
  match ← peek with
  | none => fault .invalidNumber
  | some first =>
    if isDigit first then
      noLeadingZero
      let _ ← digits
      if (← peek) = some (byte '.') then
        advance
        if (← digits).isEmpty then faultAhead .invalidNumber
      if isExponentMark (← peek) then
        advance
        let sign ← peek
        if sign = some (byte '+') || sign = some (byte '-') then advance
        if (← digits).isEmpty then faultAhead .invalidNumber
    else faultAhead .invalidNumber

end AttachmentIntake.Json.Reader
