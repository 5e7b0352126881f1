import AttachmentIntake.Number.Shortest
import AttachmentIntake.Text.Blank

/-!
Calendar dates, their text, and the reading of dates from text that users wrote. White space may
stand before each number and each dash and at the end.
-/

namespace AttachmentIntake

namespace Date

def firstYear : Int := -262143

def lastYear : Int := 262142

def isLeap (year : Int) : Bool := year % 4 = 0 && (year % 100 ≠ 0 || year % 400 = 0)

def daysIn (year : Int) (month : Nat) : Nat :=
  if month = 2 then if isLeap year then 29 else 28
  else if month ∈ [4, 6, 9, 11] then 30 else 31

def isDate (year : Int) (month day : Nat) : Bool :=
  firstYear ≤ year && year ≤ lastYear && 1 ≤ month && month ≤ 12 && 1 ≤ day &&
    day ≤ daysIn year month

inductive Fault where
  | invalid
  | outOfRange
  | tooShort
  | trailing
  deriving DecidableEq, Repr

def Fault.message : Fault → String
  | .invalid => "input contains invalid characters"
  | .outOfRange => "input is out of range"
  | .tooShort => "premature end of input"
  | .trailing => "trailing input"

end Date

structure Date where
  year : Int
  month : Nat
  day : Nat
  valid : Date.isDate year month day = true
  deriving DecidableEq

namespace Date

/-- Years from 0 to 9999 have four digits and no sign, and all others a sign and at least four. -/
def yearText (year : Int) : List Char :=
  if 0 ≤ year ∧ year ≤ 9999 then Number.padded 4 year.toNat
  else (if year < 0 then '-' else '+') :: Number.padded 4 year.natAbs

def text (d : Date) : String :=
  String.ofList (yearText d.year ++ '-' :: Number.padded 2 d.month ++ '-' :: Number.padded 2 d.day)

/-- The largest value of a signed word of 64 bits, which bounds every number read. -/
def numberBound : Nat := 0x7FFFFFFFFFFFFFFF

/-- Reads at most `room` digits after those that gave `n`. -/
def moreDigits (n : Nat) : Nat → List Char → Except Fault (Nat × List Char)
  | room + 1, c :: cs =>
    if c.isDigit then
      let m := 10 * n + (c.toNat - '0'.toNat)
      if m ≤ numberBound then moreDigits m room cs else .error .outOfRange
    else .ok (n, c :: cs)
  | _, cs => .ok (n, cs)

/-- Reads a number of at least one and at most `width` digits. -/
def number (width : Nat) (cs : List Char) : Except Fault (Nat × List Char) :=
  match cs with
  | [] => .error .tooShort
  | c :: _ => if c.isDigit then moreDigits 0 width cs else .error .invalid

/-- A year without a sign has at most four digits. -/
def readYear (cs : List Char) : Except Fault (Int × List Char) := do
  let (year, rest) ← match Text.trimStart cs with
    | '-' :: rest => do
      let (n, rest) ← number rest.length rest
      pure (-(n : Int), rest)
    | '+' :: rest => do
      let (n, rest) ← number rest.length rest
      pure ((n : Int), rest)
    | cs => do
      let (n, rest) ← number 4 cs
      pure ((n : Int), rest)
  if -0x80000000 ≤ year ∧ year < 0x80000000 then .ok (year, rest) else .error .outOfRange

def readDash (cs : List Char) : Except Fault (List Char) :=
  match Text.trimStart cs with
  | [] => .error .tooShort
  | '-' :: rest => .ok rest
  | _ => .error .invalid

/-- A month or a day: two digits at most, from 1 to `most`. -/
def readPart (most : Nat) (cs : List Char) : Except Fault (Nat × List Char) := do
  let (n, rest) ← number 2 (Text.trimStart cs)
  if 1 ≤ n ∧ n ≤ most then .ok (n, rest) else .error .outOfRange

def parse (s : String) : Except Fault Date := do
  let (year, rest) ← readYear s.toList
  let (month, rest) ← readPart 12 (← readDash rest)
  let (day, rest) ← readPart 31 (← readDash rest)
  if (Text.trimStart rest).isEmpty then
    if h : isDate year month day = true then .ok ⟨year, month, day, h⟩ else .error .outOfRange
  else .error .trailing

end Date

end AttachmentIntake
