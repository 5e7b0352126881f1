import Std.Data.TreeMap

/-!
Properties of characters that are written down as text: records of a code point or a range of them
in hexadecimal, a colon, and what belongs to it.
-/

namespace AttachmentIntake.Text.Table

def hexDigit (c : Char) : Nat :=
  if c.isDigit then c.toNat - '0'.toNat else c.toNat - 'A'.toNat + 10

def codePoint (digits : String) : Nat := digits.foldl (fun n c => 16 * n + hexDigit c) 0

def words (table : String) : List String :=
  ((table.splitOn "\n").flatMap fun line => line.splitOn " ").filter (· ≠ "")

def records (table : String) : List (String × String) :=
  (words table).filterMap fun r =>
    match r.splitOn ":" with
    | [key, value] => some (key, value)
    | _ => none

def characters (points : String) : List Char :=
  if points = "" then [] else (points.splitOn "+").map fun p => Char.ofNat (codePoint p)

def bounds (key : String) : Nat × Nat :=
  match key.splitOn "-" with
  | [first, last] => (codePoint first, codePoint last)
  | _ => (codePoint key, codePoint key)

/-- Ranges of code points that do not overlap: the last one and a value for each first one. -/
abbrev Ranges (α : Type) := Std.TreeMap Nat (Nat × α)

namespace Ranges

variable {α : Type}

/-- The ranges of a table, of which a record may be only the range. -/
def ofTable (table : String) (value : String → α) : Ranges α :=
  (words table).foldl (fun ranges r =>
    let parts := r.splitOn ":"
    let (first, last) := bounds (parts.headD "")
    ranges.insert first (last, value (parts.tail.headD ""))) ∅

/-- How far into its range a character stands, and the value of the range. -/
def find? (ranges : Ranges α) (c : Char) : Option (Nat × α) :=
  match ranges.getEntryLE? c.toNat with
  | some (first, last, a) => if c.toNat ≤ last then some (c.toNat - first, a) else none
  | none => none

def contains (ranges : Ranges α) (c : Char) : Bool := (ranges.find? c).isSome

def value? (ranges : Ranges α) (c : Char) : Option α := (ranges.find? c).map (·.2)

end Ranges

end AttachmentIntake.Text.Table
