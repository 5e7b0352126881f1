import AttachmentIntake.Pdf.Filter
import AttachmentIntake.Pdf.Syntax
import AttachmentIntake.Text.Blank
import AttachmentIntake.Text.Utf8
import Std.Data.TreeMap

/-!
Streams that hold objects: pairs of an object number and an offset, and behind them the objects.
-/

namespace AttachmentIntake.Pdf

abbrev Objects := Std.TreeMap Reference Item

namespace ObjectStream

open Reader Syntax

/-- A number of 32 bits, possibly with a plus sign. -/
def indexNumber? (word : List Char) : Option Nat :=
  let digits := if word.head? = some '+' then word.tail else word
  if digits ≠ [] ∧ digits.all Char.isDigit then
    let n := Bytes.decimal (digits.map fun c => c.toNat.toUInt8)
    if n < Syntax.numberRange then some n else none
  else none

/-- The pairs of an object number and an offset at the front of a stream of objects. Pairs of which
a part is not a number are left out. -/
def indexPairs : List (List Char) → List (Nat × Nat)
  | number :: offset :: words =>
    match indexNumber? number, indexNumber? offset with
    | some n, some o => (n, o) :: indexPairs words
    | _, _ => indexPairs words
  | _ => []

def words (cs : List Char) : List (List Char) :=
  (cs.splitOnP Text.isBlank).filter (· ≠ [])

/-- The objects of a stream of objects, the last of each number. Filters that cannot be removed
leave the bytes as they are. -/
def members? (d : Dictionary) (content : ByteArray) : Option Objects := do
  let content := (Filter.decoded? d content).getD content
  if content.isEmpty then return ∅
  let first ← d.integer? "First"
  if first < 0 ∨ content.size < first then none
  let _ ← d.integer? "N"
  let index ← Text.Utf8.text? (Bytes.slice content 0 first.toNat)
  return (indexPairs (words index)).foldl (fun objects (number, offset) =>
    match direct.at? content (first.toNat + offset) with
    | some o => objects.insert ⟨number, 0⟩ (.value o)
    | none => objects) ∅

end ObjectStream

end AttachmentIntake.Pdf
