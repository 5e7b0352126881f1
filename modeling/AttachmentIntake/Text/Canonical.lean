import AttachmentIntake.Text.Canonical.Table
import Std.Data.TreeMap

/-!
Canonical composition of text (normalization form C): characters are decomposed, marks are put in
the order of their combining classes, and what can be composed again is.
-/

namespace AttachmentIntake.Text

namespace Canonical

/-! ### The steps of composition -/

/-- What composition goes by. -/
structure Properties where
  /-- The canonical combining class; a character of class zero is a starter. -/
  combiningClass : Char → Nat
  /-- One step of decomposition, for a character that has one. -/
  parts? : Char → Option (List Char)
  /-- The character that two others become. -/
  join? : Char → Char → Option Char

namespace Properties

variable (p : Properties)

def decomposeIn : Nat → Char → List Char
  | 0, c => [c]
  | steps + 1, c =>
    match p.parts? c with
    | some cs => cs.flatMap (decomposeIn steps)
    | none => [c]

/-- The full decomposition; no character needs more than four steps. -/
def decompose (c : Char) : List Char := p.decomposeIn 5 c

/-- Puts a character before marks already in order, behind those of a lower class. -/
def insertMark (m : Char) : List Char → List Char
  | [] => [m]
  | d :: ds =>
    if 0 < p.combiningClass d ∧ p.combiningClass d < p.combiningClass m then d :: insertMark m ds
    else m :: d :: ds

/-- Sorts every run of marks by class; marks of one class keep their order. -/
def orderMarks (cs : List Char) : List Char := cs.foldr p.insertMark []

/-- A character is blocked if the last mark before it is of its class or a higher one. -/
def isBlocked (c : Char) : List Char → Bool
  | [] => false
  | m :: _ => p.combiningClass c ≤ p.combiningClass m

/-- Composes behind a starter. `marks` holds, last first, what stands between the starter and the
rest. -/
def composeAfter (starter : Char) (marks : List Char) : List Char → List Char
  | [] => starter :: marks.reverse
  | c :: cs =>
    match if p.isBlocked c marks then none else p.join? starter c with
    | some joined => composeAfter joined marks cs
    | none =>
      if p.combiningClass c = 0 then starter :: marks.reverse ++ composeAfter c [] cs
      else composeAfter starter (c :: marks) cs

/-- Marks in front of the first starter stay as they are. -/
def composeAll : List Char → List Char
  | [] => []
  | c :: cs => if p.combiningClass c = 0 then p.composeAfter c [] cs else c :: composeAll cs

def compose (cs : List Char) : List Char := p.composeAll (p.orderMarks (cs.flatMap p.decompose))

end Properties

/-! ### Hangul -/

/-- A Hangul syllable is made of a leading consonant, a vowel and possibly a trailing consonant. -/
def isSyllable (c : Char) : Bool := 0xAC00 ≤ c.toNat && c.toNat < 0xAC00 + 11172

/-- The number of the trailing consonant; zero stands for none. -/
def trail (c : Char) : Nat := (c.toNat - 0xAC00) % 28

/-- A leading consonant and a vowel, or a syllable of these and a trailing consonant. -/
def splitSyllable (c : Char) : List Char :=
  if trail c = 0 then
    [Char.ofNat (0x1100 + (c.toNat - 0xAC00) / 588),
      Char.ofNat (0x1161 + (c.toNat - 0xAC00) % 588 / 28)]
  else [Char.ofNat (c.toNat - trail c), Char.ofNat (0x11A7 + trail c)]

def joinSyllable? (a b : Char) : Option Char :=
  if 0x1100 ≤ a.toNat && a.toNat < 0x1113 && 0x1161 ≤ b.toNat && b.toNat < 0x1176 then
    some (Char.ofNat (0xAC00 + ((a.toNat - 0x1100) * 21 + (b.toNat - 0x1161)) * 28))
  else if isSyllable a && trail a = 0 && 0x11A8 ≤ b.toNat && b.toNat < 0x11C3 then
    some (Char.ofNat (a.toNat + (b.toNat - 0x11A7)))
  else none

/-! ### The tables -/

/-- One step of decomposition for each character that has one. -/
def decompositions : Std.TreeMap Nat (List Char) :=
  .ofList (decompositionRows.map fun (c, cs) => (c, cs.map Char.ofNat))

def pairKey (a b : Char) : Nat := a.toNat * 0x200000 + b.toNat

def composition? : Nat × List Nat → Option (Nat × Char)
  | (c, [a, b]) =>
    if c ∈ uncomposed then none else some (pairKey (Char.ofNat a) (Char.ofNat b), Char.ofNat c)
  | _ => none

def compositions : Std.TreeMap Nat Char := .ofList (decompositionRows.filterMap composition?)

def classesOf : Nat × Nat × Nat → List (Nat × Nat)
  | (first, last, k) => (List.range' first (last + 1 - first)).map (·, k)

def classes : Std.TreeMap Nat Nat := .ofList (classRows.flatMap classesOf)

def unicode : Properties where
  combiningClass c := classes[c.toNat]?.getD 0
  parts? c := if isSyllable c then some (splitSyllable c) else decompositions[c.toNat]?
  join? a b := joinSyllable? a b <|> compositions[pairKey a b]?

/-- Characters below U+0300 neither combine nor stand for other characters. -/
def isPlain (c : Char) : Bool := c.toNat < 0x300

def compose (cs : List Char) : List Char := if cs.all isPlain then cs else unicode.compose cs

end Canonical

/-! ### Normal forms -/

/-- The normal form in which texts are compared and kept. -/
class Normalization where
  normalize : List Char → List Char

export Normalization (normalize)

instance : Normalization where
  normalize := Canonical.compose

end AttachmentIntake.Text
