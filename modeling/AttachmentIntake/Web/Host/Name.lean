import AttachmentIntake.Text.Canonical
import AttachmentIntake.Text.Table
import AttachmentIntake.Web.Host.Table
import AttachmentIntake.Web.Punycode

/-!
Names of hosts in characters of any script, and the one ASCII form of each. Characters that differ
in case or shape only are taken for the same; names that may not be written at all have no form.
-/

namespace AttachmentIntake.Web.Host.Name

open Text.Table

/-! ### Characters -/

/-- The step between the characters of a range that are replaced, and what the first becomes. -/
def mappings : Ranges (Nat × List Char) :=
  (records mappingTable).foldl (fun ranges (key, value) =>
    let step := if key.contains '/' then 2 else 1
    let (first, last) := bounds (key.replace "/" "-")
    ranges.insert first (last, step, characters value)) ∅

def disallowed : Ranges Unit := .ofTable disallowedTable fun _ => ()

def kinds : Ranges String := .ofTable kindTable id

def joinings : Ranges String := .ofTable joiningTable id

def mapped? (c : Char) : Option (List Char) :=
  match mappings.find? c with
  | some (offset, step, [target]) =>
    if offset % step = 0 then some [Char.ofNat (target.toNat + offset)] else none
  | some (_, _, target) => some target
  | none => none

def replaced? (c : Char) : Option (List Char) :=
  match mapped? c with
  | some target => some target
  | none => if disallowed.contains c then none else some [c]

def isKept (c : Char) : Bool := replaced? c = some [c]

inductive Direction where
  | leftToRight
  | rightToLeft
  | arabicNumber
  | europeanNumber
  | neutral
  | mark
  deriving DecidableEq, Repr

def direction (c : Char) : Direction :=
  match kinds.value? c with
  | some "r" => .rightToLeft
  | some "a" => .arabicNumber
  | some "e" => .europeanNumber
  | some "o" => .neutral
  | some "n" => .mark
  | _ => .leftToRight

def isMark (c : Char) : Bool := kinds.value? c ∈ [some "m", some "n"]

/-! ### Labels -/

/-- Whether the characters of a label keep to one order of writing: that of the first one, with
numbers of one kind, and a letter or a number at the end. -/
def isOrdered (label : List Char) : Bool :=
  let directions := label.map direction
  let last := directions.reverse.dropWhile (· = .mark) |>.head?
  match directions.head? with
  | none => true
  | some .leftToRight =>
    directions.all (· ∈ [.leftToRight, .europeanNumber, .neutral, .mark]) &&
      last ∈ [some .leftToRight, some .europeanNumber]
  | some .rightToLeft =>
    directions.all (· ≠ .leftToRight) &&
      last ∈ [some .rightToLeft, some .arabicNumber, some .europeanNumber] &&
      !(Direction.arabicNumber ∈ directions && Direction.europeanNumber ∈ directions)
  | some _ => false

/-- Whether a label is written from right to left in part. -/
def isMixed (label : List Char) : Bool :=
  label.any fun c => direction c ∈ [.rightToLeft, .arabicNumber]

def isJoined (ways : List String) (cs : List Char) : Bool :=
  match cs.dropWhile fun c => direction c = .mark || joinings.value? c = some "T" with
  | [] => false
  | c :: _ => (joinings.value? c).any (· ∈ ways)

/-- The class of marks that take the vowel out of a syllable. -/
def viramaClass : Nat := 9

def nonJoiner : Char := '\u200C'

def joiner : Char := '\u200D'

/-- Joiners stand behind a virama, and non-joiners also between letters that would be joined;
`before` holds what is before the label, the nearest first. -/
def hasJoinersInPlace (before : List Char) : List Char → Bool
  | [] => true
  | c :: cs =>
    let isBehindVirama := before.head?.any (Text.Canonical.unicode.combiningClass · = viramaClass)
    let isBetweenLetters := isJoined ["L", "D"] before && isJoined ["R", "D"] cs
    (if c = nonJoiner then isBehindVirama || isBetweenLetters
      else if c = joiner then isBehindVirama
      else true) && hasJoinersInPlace (c :: before) cs

def isValid (label : List Char) : Bool :=
  !label.head?.any isMark && hasJoinersInPlace [] label

/-! ### Encoded labels -/

def encodedPrefix : List Char := "xn--".toList

def encodedLimit : Nat := 1000

def decodedLimit : Nat := 2000

def isAscii (label : List Char) : Bool := label.all fun c => c.toNat < 0x80

/-- The characters of a label, which may be encoded. What is encoded has to be outside ASCII in part
and in the form that it would have if it were not encoded. -/
def decoded? (label : List Char) : Option (List Char) :=
  if encodedPrefix.isPrefixOf label then do
    let code := label.drop encodedPrefix.length
    if code.isEmpty || code.getLast? = some '-' || !isAscii code || decodedLimit < code.length then
      none
    else
      let decoded ← Punycode.decode? code
      if decoded.all isKept && Text.Canonical.compose decoded = decoded then some decoded else none
  else some label

def encoded? (label : List Char) : Option (List Char) :=
  if isAscii label then some label
  else if encodedLimit < label.length then none
  else some (encodedPrefix ++ Punycode.encode label)

/-! ### Names -/

def labels? (name : List Char) : Option (List (List Char)) := do
  let replaced ← name.mapM replaced?
  return (Text.Canonical.compose replaced.flatten).splitOn '.'

/-- The ASCII form of a name. If a label is written from right to left in part, every label has to
keep to one order of writing. -/
def ascii? (name : List Char) : Option (List Char) := do
  let labels ← labels? name
  let decoded ← labels.mapM decoded?
  if decoded.all isValid && (!decoded.any isMixed || decoded.all isOrdered) then
    return ['.'].intercalate (← labels.mapM encoded?)
  else none

end AttachmentIntake.Web.Host.Name
