import AttachmentIntake.Text.Blank

/-!
Host labels outside ASCII written with letters, digits and dashes: the ASCII characters come first,
and each further one follows as its distance from the one before, in order of code points.
-/

namespace AttachmentIntake.Web.Punycode

/-- The first digits of a distance are worth more, the larger the distances have been so far. -/
def threshold (k bias : Nat) : Nat :=
  if k ≤ bias then 1 else if bias + 26 ≤ k then 26 else k - bias

def digit (d : Nat) : Char := Char.ofNat (if d < 26 then 0x61 + d else 0x30 + d - 26)

def reduced (delta k : Nat) : Nat :=
  if 455 < delta then reduced (delta / 35) (k + 36) else k + 36 * delta / (delta + 38)
termination_by delta
decreasing_by exact Nat.div_lt_self (by omega) (by omega)

/-- The bias after a distance, with the number of characters written by then. -/
def adapted (delta count : Nat) (isFirst : Bool) : Nat :=
  let delta := if isFirst then delta / 700 else delta / 2
  reduced (delta + delta / count) 0

/-- A distance as digits of base 36, the least significant first. -/
def digits (bias q k : Nat) : List Char :=
  let t := threshold k bias
  if h : 1 ≤ t ∧ t ≤ 26 ∧ t ≤ q then
    have : (q - t) / (36 - t) < q :=
      Nat.lt_of_le_of_lt (Nat.div_le_self ..) (by omega)
    digit (t + (q - t) % (36 - t)) :: digits bias ((q - t) / (36 - t)) (k + 36)
  else [digit q]
termination_by q

structure State where
  delta : Nat
  bias : Nat
  written : Nat
  output : List Char

def place (label : List Nat) (basic n : Nat) (s : State) : State :=
  label.foldl (fun s c =>
    if c < n then { s with delta := s.delta + 1 }
    else if c = n then
      { delta := 0
        bias := adapted s.delta (s.written + 1) (s.written = basic)
        written := s.written + 1
        output := s.output ++ digits s.bias s.delta 36 }
    else s) s

/-- Takes the code points outside ASCII in increasing order. -/
def placeAll (label : List Nat) (basic : Nat) : List Nat → Nat → State → State
  | [], _, s => s
  | n :: later, next, s =>
    let s := place label basic n { s with delta := s.delta + (n - next) * (s.written + 1) }
    placeAll label basic later (n + 1) { s with delta := s.delta + 1 }

def encode (label : List Char) : List Char :=
  let basic := label.filter fun c => c.toNat < 0x80
  let points := label.map Char.toNat
  let others := ((points.filter fun n => 0x80 ≤ n).mergeSort).eraseDups
  let output := if basic.isEmpty then [] else basic ++ ['-']
  (placeAll points basic.length others 0x80
    { delta := 0, bias := 72, written := basic.length, output }).output

/-! ### Decoding -/

def digitValue? (c : Char) : Option Nat :=
  if 'a' ≤ c ∧ c ≤ 'z' then some (c.toNat - 'a'.toNat)
  else if c.isDigit then some (c.toNat - '0'.toNat + 26)
  else none

/-- Weights of digits have 32 bits. -/
def weightLimit : Nat := 0x100000000

/-- Reads a distance, of which the next digit is worth `weight`, and gives what follows it. -/
def distance? (bias : Nat) : Nat → Nat → List Char → Option (Nat × List Char)
  | _, _, [] => none
  | k, weight, c :: cs => do
    let d ← digitValue? c
    let t := threshold k bias
    if d < t then return (d * weight, cs)
    else if weightLimit ≤ weight * (36 - t) then none
    else
      let (more, rest) ← distance? bias (k + 36) (weight * (36 - t)) cs
      return (d * weight + more, rest)

/-- Puts further characters into a label: the next one is not before place `i` for code point `n`.
Each distance has a digit at least, which bounds their number. -/
def insertAll : Nat → Nat → Nat → Nat → List Char → List Char → Option (List Char)
  | _, _, _, _, label, [] => some label
  | 0, _, _, _, _, _ => none
  | fuel + 1, i, n, bias, label, digits => do
    let (delta, rest) ← distance? bias 36 1 digits
    let count := label.length + 1
    let n := n + (i + delta) / count
    let place := (i + delta) % count
    if h : n.isValidChar then
      let c := Char.ofNatAux n h
      insertAll fuel (place + 1) n (adapted delta count (i = 0))
        (label.take place ++ c :: label.drop place) rest
    else none

def decode? (code : List Char) : Option (List Char) :=
  let (basic, digits) :=
    match Text.splitLast? '-' code with
    | some ([], _) | none => ([], code)
    | some parts => parts
  insertAll digits.length 0 0x80 72 basic digits

end AttachmentIntake.Web.Punycode
