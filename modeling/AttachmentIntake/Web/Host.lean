import AttachmentIntake.Web.Host.Name
import AttachmentIntake.Web.Percent

/-!
Hosts of web addresses: names, addresses of four bytes and addresses of eight groups in brackets,
each in the one form that it is written in.
-/

namespace AttachmentIntake.Web.Host

/-- A number of a host of four bytes: decimal, octal after `0` or hexadecimal after `0x`. -/
def hostNumber? (cs : List Char) : Option Nat :=
  let value (base : Nat) (digits : List Char) : Option Nat :=
    digits.foldlM (fun n c =>
      let b := c.toNat.toUInt8
      if Bytes.isHexDigit b && (Bytes.hexValue b).toNat < base then
        some (n * base + (Bytes.hexValue b).toNat)
      else none) 0
  match cs with
  | [] => none
  | '0' :: 'x' :: digits | '0' :: 'X' :: digits => value 16 digits
  | '0' :: digits => value 8 digits
  | digits => value 10 digits

def labels (host : List Char) : List (List Char) :=
  match (host.splitOn '.').reverse with
  | [] :: last :: before => (last :: before).reverse
  | others => others.reverse

/-- Whether a host must be an address of four bytes, as its last label is a number. -/
def endsInNumber (host : List Char) : Bool :=
  match (labels host).getLast? with
  | none | some [] => false
  | some last => last.all Char.isDigit || (hostNumber? last).isSome

/-- Up to four numbers, of which the last one fills the bytes that are left. -/
def ipv4? (parts : List (List Char)) : Option Nat := do
  let whole (front : List Nat) (last room : Nat) : Option Nat :=
    if front.all (· < 256) && last < room then
      some (front.foldl (fun n b => n * 256 + b) 0 * room + last)
    else none
  match ← parts.mapM hostNumber? with
  | [last] => whole [] last 0x100000000
  | [a, last] => whole [a] last 0x1000000
  | [a, b, last] => whole [a, b] last 0x10000
  | [a, b, c, last] => whole [a, b, c] last 0x100
  | _ => none

def ipv4Text (n : Nat) : String :=
  ".".intercalate ([n / 0x1000000, n / 0x10000, n / 0x100, n].map fun b => toString (b % 256))

def ipv6Piece? (cs : List Char) : Option Nat :=
  if cs.isEmpty || 4 < cs.length then none
  else cs.foldlM (fun n c =>
    let b := c.toNat.toUInt8
    if c.toNat < 0x80 && Bytes.isHexDigit b then some (n * 16 + (Bytes.hexValue b).toNat)
    else none) 0

def decimalByte? (cs : List Char) : Option Nat :=
  let n := Bytes.decimal (cs.map fun c => c.toNat.toUInt8)
  let isPadded := cs.head? = some '0' && 1 < cs.length
  if cs.isEmpty || !cs.all Char.isDigit || isPadded || 255 < n then none else some n

/-- Groups between colons; the last one may be four decimal bytes. -/
def ipv6Pieces? : List (List Char) → Option (List Nat)
  | [] => some []
  | [last] =>
    if last.contains '.' then do
      match ← (last.splitOn '.').mapM decimalByte? with
      | [a, b, c, d] => some [a * 256 + b, c * 256 + d]
      | _ => none
    else (ipv6Piece? last).map ([·])
  | piece :: pieces => do return (← ipv6Piece? piece) :: (← ipv6Pieces? pieces)

def splitDouble : List Char → Option (List Char × List Char)
  | ':' :: ':' :: rest => some ([], rest)
  | c :: rest => (splitDouble rest).map fun (a, b) => (c :: a, b)
  | [] => none

def pieces? (cs : List Char) : Option (List Nat) :=
  if cs.isEmpty then some [] else ipv6Pieces? (cs.splitOn ':')

/-- Eight groups, of which a double colon stands for one or more zeros. -/
def ipv6? (cs : List Char) : Option (List Nat) :=
  match splitDouble cs with
  | none => (pieces? cs).filter (·.length = 8)
  | some (front, back) =>
    if front.contains '.' then none
    else do
      let a ← pieces? front
      let b ← pieces? back
      if a.length + b.length ≤ 7 then
        some (a ++ List.replicate (8 - a.length - b.length) 0 ++ b)
      else none

def hexText (n : Nat) : String := String.ofList (Nat.toDigits 16 n)

/-- The length of the run of zeros at each group. -/
def zeroRuns : List Nat → List Nat
  | [] => []
  | n :: ns =>
    let runs := zeroRuns ns
    (if n = 0 then 1 + runs.head?.getD 0 else 0) :: runs

/-- The first longest run of two or more zeros is written as a double colon. -/
def ipv6Text (pieces : List Nat) : String :=
  let runs := zeroRuns pieces
  let longest := runs.foldl max 0
  let joined (ns : List Nat) : String := ":".intercalate (ns.map hexText)
  if longest < 2 then joined pieces
  else
    let start := runs.findIdx (· = longest)
    joined (pieces.take start) ++ "::" ++ joined (pieces.drop (start + longest))

def forbidden : List Char :=
  ['\x00', '\t', '\n', '\r', ' ', '#', '/', ':', '<', '>', '?', '@', '[', '\\', ']', '^', '|']

def isForbiddenInDomain (c : Char) : Bool :=
  c.toNat < 0x20 || c.toNat = 0x7F || c = '%' || c ∈ forbidden

/-- A name, or an address of four bytes in any of its forms. -/
def domain? (cs : List Char) : Option String := do
  let name ← Name.ascii? (Text.Utf8.decodeLossy (Percent.bytes cs))
  if name.isEmpty || name.any isForbiddenInDomain then none
  else if endsInNumber name then (ipv4? (labels name)).map ipv4Text
  else some (String.ofList name)

def bracketed? (cs : List Char) : Option String :=
  if cs.getLast? = some ']' then (ipv6? cs.dropLast).map fun p => "[" ++ ipv6Text p ++ "]" else none

def read? (isSpecial : Bool) (cs : List Char) : Option String :=
  match cs with
  | '[' :: rest => bracketed? rest
  | _ =>
    if isSpecial then domain? cs
    else if cs.any fun c => c ∈ forbidden then none
    else some (String.ofList (Percent.escape [] cs))

end AttachmentIntake.Web.Host
