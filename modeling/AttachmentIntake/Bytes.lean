/-!
Search in byte content: where a pattern stands, first or last, and where a run of bytes ends.
-/

namespace AttachmentIntake.Bytes

def ascii (text : String) : List UInt8 := text.toList.map fun c => c.toNat.toUInt8

def standsAt (content : ByteArray) (i : Nat) : List UInt8 → Bool
  | [] => i ≤ content.size
  | b :: pattern => content[i]? == some b && standsAt content (i + 1) pattern

/-- The first of `count` positions from `start` on that satisfies `p`. -/
def firstFrom (p : Nat → Bool) (start : Nat) : Nat → Option Nat
  | 0 => none
  | count + 1 => if p start then some start else firstFrom p (start + 1) count

def lastBelow (p : Nat → Bool) : Nat → Option Nat
  | 0 => none
  | n + 1 => if p n then some n else lastBelow p n

/-- The first occurrence of a pattern that lies wholly between two positions. -/
def find? (pattern : List UInt8) (content : ByteArray) (start stop : Nat) : Option Nat :=
  firstFrom (standsAt content · pattern) start (stop + 1 - pattern.length - start)

/-- The last occurrence of a pattern that ends at or before a position. -/
def findLast? (pattern : List UInt8) (content : ByteArray) (stop : Nat) : Option Nat :=
  lastBelow (standsAt content · pattern) (stop + 1 - pattern.length)

/-- The position of the first byte from `i` on that does not satisfy `p`, or the size. -/
def runEnd (p : UInt8 → Bool) (content : ByteArray) (i : Nat) : Nat :=
  if h : i < content.size then
    if p content[i] then runEnd p content (i + 1) else i
  else i
termination_by content.size - i

def slice (content : ByteArray) (start stop : Nat) : List UInt8 :=
  (content.extract start stop).data.toList

def isDigit (b : UInt8) : Bool := 0x30 ≤ b && b ≤ 0x39

def isHexDigit (b : UInt8) : Bool :=
  isDigit b || (0x41 ≤ b && b ≤ 0x46) || (0x61 ≤ b && b ≤ 0x66)

def hexValue (b : UInt8) : UInt8 :=
  if isDigit b then b - 0x30 else if b ≤ 0x46 then b - 0x37 else b - 0x57

def decimal (digits : List UInt8) : Nat :=
  digits.foldl (fun n b => n * 10 + (b.toNat - 0x30)) 0

end AttachmentIntake.Bytes
