import AttachmentIntake.Bytes

/-!
Binary data as printable characters, five digits for four bytes. The data end at the first byte that
is neither a digit nor white space nor the short form of four zero bytes.
-/

namespace AttachmentIntake.Pdf.Base85

/-- The four bytes of a group, the highest first. A group is worth less than four bytes can hold. -/
def groupBytes? (value : Nat) : Option (List UInt8) :=
  if value < 0x100000000 then
    some ([value >>> 24, value >>> 16, value >>> 8, value].map Nat.toUInt8)
  else none

/-- A group that is not full is filled up with the last digit, and gives one byte less than it has
digits. -/
def lastBytes? (value count : Nat) : Option (List UInt8) :=
  if count = 0 then some []
  else (groupBytes? ((List.range (5 - count)).foldl (fun v _ => v * 85 + 84) value)).map
    (List.take (count - 1))

def isSkipped (b : UInt8) : Bool :=
  b = 0x20 || b = 0x09 || b = 0x0A || b = 0x0C || b = 0x0D

def isDigit (b : UInt8) : Bool := 0x21 ≤ b && b ≤ 0x75

/-- Reads up to the end of the data. A `z` between groups stands for four zero bytes; `value` and
`count` are those of the group being read. -/
def decodeFrom (value count : Nat) (done : List UInt8) : List UInt8 → Option (List UInt8)
  | [] => (lastBytes? value count).map fun last => done.reverse ++ last
  | b :: bytes =>
    if isSkipped b then decodeFrom value count done bytes
    else if isDigit b then
      let value := value * 85 + (b.toNat - 0x21)
      if count = 4 then
        match groupBytes? value with
        | some group => decodeFrom 0 0 (group.reverse ++ done) bytes
        | none => none
      else decodeFrom value (count + 1) done bytes
    else if b = 0x7A then
      if count = 0 then decodeFrom 0 0 (0 :: 0 :: 0 :: 0 :: done) bytes else none
    else (lastBytes? value count).map fun last => done.reverse ++ last

def decode (data : ByteArray) : Option ByteArray :=
  (decodeFrom 0 0 [] data.data.toList).map fun bytes => ByteArray.mk bytes.toArray

end AttachmentIntake.Pdf.Base85
