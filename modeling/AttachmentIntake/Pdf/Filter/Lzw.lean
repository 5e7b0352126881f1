import AttachmentIntake.Bytes

/-!
Decompression of LZW data with codes of 9 to 12 bits, the highest bit first. Data without an end
code are taken as far as they go; a code that has no meaning yet gives up what has been written
since the last clear code.
-/

namespace AttachmentIntake.Pdf.Lzw

def clearCode : Nat := 256

def endCode : Nat := 257

def capacity : Nat := 4096

/-- The words that codes from 258 on stand for, the previous word, if there is one since the last
clear code, all that has been written, and how much of it before that clear code. -/
structure State where
  words : Array ByteArray
  last : Option ByteArray
  output : ByteArray
  settled : Nat

def State.cleared (output : ByteArray) : State :=
  { words := #[], last := none, output, settled := output.size }

def State.next (s : State) : Nat := 258 + s.words.size

/-- How wide the next code is. Codes widen one earlier when `early` is set. -/
def State.width (s : State) (early : Bool) : Nat :=
  let next := s.next + if early then 1 else 0
  if next < 512 then 9 else if next < 1024 then 10 else if next < 2048 then 11 else 12

/-- The bits from a position on, the highest first, if there are enough. -/
def code? (data : ByteArray) (position width : Nat) : Option Nat :=
  if position + width ≤ 8 * data.size then
    some ((List.range' position width).foldl (fun n i =>
      2 * n + ((data[i / 8]?.getD 0).toNat >>> (7 - i % 8)) % 2) 0)
  else none

/-- The word of a code; the next free code repeats the last word with its first byte. -/
def State.word? (s : State) (code : Nat) : Option ByteArray :=
  if code < 256 then some (ByteArray.mk #[code.toUInt8])
  else if code < s.next then s.words[code - 258]?
  else if code = s.next then s.last.map fun w => w ++ w.extract 0 1
  else none

def State.put (s : State) (word : ByteArray) : State :=
  let words :=
    match s.last with
    | some last =>
      if s.next < capacity then s.words.push (last ++ word.extract 0 1) else s.words
    | none => s.words
  { s with words, last := some word, output := s.output ++ word }

def run (early : Bool) (data : ByteArray) : Nat → Nat → State → ByteArray
  | 0, _, s => s.output
  | fuel + 1, position, s =>
    match code? data position (s.width early) with
    | none => s.output
    | some code =>
      let position := position + s.width early
      if code = clearCode then run early data fuel position (.cleared s.output)
      else if code = endCode then s.output
      else
        match s.word? code with
        | some word => run early data fuel position (s.put word)
        | none => s.output.extract 0 s.settled

def decode (early : Bool) (data : ByteArray) : ByteArray :=
  run early data (8 * data.size) 0 (.cleared .empty)

end AttachmentIntake.Pdf.Lzw
