import AttachmentIntake.Bytes
import AttachmentIntake.Pdf.Filter.Delivery

/-!
Decompression of zlib data. What has been read before the data end too early is kept; where the data
are at fault, what has been delivered by then is.
-/

namespace AttachmentIntake.Pdf.Deflate

inductive Stop where
  | cutShort
  | corrupt
  deriving DecidableEq, Repr

/-- A point at which reading pauses: how much has been written, and how many bytes of data have been
used. -/
structure Pause where
  written : Nat
  used : Nat

/-- The position of the next bit, counted from the lowest bit of the first byte, the bytes
decompressed so far, and the pauses that were made, the last one first. -/
structure Progress where
  bit : Nat
  output : ByteArray
  pauses : List Pause

def Progress.paused (p : Progress) : Progress :=
  { p with pauses := ⟨p.output.size, (p.bit + 7) / 8⟩ :: p.pauses }

abbrev Inflater := ReaderT ByteArray (ExceptT Stop (StateM Progress))

def corrupt {α : Type} : Inflater α := throw .corrupt

/-- The data are handed over in pieces of this size. -/
def piece : Nat := 32768

/-- Output is handed over in windows of this size. -/
def window : Nat := 32768

/-- Reading pauses in front of a new piece. -/
def bit : Inflater Nat := do
  let position := (← get).bit
  match (← read)[position / 8]? with
  | none => throw .cutShort
  | some b =>
    if position ≠ 0 ∧ position % (8 * piece) = 0 then modify Progress.paused
    modify fun p => { p with bit := position + 1 }
    return (b.toNat >>> (position % 8)) % 2

/-- A number of the given width, its lowest bit first. -/
def bits : Nat → Inflater Nat
  | 0 => return 0
  | n + 1 => do
    let low ← bit
    return low + 2 * (← bits n)

def align : Inflater Unit := modify fun p => { p with bit := (p.bit + 7) / 8 * 8 }

/-- Reading pauses when the window is full and nothing has been taken out of it yet. -/
def makeRoom : Inflater Unit := do
  let size := (← get).output.size
  if size ≠ 0 ∧ size % window = 0 then
    unless (← get).pauses.head?.any (·.written = size) do modify Progress.paused

def emit (b : UInt8) : Inflater Unit := do
  makeRoom
  modify fun p => { p with output := p.output.push b }

/-- A canonical prefix code: how many codes each length has, and the symbols in the order of their
codes. -/
structure Code where
  counts : List Nat
  symbols : Array Nat

namespace Code

def maxLength : Nat := 15

/-- The code whose symbol `i` has length `lengths[i]`, where zero means that it does not occur. -/
def ofLengths (lengths : List Nat) : Code :=
  let numbered := lengths.zipIdx
  { counts := (List.range' 1 maxLength).map fun n => lengths.count n
    symbols := ((List.range' 1 maxLength).flatMap fun n =>
      (numbered.filter fun (length, _) => length = n).map (·.2)).toArray }

def space : Nat := 32768

def used (c : Code) : Nat := c.counts.foldl (fun total n => 2 * (total + n)) 0 / 2

def isComplete (c : Code) : Bool := c.used = space

/-- Whether the code is complete, or of one symbol at most. -/
def isUsable (c : Code) : Bool := c.isComplete || c.symbols.size ≤ 1

/-- Whether no symbol can follow bits that are none themselves. The code of a single symbol consists
of zeros. -/
def isDeadEnd (c : Code) (bits : Nat) : Bool :=
  c.symbols.isEmpty || (c.symbols.size = 1 && bits ≠ 0)

/-- Reads bits until they form a code: among the codes of one length the first is `first`, and the
symbols before theirs are `index` many. -/
def readFrom (c : Code) (code first index : Nat) : List Nat → Inflater Nat
  | [] => corrupt
  | count :: counts => do
    let code := 2 * code + (← bit)
    if code < first + count then
      match c.symbols[index + (code - first)]? with
      | some symbol => return symbol
      | none => corrupt
    else if c.isDeadEnd code then corrupt
    else c.readFrom code (2 * (first + count)) (index + count) counts

def read (c : Code) : Inflater Nat := c.readFrom 0 0 0 c.counts

end Code

/-- The least length of a repetition for each symbol from 257 on, and its number of extra bits. -/
def lengthCodes : List (Nat × Nat) :=
  [(3, 0), (4, 0), (5, 0), (6, 0), (7, 0), (8, 0), (9, 0), (10, 0), (11, 1), (13, 1), (15, 1),
    (17, 1), (19, 2), (23, 2), (27, 2), (31, 2), (35, 3), (43, 3), (51, 3), (59, 3), (67, 4),
    (83, 4), (99, 4), (115, 4), (131, 5), (163, 5), (195, 5), (227, 5), (258, 0)]

/-- The least distance for each symbol, and its number of extra bits. -/
def distanceCodes : List (Nat × Nat) :=
  [(1, 0), (2, 0), (3, 0), (4, 0), (5, 1), (7, 1), (9, 2), (13, 2), (17, 3), (25, 3), (33, 4),
    (49, 4), (65, 5), (97, 5), (129, 6), (193, 6), (257, 7), (385, 7), (513, 8), (769, 8),
    (1025, 9), (1537, 9), (2049, 10), (3073, 10), (4097, 11), (6145, 11), (8193, 12), (12289, 12),
    (16385, 13), (24577, 13)]

def extended (codes : List (Nat × Nat)) (symbol : Nat) : Inflater Nat :=
  match codes[symbol]? with
  | none => corrupt
  | some (least, width) => do return least + (← bits width)

/-- Repeats bytes from a distance back, one after the other; in front of the output lie zeros. -/
def copy (distance : Nat) : Nat → Inflater Unit
  | 0 => return
  | n + 1 => do
    let output := (← get).output
    emit (if distance ≤ output.size then output.get! (output.size - distance) else 0)
    copy distance n

def symbols (lengths distances : Code) : Nat → Inflater Unit
  | 0 => throw .cutShort
  | fuel + 1 => do
    let symbol ← lengths.read
    if symbol < 256 then
      emit symbol.toUInt8
      symbols lengths distances fuel
    else if symbol = 256 then return
    else
      let length ← extended lengthCodes (symbol - 257)
      let distance ← extended distanceCodes (← distances.read)
      copy distance length
      symbols lengths distances fuel

def stored : Nat → Inflater Unit
  | 0 => return
  | n + 1 => do
    makeRoom
    emit (← bits 8).toUInt8
    stored n

def storedBlock : Inflater Unit := do
  align
  let length ← bits 16
  let complement ← bits 16
  if length + complement = 0xFFFF then stored length else corrupt

def fixedLengths : Code :=
  .ofLengths (List.replicate 144 8 ++ List.replicate 112 9 ++ List.replicate 24 7 ++
    List.replicate 8 8)

def fixedDistances : Code := .ofLengths (List.replicate 32 5)

def codeLengths (code : Code) (count : Nat) : Nat → List Nat → Inflater (List Nat)
  | 0, _ => corrupt
  | fuel + 1, done =>
    if done.length = count then return done.reverse
    else if count < done.length then corrupt
    else do
      let symbol ← code.read
      if symbol < 16 then codeLengths code count fuel (symbol :: done)
      else if symbol = 16 then
        match done with
        | [] => corrupt
        | last :: _ =>
          codeLengths code count fuel (List.replicate (3 + (← bits 2)) last ++ done)
      else if symbol = 17 then
        codeLengths code count fuel (List.replicate (3 + (← bits 3)) 0 ++ done)
      else codeLengths code count fuel (List.replicate (11 + (← bits 7)) 0 ++ done)

/-- The order in which the lengths of the codes for code lengths are written. -/
def lengthOrder : List Nat :=
  [16, 17, 18, 0, 8, 7, 9, 6, 10, 5, 11, 4, 12, 3, 13, 2, 14, 1, 15]

def widths : Nat → Inflater (List Nat)
  | 0 => return []
  | n + 1 => do
    let width ← bits 3
    return width :: (← widths n)

def dynamicCodes : Inflater (Code × Code) := do
  let lengthCount := 257 + (← bits 5)
  let distanceCount := 1 + (← bits 5)
  let widthCount := 4 + (← bits 4)
  if 286 < lengthCount ∨ 30 < distanceCount then corrupt
  let written := lengthOrder.zip (← widths widthCount)
  let code := Code.ofLengths ((List.range 19).map fun i => (written.lookup i).getD 0)
  unless code.isComplete do corrupt
  let count := lengthCount + distanceCount
  let lengths ← codeLengths code count (count + 1) []
  let literals := Code.ofLengths (lengths.take lengthCount)
  let distances := Code.ofLengths (lengths.drop lengthCount)
  unless literals.isUsable && distances.isUsable do corrupt
  return (literals, distances)

def blocks (symbolFuel : Nat) : Nat → Inflater Unit
  | 0 => throw .cutShort
  | fuel + 1 => do
    let isLast ← bit
    match ← bits 2 with
    | 0 => storedBlock
    | 1 => symbols fixedLengths fixedDistances symbolFuel
    | 2 =>
      let (lengths, distances) ← dynamicCodes
      symbols lengths distances symbolFuel
    | _ => corrupt
    if isLast = 0 then blocks symbolFuel fuel

/-- The two running sums of a check, modulo the largest prime below 65536. -/
def checksum (output : ByteArray) : Nat :=
  let (a, b) := output.foldl (fun (a, b) byte =>
    let a := (a + byte.toNat) % 65521
    (a, (b + a) % 65521)) (1, 0)
  b * 65536 + a

/-- The header names the method, a window of at most 32 KiB and no preset dictionary. -/
def header : Inflater Unit := do
  let method ← bits 8
  let flags ← bits 8
  unless (method * 256 + flags) % 31 = 0 && flags &&& 32 = 0 && method % 16 = 8 &&
      method / 16 ≤ 7 do
    corrupt

def inflate (symbolFuel : Nat) : Inflater Unit := do
  header
  blocks symbolFuel symbolFuel
  align
  let b3 ← bits 8
  let b2 ← bits 8
  let b1 ← bits 8
  let b0 ← bits 8
  unless ((b3 * 256 + b2) * 256 + b1) * 256 + b0 = checksum (← get).output do corrupt

/-- The stages between the pauses, of which the first starts where `written` bytes were written. -/
def stages (dataSize : Nat) : Nat → List Pause → List Delivery.Stage
  | _, [] => []
  | written, pause :: later =>
    { size := pause.written - written
      isDrained := pause.used % piece = 0 || pause.used = dataSize } ::
      stages dataSize pause.written later

/-- Data that end too early are at fault only if reading went on after all of them were used. Every
symbol and block is at least one bit long, which bounds their number. -/
def decode (data : ByteArray) : ByteArray :=
  let (result, p) :=
    (inflate (8 * data.size + 1) data).run.run { bit := 0, output := .empty, pauses := [] }
  let isFaulty : Bool :=
    match result with
    | .ok () => false
    | .error .cutShort => p.pauses.head?.any (·.used = data.size)
    | .error .corrupt => true
  if isFaulty then
    p.output.extract 0 (Delivery.delivered data.size (stages data.size 0 p.pauses.reverse))
  else p.output

end AttachmentIntake.Pdf.Deflate
