import AttachmentIntake.Pdf.ObjectStream

/-!
Cross-reference sections: where in a document its indirect objects stand, as a table or as a stream,
together with the trailer dictionary, and the objects that are found through them.
-/

namespace AttachmentIntake.Pdf

inductive Entry where
  | direct (offset generation : Nat)
  /-- An object inside a stream of objects; it is found with that stream. -/
  | compressed (stream index : Nat)
  deriving Repr

abbrev Table := Std.TreeMap Nat Entry

/-- Adds the entries of an older section, which never replace newer ones. -/
def Table.withOlder (newer older : Table) : Table :=
  older.foldl (fun table number entry => table.insertIfNew number entry) newer

def Table.offset? (t : Table) (r : Reference) : Option Nat :=
  match t[r.number]? with
  | some (.direct offset generation) => if generation = r.generation then some offset else none
  | _ => none

/-- Reads the indirect object at an offset. Lengths by reference are looked up in the table, unless
that needs a reference that is being looked up already; those inside a stream of objects are taken
from there by their number. -/
def item? (content : ByteArray) (table : Table) :
    Nat → List Reference → Nat → Option (Reference × Item)
  | 0, _, _ => none
  | fuel + 1, pending, offset =>
    if content.size < offset then none
    else
      let find? (pending : List Reference) (r : Reference) : Option Item :=
        if pending.contains r then none
        else do
          let offset ← table.offset? r
          let (found, item) ← item? content table fuel (r :: pending) offset
          if found = r then some item else none
      let target? (r : Reference) : Option Item :=
        match table[r.number]? with
        | some (.compressed stream _) =>
          if pending.contains r then none
          else
            match find? (r :: pending) ⟨stream, 0⟩ with
            | some (.stream d bytes) => (ObjectStream.members? d bytes).bind (·[r]?)
            | _ => none
        | _ => find? pending r
      let lengthAt? (r : Reference) : Option Int :=
        ((target? r).bind Item.value?).bind Object.integer?
      (do return (← Syntax.itemHead, ← Syntax.item lengthAt?) : Reader _).at? content offset

/-- The indirect object at an offset. A chain of references visits each entry once at most. -/
def Table.itemAt? (t : Table) (content : ByteArray) (offset : Nat) : Option (Reference × Item) :=
  item? content t (t.size + 2) [] offset

structure Section where
  table : Table
  trailer : Dictionary

namespace Section

open Reader Syntax

def sizeLimit : Nat := 0x10000000000000000

/-- Offset, generation and whether the entry is in use, with a line end of two characters. -/
def tableEntry : Reader (Nat × Nat × Bool) := do
  let offset ← natural numberRange
  keyword " "
  let generation ← natural numberRange
  keyword " "
  let inUse ← (do keyword "n"; return true) <|> (do keyword "f"; return false)
  keyword " \r" <|> keyword " \n" <|> keyword "\r\n"
  return (offset, generation, inUse)

/-- The number of the first object and the entries that follow; their announced count is not
relied upon. -/
def subsection : Reader (Nat × List (Nat × Nat × Bool)) := do
  let start ← natural sizeLimit
  keyword " "
  let _ ← natural numberRange
  optionally (keyword " ")
  lineEnd
  return (start, ← all tableEntry)

/-- Adds the used entries of a subsection, of which later ones replace earlier ones. -/
def addSubsection (table : Table) (s : Nat × List (Nat × Nat × Bool)) : Table :=
  s.2.zipIdx.foldl (fun table ((offset, generation, inUse), i) =>
    if inUse && generation < generationRange then
      table.insert ((s.1 + i) % numberRange) (.direct offset generation)
    else table) table

def ofTable : Reader Section := do
  keyword "xref"
  lineEnd
  let subsections ← all subsection
  if subsections.isEmpty then failure
  space
  keyword "trailer"
  space
  let trailer ← directDictionary
  let _ ← (trailer.integer? "Size").elim failure pure
  return { table := subsections.foldl addSubsection ∅, trailer }

def integers? (o : Object) : Option (List Int) := o.array?.bind (·.mapM Object.integer?)

/-- A number of the given width, the highest byte first, of which 32 bits count. -/
def field (width : Nat) : Reader Nat := fun content i =>
  if i + width ≤ content.size then
    let bytes := Bytes.slice content i (i + width)
    some (bytes.foldl (fun n b => (n * 256 + b.toNat) % numberRange) 0, i + width)
  else none

structure Widths where
  kind : Nat
  first : Nat
  second : Nat

def Widths.ofArray? : List Int → Option Widths
  | .ofNat kind :: .ofNat first :: .ofNat second :: _ => some ⟨kind, first, second⟩
  | _ => none

/-- Kind 0 is free, 1 in use and 2 compressed; of other kinds nothing more is read. An entry without
a kind is in use. -/
def streamEntry (w : Widths) : Reader (Option Entry) := do
  let kind ← if w.kind = 0 then pure 1 else field w.kind
  if kind = 0 then
    let _ ← field w.first
    let _ ← field w.second
    return none
  else if kind = 1 then
    let offset ← field w.first
    let generation ← field w.second
    return some (.direct offset (generation % generationRange))
  else if kind = 2 then
    let stream ← field w.first
    let index ← field w.second
    return some (.compressed stream (index % generationRange))
  else return none

def streamEntries (w : Widths) (number : Int) : Nat → Table → Reader Table
  | 0, table => return table
  | count + 1, table => do
    match ← streamEntry w with
    | none => streamEntries w (number + 1) count table
    | some e => streamEntries w (number + 1) count (table.insert (number % numberRange).toNat e)

def streamRuns (w : Widths) : List Int → Table → Reader Table
  | start :: count :: index, table => do
    streamRuns w index (← streamEntries w start count.toNat table)
  | _, table => return table

/-- Reads a section from a stream, whose dictionary is also the trailer. -/
def ofStream? (d : Dictionary) (content : ByteArray) : Option Section := do
  let content ← if (d.get? "Filter").isSome then Filter.decoded? d content else some content
  let size ← d.integer? "Size"
  let index := ((d.get? "Index").bind integers?).getD [0, size]
  let widths ← ((d.get? "W").bind integers?).bind Widths.ofArray?
  let table ← (streamRuns widths index ∅).at? content 0
  return { table, trailer := d }

def at? (content : ByteArray) (offset : Nat) : Option Section :=
  match ofTable.at? content offset with
  | some s => some s
  | none =>
    match Table.itemAt? ∅ content offset with
    | some (_, .stream d bytes) => ofStream? d bytes
    | _ => none

def atInteger? (content : ByteArray) (offset : Int) : Option Section :=
  if 0 ≤ offset ∧ offset ≤ content.size then at? content offset.toNat else none

/-- Adds the sections that are reached from `previous` on, up to one that was seen before. The
stream that a newest section names beside its table is read after the first of them. -/
def withPrevious (content : ByteArray) (newest : Section) (hybrid : Option Int) :
    Nat → List Int → Option Int → Option Section
  | 0, _, _ => none
  | _, _, none => some newest
  | fuel + 1, seen, some previous =>
    if seen.contains previous then some newest
    else do
      let older ← atInteger? content previous
      let table := newest.table.withOlder older.table
      let table ← match hybrid with
        | none => some table
        | some offset => (atInteger? content offset).map fun s => table.withOlder s.table
      withPrevious content { newest with table } none fuel (previous :: seen)
        (older.trailer.integer? "Prev")

/-- The newest section with all older ones added. The last object number of all stays free. -/
def newest? (content : ByteArray) (start : Int) : Option Section := do
  let newest ← atInteger? content start
  let whole ← withPrevious content newest (newest.trailer.integer? "XRefStm") (content.size + 3) []
    (newest.trailer.integer? "Prev")
  if whole.table.maxKey? = some (numberRange - 1) then none else some whole

end Section

end AttachmentIntake.Pdf
