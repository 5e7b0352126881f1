import AttachmentIntake.Pdf.CrossReference
import AttachmentIntake.Pdf.Encryption

/-!
Documents: the objects that are found through the cross-reference sections of a file, and the
trailer of the newest section.
-/

namespace AttachmentIntake.Pdf

structure Document where
  objects : Objects
  trailer : Dictionary

namespace Document

open Reader Syntax

def header : Reader Unit := do
  keyword "%PDF-"
  let version ← run fun b => !isLineEnd b
  lineEnd
  if (Text.Utf8.text? version).isNone then failure

/-- How far from the end the end mark is looked for. -/
def tailLength : Nat := 512

/-- How far in front of the end mark the start of the cross-references is looked for. -/
def markReach : Nat := 25

def startReader : Reader Int := do
  keyword "startxref"
  lineEnd
  let _ ← run (· == 0x20)
  let start ← integer
  let _ ← run (· == 0x20)
  lineEnd
  keyword "%%EOF"
  return start

/-- The offset of the newest cross-reference section, which stands at the end. -/
def start? (content : ByteArray) : Option Int := do
  let mark ← Bytes.findLast? (Bytes.ascii "%%EOF") content content.size
  if content.size - tailLength ≤ mark ∧ markReach < mark then
    let i ← Bytes.findLast? (Bytes.ascii "startxref") content content.size
    if mark - markReach ≤ i then startReader.at? content i else none
  else none

/-- Objects as they are found one after the other; those inside streams are kept apart. -/
structure Found where
  objects : Objects
  members : Objects

def Found.add (f : Found) (r : Reference) (i : Item) : Found :=
  match i with
  | .stream d content =>
    if d.hasType "ObjStm" then
      match ObjectStream.members? d content with
      | some members =>
        { objects := f.objects.insert r i
          members := members.foldl (fun all r i => all.insertIfNew r i) f.members }
      | none => f
    else { f with objects := f.objects.insert r i }
  | .value _ => { f with objects := f.objects.insert r i }

/-- All objects under the number that stands in front of each. Those that cannot be read are left
out, and those inside streams replace no others. -/
def objectsOf (content : ByteArray) (table : Table) : Objects :=
  let found := table.foldl (fun found _ entry =>
    match entry with
    | .direct offset _ =>
      match table.itemAt? content offset with
      | some (r, i) => found.add r i
      | none => found
    | .compressed _ _ => found) (⟨∅, ∅⟩ : Found)
  found.members.foldl (fun all r i => all.insertIfNew r i) found.objects

def referenceLimit : Nat := 128

def follow? (doc : Document) : Nat → Object → Option Item
  | 0, .reference _ => none
  | fuel + 1, .reference r =>
    match doc.objects[r]? with
    | some (.value o) => doc.follow? fuel o
    | found => found
  | _, o => some (.value o)

def resolve? (doc : Document) (o : Object) : Option Object :=
  (doc.follow? referenceLimit o).bind Item.value?

def dictionary? (doc : Document) (r : Reference) : Option Dictionary :=
  (doc.objects[r]?.bind Item.value?).bind fun o => (doc.resolve? o).bind Object.dictionary?

def isProtected (doc : Document) : Bool := (doc.trailer.get? "Encrypt").isSome

/-- Whether a protected document can be opened: it has objects, and if its encryption dictionary is
one of them, this is of a known kind. -/
def canOpen (doc : Document) : Bool :=
  !doc.objects.isEmpty &&
    (((doc.trailer.get? "Encrypt").bind Object.reference?).bind doc.dictionary?).all
      (Encryption.isKnown doc.trailer)

/-- Loads a document. What stands in front of its header belongs to no offset. -/
def load? (data : ByteArray) : Option Document := do
  let front := (Bytes.find? (Bytes.ascii "%PDF-") data 0 data.size).getD 0
  let content := data.extract front data.size
  header.at? content 0
  let newest ← Section.newest? content (← start? content)
  let doc := { objects := objectsOf content newest.table, trailer := newest.trailer }
  if doc.isProtected && !doc.canOpen then none else some doc

def catalog? (doc : Document) : Option Dictionary :=
  ((doc.trailer.get? "Root").bind Object.reference?).bind doc.dictionary?

def kids (doc : Document) (node : Reference) : List Object :=
  (((doc.dictionary? node).bind (·.get? "Kids")).bind doc.resolve?).bind Object.array? |>.getD []

def depthLimit : Nat := 256

/-- Whether a page is found among the children, depth first, before the budget of children to look
at is spent. `waiting` holds what is left of the nodes above. -/
def findsPage (doc : Document) : Nat → List Object → List (List Object) → Bool
  | 0, _, _ => false
  | budget + 1, kid :: kids, waiting =>
    match kid.reference? with
    | none => doc.findsPage budget kids waiting
    | some r =>
      match (doc.dictionary? r).bind fun d => (d.get? "Type").bind Object.name? with
      | none => doc.findsPage budget kids waiting
      | some type =>
        if type = Bytes.ascii "Page" then true
        else if type = Bytes.ascii "Pages" ∧ waiting.length < depthLimit then
          doc.findsPage budget (doc.kids r) (if kids.isEmpty then waiting else kids :: waiting)
        else doc.findsPage budget kids waiting
  | budget + 1, [], kids :: waiting => doc.findsPage (budget + 1) kids waiting
  | _ + 1, [], [] => false
termination_by budget _ waiting => (budget, waiting.length)

/-- Whether the page tree has a page. Each object pays for one look at a child. -/
def hasPage (doc : Document) : Bool :=
  match (doc.catalog?.bind (·.get? "Pages")).bind Object.reference? with
  | some root => doc.findsPage doc.objects.size (doc.kids root) []
  | none => false

end Document

end AttachmentIntake.Pdf
