import AttachmentIntake.Manifest
import AttachmentIntake.Outcome

/-!
The report on a batch: one verdict for each expected file, grouped as in the manifest. It is what a
client gets back for a rejected batch.
-/

namespace AttachmentIntake

structure FileVerdict where
  /-- The sanitized name from the manifest. -/
  filename : String
  identifier : Identifier
  outcome : Outcome
  category : Category
  deriving DecidableEq

structure GroupVerdict where
  info : GroupInfo
  files : List FileVerdict
  deriving DecidableEq

structure Report where
  groups : List GroupVerdict
  deriving DecidableEq

def GroupVerdict.isAccepted (g : GroupVerdict) : Bool := g.files.all fun f => f.outcome.isOk

def FileVerdict.toJson (f : FileVerdict) : Json.Value :=
  .object [("filename", .text f.filename), ("identifier", .text f.identifier.text),
    ("outcome", .text f.outcome.name), ("category", .text f.category.name)]

def GroupVerdict.toJson (g : GroupVerdict) : Json.Value :=
  .object (g.info.entries ++ [("files", .array (g.files.map FileVerdict.toJson))])

namespace Report

def isAccepted (r : Report) : Bool := r.groups.all GroupVerdict.isAccepted

def rejectedFiles (r : Report) : List (GroupInfo × FileVerdict) :=
  r.groups.flatMap fun g =>
    (g.files.filter fun f => !f.outcome.isOk).map fun f => (g.info, f)

def fileCount (r : Report) : Nat := (r.groups.flatMap (·.files)).length

def toJson (r : Report) : Json.Value :=
  .object [("groups", .array (r.groups.map GroupVerdict.toJson))]

end Report

end AttachmentIntake
