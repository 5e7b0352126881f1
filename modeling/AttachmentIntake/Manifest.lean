import AttachmentIntake.Calendar
import AttachmentIntake.Identifier
import AttachmentIntake.Json.Value

/-!
The manifest of a batch: groups of expected files, each group with the metadata that goes with it
through validation and upload.
-/

namespace AttachmentIntake

inductive OriginEvent where
  | application
  | user
  | documentationRequested
  | documentationRequirement
  deriving DecidableEq, Repr

namespace OriginEvent

def name : OriginEvent → String
  | .application => "soknad"
  | .user => "bruker"
  | .documentationRequested => "dokumentasjonEtterspurt"
  | .documentationRequirement => "dokumentasjonkrav"

def all : List OriginEvent :=
  [.application, .user, .documentationRequested, .documentationRequirement]

end OriginEvent

structure GroupInfo where
  kind : String
  extraInfo : Option String
  deadline : Option Date
  originEvent : Option OriginEvent
  originReference : Option String
  deriving DecidableEq

/-- One file that the manifest says is part of the batch, under the name its user gave it. -/
structure ExpectedFile where
  originalFilename : String
  identifier : Identifier
  deriving DecidableEq

structure UploadGroup where
  info : GroupInfo
  files : List ExpectedFile
  deriving DecidableEq

namespace GroupInfo

def entries (info : GroupInfo) : List (String × Json.Value) :=
  [("type", .text info.kind),
    ("extra_info", Json.ofOption .text info.extraInfo),
    ("submission_deadline", Json.ofOption (fun d => .text d.text) info.deadline),
    ("origin_event_type", Json.ofOption (fun e => .text e.name) info.originEvent),
    ("origin_event_reference", Json.ofOption .text info.originReference)]

def toJson (info : GroupInfo) : Json.Value := .object info.entries

end GroupInfo

def ExpectedFile.toJson (file : ExpectedFile) : Json.Value :=
  .object [("original_filename", .text file.originalFilename),
    ("identifier", .text file.identifier.text)]

def UploadGroup.toJson (group : UploadGroup) : Json.Value :=
  .object [("info", group.info.toJson), ("files", .array (group.files.map ExpectedFile.toJson))]

namespace Manifest

def expectedFiles (groups : List UploadGroup) : List ExpectedFile := groups.flatMap (·.files)

inductive Fault where
  | unreadable (fault : Json.Fault)
  | repeatedIdentifier (identifier : Identifier)
  /-- The short form ends up in file names, so no two identifiers may share it. -/
  | sharedShortForm (earlier identifier : Identifier)
  deriving DecidableEq

def Fault.message : Fault → String
  | .unreadable fault => fault.message
  | .repeatedIdentifier i => s!"identifier '{i.text}' is used more than once"
  | .sharedShortForm earlier i =>
    s!"identifiers '{earlier.text}' and '{i.text}' share the short form '{i.short}'"

/-- The fault of the first file whose identifier is among those seen, or whose short form already
stands for one of them. -/
def identifierFault? (seen : List Identifier) (shortForms : List (String × Identifier)) :
    List ExpectedFile → Option Fault
  | [] => none
  | file :: files =>
    if file.identifier ∈ seen then some (.repeatedIdentifier file.identifier)
    else
      match shortForms.lookup file.identifier.short with
      | some earlier => some (.sharedShortForm earlier file.identifier)
      | none =>
        identifierFault? (file.identifier :: seen)
          ((file.identifier.short, file.identifier) :: shortForms) files

/-- Drops the groups without files and refuses identifiers that would clash. -/
def check (groups : List UploadGroup) : Except Fault (List UploadGroup) :=
  let kept := groups.filter fun g => !g.files.isEmpty
  match identifierFault? [] [] (expectedFiles kept) with
  | some fault => .error fault
  | none => .ok kept

end Manifest

end AttachmentIntake
