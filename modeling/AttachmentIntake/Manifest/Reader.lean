import AttachmentIntake.Event
import AttachmentIntake.Json.Reader
import AttachmentIntake.Manifest

/-!
Reading of a manifest from JSON. Every field but the type goes by two names, and a group or a file
may also be written as the list of its fields in order.
-/

namespace AttachmentIntake.Manifest

open Json (Reader)

def readIdentifier : Reader Identifier := do
  match Identifier.ofText (← Reader.text) with
  | .ok i => pure i
  | .error fault => Reader.refuse (.refused fault.message)

def readDate : Reader Date := Reader.placed do
  match Date.parse (← Reader.textAs "a formatted date string") with
  | .ok d => pure d
  | .error fault => Reader.refuse (.refused fault.message)

def readOriginEvent : Reader OriginEvent :=
  Reader.variantWith (Json.variant (OriginEvent.all.map fun e => (e.name, e)))

/-! ### Files -/

structure FileFields where
  originalFilename : Option String := none
  identifier : Option Identifier := none

def readFileField (fields : FileFields) (key : String) : Reader FileFields :=
  if key = "original_filename" ∨ key = "filnavn" then do
    let v ← Reader.field "original_filename" fields.originalFilename Reader.text
    pure { fields with originalFilename := v }
  else if key = "identifier" ∨ key = "uuid" then do
    let v ← Reader.field "identifier" fields.identifier readIdentifier
    pure { fields with identifier := v }
  else do
    Reader.skipEntry
    pure fields

def fileFromObject : Reader ExpectedFile := do
  let fields ← Reader.entries readFileField {}
  let originalFilename ← Reader.required "original_filename" fields.originalFilename
  let identifier ← Reader.required "identifier" fields.identifier
  pure { originalFilename, identifier }

def wholeFile : String := "struct ExpectedFile with 2 elements"

def fileFromList : Reader ExpectedFile := do
  match ← Reader.nextItem true Reader.text with
  | none => Reader.refuse (.wrongLength 0 wholeFile)
  | some originalFilename =>
    match ← Reader.nextItem false readIdentifier with
    | none => Reader.refuse (.wrongLength 1 wholeFile)
    | some identifier => pure { originalFilename, identifier }

def readFile : Reader ExpectedFile :=
  Reader.record "struct ExpectedFile" fileFromList fileFromObject

/-! ### Groups -/

structure GroupFields where
  kind : Option String := none
  extraInfo : Option (Option String) := none
  deadline : Option (Option Date) := none
  originEvent : Option (Option OriginEvent) := none
  originReference : Option (Option String) := none
  files : Option (List ExpectedFile) := none

def readGroupField (fields : GroupFields) (key : String) : Reader GroupFields :=
  if key = "type" then do
    let v ← Reader.field "type" fields.kind Reader.text
    pure { fields with kind := v }
  else if key = "extra_info" ∨ key = "tilleggsinfo" then do
    let v ← Reader.field "extra_info" fields.extraInfo (Reader.optional Reader.text)
    pure { fields with extraInfo := v }
  else if key = "submission_deadline" ∨ key = "innsendelsesfrist" then do
    let v ← Reader.field "submission_deadline" fields.deadline (Reader.optional readDate)
    pure { fields with deadline := v }
  else if key = "origin_event_type" ∨ key = "hendelsetype" then do
    let v ← Reader.field "origin_event_type" fields.originEvent (Reader.optional readOriginEvent)
    pure { fields with originEvent := v }
  else if key = "origin_event_reference" ∨ key = "hendelsereferanse" then do
    let v ← Reader.field "origin_event_reference" fields.originReference
      (Reader.optional Reader.text)
    pure { fields with originReference := v }
  else if key = "files" ∨ key = "filer" then do
    let v ← Reader.field "files" fields.files (Reader.list readFile)
    pure { fields with files := v }
  else do
    Reader.skipEntry
    pure fields

/-- The group that the fields give; all but the type may be missing. -/
def GroupFields.group (fields : GroupFields) (kind : String) : UploadGroup :=
  { info := {
      kind
      extraInfo := fields.extraInfo.join
      deadline := fields.deadline.join
      originEvent := fields.originEvent.join
      originReference := fields.originReference.join }
    files := fields.files.getD [] }

def groupFromObject : Reader UploadGroup := do
  let fields ← Reader.entries readGroupField {}
  let kind ← Reader.required "type" fields.kind
  pure (fields.group kind)

def groupFromList : Reader UploadGroup := do
  match ← Reader.nextItem true Reader.text with
  | none => Reader.refuse (.wrongLength 0 "struct ManifestGroup with 6 elements")
  | some kind =>
    let extraInfo ← Reader.nextItem false (Reader.optional Reader.text)
    let deadline ← Reader.nextItem false (Reader.optional readDate)
    let originEvent ← Reader.nextItem false (Reader.optional readOriginEvent)
    let originReference ← Reader.nextItem false (Reader.optional Reader.text)
    let files ← Reader.nextItem false (Reader.list readFile)
    let fields : GroupFields := { extraInfo, deadline, originEvent, originReference, files }
    pure (fields.group kind)

def readGroup : Reader UploadGroup :=
  Reader.record "struct ManifestGroup" groupFromList groupFromObject

/-- The groups as written, before any check across them. -/
def readGroups (bytes : List UInt8) : Except Json.Fault (List UploadGroup) :=
  Json.document (Reader.list readGroup) bytes

def parse (bytes : List UInt8) : Except Fault (List UploadGroup) :=
  match readGroups bytes with
  | .error fault => .error (.unreadable fault)
  | .ok groups => check groups

def parsedEvent (groups : List UploadGroup) : Event :=
  { level := .debug
    message := "Parsed upload manifest"
    fields := [("groups", toString groups.length),
      ("files", toString (expectedFiles groups).length)] }

end AttachmentIntake.Manifest
