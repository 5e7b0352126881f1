import AttachmentIntake.Json.Reader

/-!
The body of a scan service's answer: a list of results, each with the name of a file and its
status.
-/

namespace AttachmentIntake.Scan

inductive Status where
  | ok
  | found
  | error
  /-- Any status that the service may add later. -/
  | other
  deriving DecidableEq, Repr

def Status.name : Status → String
  | .ok => "OK"
  | .found => "FOUND"
  | .error => "ERROR"
  | .other => "UNKNOWN"

def Status.ofName (name : String) : Status :=
  (([.ok, .found, .error] : List Status).find? fun s => s.name = name).getD .other

structure Result where
  filename : Option String
  status : Status
  deriving DecidableEq, Repr

namespace Result

open Json (Reader)

def readStatus : Reader Status := Reader.variantWith fun name => .ok (Status.ofName name)

structure Fields where
  filename : Option (Option String) := none
  status : Option Status := none

def readField (fields : Fields) (key : String) : Reader Fields :=
  if key = "Filename" then do
    let v ← Reader.field "Filename" fields.filename (Reader.optional Reader.text)
    pure { fields with filename := v }
  else if key = "Result" then do
    let v ← Reader.field "Result" fields.status readStatus
    pure { fields with status := v }
  else do
    Reader.skipEntry
    pure fields

def fromObject : Reader Result := do
  let fields ← Reader.entries readField {}
  let status ← Reader.required "Result" fields.status
  pure { filename := fields.filename.join, status }

def whole : String := "struct ScanResult with 2 elements"

def fromList : Reader Result := do
  let filename ← Reader.nextItem true (Reader.optional Reader.text)
  match ← Reader.nextItem filename.isNone readStatus with
  | none => Reader.refuse (.wrongLength 1 whole)
  | some status => pure { filename := filename.join, status }

def read : Reader Result := Reader.record "struct ScanResult" fromList fromObject

def parse (body : List UInt8) : Except Json.Fault (List Result) :=
  Json.document (Reader.list read) body

end Result

end AttachmentIntake.Scan
