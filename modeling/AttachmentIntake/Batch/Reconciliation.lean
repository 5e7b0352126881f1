import AttachmentIntake.Batch.Config
import AttachmentIntake.Batch.Error
import AttachmentIntake.Manifest
import AttachmentIntake.Part

/-!
The binding of uploaded parts to the files that a manifest expects. It is all or nothing: each part
belongs to one expected file, and each expected file has one part.
-/

namespace AttachmentIntake

structure BoundFile where
  expected : ExpectedFile
  part : Part

structure BoundGroup where
  info : GroupInfo
  files : List BoundFile

structure BoundBatch where
  groups : List BoundGroup

namespace BoundBatch

def files (b : BoundBatch) : List BoundFile := b.groups.flatMap (·.files)

def fileCount (b : BoundBatch) : Nat := b.files.length

end BoundBatch

namespace Reconciliation

/-- The first part that has the name of the manifest. -/
def manifestPart (config : Config) (parts : List Part) : Except BatchError Part :=
  match parts.find? fun p => p.filename = config.manifestName with
  | some part => .ok part
  | none => .error (.missingManifest config.manifestName)

/-- The parts that are not named like the manifest. -/
def filesOf (config : Config) (parts : List Part) : List Part :=
  parts.filter fun p => p.filename ≠ config.manifestName

/-- Parts by the token that ties them to an expected file. -/
abbrev Uploads := List (String × Part)

/-- Adds the parts in the order of upload, each under an expected identifier that no earlier part
carries. -/
def collect (known : List String) : Uploads → List Part → Except BatchError Uploads
  | uploads, [] => .ok uploads
  | uploads, part :: parts =>
    if part.token ∉ known then .error (.unmatchedFile part.filename)
    else
      match uploads.lookup part.token with
      | some _ => .error (.duplicateFile part.token)
      | none => collect known ((part.token, part) :: uploads) parts

def take (uploads : Uploads) (expected : ExpectedFile) : Except BatchError (BoundFile × Uploads) :=
  match uploads.lookup expected.identifier.text with
  | some part =>
    .ok ({ expected, part }, uploads.filter fun u => u.1 ≠ expected.identifier.text)
  | none =>
    .error (.missingFile expected.originalFilename expected.identifier.text)

def bindFiles : Uploads → List ExpectedFile → Except BatchError (List BoundFile × Uploads)
  | uploads, [] => .ok ([], uploads)
  | uploads, expected :: later => do
    let (file, uploads) ← take uploads expected
    let (files, uploads) ← bindFiles uploads later
    return (file :: files, uploads)

def bindGroups : Uploads → List UploadGroup → Except BatchError (List BoundGroup)
  | _, [] => .ok []
  | uploads, group :: later => do
    let (files, uploads) ← bindFiles uploads group.files
    let groups ← bindGroups uploads later
    return { info := group.info, files } :: groups

def identifiers (groups : List UploadGroup) : List String :=
  (Manifest.expectedFiles groups).map fun f => f.identifier.text

end Reconciliation

open Reconciliation in
/-- Binds every part to an expected file. The number of parts is looked at first, then each part in
the order of upload, then each expected file in manifest order. -/
def reconcile (config : Config) (parts : List Part) (groups : List UploadGroup) :
    Except BatchError BoundBatch := do
  let files := filesOf config parts
  if files.isEmpty then throw .emptyBatch
  if config.maxFileCount < files.length then throw (.tooLarge files.length config.maxFileCount)
  let uploads ← collect (identifiers groups) [] files
  return { groups := ← bindGroups uploads groups }

end AttachmentIntake
