import AttachmentIntake.Batch.Validation
import AttachmentIntake.Digest.Sha512
import AttachmentIntake.Text.Hex

/-!
Accepted batches made ready to be sent on: each file under its final name and with its digest, and
the specification that goes along with them.
-/

namespace AttachmentIntake

structure PreparedFile where
  finalFilename : String
  mimeType : String
  size : Nat
  identifier : Identifier
  /-- The SHA-512 digest of the content in hexadecimal digits. -/
  sha512 : String
  data : ByteArray

structure PreparedGroup where
  info : GroupInfo
  files : List PreparedFile

structure PreparedBatch where
  groups : List PreparedGroup

structure Specification.File where
  filename : String
  sha512 : String
  deriving DecidableEq, Repr

structure Specification.Attachment where
  kind : String
  extraInfo : Option String
  status : String
  files : List Specification.File
  originEvent : Option OriginEvent
  originReference : Option String
  deriving DecidableEq, Repr

/-- A batch as its recipient is told of it, without content. -/
structure Specification where
  attachments : List Specification.Attachment
  deriving DecidableEq, Repr

namespace Specification

/-- The status of every attachment of a prepared batch. -/
def uploadedStatus : String := "LASTET_OPP"

def File.toJson (f : File) : Json.Value :=
  .object [("filnavn", .text f.filename), ("sha512", .text f.sha512)]

def Attachment.toJson (a : Attachment) : Json.Value :=
  .object [("type", .text a.kind),
    ("tilleggsinfo", Json.ofOption .text a.extraInfo),
    ("status", .text a.status),
    ("filer", .array (a.files.map File.toJson)),
    ("hendelsetype", Json.ofOption (fun e => .text e.name) a.originEvent),
    ("hendelsereferanse", Json.ofOption .text a.originReference)]

def toJson (s : Specification) : Json.Value :=
  .object [("vedlegg", .array (s.attachments.map Attachment.toJson))]

end Specification

def digestText (data : ByteArray) : String :=
  String.ofList (Text.Hex.encode (Digest.Sha512.digest data))

variable [Text.Normalization]

/-- A file under its final name, which keeps at most `limit` characters of the one it had. -/
def AcceptedFile.prepare (f : AcceptedFile) (limit : Nat) : PreparedFile :=
  { finalFilename :=
      FileName.finalize f.expected.originalFilename f.category f.expected.identifier limit
    mimeType := f.category.mimeType
    size := f.part.size
    identifier := f.expected.identifier
    sha512 := digestText f.part.data
    data := f.part.data }

def AcceptedBatch.prepare (b : AcceptedBatch) (config : Config) : PreparedBatch :=
  { groups := b.groups.map fun g =>
      { info := g.info, files := g.files.map fun f => f.prepare config.maxBaseNameLength } }

def PreparedFile.toJson (f : PreparedFile) : Json.Value :=
  .object [("final_filename", .text f.finalFilename), ("mimetype", .text f.mimeType),
    ("size", .integer f.size), ("identifier", .text f.identifier.text),
    ("sha512", .text f.sha512)]

def PreparedGroup.toJson (g : PreparedGroup) : Json.Value :=
  .object (g.info.entries ++ [("files", .array (g.files.map PreparedFile.toJson))])

def PreparedFile.specification (f : PreparedFile) : Specification.File :=
  { filename := f.finalFilename, sha512 := f.sha512 }

def PreparedGroup.specification (g : PreparedGroup) : Specification.Attachment :=
  { kind := g.info.kind
    extraInfo := g.info.extraInfo
    status := Specification.uploadedStatus
    files := g.files.map PreparedFile.specification
    originEvent := g.info.originEvent
    originReference := g.info.originReference }

namespace PreparedBatch

def files (b : PreparedBatch) : List PreparedFile := b.groups.flatMap (·.files)

def totalSize (b : PreparedBatch) : Nat := b.files.foldl (fun n f => n + f.size) 0

def specification (b : PreparedBatch) : Specification :=
  { attachments := b.groups.map PreparedGroup.specification }

def toJson (b : PreparedBatch) : Json.Value :=
  .object [("groups", .array (b.groups.map PreparedGroup.toJson))]

end PreparedBatch

end AttachmentIntake
