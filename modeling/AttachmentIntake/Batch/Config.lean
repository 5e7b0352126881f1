/-!
The limits under which batches are taken in, and their production values.
-/

namespace AttachmentIntake

namespace Limits

/-- The reserved name of the part that carries the manifest, compared with case. -/
def manifestName : String := "metadata.json"

/-- How many files besides the manifest a batch may have. -/
def fileCount : Nat := 30

def fileSize : Nat := 10 * 1024 * 1024

def baseNameLength : Nat := 50

def concurrency : Nat := 8

end Limits

structure Config where
  manifestName : String
  maxFileCount : Nat
  maxFileSize : Nat
  maxBaseNameLength : Nat
  /-- How many validations run at once; no result depends on it. -/
  concurrency : Nat
  deriving DecidableEq, Repr

def Config.production : Config :=
  { manifestName := Limits.manifestName
    maxFileCount := Limits.fileCount
    maxFileSize := Limits.fileSize
    maxBaseNameLength := Limits.baseNameLength
    concurrency := Limits.concurrency }

end AttachmentIntake
