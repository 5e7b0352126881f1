import AttachmentIntake.Scan

/-!
Errors that abort a whole batch. Problems of single files are not among them; they are outcomes in a
report.
-/

namespace AttachmentIntake

inductive BatchError where
  | missingManifest (name : String)
  | malformedManifest (reason : String)
  | emptyBatch
  | tooLarge (count limit : Nat)
  | unmatchedFile (filename : String)
  | missingFile (filename identifier : String)
  | duplicateFile (identifier : String)
  | scanFailure (failure : Scan.Failure)
  | taskFailed (reason : String)
  | io (reason : String)
  deriving DecidableEq, Repr

namespace BatchError

def message : BatchError → String
  | .missingManifest name => s!"Missing {name} in upload"
  | .malformedManifest reason => s!"Malformed manifest: {reason}"
  | .emptyBatch => "No files in upload"
  | .tooLarge count limit => s!"Too many files in upload: {count} (max {limit})"
  | .unmatchedFile filename =>
    s!"Uploaded file '{filename}' does not match any file in the manifest"
  | .missingFile filename identifier =>
    s!"File '{filename}' ({identifier}) is listed in the manifest but was not uploaded"
  | .duplicateFile identifier => s!"More than one uploaded file carries identifier '{identifier}'"
  | .scanFailure failure => s!"Virus scan failed: {failure.message}"
  | .taskFailed reason => s!"Validation task failed: {reason}"
  | .io reason => s!"I/O error: {reason}"

end BatchError

end AttachmentIntake
