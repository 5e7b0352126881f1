import AttachmentIntake.CommandLine.Network
import AttachmentIntake.CommandLine.Run

/-!
The command as a program: arguments, directories and connections of the machine it runs on.
-/

namespace AttachmentIntake.CommandLine

def errorText : IO.Error → String
  | .noFileOrDirectory _ code _ => s!"No such file or directory (os error {code})"
  | .inappropriateType _ code _ => s!"Not a directory (os error {code})"
  | .permissionDenied _ code _ => s!"Permission denied (os error {code})"
  | e => toString e

def content (entry : IO.FS.DirEntry) : IO Directory.Content := do
  match (← entry.path.symlinkMetadata).type with
  | .file => return .file (← IO.FS.readBinFile entry.path)
  | .symlink => return .link
  | _ => return .directory

def readDirectory (path : String) : IO (Except String (List Directory.Entry)) := do
  try
    let entries ← (System.mkFilePath [path]).readDir
    return .ok (← entries.toList.mapM fun entry => do
      return { name := entry.fileName.toUTF8.data.toList, content := ← content entry })
  catch e => return .error (errorText e)

def machine : Surroundings IO :=
  { directory := readDirectory
    transport := fun timeout => pure (.ok (Network.transport timeout)) }

end AttachmentIntake.CommandLine

open AttachmentIntake in
def main (arguments : List String) : IO UInt32 := do
  let output ← CommandLine.run CommandLine.machine "vedlegg-ingest" arguments
  (← IO.getStderr).putStr output.stderr
  (← IO.getStdout).putStr output.stdout
  return output.exit.toUInt32
