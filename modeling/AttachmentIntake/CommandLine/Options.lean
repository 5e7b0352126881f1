import AttachmentIntake.Number.Natural

/-!
The arguments of the command: one directory, and options that may be given more than once, of which
the last one counts.
-/

namespace AttachmentIntake.CommandLine

structure Options where
  directory : String
  scannerUrl : Option String
  maxFileSize : Option Nat
  deriving DecidableEq, Repr

inductive ArgumentFault where
  | missingValue (option : String)
  | invalidSize (text : String) (fault : Number.NaturalFault)
  | unknownOption (text : String)
  | unexpectedArgument (text : String)
  | missingDirectory
  deriving DecidableEq, Repr

def ArgumentFault.message : ArgumentFault → String
  | .missingValue option => s!"{option} needs a value"
  | .invalidSize text fault => s!"invalid --max-file-size '{text}': {fault.message}"
  | .unknownOption text => s!"unknown option '{text}'"
  | .unexpectedArgument text => s!"unexpected argument '{text}'"
  | .missingDirectory => "missing <batch_dir>"

namespace Options

def urlOption : String := "--scanner-url"

def sizeOption : String := "--max-file-size"

def sizeLimit : Nat := 0x10000000000000000

/-- What the arguments up to some point have given. -/
structure Gathered where
  directory : Option String
  scannerUrl : Option String
  maxFileSize : Option Nat
  deriving DecidableEq, Repr

def Gathered.nothing : Gathered := ⟨none, none, none⟩

def Gathered.finish (p : Gathered) : Except ArgumentFault Options :=
  match p.directory with
  | some directory => .ok { directory, scannerUrl := p.scannerUrl, maxFileSize := p.maxFileSize }
  | none => .error .missingDirectory

def Gathered.word (p : Gathered) (argument : String) : Except ArgumentFault Gathered :=
  if argument.toList.head? = some '-' then .error (.unknownOption argument)
  else if p.directory.isSome then .error (.unexpectedArgument argument)
  else .ok { p with directory := some argument }

/-- Reads arguments from the left; an option takes the next one, whatever that is. -/
def parseFrom (p : Gathered) : List String → Except ArgumentFault Options
  | [] => p.finish
  | argument :: rest =>
    if argument = urlOption then
      match rest with
      | [] => .error (.missingValue urlOption)
      | url :: rest => parseFrom { p with scannerUrl := some url } rest
    else if argument = sizeOption then
      match rest with
      | [] => .error (.missingValue sizeOption)
      | text :: rest =>
        match Number.naturalBelow sizeLimit text.toList with
        | .ok size => parseFrom { p with maxFileSize := some size } rest
        | .error fault => .error (.invalidSize text fault)
    else
      match p.word argument with
      | .ok p => parseFrom p rest
      | .error fault => .error fault

def parse (arguments : List String) : Except ArgumentFault Options := parseFrom .nothing arguments

end Options

end AttachmentIntake.CommandLine
