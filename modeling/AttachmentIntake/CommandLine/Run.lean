import AttachmentIntake.CommandLine.Options
import AttachmentIntake.Pipeline
import AttachmentIntake.Scan.Service

/-!
The command: it validates the batch in a directory, prints what was prepared or why the batch was
refused, and tells acceptance by its exit status.
-/

namespace AttachmentIntake.CommandLine

structure Output where
  exit : Nat
  stdout : String
  stderr : String
  deriving DecidableEq, Repr

/-- What the command needs from outside: the entries of a directory or why it cannot be read, and
the way to a scan service, with a time limit for each request, or why there is none. -/
structure Surroundings (m : Type → Type) where
  directory : String → m (Except String (List Directory.Entry))
  transport : Nat → m (Except String (Scan.Transport m))

/-- Why there is nothing to process. -/
inductive Obstacle where
  /-- No scanner can be set up. -/
  | unequipped (failure : Scan.Failure)
  | unreadable (reason : String)
  deriving DecidableEq, Repr

abbrev Result := Except Obstacle (Except Rejection PreparedBatch)

def lines (texts : List String) : String := String.join (texts.map (· ++ "\n"))

def usage (program : String) : String :=
  lines [
    "📎 vedlegg-ingest - attachment batch validation",
    "",
    "USAGE:",
    s!"    {program} <batch_dir> [options]",
    "",
    "ARGUMENTS:",
    "    <batch_dir>              Directory holding metadata.json and the uploaded files",
    "",
    "OPTIONS:",
    "    --scanner-url <url>      Virus scan endpoint (scanning is disabled without it)",
    "    --max-file-size <bytes>  Per-file size limit (default: 10 MiB)",
    "    -h, --help               Show this help message",
    "",
    "Exit status is 0 when the batch is accepted, 1 when it is rejected."]

/-- A size in the largest unit of which it has at least one, with one decimal place. -/
def sizeText (bytes : Nat) : String :=
  if bytes < 1024 then s!"{bytes} B"
  else
    let (unit, name) :=
      if bytes < 1048576 then (1024, "KB")
      else if bytes < 1073741824 then (1048576, "MB")
      else (1073741824, "GB")
    let tenths := Number.roundedQuotient (10 * bytes) unit
    s!"{tenths / 10}.{tenths % 10} {name}"

def json (v : Json.Value) : String := lines [v.pretty 0]

def Output.ofResult (directory : String) : Result → Output
  | .error (.unequipped failure) =>
    { exit := 1, stdout := "", stderr := lines [s!"❌ {failure.message}"] }
  | .error (.unreadable reason) =>
    { exit := 1
      stdout := ""
      stderr := lines [opening, s!"❌ {(BatchError.io reason).message}"] }
  | .ok (.ok prepared) =>
    { exit := 0
      stdout := json prepared.toJson
      stderr := lines [opening,
        s!"✅ Accepted {prepared.files.length} file(s), {sizeText prepared.totalSize}"] }
  | .ok (.error (.fatal e)) =>
    { exit := 1
      stdout := json (.object [("error", .text e.message)])
      stderr := lines [opening, s!"❌ Batch refused: {e.message}"] }
  | .ok (.error (.invalid report)) =>
    { exit := 1
      stdout := json report.toJson
      stderr := lines (opening :: report.rejectedFiles.map fun (group, file) =>
        s!"❌ {group.kind} / {file.filename}: {file.outcome.name}") }
where
  opening : String := s!"🔍 Reading batch: {directory}"

namespace Options

variable {m : Type → Type} [Monad m]

def config (o : Options) : Config :=
  { Config.production with maxFileSize := o.maxFileSize.getD Limits.fileSize }

/-- Without a URL no file is scanned. -/
def scanner (o : Options) (transport : Scan.Transport m) : Scanner m :=
  match o.scannerUrl with
  | some url => (Scan.Settings.forUrl url).scanner transport
  | none => Scanner.disabled

/-- The way to the scan service; without a URL none is opened. -/
def transport (o : Options) (outside : Surroundings m) :
    m (Except Scan.Failure (Scan.Transport m)) :=
  match o.scannerUrl with
  | none => pure (.ok .closed)
  | some url => do
    match ← outside.transport (Scan.Settings.forUrl url).timeout with
    | .ok transport => return .ok transport
    | .error reason => return .error (.unavailable reason)

def input (o : Options) (outside : Surroundings m) :
    m (Except Obstacle (Scan.Transport m × List Part)) := do
  match ← o.transport outside with
  | .error failure => return .error (.unequipped failure)
  | .ok transport =>
    match ← outside.directory o.directory with
    | .error reason => return .error (.unreadable reason)
    | .ok entries => return .ok (transport, Directory.parts entries)

def process (o : Options) (outside : Surroundings m) : m Result := do
  match ← o.input outside with
  | .error obstacle => return .error obstacle
  | .ok (transport, parts) =>
    let pipeline : Pipeline m := { config := o.config, scanner := o.scanner transport }
    return .ok (← pipeline.process parts)

end Options

def asksForHelp (words : List String) : Bool :=
  words.any fun w => w = "-h" || w = "--help"

/-- The options that a run goes by, or what is printed in place of it. The name that the command was
called by is the first word of its command line. -/
def start (program : String) (arguments : List String) : Except Output Options :=
  if arguments.isEmpty then .error { exit := 1, stdout := usage program, stderr := "" }
  else if asksForHelp (program :: arguments) then
    .error { exit := 0, stdout := usage program, stderr := "" }
  else
    match Options.parse arguments with
    | .error fault =>
      .error { exit := 2, stdout := usage program, stderr := lines [s!"❌ {fault.message}"] }
    | .ok options => .ok options

def run {m : Type → Type} [Monad m] (outside : Surroundings m) (program : String)
    (arguments : List String) : m Output :=
  match start program arguments with
  | .error output => pure output
  | .ok o => Output.ofResult o.directory <$> o.process outside

end AttachmentIntake.CommandLine
