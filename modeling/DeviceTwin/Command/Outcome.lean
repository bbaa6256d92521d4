/-
What carrying out a command leads to: the exit code, the text for the output, the
log, and the message of a failure.
-/
import DeviceTwin.Fault
import DeviceTwin.Log.Selection
import DeviceTwin.Text.Terminal

namespace DeviceTwin.Command

/-- Which part of the program a log record comes from. -/
inductive Source
  | device
  | command
  deriving DecidableEq

/-- The target under which the records of a part are selected. -/
def Source.target : Source → String
  | .device => "twinsync_cloud"
  | .command => "twinsync"

/-- A log record with its source. -/
structure Line where
  source : Source
  record : Log.Record

def lines (source : Source) (records : List Log.Record) : List Line := records.map (⟨source, ·⟩)

/-- How the log is written. -/
structure LogFormat where
  /-- Whether each record is written as a JSON object. -/
  json : Bool
  selection : Log.Selection

/-- The variable of the environment that asks for a log in JSON. -/
def jsonVariable : String := "TWINSYNC_LOG_JSON"

/-- The variable of the environment that selects log records. -/
def selectionVariable : String := "RUST_LOG"

/-- The selection for a program without one in the environment. -/
def standardSelection (verbose : Bool) : Log.Selection :=
  let limit := if verbose then Log.Level.debug.rank else Log.Level.info.rank
  let directive (source : Source) : Log.Directive := { target := some source.target, limit }
  .ofList [directive .command, directive .device]

/-- The format without anything in the environment. -/
def LogFormat.standard (verbose : Bool) : LogFormat := ⟨false, standardSelection verbose⟩

/-- The format that the environment asks for. A selection that is malformed does not
count; one that would cut a character in two breaks the program off. -/
def LogFormat.ofEnvironment? (lookup : String → Option String) (verbose : Bool) :
    Option LogFormat :=
  let json := lookup jsonVariable = some "true"
  match (lookup selectionVariable).map Log.Selection.ofText with
  | some (.ok selection) => some ⟨json, selection⟩
  | some (.error .insideCharacter) => none
  | some (.error .malformed) | none => some ⟨json, standardSelection verbose⟩

def LogFormat.shows (format : LogFormat) (line : Line) : Bool :=
  format.selection.shows line.source.target line.record.level

/-- What a command led to. -/
structure Outcome where
  /-- The number that the process returns. -/
  code : Nat
  output : String := ""
  /-- The log, all of it. -/
  log : List Line := []
  failure : Option String := none

/-- The exit code of a command line that was not understood. -/
def usageCode : Nat := 2

/-- The exit code of a command that failed. -/
def failureCode : Nat := 1

/-- The exit code of a process that broke off. -/
def brokenCode : Nat := 101

/-- The message of a line as it stands in a plain log. -/
def Line.message (line : Line) : String := Text.forTerminal line.record.message

/-- The messages of errors that a reader of the plain log sees, and that of the
failure. -/
def Outcome.errors (format : LogFormat) (o : Outcome) : List String :=
  let shown := o.log.filter fun line =>
    !format.json && line.record.level == .error && format.shows line
  shown.map (·.message) ++ o.failure.toList

end DeviceTwin.Command
