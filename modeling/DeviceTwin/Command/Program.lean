/-
The program: a command line, an environment and the files of a working directory
lead to an outcome.
-/
import DeviceTwin.Command.Arguments
import DeviceTwin.Command.Run

namespace DeviceTwin.Command

/-- The surroundings of the program. -/
structure Surroundings where
  lookup : String → Option String
  read : String → Except FileError Bytes
  /-- What the clock shows, in seconds, when a service begins to work. -/
  clock : Nat

/-- The name and the version of the program. -/
def versionText : String := "twinsync 0.1.0\n"

/-- What the program can do, in brief. -/
def helpText : String :=
  "Keeps the twin of a thermometer in step with the cloud\n\n" ++
  "twinsync [-v] run [-c CONFIG] [--serial SERIAL] [--offline] [-d DURATION]\n" ++
  "twinsync [-v] reconcile [--version VERSION] DOCUMENT\n" ++
  "twinsync [-v] dispatch METHOD PAYLOAD\n" ++
  "twinsync -V | -h\n"

/-- The settings of a run, or the outcome without them. -/
def runSettings (around : Surroundings) (config serial : Option String) :
    Except Outcome Settings :=
  match Settings.gather around.read config around.lookup serial with
  | .ok settings => .ok settings
  | .error cause => .error (Run.refused (.settings cause) [])

def runFor (around : Surroundings) (config serial : Option String) (offline : Bool)
    (seconds : UInt64) : Outcome :=
  match (runSettings around config serial).bind (Run.start around.clock · offline) with
  | .ok r => (r.pass (1000 * seconds.toNat)).finish
  | .error outcome => outcome

/-- What became of a document, with the version of the counter after it. -/
def reconciliationJson (r : Desired.Reconciliation) (v : DesiredVersion) : Json.Value :=
  .object [
    ("desired_version", .number (.whole v.current.toNat)),
    ("requested_version",
      match r.requestedVersion with
      | some version => .number (.whole version.toNat)
      | none => .null),
    ("upload_enabled",
      match r.uploadEnabled with
      | some enabled => .boolean enabled
      | none => .null),
    ("version_advanced", .boolean r.versionAdvanced)]

def reconcileDocument (document : String) (version : UInt32) : Outcome :=
  let property := ({} : Settings).property
  let stored : DesiredVersion := ⟨version⟩
  let reading := Desired.Reading.ofDocument property document
  let log := lines .device (reading.records property stored)
  match reading.reconciliation? stored with
  | some r =>
      { code := Exit.success.code
        output := (reconciliationJson r (reading.versionAfter stored)).writeSpread ++ "\n"
        log }
  | none =>
      { code := failureCode, log
        failure := some "desired properties are not valid JSON" }

/-- Dispatches a method to a hook that puts the alert out. -/
def dispatchMethod (name payload : String) : Outcome :=
  let dispatch := Method.dispatch { alert := .present } [] name (Utf8.ofString payload)
  let alerts := (Journal.hookCalls dispatch.entries).map fun call =>
    match call with
    | .alert message =>
        let text := Utf8.lossyString message
        s!"ALERT: {text}\n"
    | _ => ""
  let response := dispatch.response.getD .unhandled
  { code := Exit.success.code
    output := String.join alerts ++ s!"Status: {response.status.toInt}\nBody:   {response.text}\n"
    log := lines .device (Journal.records dispatch.entries) }

/-- Carries an invocation out. A run without a duration ends when it is
interrupted; here that is at once. -/
def Invocation.carryOut (around : Surroundings) (i : Invocation) : Outcome :=
  match i.command with
  | .run config serial offline duration =>
      runFor around config serial offline (duration.getD 0)
  | .reconcile document version => reconcileDocument document version
  | .dispatch method payload => dispatchMethod method payload

/-- The outcome of a command line that asks for no command. -/
def Stop.outcome : Stop → Outcome
  | .help => { code := Exit.success.code, output := helpText }
  | .version => { code := Exit.success.code, output := versionText }
  | .usage => { code := usageCode }

/-- Carries a command line out, and how its log is to be written. -/
def execute (around : Surroundings) (words : List String) : Outcome × LogFormat :=
  match read words with
  | .ok i =>
      match LogFormat.ofEnvironment? around.lookup i.verbose with
      | some format => (i.carryOut around, format)
      | none => ({ code := brokenCode }, .standard i.verbose)
  | .error stop => (stop.outcome, .standard false)

end DeviceTwin.Command
