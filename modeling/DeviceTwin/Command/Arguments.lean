/-
The commands of the program and the arguments that each one takes.
-/
import DeviceTwin.Command.Options
import DeviceTwin.DesiredVersion
import DeviceTwin.Settings

namespace DeviceTwin

/-- A command with its arguments. -/
inductive Command
  /-- Runs a device over a loopback link. -/
  | run (config : Option String) (serial : Option String) (offline : Bool)
      (duration : Option UInt64)
  /-- Reads one document of desired properties. -/
  | reconcile (document : String) (version : UInt32)
  /-- Dispatches one method. -/
  | dispatch (method : String) (payload : String)

namespace Command

/-- A command line that was understood. -/
structure Invocation where
  verbose : Bool
  command : Command

/-- The version that a word names: a whole number in decimal digits, with either
sign, that is not below zero. -/
def versionNumber? (cs : List Char) : Option Nat :=
  match cs with
  | '-' :: digits => (Text.decimal? digits).filter (· = 0)
  | '+' :: digits => Text.decimal? digits
  | digits => Text.decimal? digits

/-- The version of 32 bits that a word names. -/
def version? (w : String) : Option UInt32 :=
  ((versionNumber? w.toList).filter (· < UInt32.size)).map UInt32.ofNat

/-- The number of seconds that a word names. -/
def seconds? (w : String) : Option UInt64 := Settings.wholeNumber? w.toList

/-- The option for details in the log, which every command takes. -/
def verboseOption : Parameter := ⟨"verbose", some 'v', .switch⟩

/-- The option for help, which every command takes. -/
def helpOption : Parameter := ⟨"help", some 'h', .help⟩

/-- What may stand before the name of a command. -/
def outerGrammar : Grammar where
  options := [verboseOption, helpOption, ⟨"version", some 'V', .version⟩]
  room := 0

def runGrammar : Grammar where
  options :=
    [verboseOption, helpOption,
      ⟨"config", some 'c', .value (· != "")⟩,
      ⟨"serial", none, .value fun _ => true⟩,
      ⟨"offline", none, .switch⟩,
      ⟨"duration", some 'd', .value fun w => (seconds? w).isSome⟩]
  room := 0

def reconcileGrammar : Grammar where
  options := [verboseOption, helpOption, ⟨"version", none, .value fun w => (version? w).isSome⟩]
  room := 1

def dispatchGrammar : Grammar where
  options := [verboseOption, helpOption]
  room := 2

def ofRun (f : Found) : Command :=
  .run (f.values.lookup "config") (f.values.lookup "serial") (f.switches.contains "offline")
    ((f.values.lookup "duration").bind seconds?)

/-- The arguments of `reconcile`, whose document has to be there. -/
def ofReconcile (f : Found) : Except Stop Command :=
  match f.words with
  | [document] =>
      let version := ((f.values.lookup "version").bind version?).getD
        DesiredVersion.initial.current
      .ok (.reconcile document version)
  | _ => .error .usage

/-- The arguments of `dispatch`, which both have to be there. -/
def ofDispatch (f : Found) : Except Stop Command :=
  match f.words with
  | [method, payload] => .ok (.dispatch method payload)
  | _ => .error .usage

/-- The names of the commands, with that of help itself. -/
def names : List String := ["run", "reconcile", "dispatch", "help"]

/-- Reads the words after a request for help: the name of a command at most. -/
def readHelp : List String → Stop
  | [] => .help
  | [name] => if names.contains name then .help else .usage
  | _ => .usage

/-- Reads the words after the name of a command. -/
def readInner (name : String) (words : List String) : Except Stop (Found × Command) :=
  if name = "run" then do
    let (f, _) ← runGrammar.read false none words {}
    return (f, ofRun f)
  else if name = "reconcile" then do
    let (f, _) ← reconcileGrammar.read false none words {}
    return (f, ← ofReconcile f)
  else if name = "dispatch" then do
    let (f, _) ← dispatchGrammar.read false none words {}
    return (f, ← ofDispatch f)
  else if name = "help" then .error (readHelp words)
  else .error .usage

/-- Reads a command line. The option for details may stand before the command,
behind it, or both. -/
def read (words : List String) : Except Stop Invocation := do
  match ← outerGrammar.read true none words {} with
  | (_, []) => .error .usage
  | (outer, name :: words) => do
      let (inner, command) ← readInner name words
      let isVerbose (f : Found) : Bool := f.switches.contains verboseOption.long
      return ⟨isVerbose outer || isVerbose inner, command⟩

end Command

end DeviceTwin
