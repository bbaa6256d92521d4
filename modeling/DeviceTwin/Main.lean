/-
The program as a process: it reads the environment and the file of settings,
writes the output and the log, and lets a run take the time that it takes.
-/
import DeviceTwin.Command.Program

namespace DeviceTwin.Command

/-- The variables that the program looks at. -/
def watched : List String :=
  [intervalVariable, Settings.modelVariable, Settings.serialVariable, jsonVariable,
    selectionVariable]

/-- The environment, as far as the program looks at it. -/
def environment : IO (String → Option String) := do
  let table ← watched.mapM fun name => return (name, ← IO.getEnv name)
  return fun name => (table.lookup name).join

/-- The cause of an error of the system. -/
def fileError : IO.Error → FileError
  | .noFileOrDirectory .. => .notFound
  | e => .described (toString e)

def readFile (path : String) : IO (Except FileError Bytes) := do
  if path.toList.contains '\x00' then return .error .zeroByte
  else
    try return .ok (← IO.FS.readBinFile path).toList
    catch e => return .error (fileError e)

/-- The file of settings that an invocation names, with its content. -/
def settingsFile (i : Invocation) : IO (String → Except FileError Bytes) := do
  match i.command with
  | .run (some config) _ _ _ =>
      let content ← readFile config
      return fun path => if path = config then content else .error .notFound
  | _ => return fun _ => .error .notFound

/-- A line of the log as it is written. -/
def Line.text (format : LogFormat) (line : Line) : String :=
  if format.json then
    (Json.Value.object [
      ("level", .string line.record.level.name),
      ("fields", .object [("message", .string line.record.message)]),
      ("target", .string line.source.target)]).write
  else s!"{line.record.level.name} {line.message}"

/-- Writes those lines of the log that are shown. -/
def writeLog (format : LogFormat) (log : List Line) : IO Unit := do
  let out ← IO.getStderr
  for line in log do
    if format.shows line then out.putStrLn (line.text format)

/-- Writes an outcome, of whose log a number of lines is written already. -/
def writeOutcome (format : LogFormat) (written : Nat) (o : Outcome) : IO UInt32 := do
  writeLog format (o.log.drop written)
  (← IO.getStdout).putStr o.output
  if let some message := o.failure then (← IO.getStderr).putStrLn s!"Error: {message}"
  return UInt32.ofNat o.code

/-- The longest time in milliseconds to wait at once. -/
def longestWait : Nat := 1000000000

/-- Waits for a number of milliseconds. -/
partial def wait (ms : Nat) : IO Unit := do
  IO.sleep (UInt32.ofNat (min ms longestWait))
  if longestWait < ms then wait (ms - longestWait)

/-- Lets a run go on for a number of milliseconds, or without end. -/
partial def live (format : LogFormat) (left : Option Nat) (written : Nat) (r : Run) :
    IO UInt32 := do
  let log := Run.log r.service.device.journal.toList
  writeLog format (log.drop written)
  let period := r.service.period
  match left with
  | some ms =>
      if ms < period then
        wait ms
        writeOutcome format log.length (r.pass ms).finish
      else
        wait period
        live format (some (ms - period)) log.length r.passPeriod
  | none =>
      wait period
      live format none log.length r.passPeriod

def carryOut (i : Invocation) : IO UInt32 := do
  let around : Surroundings :=
    { lookup := ← environment, read := ← settingsFile i, clock := (← IO.monoMsNow) / 1000 }
  match LogFormat.ofEnvironment? around.lookup i.verbose with
  | none => return UInt32.ofNat brokenCode
  | some format =>
      match i.command with
      | .run config serial offline duration =>
          match (runSettings around config serial).bind (Run.start around.clock · offline) with
          | .ok r => live format (duration.map (1000 * ·.toNat)) 0 r
          | .error outcome => writeOutcome format 0 outcome
      | _ => writeOutcome format 0 (i.carryOut around)

end DeviceTwin.Command

open DeviceTwin.Command in
def main (words : List String) : IO UInt32 := do
  match read words with
  | .ok i => carryOut i
  | .error stop => writeOutcome (.standard false) 0 stop.outcome
