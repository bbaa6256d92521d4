/-
The command `run`: a device over a loopback link, which is told at once that there
is a connection and that there is no update, and sends a reading now and then.
-/
import DeviceTwin.Command.Outcome
import DeviceTwin.Service

namespace DeviceTwin.Command

/-- A run while it goes on. -/
structure Run where
  service : Service
  /-- How many readings were sent. -/
  readings : Nat := 0

namespace Run

/-- The hooks of a run, which write to the log. -/
def hooks : Hooks where
  uploadEnabled := .present
  alert := .present
  connection := .present

/-- What a hook writes to the log. -/
def hookRecord : Hooks.Call → Log.Record
  | .uploadEnabled enabled => Log.info s!"Telemetry upload enabled: {enabled}"
  | .alert message =>
      let text := Utf8.lossyString message
      Log.info s!"ALERT: {text}"
  | .connection connected => Log.info s!"Connected to cloud: {connected}"

def line? : Journal.Entry → Option Line
  | .record r => some ⟨.device, r⟩
  | .hook c => some ⟨.command, hookRecord c⟩
  | .link _ | .response _ _ => none

def log (journal : List Journal.Entry) : List Line := journal.filterMap line?

def refused (fault : Fault) (log : List Line) : Outcome where
  code := fault.exit.code
  log := log ++ lines .command
    [Log.error s!"Cloud adapter failed to start: {fault.message} (exit {fault.exit.shown})"]

/-- The first things that a run does. -/
def greet (offline : Bool) (s : Service) : Service :=
  let s := if offline then s else s.deliver 0 (.connection true)
  (s.ask 1 (.signal .noUpdateAvailable)).settle

/-- Starts a run, unless the settings, the link or the clock stand against it. -/
def start (clock : Nat) (settings : Settings) (offline : Bool) : Except Outcome Run :=
  match Mailbox.ofCapacity? settings.capacity.toNat with
  | none => .error { code := brokenCode }
  | some inbox =>
      let link : Link := { name := "loopback", kind := .loopback { online := !offline }, inbox }
      match Device.ofSettings settings hooks link with
      | .error fault => .error (refused fault [])
      | .ok device =>
          match Service.start clock device with
          | .impossible => .error { code := brokenCode }
          | .refused fault device => .error (refused fault (log device.journal.toList))
          | .started service =>
              if service.phase = .running then .ok { service := greet offline service }
              else .error { code := brokenCode, log := log service.device.journal.toList }

/-- A reading of the run: from 20 degrees upwards in steps of a half, and again
from 20 after ten of them. The samples are counted in 32 bits. -/
def reading (sample : UInt32) : Telemetry :=
  ⟨Binary64.ofRatio false (40 + sample.toNat % 10) 2⟩

def sendReading (r : Run) : Run where
  service :=
    (r.service.ask (r.readings + 2) (.telemetry (reading (UInt32.ofNat r.readings)))).settle
  readings := r.readings + 1

/-- Lets the time pass between two readings, and sends one. -/
def passPeriod (r : Run) : Run := sendReading { r with service := r.service.pass r.service.period }

/-- Does so a number of times. -/
def passPeriods : Nat → Run → Run
  | 0, r => r
  | n + 1, r => passPeriods n r.passPeriod

def pass (ms : Nat) (r : Run) : Run :=
  let r := r.passPeriods (ms / r.service.period)
  { r with service := r.service.pass (ms % r.service.period) }

def statusJson (s : Status) : Json.Value :=
  .object [
    ("pending", .array (s.pending.map Event.toJson)),
    ("desired_version", .number (.whole s.desiredVersion.toNat)),
    ("connected", .boolean s.connected)]

/-- Ends a run: its status is put out and the service stopped. -/
def finish (r : Run) : Outcome :=
  let status := r.service.device.status
  let (_, service) := r.service.shutdown
  { code := Exit.success.code
    output := (statusJson status).writeSpread ++ "\n"
    log := log service.device.journal.toList ++ lines .command [Log.info "Shutdown complete"] }

end Run

end DeviceTwin.Command
