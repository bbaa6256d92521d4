/-
Hooks: what the rest of the device does when the cloud asks for something. Each
one may be absent, which is worth a warning, and each one may fail, at its first
call or at a later one.
-/
import DeviceTwin.Log
import DeviceTwin.Text.Utf8

namespace DeviceTwin

/-- A call of a hook. -/
inductive Hooks.Call
  | uploadEnabled (enabled : Bool)
  | alert (message : Bytes)
  | connection (connected : Bool)
  deriving DecidableEq

/-- A hook, as far as this library sees it: whether it is there, and which calls do not
come back. -/
inductive Hook
  | absent
  /-- A hook may fail now and not earlier: it knows all calls before this one, the latest
  first. -/
  | registered (fails : List Hooks.Call → Hooks.Call → Bool)

namespace Hook

/-- A hook that comes back from every call. -/
def present : Hook := .registered fun _ _ => false

/-- A hook that comes back from no call. -/
def failing : Hook := .registered fun _ _ => true

/-- Whether a hook is there. -/
def isPresent : Hook → Bool
  | absent => false
  | registered _ => true

end Hook

/-- The hooks of a device. -/
structure Hooks where
  /-- Called with the value that the upload property is to have. -/
  uploadEnabled : Hook := .absent
  /-- Called with an alert to display. -/
  alert : Hook := .absent
  /-- Called when the connection comes or goes. -/
  connection : Hook := .absent

namespace Hooks

/-- The hook that a call is for. -/
def hookOf (hooks : Hooks) : Call → Hook
  | .uploadEnabled _ => hooks.uploadEnabled
  | .alert _ => hooks.alert
  | .connection _ => hooks.connection

/-- Whether a call does not come back, after earlier ones of which the latest is first. -/
def fails (hooks : Hooks) (earlier : List Call) (c : Call) : Bool :=
  match hooks.hookOf c with
  | .absent => false
  | .registered fails => fails earlier c

/-- The warning in place of a call whose hook is absent. -/
def Call.unheard : Call → Log.Record
  | .uploadEnabled enabled =>
      Log.warn s!"Cloud - no handler registered for TelemetryUploadEnabled - status {enabled}"
  | .alert message =>
      let text := Utf8.lossyString message
      Log.warn s!"Cloud - no handler registered for DisplayAlert - message {text}"
  | .connection connected =>
      Log.warn s!"Cloud - no handler registered for ConnectionChanged - status {connected}"

/-- The hooks as the operator sees them. -/
def shown (hooks : Hooks) : String :=
  s!"CloudHandlers \x7b upload_enabled_changed: {hooks.uploadEnabled.isPresent}, " ++
    s!"display_alert: {hooks.alert.isPresent}, " ++
    s!"connection_changed: {hooks.connection.isPresent} \x7d"

end Hooks

end DeviceTwin
