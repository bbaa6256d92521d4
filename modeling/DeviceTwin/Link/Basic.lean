/-
What passes between a device and the cloud: calls of the device on its link, and
notifications that the link has for the device.
-/
import DeviceTwin.Event
import DeviceTwin.Fault
import DeviceTwin.Mailbox
import DeviceTwin.Text.Utf8

namespace DeviceTwin

/-- A notification for the device. -/
inductive Notification
  /-- Whether a message was delivered that was sent with a tag. -/
  | delivery (success : Bool) (tag : Tag)
  | desired (document : String)
  /-- A method was invoked. The response goes to the number that waits for it, or
  to nobody. -/
  | invocation (method : String) (payload : Bytes) (reply : Option Nat)
  | connection (connected : Bool)

namespace Link

/-- A call of the device on its link. -/
inductive Call
  | start (model : String)
  | telemetry (payload : String) (tag : Tag)
  | report (payload : String)
  | close
  deriving DecidableEq

/-- Where a notification comes from. -/
inductive Sender
  /-- The link itself, which has delivered a message or failed to. -/
  | link
  /-- Somebody outside, who holds a number and is told that it arrived. -/
  | outside (ticket : Nat)

/-- A notification on its way. -/
structure Letter where
  sender : Sender
  content : Notification

abbrev Result := Except LinkError Unit

end Link

end DeviceTwin
