/-
A link within the process, which keeps what is sent and has the delivery results
go straight back. The network can be switched off, and so can the results.
-/
import DeviceTwin.Json.Value
import DeviceTwin.Link.Basic
import DeviceTwin.Log
import DeviceTwin.Trace

namespace DeviceTwin.Link

/-- Which delivery results come back. -/
inductive Acks
  | succeed
  | fail
  /-- None; they are given by hand. -/
  | manual
  deriving DecidableEq

/-- The result that comes back by itself. -/
def Acks.verdict? : Acks → Option Bool
  | .succeed => some true
  | .fail => some false
  | .manual => none

/-- A message that was accepted. The identifier and the time that it gets besides are
left out: no part of the device reads them. -/
inductive Message
  | telemetry (payload : String) (tag : Tag)
  | report (payload : String)
  deriving DecidableEq

namespace Message

def payload : Message → String
  | .telemetry payload _ => payload
  | .report payload => payload

def tag : Message → Tag
  | .telemetry _ tag => tag
  | .report _ => none

/-- The value that the text stands for, if it is JSON. -/
def json (m : Message) : Json.Value := (Json.Value.read? m.payload).getD .null

def isReport : Message → Bool
  | .report _ => true
  | .telemetry _ _ => false

end Message

/-- The state of the loopback. -/
structure Loopback where
  online : Bool := true
  closed : Bool := false
  /-- Which delivery results come back. -/
  acks : Acks := .succeed
  /-- Whether the link refuses to start. -/
  refusing : Bool := false
  /-- The model for which it started last. -/
  model : Option String := none
  sent : Trace Message := {}
  /-- How often telemetry was sent, accepted or not, counted in 64 bits. -/
  attempts : UInt64 := 0

namespace Loopback

/-- The messages that were sent for an event. -/
def tagged (l : Loopback) : List Message := l.sent.toList.filter (·.tag.isSome)

def reported (l : Loopback) : List Message := l.sent.toList.filter (·.isReport)

def start (name model : String) (l : Loopback) : Result × Loopback :=
  if l.refusing then (.error (.failure s!"{name} refused model {model}"), l)
  else (.ok (), { l with model := some model })

/-- Whether a message is accepted now: a closed link accepts none, and neither
does one without a network. -/
def available (l : Loopback) : Result :=
  if l.closed then .error .closed
  else if !l.online then .error .noNetwork
  else .ok ()

/-- Keeps a message if it is accepted. -/
def accept (message : Message) (l : Loopback) : Result × Loopback :=
  match l.available with
  | .ok () => (.ok (), { l with sent := l.sent.add message })
  | .error cause => (.error cause, l)

/-- Sends telemetry, which counts as an attempt in any case. -/
def telemetry (payload : String) (tag : Tag) (l : Loopback) : Result × Loopback :=
  accept (.telemetry payload tag) { l with attempts := l.attempts + 1 }

def report (payload : String) (l : Loopback) : Result × Loopback :=
  accept (.report payload) l

/-- Closes the link for good. -/
def close (l : Loopback) : Loopback := { l with closed := true }

end Loopback

end DeviceTwin.Link
