/-
The link of a device to the cloud: a name, one of two kinds of behaviour, and the
mailbox for what the device is to hear.
-/
import DeviceTwin.Link.Loopback
import DeviceTwin.Link.Scripted

namespace DeviceTwin

/-- The behaviour of a link. -/
inductive Link.Kind
  | loopback (l : Link.Loopback)
  | scripted (s : Link.Scripted)

/-- A link. -/
structure Link where
  /-- The name under which the link appears in the log. -/
  name : String
  kind : Link.Kind
  inbox : Mailbox Link.Letter

namespace Link

/-- What a call led to. -/
structure Outcome where
  result : Result
  link : Link
  records : List Log.Record := []

/-- The loopback of a link, if it is one. -/
def loopback? (l : Link) : Option Loopback :=
  match l.kind with
  | .loopback loopback => some loopback
  | .scripted _ => none

/-- Changes the loopback of a link, if it is one. -/
def modifyLoopback (f : Loopback → Loopback) (l : Link) : Link :=
  match l.kind with
  | .loopback loopback => { l with kind := .loopback (f loopback) }
  | .scripted _ => l

def start (model : String) (l : Link) : Outcome :=
  match l.kind with
  | .loopback loopback =>
      let (result, loopback) := loopback.start l.name model
      { result, link := { l with kind := .loopback loopback } }
  | .scripted script =>
      let (result, script) := script.take
      { result, link := { l with kind := .scripted script } }

/-- The warning that a delivery result came too late. -/
def lostDelivery (name : String) : Log.Record :=
  Log.warn s!"{name} dropped delivery acknowledgement: adapter stopped"

/-- Puts a delivery result of the link's own into the mailbox, and what the log
says of it if it has to wait or comes too late. -/
def acknowledge (success : Bool) (tag : Tag) (l : Link) : Link × List Log.Record :=
  if l.inbox.isOpen then
    let inbox := l.inbox.push ⟨.link, .delivery success tag⟩
    ({ l with inbox },
      if l.inbox.isFull then
        [Log.debug s!"{l.name} inbound channel full, deferring acknowledgement"]
      else [])
  else (l, [lostDelivery l.name])

/-- Sends telemetry. The result of its delivery comes by the mailbox. -/
def telemetry (payload : String) (tag : Tag) (l : Link) : Outcome :=
  match l.kind with
  | .loopback loopback =>
      let (result, after) := loopback.telemetry payload tag
      let l := { l with kind := .loopback after }
      match result, loopback.acks.verdict? with
      | .error _, _ => { result, link := l }
      | .ok (), verdict =>
          let accepted := Log.debug s!"{l.name} accepted telemetry: {payload}"
          match verdict with
          | none => { result, link := l, records := [accepted] }
          | some success =>
              let (l, records) := l.acknowledge success tag
              { result, link := l, records := accepted :: records }
  | .scripted script =>
      let (result, script) := script.take
      { result, link := { l with kind := .scripted script } }

def report (payload : String) (l : Link) : Outcome :=
  match l.kind with
  | .loopback loopback =>
      let (result, loopback) := loopback.report payload
      let l := { l with kind := .loopback loopback }
      match result with
      | .error _ => { result, link := l }
      | .ok () =>
          { result, link := l
            records := [Log.debug s!"{l.name} accepted reported state: {payload}"] }
  | .scripted script =>
      let (result, script) := script.take
      { result, link := { l with kind := .scripted script } }

def close (l : Link) : Outcome :=
  match l.kind with
  | .loopback loopback =>
      { result := .ok (), link := { l with kind := .loopback loopback.close }
        records := [Log.debug s!"{l.name} closed"] }
  | .scripted _ => { result := .ok (), link := l }

def perform (l : Link) : Call → Outcome
  | .start model => l.start model
  | .telemetry payload tag => l.telemetry payload tag
  | .report payload => l.report payload
  | .close => l.close

/-- Puts a notification from outside into the mailbox. -/
def deliver (sender : Sender) (content : Notification) (l : Link) : Link :=
  { l with inbox := l.inbox.push ⟨sender, content⟩ }

/-- Lets the notifications come in that wait outside a full mailbox. -/
def refill (l : Link) : Link := { l with inbox := l.inbox.refill }

/-- The delivery results of the link's own among letters. -/
def ownDeliveries (letters : List Letter) : Nat :=
  letters.countP fun letter =>
    match letter.sender with
    | .link => true
    | .outside _ => false

/-- Nobody hears notifications any more. Of each delivery result that waits
outside the log says that it is lost. -/
def deafen (l : Link) : Link × List Log.Record :=
  ({ l with inbox := l.inbox.close },
    List.replicate (ownDeliveries l.inbox.waiting) (lostDelivery l.name))

end Link

end DeviceTwin
