/-
The device's side of the twin: which events are pending, which version of the
desired properties was applied, whether there is a connection; and what the
device does when a tick is due, when a notification arrives and when the rest of
the device asks for something. One thing is done at a time and to its end.
-/
import DeviceTwin.Desired
import DeviceTwin.Journal
import DeviceTwin.Link
import DeviceTwin.Method.Dispatch
import DeviceTwin.Pending
import DeviceTwin.Report
import DeviceTwin.Settings
import DeviceTwin.Telemetry
import DeviceTwin.Trace

namespace DeviceTwin

/-- The state of the device as others may see it. -/
structure Status where
  /-- The pending events, the most urgent first. -/
  pending : List Event
  desiredVersion : UInt32
  connected : Bool
  deriving DecidableEq

/-- A device with its link. -/
structure Device where
  settings : Settings
  interval_ne_zero : settings.interval ≠ 0
  hooks : Hooks
  link : Link
  pending : Pending := .atStart
  version : DesiredVersion := .initial
  /-- The connection as it was last reported. -/
  connected : Bool := false
  /-- Whether a hook has failed, after which nothing more is done. -/
  broken : Bool := false
  /-- The calls of hooks that were made, the latest first. -/
  raised : List Hooks.Call := []
  journal : Trace Journal.Entry := {}

/-- What a tick did. -/
inductive Tick
  | idle
  /-- The event was accepted for delivery. -/
  | sent (e : Event)
  /-- The event was refused and is tried again at the next tick. -/
  | refused (e : Event) (cause : LinkError)
  deriving DecidableEq

def Tick.attempted? : Tick → Option Event
  | .idle => none
  | .sent e => some e
  | .refused e _ => some e

/-- The seconds between two ticks. Without an interval there is no timer. -/
def Settings.period (s : Settings) : Except TimerError UInt64 :=
  if s.interval = 0 then .error .zeroPeriod else .ok s.interval

namespace Device

/-- A device with settings that it can work with. -/
def ofSettings (settings : Settings) (hooks : Hooks) (link : Link) : Except Fault Device :=
  match settings.validate with
  | .error cause => .error (.settings cause)
  | .ok () =>
      if h : settings.interval = 0 then .error (.timer .zeroPeriod)
      else .ok { settings, interval_ne_zero := h, hooks, link }

/-- The state as others may see it. -/
def status (d : Device) : Status := ⟨d.pending.toList, d.version.current, d.connected⟩

def note (entries : List Journal.Entry) (d : Device) : Device :=
  { d with journal := d.journal ++ entries }

def log (records : List Log.Record) (d : Device) : Device := d.note (records.map .record)

/-- Notes entries among which there are calls of hooks, whose hooks know of them from then on. -/
def noteCalls (entries : List Journal.Entry) (d : Device) : Device :=
  { d.note entries with raised := (Journal.hookCalls entries).reverse ++ d.raised }

/-- Raises a hook, which may fail. -/
def raise (call : Hooks.Call) (d : Device) : Device :=
  { d.noteCalls [Journal.ofCall d.hooks call] with
    broken := d.broken || d.hooks.fails d.raised call }

def call (c : Link.Call) (d : Device) : Link.Result × Device :=
  let outcome := d.link.perform c
  (outcome.result, ({ d with link := outcome.link }.note [.link c]).log outcome.records)

/-- Starts the link for the model of the settings. -/
def startLink (d : Device) : Except Fault Unit × Device :=
  match d.call (.start d.settings.model) with
  | (.error cause, d) => (.error (.linkStart cause), d)
  | (.ok (), d) =>
      let started :=
        s!"Cloud transport {d.link.name} initialized for model {d.settings.model}"
      (.ok (), d.log [Log.info started])

/-- Has an event delivered at one of the next ticks. -/
def signal (e : Event) (d : Device) : Device := { d with pending := d.pending.insert e }

/-- Sends a message over the link, for an event or not. -/
def send (message : Json.Value) (tag : Tag) (d : Device) : Link.Result × Device :=
  d.call (.telemetry message.write tag)

def reportState (message : Json.Value) (d : Device) : Link.Result × Device :=
  d.call (.report message.write)

/-- Sends a reading, once. -/
def sendTelemetry (t : Telemetry) (d : Device) : Link.Result × Device := d.send t.toJson none

/-- Sends that the device was moved, once. -/
def sendMoved (d : Device) : Link.Result × Device := d.send Telemetry.moved none

def reportDetails (serialNumber : String) (d : Device) : Link.Result × Device :=
  d.reportState (Report.deviceDetails serialNumber)

/-- Reports the value that the upload property has taken. The version is the stamp
of the report and advances whether or not the report is accepted. -/
def reportUpload (enabled : Bool) (d : Device) : Link.Result × Device :=
  let stamp := d.version.current
  { d with version := d.version.advance }.reportState
    (Report.uploadEnabled d.settings.property enabled stamp)

/-- A tick: the most urgent pending event is sent and stays pending until its
delivery is confirmed. -/
def tick (d : Device) : Tick × Device :=
  match d.pending.next? with
  | none => (.idle, d)
  | some e =>
      let d := d.log [Log.debug s!"Trying to send {e.name} event"]
      match d.send e.announcement (some e) with
      | (.ok (), d) => (.sent e, d)
      | (.error cause, d) =>
          let refused := s!"{e.name} event not sent, retrying next tick: {cause.message}"
          (.refused e cause, d.log [Log.debug refused])

def settle (success : Bool) (tag : Tag) (d : Device) : Settlement × Device :=
  let (settlement, pending) := d.pending.settle success tag
  (settlement, { d with pending }.log settlement.records)

/-- Raises the hook for the upload property if a document asks for a value. -/
def applyReading (reading : Desired.Reading) (d : Device) : Device :=
  match reading with
  | .asks enabled _ => d.raise (.uploadEnabled enabled)
  | _ => d

def reconcile (document : String) (d : Device) : Option Desired.Reconciliation × Device :=
  let reading := Desired.Reading.ofDocument d.settings.property document
  let records := reading.records d.settings.property d.version
  (reading.reconciliation? d.version,
    ({ d with version := reading.versionAfter d.version }.log records).applyReading reading)

/-- A method is invoked. There is no response if the hook fails. -/
def invoke (name : String) (payload : Bytes) (d : Device) : Option Method.Response × Device :=
  let dispatch := Method.dispatch d.hooks d.raised name payload
  (dispatch.response,
    { d.noteCalls dispatch.entries with broken := d.broken || dispatch.response.isNone })

/-- Reports who the device is to a cloud that is there again. -/
def introduce (d : Device) : Device :=
  match d.settings.serial with
  | none => d
  | some serialNumber =>
      match d.reportDetails serialNumber with
      | (.ok (), d) => d
      | (.error cause, d) =>
          d.log [Log.warn s!"Failed to report device details: {cause.message}"]

def connectionChanged (connected : Bool) (d : Device) : Device :=
  let d := d.log [Log.info s!"Cloud connection changed: connected={connected}"]
  let d := { d with connected }.raise (.connection connected)
  if connected && !d.broken then d.introduce else d

/-- Hands a response over to the one who waits for it, if there is one. -/
def respond (method : String) (reply : Option Nat) (response : Method.Response) (d : Device) :
    Device :=
  match reply with
  | some ticket => d.note [.response ticket response]
  | none => d.log [Log.warn s!"Response to method {method} was dropped by the transport"]

def hear (n : Notification) (d : Device) : Device :=
  match n with
  | .delivery success tag => (d.settle success tag).2
  | .desired document => (d.reconcile document).2
  | .invocation method payload reply =>
      match d.invoke method payload with
      | (some response, d) => d.respond method reply response
      | (none, d) => d
  | .connection connected => d.connectionChanged connected

/-- Takes the oldest notification out of the mailbox. -/
def popNotification? (d : Device) : Option (Notification × Device) :=
  match d.link.inbox.pop? with
  | some (letter, inbox) => some (letter.content, { d with link := { d.link with inbox } })
  | none => none

/-- Lets the notifications come in that wait outside a full mailbox. -/
def refill (d : Device) : Device := { d with link := d.link.refill }

/-- Hears at most a given number of notifications, those that wait included, and
returns which ones. A hook that fails ends it. -/
def drain : Nat → Device → List Notification × Device
  | 0, d => ([], d)
  | limit + 1, d =>
      match d.popNotification? with
      | none => ([], d)
      | some (n, d) =>
          let d := (d.hear n).refill
          if d.broken then ([n], d)
          else
            let (heard, d) := drain limit d
            (n :: heard, d)

/-- Hears all notifications, of which hearing one never makes another. -/
def drainAll (d : Device) : List Notification × Device := d.drain d.link.inbox.toList.length

/-- Nobody takes notifications out of the mailbox any more. -/
def deafen (d : Device) : Device :=
  let (link, records) := d.link.deafen
  { d with link }.log records

def closeLink (d : Device) : Device := (d.call .close).2

/-- The device as the operator sees it. -/
def shown (d : Device) : String :=
  let name := Text.quoted d.link.name
  s!"CloudAdapter \x7b transport: {name}, registry: {d.pending.shown}, " ++
    s!"version: DesiredVersion({d.version.current.toNat}), connected: {d.connected}, " ++
    s!"handlers: {d.hooks.shown} \x7d"

end Device

end DeviceTwin
