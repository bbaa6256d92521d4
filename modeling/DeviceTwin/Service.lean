/-
The service: a loop that owns a device and does one thing at a time. If several
are to be done it takes them in a fixed order: to stop, to hear a notification,
to do a tick that is due, to serve a request. Time is counted in milliseconds and
passes only when the service is told so.
-/
import DeviceTwin.Device

namespace DeviceTwin

namespace Service

/-- What the rest of the device may ask of the service. -/
inductive Request
  | signal (e : Event)
  | telemetry (t : Telemetry)
  | moved
  | details (serialNumber : String)
  | report (enabled : Bool)
  | status

/-- A request and the number under which its answer is kept. -/
structure Job where
  /-- The number that the asker holds. -/
  ticket : Nat
  request : Request

/-- What came of a request or of a notification from outside. -/
inductive Answer
  | done
  | failed (cause : Fault)
  /-- The notification did not reach the device. -/
  | undelivered (cause : LinkError)
  | status (s : Status)
  | response (r : Method.Response)

/-- Whether the service still works. -/
inductive Phase
  | running
  /-- It was told to stop, and the link is closed. -/
  | stopped
  /-- It broke off without closing the link. -/
  | crashed
  deriving DecidableEq

/-- One thing that the service did. -/
inductive Activity
  | heard (n : Notification)
  /-- Nobody can send notifications any more. -/
  | hungUp
  | ticked (t : Tick)
  | served (job : Job)
  | finished

end Service

open Service in
/-- A service with its device. -/
structure Service where
  device : Device
  requests : Mailbox Job
  now : Nat
  due : Nat
  phase : Phase := .running
  /-- Whether the service has been told to stop. -/
  stopAsked : Bool := false
  /-- Whether somebody outside can still send notifications. -/
  attached : Bool := true
  /-- Whether the service still waits for notifications. -/
  listening : Bool := true
  /-- The answers given so far, with their numbers. -/
  answers : Trace (Nat × Answer) := {}
  /-- What was done so far, and when. -/
  history : Trace (Nat × Activity) := {}

namespace Service

/-- The milliseconds between two ticks. -/
def period (s : Service) : Nat := 1000 * s.device.settings.interval.toNat

/-- How late a tick may be and still keep its place in the row. -/
def tolerance : Nat := 5

/-- The last second that a clock can show. -/
def clockLimit : Nat := 0x7FFFFFFFFFFFFFFF

def answer (ticket : Nat) (a : Answer) (s : Service) : Service :=
  { s with answers := s.answers.add (ticket, a) }

def answer? (ticket : Nat) (s : Service) : Option Answer := s.answers.toList.lookup ticket

def record (a : Activity) (s : Service) : Service :=
  { s with history := s.history.add (s.now, a) }

/-- Whether a request is answered as soon as it is in the mailbox. -/
def Request.isSignal : Request → Bool
  | .signal _ => true
  | _ => false

/-- The answers to requests that came into the mailbox. -/
def arrived (jobs : List Job) : List (Nat × Answer) :=
  jobs.filterMap fun job => if job.request.isSignal then some (job.ticket, .done) else none

/-- The answers to requests that are given up, in the mailbox or outside of it. -/
def abandonedJobs (requests : Mailbox Job) : List (Nat × Answer) :=
  (requests.queue.filter (!·.request.isSignal) ++ requests.waiting).map
    fun job => (job.ticket, .failed .stopped)

/-- The number that waits for the response to an invocation. -/
def awaited? : Notification → Option Nat
  | .invocation _ _ reply => reply
  | _ => none

/-- The answers to letters that came into the mailbox. An invocation is answered
by its response only. -/
def delivered (letters : List Link.Letter) : List (Nat × Answer) :=
  letters.filterMap fun letter =>
    match letter.sender, awaited? letter.content with
    | .outside ticket, none => some (ticket, .done)
    | _, _ => none

/-- The answers to letters that are given up: in the mailbox the invocations,
outside of it all. -/
def abandonedLetters (inbox : Mailbox Link.Letter) : List (Nat × Answer) :=
  let refusal (ticket : Nat) : Nat × Answer := (ticket, .undelivered .closed)
  inbox.queue.filterMap (fun letter => (awaited? letter.content).map refusal) ++
    inbox.waiting.filterMap fun letter =>
      match letter.sender with
      | .outside ticket => some (refusal ticket)
      | .link => none

/-- Ends the service: what is still on its way is given up. -/
def finish (phase : Phase) (s : Service) : Service :=
  { s with
    device := s.device.deafen
    requests := s.requests.close
    phase
    answers := s.answers ++ abandonedLetters s.device.link.inbox ++ abandonedJobs s.requests }

/-- Stops: the link is closed, as the last thing that is done with it. -/
def stop (s : Service) : Service :=
  let device := s.device.closeLink.log [Log.info "Cloud adapter stopped"]
  ({ s with device }.record .finished).finish .stopped

/-- Breaks off if a hook has failed. -/
def checked (s : Service) : Service := if s.device.broken then s.finish .crashed else s

/-- The answer to a call on the link. -/
def ofResult : Link.Result → Answer
  | .ok () => .done
  | .error cause => .failed (.link cause)

/-- Hears a notification. -/
def hear (n : Notification) (s : Service) : Service :=
  let device := s.device.hear n
  let s := { s with device }.record (.heard n)
  let s := match awaited? n with
    | none => s
    | some ticket =>
        match Journal.responseTo? ticket device.journal.toList with
        | some response => s.answer ticket (.response response)
        | none => s.answer ticket (.undelivered .closed)
  s.checked

/-- Takes note that there will be no more notifications. -/
def hangUp (s : Service) : Service :=
  let device := s.device.log [Log.debug "Transport notification channel closed"]
  { s with device, listening := false }.record .hungUp

/-- When the tick after this one is due: a period later, counted from now if this
one is too late to keep its place. -/
def dueAfter (s : Service) : Nat :=
  if s.due + tolerance < s.now then s.now + s.period else s.due + s.period

/-- Does a tick. -/
def tick (s : Service) : Service :=
  let (tick, device) := s.device.tick
  let device := match tick with
    | .refused e cause =>
        device.log [Log.debug s!"Pending {e.name} deferred to next tick: {cause.message}"]
    | _ => device
  { s with device, due := s.dueAfter }.record (.ticked tick)

/-- Serves a request. -/
def serve (job : Job) (s : Service) : Service :=
  let served (device : Device) : Service := { s with device }.record (.served job)
  let replied (outcome : Link.Result × Device) : Service :=
    (served outcome.2).answer job.ticket (ofResult outcome.1)
  match job.request with
  | .signal e => served (s.device.signal e)
  | .telemetry t => replied (s.device.sendTelemetry t)
  | .moved => replied s.device.sendMoved
  | .details serialNumber => replied (s.device.reportDetails serialNumber)
  | .report enabled => replied (s.device.reportUpload enabled)
  | .status => (served s.device).answer job.ticket (.status s.device.status)

/-- Lets in what waits outside the mailboxes. -/
def refill (s : Service) : Service :=
  { s with
    device := s.device.refill
    requests := s.requests.refill
    answers := s.answers ++ delivered s.device.link.inbox.admissible ++
      arrived s.requests.admissible }

def hasWaiting (s : Service) : Bool :=
  !s.device.link.inbox.waiting.isEmpty || !s.requests.waiting.isEmpty

/-- Does the next thing that is to be done, if there is one. -/
def turn? (s : Service) : Option Service :=
  if s.phase ≠ .running then none
  else if s.stopAsked then some s.stop
  else
    match s.device.popNotification? with
    | some (n, device) => some ({ s with device }.hear n)
    | none =>
        if s.listening && !s.attached && s.device.link.inbox.waiting.isEmpty then some s.hangUp
        else if s.due ≤ s.now then some s.tick
        else
          match s.requests.pop? with
          | some (job, requests) => some ({ s with requests }.serve job)
          | none => if s.hasWaiting then some s.refill else none

/-- A bound on the number of things to be done before time has to pass. A request
or a tick may bring a delivery result, which may have to wait. -/
def work (s : Service) : Nat :=
  s.device.link.inbox.queue.length + 2 * s.device.link.inbox.waiting.length +
    3 * s.requests.queue.length + 4 * s.requests.waiting.length +
    (if s.due ≤ s.now then 3 else 0) + (if s.listening then 1 else 0) +
    (if s.phase = .running then 1 else 0)

/-- Takes a number of turns, or as many as there are. -/
def turns : Nat → Service → Service
  | 0, s => s
  | n + 1, s =>
      match s.turn? with
      | some s => turns n s
      | none => s

/-- Does all that is to be done now. -/
def settle (s : Service) : Service := s.turns s.work

def ask (ticket : Nat) (request : Request) (s : Service) : Service :=
  if !s.requests.isOpen then s.answer ticket (.failed .stopped)
  else
    let job : Job := ⟨ticket, request⟩
    let after := { s with requests := s.requests.push job }
    if s.requests.isFull then after
    else { after with answers := after.answers ++ arrived [job] }

def deliver (ticket : Nat) (n : Notification) (s : Service) : Service :=
  if !s.attached || !s.device.link.inbox.isOpen then
    s.answer ticket (.undelivered .closed)
  else
    let sender := Link.Sender.outside ticket
    let link := s.device.link.deliver sender n
    let after := { s with device := { s.device with link } }
    if s.device.link.inbox.isFull then after
    else { after with answers := after.answers ++ delivered [⟨sender, n⟩] }

/-- Nobody outside can send notifications any more. -/
def detach (s : Service) : Service := { s with attached := false }

/-- Tells the service to stop, and has it do so. -/
def close (s : Service) : Service := { s with stopAsked := true }.settle

/-- Stops the service and waits for its end, which is a fault if it broke off. -/
def shutdown (s : Service) : Except Fault Unit × Service :=
  let s := s.close
  if s.phase = .crashed then
    (.error .stopped,
      { s with device := s.device.log [Log.error "Cloud adapter task failed: "] })
  else (.ok (), s)

/-- Lets the clock jump; a tick that is overdue is done at the new time. -/
def jump (ms : Nat) (s : Service) : Service := { s with now := s.now + ms }.settle

/-- Lets time pass up to a point, with a stop at each tick that is due on the way. -/
def passTo (target : Nat) : Nat → Service → Service
  | 0, s => { s with now := target }.settle
  | stops + 1, s =>
      if s.phase = .running ∧ s.due ≤ target then
        { s with now := max s.now s.due }.settle.passTo target stops
      else { s with now := target }.settle

/-- Lets time pass. Ticks are a period apart, which bounds their number. -/
def pass (ms : Nat) (s : Service) : Service :=
  s.passTo (s.now + ms) ((s.now + ms - s.due) / s.period + 1)

/-- What came of starting a service. -/
inductive Start
  | started (s : Service)
  | refused (cause : Fault) (d : Device)
  /-- No mailbox can have the capacity of the settings. -/
  | impossible

/-- Starts the link and, if it does not refuse, the service. Its time counts from
what the clock shows when it begins to work. If the clock cannot show when the first
tick is due the service breaks off at once. -/
def start (clock : Nat) (d : Device) : Start :=
  match d.startLink with
  | (.error cause, d) => .refused cause d
  | (.ok (), d) =>
      match Mailbox.ofCapacity? d.settings.capacity.toNat with
      | none => .impossible
      | some requests =>
          let seconds := d.settings.interval.toNat
          let device :=
            d.log [Log.info s!"Starting cloud adapter, checking pending events every {seconds}s"]
          let s : Service := { device, requests, now := 0, due := 1000 * seconds }
          .started (if clockLimit < clock + seconds then s.finish .crashed else s.settle)

end Service

end DeviceTwin
