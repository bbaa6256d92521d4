/-
The course of a service: its turns, and between them whatever happens outside, in any
order.  The log of a course has what came into the mailboxes and what was done, in the
order in which it happened.
-/
import DeviceTwin.Proofs.Service.Deeds
import DeviceTwin.Proofs.Service.Settling

namespace DeviceTwin

namespace Service

/-- The service of a device when its loop is entered, before the first turn.  Its time counts from
there, since there its timer is armed for the first tick, and not from when it was asked for.
There is none if the link refuses, if no mailbox can have the capacity of the settings, or if the
clock cannot show when the first tick is due. -/
def launch? (clock : Nat) (d : Device) : Option Service :=
  match d.startLink with
  | (.error _, _) => none
  | (.ok (), d) =>
      let seconds := d.settings.interval.toNat
      let started := Log.info s!"Starting cloud adapter, checking pending events every {seconds}s"
      if clockLimit < clock + seconds then none
      else
        (Mailbox.ofCapacity? d.settings.capacity.toNat).map fun requests =>
          { device := d.log [started], requests, now := 0, due := 1000 * seconds }

/-- What may happen while a service works. -/
inductive Move
  /-- The service does the next thing, if there is one. -/
  | turn
  | ask (ticket : Nat) (request : Request)
  | deliver (ticket : Nat) (n : Notification)
  /-- Somebody else makes a call on the link. -/
  | use (c : Link.Call)
  /-- The network or the cloud makes the link behave in another way. -/
  | adapt (kind : Link.Kind)
  /-- Those who wait outside the mailboxes come in. -/
  | letIn
  | wait (ms : Nat)
  /-- The service is told to stop, or its handle is dropped. -/
  | tellStop
  | detach

def move (s : Service) : Move → Service
  | .turn => s.turn?.getD s
  | .ask ticket request => s.ask ticket request
  | .deliver ticket n => s.deliver ticket n
  | .use c => { s with device := { s.device with link := (s.device.link.perform c).link } }
  | .adapt kind => { s with device := { s.device with link := { s.device.link with kind } } }
  | .letIn => s.refill
  | .wait ms => { s with now := s.now + ms }
  | .tellStop => { s with stopAsked := true }
  | .detach => s.detach

def after (s : Service) (moves : List Move) : Service := moves.foldl move s

/-- An entry in the log of a course. -/
inductive Occurrence
  /-- A notification came into the mailbox. -/
  | arrived (n : Notification)
  /-- A request came into the mailbox. -/
  | enrolled (job : Job)
  | did (a : Activity)

/-- What comes in when those who wait do. -/
def admitted (s : Service) : List Occurrence :=
  s.device.link.inbox.admissible.map (fun letter => .arrived letter.content) ++
    s.requests.admissible.map .enrolled

/-- What is done in a turn, and then the delivery results that it brings.  Nothing is done
in the turn in which those who wait come in. -/
def turned (s after : Service) : List Occurrence :=
  match s.deeds after with
  | [] => s.admitted
  | deeds =>
      deeds.map .did ++
        (s.device.link.enteringAll (s.device.callsUntil after.device)).map
          fun letter => .arrived letter.content

/-- What a move adds to the log. -/
def occurrences (s : Service) : Move → List Occurrence
  | .turn =>
      match s.turn? with
      | some after => s.turned after
      | none => []
  | .ask ticket request =>
      if s.requests.isOpen then (s.requests.entering ⟨ticket, request⟩).map .enrolled else []
  | .deliver ticket n =>
      if s.attached && s.device.link.inbox.isOpen then
        (s.device.link.inbox.entering ⟨.outside ticket, n⟩).map fun letter =>
          .arrived letter.content
      else []
  | .use c => (s.device.link.entering c).map fun letter => .arrived letter.content
  | .letIn => s.admitted
  | .adapt _ | .wait _ | .tellStop | .detach => []

def log (s : Service) : List Move → List Occurrence
  | [] => []
  | m :: later => s.occurrences m ++ (s.move m).log later

/-- The notifications that came in. -/
def arrivals (log : List Occurrence) : List Notification :=
  log.filterMap fun
    | .arrived n => some n
    | _ => none

/-- The requests that came in. -/
def enrolments (log : List Occurrence) : List Job :=
  log.filterMap fun
    | .enrolled job => some job
    | _ => none

/-- What was done. -/
def activities (log : List Occurrence) : List Activity :=
  log.filterMap fun
    | .did a => some a
    | _ => none

/-- The notifications that were heard. -/
def heard (log : List Occurrence) : List Notification :=
  (activities log).filterMap fun
    | .heard n => some n
    | _ => none

/-- The requests that were served. -/
def served (log : List Occurrence) : List Job :=
  (activities log).filterMap fun
    | .served job => some job
    | _ => none

/-- The notifications in the mailbox, the oldest first. -/
def letters (s : Service) : List Notification := s.device.link.inbox.queue.map (·.content)

/-- The requests in the mailbox, the oldest first. -/
def jobs (s : Service) : List Job := s.requests.queue

@[simp] theorem arrivals_append (earlier later : List Occurrence) :
    arrivals (earlier ++ later) = arrivals earlier ++ arrivals later := List.filterMap_append

@[simp] theorem enrolments_append (earlier later : List Occurrence) :
    enrolments (earlier ++ later) = enrolments earlier ++ enrolments later :=
  List.filterMap_append

@[simp] theorem activities_append (earlier later : List Occurrence) :
    activities (earlier ++ later) = activities earlier ++ activities later :=
  List.filterMap_append

@[simp] theorem heard_append (earlier later : List Occurrence) :
    heard (earlier ++ later) = heard earlier ++ heard later := by
  simp [heard]

@[simp] theorem served_append (earlier later : List Occurrence) :
    served (earlier ++ later) = served earlier ++ served later := by
  simp [served]

variable {s : Service} {clock : Nat}

theorem after_append (s : Service) (earlier later : List Move) :
    s.after (earlier ++ later) = (s.after earlier).after later := by
  rw [after, List.foldl_append]
  rfl

theorem log_append (s : Service) (earlier later : List Move) :
    s.log (earlier ++ later) = s.log earlier ++ (s.after earlier).log later := by
  induction earlier generalizing s with
  | nil => rfl
  | cons m rest ih =>
      rw [List.cons_append, log, log, ih, List.append_assoc]
      rfl

/-- A service that is launched is started, and then takes the turns that it has at once. -/
theorem start_of_launch?_eq_some {d : Device} (hlaunched : launch? clock d = some s) :
    start clock d = .started s.settle := by
  unfold launch? at hlaunched
  unfold start
  rcases hlink : d.startLink with ⟨result, after⟩
  rw [hlink] at hlaunched
  cases result with
  | error cause => exact absurd hlaunched nofun
  | ok _ =>
      dsimp only at hlaunched ⊢
      by_cases hclock : clockLimit < clock + after.settings.interval.toNat
      · rw [if_pos hclock] at hlaunched
        contradiction
      · rw [if_neg hclock, Option.map_eq_some_iff] at hlaunched
        obtain ⟨requests, hrequests, rfl⟩ := hlaunched
        rw [hrequests]
        dsimp only
        rw [if_neg hclock]

/-- A service at its start is as new, and its device has made one call, by which the link
was started. -/
theorem eq_of_launch?_eq_some {d : Device} (hlaunched : launch? clock d = some s) :
    ∃ requests records, Mailbox.ofCapacity? d.settings.capacity.toNat = some requests ∧
      s = { device := d.startLink.2.log records, requests, now := 0
            due := 1000 * d.settings.interval.toNat } := by
  have hsettings : d.startLink.2.settings = d.settings :=
    congrArg Device.Memory.settings d.memory_startLink
  unfold launch? at hlaunched
  rcases hlink : d.startLink with ⟨result, after⟩
  rw [hlink] at hlaunched hsettings
  cases result with
  | error cause => exact absurd hlaunched nofun
  | ok _ =>
      dsimp only at hlaunched hsettings ⊢
      rw [hsettings] at hlaunched
      split at hlaunched
      · contradiction
      · rw [Option.map_eq_some_iff] at hlaunched
        obtain ⟨requests, hrequests, rfl⟩ := hlaunched
        exact ⟨requests, _, hrequests, rfl⟩

theorem settle_eq_after (s : Service) : s.settle = s.after (List.replicate s.work .turn) := by
  have hturns : ∀ (n : Nat) (s : Service), s.turns n = s.after (List.replicate n .turn) := by
    intro n
    induction n with
    | zero => exact fun s => rfl
    | succ n ih =>
        intro s
        rw [List.replicate_succ]
        change _ = (s.turn?.getD s).after _
        rw [← ih]
        cases hturn : s.turn? with
        | none =>
            rw [turns_of_turn?_eq_none hturn]
            exact (turns_of_turn?_eq_none hturn n).symm
        | some after => exact turns_succ_of_turn?_eq_some hturn n
  exact hturns s.work s

end Service

end DeviceTwin
