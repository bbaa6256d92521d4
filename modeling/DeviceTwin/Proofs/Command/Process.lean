/-
A run as a process.  Its main task tells the service of the connection, gives its signal,
rests, asks for the status, puts it out, and has the service stop.  It waits for answers in
between, and the service takes its turns at any time.  Whatever the order in which all of this
happens, the process ends in the same way.
-/
import DeviceTwin.Proofs.Service.Lifetime
import DeviceTwin.Proofs.Service.Prospect
import DeviceTwin.Proofs.Service.StartUp

namespace DeviceTwin

namespace Service

theorem work_refill_add (s : Service) :
    s.refill.work + s.device.link.inbox.admissible.length + s.requests.admissible.length =
      s.work := by
  have hinbox := s.device.link.inbox.load_refill_add
  have hrequests := s.requests.load_refill_add
  rw [work_eq, work_eq]
  change s.device.link.inbox.refill.load + s.requests.refill.load +
    2 * s.requests.refill.toList.length + (if s.due ≤ s.now then 3 else 0) +
    (if s.listening then 1 else 0) + (if s.phase = .running then 1 else 0) + _ + _ = _
  rw [Mailbox.toList_refill]
  omega

theorem work_ask_le (s : Service) (ticket : Nat) (request : Request) :
    (s.ask ticket request).work ≤ s.work + 4 := by
  have hload := Mailbox.load_push_le s.requests ⟨ticket, request⟩
  have hlength := (Mailbox.perm_toList_push s.requests ⟨ticket, request⟩).length_eq
  rw [List.length_cons] at hlength
  by_cases hopen : s.requests.isOpen = true
  · rw [ask_eq hopen, work_eq, work_eq]
    change s.device.link.inbox.load + (s.requests.push ⟨ticket, request⟩).load +
      2 * (s.requests.push ⟨ticket, request⟩).toList.length + (if s.due ≤ s.now then 3 else 0) +
      (if s.listening then 1 else 0) + (if s.phase = .running then 1 else 0) ≤ _
    omega
  · rw [ask_of_shut (eq_false_of_ne_true hopen)]
    exact Nat.le_add_right _ 4

theorem work_deliver_le (s : Service) (ticket : Nat) (n : Notification) :
    (s.deliver ticket n).work ≤ s.work + 2 := by
  have hload := Mailbox.load_push_le s.device.link.inbox ⟨.outside ticket, n⟩
  by_cases hopen : (s.attached && s.device.link.inbox.isOpen) = true
  · obtain ⟨hattached, hinbox⟩ := Bool.and_eq_true_iff.mp hopen
    obtain ⟨answers, heq⟩ := deliver_eq hattached hinbox ticket n
    rw [heq, work_eq, work_eq]
    change (s.device.link.inbox.push ⟨.outside ticket, n⟩).load + s.requests.load +
      2 * s.requests.toList.length + (if s.due ≤ s.now then 3 else 0) +
      (if s.listening then 1 else 0) + (if s.phase = .running then 1 else 0) ≤ _
    omega
  · rw [deliver_of_shut hopen]
    exact Nat.le_add_right _ 2

end Service

namespace Command

/-- Where the main task of a run is. -/
inductive Stage
  | greeting
  /-- It waits until the connection is in the mailbox. -/
  | telling
  /-- It waits until its signal is in the mailbox. -/
  | signaling
  /-- It waits for a point in time, and sends a reading whenever one is due. -/
  | resting (deadline nextReading readings : Nat)
  /-- It waits for the answer to a reading. -/
  | sending (deadline nextReading readings : Nat)
  /-- It waits for the status. -/
  | asking (readings : Nat)
  /-- It has put the status out and waits for the end of the service. -/
  | leaving (output : String)
  | ended (code : Nat) (output : String)

/-- A run as a process: its service, and where its main task is. -/
structure Process where
  service : Service
  stage : Stage

/-- The terms of a run. -/
structure Terms where
  offline : Bool
  /-- The milliseconds for which the main task rests. -/
  duration : Nat
  /-- The time until which the process may last, with all its delays. -/
  limit : Nat

/-- What is put out of a status. -/
def statusText (s : Status) : String := (Run.statusJson s).writeSpread ++ "\n"

/-- How late it will be at least when a main task has done all that takes time. -/
def Stage.latest (terms : Terms) (now : Nat) : Stage → Nat
  | .greeting | .telling | .signaling => now + terms.duration
  | .resting deadline _ _ | .sending deadline _ _ => max now deadline
  | .asking _ | .leaving _ | .ended _ _ => now

/-- What brings a main task to an early end, with what was put out before. -/
inductive Fails (s : Service) : Stage → String → Prop
  | telling {a : Service.Answer} (hanswer : s.answer? 0 = some a) (hfailed : a ≠ .done) :
      Fails s .telling ""
  | signaling {a : Service.Answer} (hanswer : s.answer? 1 = some a) (hfailed : a ≠ .done) :
      Fails s .signaling ""
  | asking {readings : Nat} {a : Service.Answer} (hanswer : s.answer? (readings + 2) = some a)
      (hfailed : ∀ status, a ≠ .status status) : Fails s (.asking readings) ""
  | leaving {output : String} (hcrashed : s.phase = .crashed) : Fails s (.leaving output) output

/-- What a main task does next, as soon as it has the answer for which it waits. -/
inductive Acts (terms : Terms) (s : Service) : Stage → Process → Prop
  | tell (honline : terms.offline = false) :
      Acts terms s .greeting ⟨s.deliver 0 (.connection true), .telling⟩
  | skip (hoffline : terms.offline = true) :
      Acts terms s .greeting ⟨s.ask 1 (.signal .noUpdateAvailable), .signaling⟩
  | signal (htold : s.answer? 0 = some .done) :
      Acts terms s .telling ⟨s.ask 1 (.signal .noUpdateAvailable), .signaling⟩
  | rest (hsignaled : s.answer? 1 = some .done) :
      Acts terms s .signaling ⟨s, .resting (s.now + terms.duration) (s.now + s.period) 0⟩
  | read {deadline nextReading readings : Nat} (hdue : nextReading ≤ s.now) :
      Acts terms s (.resting deadline nextReading readings)
        ⟨s.ask (readings + 2) (.telemetry (Run.reading (UInt32.ofNat readings))),
          .sending deadline (nextReading + s.period) readings⟩
  /-- Whether the reading was sent or not is all the same to it. -/
  | resume {deadline nextReading readings : Nat} {a : Service.Answer}
      (hanswer : s.answer? (readings + 2) = some a) :
      Acts terms s (.sending deadline nextReading readings)
        ⟨s, .resting deadline nextReading (readings + 1)⟩
  | ask {deadline nextReading readings : Nat} (hover : deadline ≤ s.now) :
      Acts terms s (.resting deadline nextReading readings)
        ⟨s.ask (readings + 2) .status, .asking readings⟩
  | print {readings : Nat} {status : Status}
      (hstatus : s.answer? (readings + 2) = some (.status status)) :
      Acts terms s (.asking readings)
        ⟨{ s with stopAsked := true }, .leaving (statusText status)⟩
  | leave {output : String} (hstopped : s.phase = .stopped) :
      Acts terms s (.leaving output) ⟨s, .ended Exit.success.code output⟩
  | fail {stage : Stage} {output : String} (hfails : Fails s stage output) :
      Acts terms s stage ⟨s, .ended failureCode output⟩

namespace Process

/-- What may happen next in a process. -/
inductive Step (terms : Terms) : Process → Process → Prop
  | turn {s next : Service} {stage : Stage} (hturn : s.Turn next) :
      Step terms ⟨s, stage⟩ ⟨next, stage⟩
  /-- Those who wait outside a mailbox come in. -/
  | letIn {s : Service} {stage : Stage}
      (hsome : s.device.link.inbox.admissible ≠ [] ∨ s.requests.admissible ≠ []) :
      Step terms ⟨s, stage⟩ ⟨s.refill, stage⟩
  /-- Time passes, while the main task rests or because something is delayed. -/
  | wait {s : Service} {stage : Stage} {ms : Nat} (hpositive : 0 < ms)
      (hlimit : stage.latest terms (s.now + ms) ≤ terms.limit) :
      Step terms ⟨s, stage⟩ ⟨{ s with now := s.now + ms }, stage⟩
  | act {s : Service} {stage : Stage} {next : Process} (hacts : Acts terms s stage next) :
      Step terms ⟨s, stage⟩ next

/-- However the steps follow one another, a process comes to its end, with one code and one
output. -/
inductive Ends (terms : Terms) (code : Nat) (output : String) : Process → Prop
  | ended {s : Service} : Ends terms code output ⟨s, .ended code output⟩
  | on {p : Process} (hgoes : ∃ next, Step terms p next)
      (hends : ∀ next, Step terms p next → Ends terms code output next) :
      Ends terms code output p

end Process

variable {terms : Terms} {start : Device.Memory} {s next : Service} {stage : Stage}

/-- What a device keeps in mind when it was told of the connection, if there is one. -/
def introduced (terms : Terms) (start : Device.Memory) : Device.Memory :=
  if terms.offline then start else start.hear (.connection true)

/-- What a device is to keep in mind when its status is put out. -/
def goal (terms : Terms) (start : Device.Memory) : Device.Memory :=
  (introduced terms start).grant (.signal .noUpdateAvailable)

/-- The answers to what a main task does at first. -/
def greetings (terms : Terms) : List (Nat × Service.Answer) :=
  (if terms.offline then [] else [(0, .done)]) ++ [(1, .done)]

/-- The course of a run: where the main task is, and how things stand with the service. -/
inductive Course (terms : Terms) (start : Device.Memory) : Process → Prop
  | greeting {s : Service} (hunderway : s.Underway [] [] [] start) :
      Course terms start ⟨s, .greeting⟩
  | telling {s : Service} {letters : List Notification} (honline : terms.offline = false)
      (hunderway : s.Underway letters [] [(0, .done)] (start.hear (.connection true))) :
      Course terms start ⟨s, .telling⟩
  | signaling {s : Service} {letters : List Notification} {jobs : List Service.Job}
      (hsignals : ∀ job ∈ jobs, job.request.isSignal = true)
      (hunderway : s.Underway letters jobs (greetings terms) (goal terms start)) :
      Course terms start ⟨s, .signaling⟩
  /-- No reading is due in time. -/
  | resting {s : Service} {letters : List Notification} {jobs : List Service.Job}
      {deadline nextReading : Nat} (hsignals : ∀ job ∈ jobs, job.request.isSignal = true)
      (hunderway : s.Underway letters jobs (greetings terms) (goal terms start))
      (hlate : terms.limit < nextReading) :
      Course terms start ⟨s, .resting deadline nextReading 0⟩
  | asking {s : Service} {letters : List Notification} {jobs : List Service.Job}
      (hsignals : ∀ job ∈ jobs, job.request.isSignal = true)
      (hunderway : s.Underway letters (jobs ++ [⟨2, .status⟩]) (greetings terms)
        (goal terms start)) :
      Course terms start ⟨s, .asking 0⟩
  | answered {s : Service}
      (hunderway : s.Underway [] [] (greetings terms ++ [(2, .status (goal terms start).status)])
        (goal terms start)) :
      Course terms start ⟨s, .asking 0⟩
  | leaving {s : Service} (hrunning : s.phase = .running) (hasked : s.stopAsked = true) :
      Course terms start ⟨s, .leaving (statusText (goal terms start).status)⟩
  | stopped {s : Service} (hstopped : s.phase = .stopped) :
      Course terms start ⟨s, .leaving (statusText (goal terms start).status)⟩

/-- A turn of the service leaves the run on its course. -/
theorem Course.turn (hcourse : Course terms start ⟨s, stage⟩) (hturn : s.Turn next) :
    Course terms start ⟨next, stage⟩ ∧ s.SameClock next := by
  cases hcourse with
  | greeting hunderway =>
      obtain ⟨hclock, hnext⟩ := hunderway.turn_of_idle hturn
      exact ⟨.greeting hnext, hclock⟩
  | telling honline hunderway =>
      obtain ⟨hclock, hcases⟩ := hunderway.turn hturn
      refine ⟨?_, hclock⟩
      rcases hcases with ⟨n, later, -, hnext⟩ | ⟨job, later, -, hjobs, -⟩ | hnext
      · exact .telling honline hnext
      · contradiction
      · exact .telling honline hnext
  | signaling hsignals hunderway =>
      obtain ⟨hclock, letters, jobs, hsignals, hnext⟩ := hunderway.turn_of_signals hsignals hturn
      exact ⟨.signaling hsignals hnext, hclock⟩
  | resting hsignals hunderway hlate =>
      obtain ⟨hclock, letters, jobs, hsignals, hnext⟩ := hunderway.turn_of_signals hsignals hturn
      exact ⟨.resting hsignals hnext hlate, hclock⟩
  | @asking _ letters jobs hsignals hunderway =>
      obtain ⟨hclock, hcases⟩ := hunderway.turn hturn
      refine ⟨?_, hclock⟩
      rcases hcases with ⟨n, later, -, hnext⟩ | ⟨job, later, hletters, hjobs, hnext⟩ | hnext
      · exact .asking hsignals hnext
      · cases jobs with
        | nil =>
            -- All letters are heard and all signals given when the status is told.
            obtain ⟨rfl, rfl⟩ := List.cons.inj hjobs
            subst hletters
            have hgoal : s.device.memory = goal terms start := hunderway.goal_eq
            rw [hgoal] at hnext
            exact .answered hnext
        | cons first rest =>
            obtain ⟨rfl, rfl⟩ := List.cons.inj hjobs
            rw [List.forall_mem_cons] at hsignals
            rw [Service.replies_of_isSignal hsignals.1, List.append_nil] at hnext
            exact .asking hsignals.2 hnext
      · exact .asking hsignals hnext
  | answered hunderway =>
      obtain ⟨hclock, hnext⟩ := hunderway.turn_of_idle hturn
      exact ⟨.answered hnext, hclock⟩
  | leaving hrunning hasked =>
      rw [hturn.eq_stop hasked]
      exact ⟨.stopped rfl, rfl, rfl, rfl⟩
  | stopped hstopped =>
      have hended : s.phase ≠ .running := by
        rw [hstopped]
        nofun
      have hrest : s.turn? = none := Service.turn?_eq_none_iff.mpr (.ended hended)
      rw [Service.turn?_eq_some_iff.mpr hturn] at hrest
      contradiction

theorem Course.letIn (hcourse : Course terms start ⟨s, stage⟩) :
    Course terms start ⟨s.refill, stage⟩ := by
  cases hcourse with
  | greeting hunderway => exact .greeting hunderway.refill.1
  | telling honline hunderway => exact .telling honline hunderway.refill.1
  | signaling hsignals hunderway => exact .signaling hsignals hunderway.refill.1
  | resting hsignals hunderway hlate => exact .resting hsignals hunderway.refill.1 hlate
  | asking hsignals hunderway => exact .asking hsignals hunderway.refill.1
  | answered hunderway => exact .answered hunderway.refill.1
  | leaving hrunning hasked => exact .leaving hrunning hasked
  | stopped hstopped => exact .stopped hstopped

theorem Course.wait (hcourse : Course terms start ⟨s, stage⟩) {now : Nat} (hearly : now < s.due) :
    Course terms start ⟨{ s with now }, stage⟩ := by
  cases hcourse with
  | greeting hunderway => exact .greeting (hunderway.withNow hearly)
  | telling honline hunderway => exact .telling honline (hunderway.withNow hearly)
  | signaling hsignals hunderway => exact .signaling hsignals (hunderway.withNow hearly)
  | resting hsignals hunderway hlate => exact .resting hsignals (hunderway.withNow hearly) hlate
  | asking hsignals hunderway => exact .asking hsignals (hunderway.withNow hearly)
  | answered hunderway => exact .answered (hunderway.withNow hearly)
  | leaving hrunning hasked => exact .leaving hrunning hasked
  | stopped hstopped => exact .stopped hstopped

/-- A process that will be over before a tick or a reading is due. -/
structure InTime (terms : Terms) (s : Service) (stage : Stage) : Prop where
  latest : stage.latest terms s.now ≤ terms.limit
  due : terms.limit < s.due
  period : terms.limit < s.period

theorem InTime.of_sameClock (hintime : InTime terms s stage) (hclock : s.SameClock next)
    {after : Stage} (hlatest : after.latest terms s.now ≤ stage.latest terms s.now) :
    InTime terms next after := by
  refine ⟨?_, hclock.due ▸ hintime.due, hclock.period ▸ hintime.period⟩
  rw [hclock.now]
  exact Nat.le_trans hlatest hintime.latest

theorem Stage.now_le_latest (terms : Terms) (now : Nat) (stage : Stage) :
    now ≤ stage.latest terms now := by
  cases stage with
  | greeting => exact Nat.le_add_right _ _
  | telling => exact Nat.le_add_right _ _
  | signaling => exact Nat.le_add_right _ _
  | resting => exact Nat.le_max_left _ _
  | sending => exact Nat.le_max_left _ _
  | _ => exact Nat.le_refl _

theorem InTime.now_le (hintime : InTime terms s stage) : s.now ≤ terms.limit :=
  Nat.le_trans (stage.now_le_latest terms s.now) hintime.latest

/-- A run that is on its course and in time, or that is over. -/
inductive Kept (terms : Terms) (start : Device.Memory) : Process → Prop
  | going {s : Service} {stage : Stage} (hcourse : Course terms start ⟨s, stage⟩)
      (hintime : InTime terms s stage) : Kept terms start ⟨s, stage⟩
  | ended {s : Service} : Kept terms start
      ⟨s, .ended Exit.success.code (statusText (goal terms start).status)⟩

theorem lookup_one_greetings (terms : Terms) : (greetings terms).lookup 1 = some .done := by
  rw [greetings]
  cases terms.offline <;> rfl

theorem lookup_greetings (terms : Terms) (answers : List (Nat × Service.Answer)) :
    (greetings terms ++ answers).lookup 2 = answers.lookup 2 := by
  rw [greetings]
  cases terms.offline <;> rfl

/-- The signal is given when the device was told of the connection, or is not to be told. -/
theorem Course.of_signal {letters : List Notification} {answers : List (Nat × Service.Answer)}
    {m : Device.Memory} (hunderway : s.Underway letters [] answers m)
    (hanswers : answers ++ [(1, .done)] = greetings terms) (hm : m = introduced terms start) :
    Course terms start ⟨s.ask 1 (.signal .noUpdateAvailable), .signaling⟩ ∧
      s.SameClock (s.ask 1 (.signal .noUpdateAvailable)) := by
  have hlocal : Service.Request.isLocal (.signal .noUpdateAvailable) = true := rfl
  obtain ⟨hafter, hclock⟩ := hunderway.ask nofun 1 hlocal fun _ => rfl
  subst hm
  refine ⟨.signaling ?_ (hanswers ▸ hafter), hclock⟩
  intro job hjob
  rw [List.mem_singleton.mp hjob]
  rfl

/-- The main task keeps to the course. -/
theorem Course.act {after : Process} (hcourse : Course terms start ⟨s, stage⟩)
    (hintime : InTime terms s stage) (hacts : Acts terms s stage after) :
    Kept terms start after := by
  have hnow := hintime.now_le
  cases hcourse with
  | greeting hunderway =>
      cases hacts with
      | tell honline =>
          obtain ⟨hafter, hclock⟩ := hunderway.deliver 0 (n := .connection true) rfl
          exact .going (.telling honline hafter) (hintime.of_sameClock hclock (Nat.le_refl _))
      | skip hoffline =>
          have hanswers : [] ++ [(1, Service.Answer.done)] = greetings terms := by
            rw [greetings, if_pos hoffline]
          obtain ⟨hafter, hclock⟩ := Course.of_signal hunderway hanswers (if_pos hoffline).symm
          exact .going hafter (hintime.of_sameClock hclock (Nat.le_refl _))
      | fail hfails => cases hfails
  | telling honline hunderway =>
      have hanswer : s.answer? 0 = some .done := hunderway.answer?_eq 0
      have hnot : ¬terms.offline = true := by rw [honline]; nofun
      cases hacts with
      | signal htold =>
          have hanswers : [(0, .done)] ++ [(1, Service.Answer.done)] = greetings terms := by
            rw [greetings, if_neg hnot]
          obtain ⟨hafter, hclock⟩ := Course.of_signal hunderway hanswers (if_neg hnot).symm
          exact .going hafter (hintime.of_sameClock hclock (Nat.le_refl _))
      | fail hfails =>
          cases hfails with
          | telling hfailing hfailed =>
              rw [hanswer] at hfailing
              exact absurd (Option.some.inj hfailing).symm hfailed
  | signaling hsignals hunderway =>
      cases hacts with
      | rest hsignaled =>
          refine .going (.resting hsignals hunderway ?_)
            ⟨?_, hintime.due, hintime.period⟩
          · have hperiod := hintime.period
            omega
          · exact Nat.max_le.mpr ⟨hnow, hintime.latest⟩
      | fail hfails =>
          cases hfails with
          | signaling hfailing hfailed =>
              rw [hunderway.answer?_eq, lookup_one_greetings] at hfailing
              exact absurd (Option.some.inj hfailing).symm hfailed
  | resting hsignals hunderway hlate =>
      cases hacts with
      | read hdue => exact absurd hdue (Nat.not_le_of_lt (Nat.lt_of_le_of_lt hnow hlate))
      | ask hover =>
          have hlocal : Service.Request.isLocal .status = true := rfl
          obtain ⟨hafter, hclock⟩ := hunderway.ask hsignals 2 hlocal nofun
          have hnothing : greetings terms ++ Service.arrived [⟨2, .status⟩] = greetings terms :=
            List.append_nil _
          rw [hnothing] at hafter
          exact .going (.asking hsignals hafter) (hintime.of_sameClock hclock (Nat.le_max_left _ _))
      | fail hfails => cases hfails
  | asking hsignals hunderway =>
      have hanswer : s.answer? 2 = none := by
        rw [hunderway.answer?_eq, ← List.append_nil (greetings terms), lookup_greetings]
        rfl
      cases hacts with
      | print hstatus =>
          rw [hanswer] at hstatus
          contradiction
      | fail hfails =>
          cases hfails with
          | asking hfailing _ =>
              rw [hanswer] at hfailing
              contradiction
  | answered hunderway =>
      have hanswer : s.answer? 2 = some (.status (goal terms start).status) := by
        rw [hunderway.answer?_eq, lookup_greetings]
        rfl
      cases hacts with
      | print hstatus =>
          rw [hanswer] at hstatus
          cases hstatus
          exact .going (.leaving hunderway.running rfl)
            ⟨hintime.latest, hintime.due, hintime.period⟩
      | fail hfails =>
          cases hfails with
          | asking hfailing hfailed =>
              rw [hanswer] at hfailing
              exact absurd (Option.some.inj hfailing).symm (hfailed _)
  | leaving hrunning hasked =>
      cases hacts with
      | leave hstopped =>
          rw [hrunning] at hstopped
          contradiction
      | fail hfails =>
          cases hfails with
          | leaving hcrashed =>
              rw [hrunning] at hcrashed
              contradiction
  | stopped hstopped =>
      cases hacts with
      | leave _ => exact .ended
      | fail hfails =>
          cases hfails with
          | leaving hcrashed =>
              rw [hstopped] at hcrashed
              contradiction

/-- How far a main task is from its end. -/
def Stage.distance : Stage → Nat
  | .greeting => 7
  | .telling => 6
  | .signaling => 5
  | .sending _ _ _ => 4
  | .resting _ _ _ => 3
  | .asking _ => 2
  | .leaving _ => 1
  | .ended _ _ => 0

/-- A bound on the number of steps that are left. -/
def Process.remaining (terms : Terms) (p : Process) : Nat :=
  8 * p.stage.distance + p.service.work + (terms.limit - p.service.now)

theorem now_ask (s : Service) (ticket : Nat) (request : Service.Request) :
    (s.ask ticket request).now = s.now := by
  obtain ⟨requests, answers, heq⟩ := s.exists_ask_eq ticket request
  rw [heq]

theorem now_deliver (s : Service) (ticket : Nat) (n : Notification) :
    (s.deliver ticket n).now = s.now := by
  obtain ⟨inbox, answers, heq⟩ := s.exists_deliver_eq ticket n
  rw [heq]

/-- What the main task does brings it nearer to its end, unless it begins to send a reading. -/
theorem Acts.remaining_lt {after : Process} (hacts : Acts terms s stage after)
    (hquiet : ∀ deadline nextReading readings, stage = .resting deadline nextReading readings →
      s.now < nextReading) :
    after.remaining terms < Process.remaining terms ⟨s, stage⟩ := by
  unfold Process.remaining
  cases hacts with
  | tell =>
      have hwork := s.work_deliver_le 0 (.connection true)
      rw [now_deliver]
      simp only [Stage.distance]
      omega
  | skip =>
      have hwork := s.work_ask_le 1 (.signal .noUpdateAvailable)
      rw [now_ask]
      simp only [Stage.distance]
      omega
  | signal =>
      have hwork := s.work_ask_le 1 (.signal .noUpdateAvailable)
      rw [now_ask]
      simp only [Stage.distance]
      omega
  | rest =>
      simp only [Stage.distance]
      omega
  | read hdue => exact absurd hdue (Nat.not_le_of_lt (hquiet _ _ _ rfl))
  | resume =>
      simp only [Stage.distance]
      omega
  | @ask deadline nextReading readings hover =>
      have hwork := s.work_ask_le (readings + 2) .status
      rw [now_ask]
      simp only [Stage.distance]
      omega
  | print =>
      have hwork : Service.work { s with stopAsked := true } = s.work := rfl
      simp only [Stage.distance]
      omega
  | leave =>
      simp only [Stage.distance]
      omega
  | fail hfails =>
      cases hfails <;> (simp only [Stage.distance]; omega)

/-- A process on its course that is not over stays on it in every step, and comes nearer to
its end. -/
theorem Course.step {after : Process} (hcourse : Course terms start ⟨s, stage⟩)
    (hintime : InTime terms s stage) (hstep : Process.Step terms ⟨s, stage⟩ after) :
    Kept terms start after ∧ after.remaining terms < Process.remaining terms ⟨s, stage⟩ := by
  have hnow := hintime.now_le
  cases hstep with
  | turn hturn =>
      obtain ⟨hafter, hclock⟩ := hcourse.turn hturn
      refine ⟨.going hafter (hintime.of_sameClock hclock (Nat.le_refl _)), ?_⟩
      have hwork := Service.work_lt_of_turn hturn
      unfold Process.remaining
      rw [hclock.now]
      dsimp only
      omega
  | letIn hsome =>
      refine ⟨.going hcourse.letIn ⟨hintime.latest, hintime.due, hintime.period⟩, ?_⟩
      have hwork := s.work_refill_add
      have hless : 0 < s.device.link.inbox.admissible.length + s.requests.admissible.length := by
        rcases hsome with hletters | hjobs
        · exact Nat.add_pos_left (List.length_pos_iff.mpr hletters) _
        · exact Nat.add_pos_right _ (List.length_pos_iff.mpr hjobs)
      have hsame : s.refill.now = s.now := rfl
      unfold Process.remaining
      rw [hsame]
      dsimp only
      omega
  | @wait _ _ ms hpositive hlimit =>
      have hlater : s.now + ms ≤ terms.limit :=
        Nat.le_trans (stage.now_le_latest terms (s.now + ms)) hlimit
      have hearly : s.now + ms < s.due := Nat.lt_of_le_of_lt hlater hintime.due
      refine ⟨.going (hcourse.wait hearly) ⟨hlimit, hintime.due, hintime.period⟩, ?_⟩
      have hwork : Service.work { s with now := s.now + ms } = s.work := by
        rw [Service.work_eq, Service.work_eq]
        dsimp only
        rw [if_neg (Nat.not_le_of_lt hearly),
          if_neg (Nat.not_le_of_lt (Nat.lt_of_le_of_lt hnow hintime.due))]
      unfold Process.remaining
      rw [hwork]
      dsimp only
      omega
  | act hacts =>
      refine ⟨hcourse.act hintime hacts, hacts.remaining_lt ?_⟩
      rintro deadline nextReading readings rfl
      cases hcourse with
      | resting _ _ hlate => exact Nat.lt_of_le_of_lt hnow hlate

/-- There is always a next step until the end. -/
theorem Course.exists_step (hcourse : Course terms start ⟨s, stage⟩)
    (hintime : InTime terms s stage) : ∃ after, Process.Step terms ⟨s, stage⟩ after := by
  cases hcourse with
  | greeting hunderway =>
      cases hoffline : terms.offline with
      | false => exact ⟨_, .act (.tell hoffline)⟩
      | true => exact ⟨_, .act (.skip hoffline)⟩
  | telling honline hunderway => exact ⟨_, .act (.signal (hunderway.answer?_eq 0))⟩
  | signaling hsignals hunderway =>
      have hanswer := hunderway.answer?_eq 1
      rw [lookup_one_greetings] at hanswer
      exact ⟨_, .act (.rest hanswer)⟩
  | @resting _ _ _ deadline _ hsignals hunderway hlate =>
      by_cases hover : deadline ≤ s.now
      · exact ⟨_, .act (.ask hover)⟩
      · have hpositive : 0 < deadline - s.now := by omega
        have hlatest := hintime.latest
        refine ⟨_, .wait hpositive ?_⟩
        rw [Stage.latest] at hlatest ⊢
        omega
  | asking hsignals hunderway =>
      -- The service is not at rest as long as the question is on its way.
      cases hturn : s.turn? with
      | some after => exact ⟨_, .turn (Service.turn_of_turn?_eq_some hturn)⟩
      | none =>
          obtain ⟨-, hjobs, -⟩ := hunderway.at_rest hturn
          exact absurd hjobs (List.append_ne_nil_of_right_ne_nil _ (List.cons_ne_nil _ _))
  | answered hunderway =>
      have hanswer : s.answer? 2 = some (.status (goal terms start).status) := by
        rw [hunderway.answer?_eq, lookup_greetings]
        rfl
      exact ⟨_, .act (.print hanswer)⟩
  | leaving hrunning hasked => exact ⟨_, .turn (.stop hrunning hasked)⟩
  | stopped hstopped => exact ⟨_, .act (.leave hstopped)⟩

/-- A process that has begun its course comes to its end in every order of its steps. -/
theorem Kept.ends {p : Process} (hkept : Kept terms start p) :
    p.Ends terms Exit.success.code (statusText (goal terms start).status) := by
  induction hremaining : p.remaining terms using Nat.strongRecOn generalizing p with
  | ind n ih =>
      cases hkept with
      | ended => exact .ended
      | going hcourse hintime =>
          refine .on (hcourse.exists_step hintime) fun after hstep => ?_
          obtain ⟨hafter, hless⟩ := hcourse.step hintime hstep
          exact ih _ (hremaining ▸ hless) hafter rfl

end Command

end DeviceTwin
