/-
The order in which a service works.  Whatever comes in between, a tick and a request find
the mailbox for notifications empty, so all that came in before them has been heard; and
from that it follows what a status, a report and a tick know of.
-/
import DeviceTwin.Proofs.Device.Flags
import DeviceTwin.Proofs.Service.Passage

namespace DeviceTwin

namespace Service

variable {s next : Service}

/-- The notifications that came into the mailbox, after those that were in it at first. -/
def received (s : Service) (moves : List Move) : List Notification :=
  s.letters ++ arrivals (s.log moves)

/-- The requests that came into the mailbox, after those that were in it at first. -/
def requested (s : Service) (moves : List Move) : List Job :=
  s.jobs ++ enrolments (s.log moves)

/-- What the service does if it takes a turn now. -/
def Does (s : Service) (a : Activity) : Prop := ∃ next, s.turn? = some next ∧ s.deeds next = [a]

/-- The mailboxes are first in, first out, and lose nothing while the service runs. -/
theorem received_eq (hrunning : s.phase = .running) (moves : List Move) :
    ∃ left, s.received moves = heard (s.log moves) ++ left ∧
      ((s.after moves).phase = .running → left = (s.after moves).letters) := by
  rcases accounts_after hrunning moves with ⟨-, haccounts⟩ | ⟨hshut, letters, jobs, haccounts⟩
  · exact ⟨_, haccounts.letters, fun _ => rfl⟩
  · exact ⟨letters, haccounts.letters, fun hphase => absurd hphase hshut.ended⟩

theorem requested_eq (hrunning : s.phase = .running) (moves : List Move) :
    ∃ left, s.requested moves = served (s.log moves) ++ left ∧
      ((s.after moves).phase = .running → left = (s.after moves).jobs) := by
  rcases accounts_after hrunning moves with ⟨-, haccounts⟩ | ⟨hshut, letters, jobs, haccounts⟩
  · exact ⟨_, haccounts.jobs, fun _ => rfl⟩
  · exact ⟨jobs, haccounts.jobs, fun hphase => absurd hphase hshut.ended⟩

/-- What holds when a service does something that is neither to stop nor to hear. -/
structure Heard (s : Service) : Prop where
  running : s.phase = .running
  unasked : s.stopAsked = false
  letters : s.letters = []

theorem letters_eq_nil_of_pop? (hheard : s.device.link.inbox.pop? = none) : s.letters = [] := by
  rw [letters, Mailbox.pop?_eq_none_iff.mp hheard, List.map_nil]

theorem Shut.letters_eq_nil (hshut : s.Shut) : s.letters = [] := by
  rw [letters, (List.append_eq_nil_iff.mp hshut.inbox_empty).1, List.map_nil]

/-- A tick is done when it is due and all notifications have been heard. -/
theorem ticks_of_does {t : Tick} (hdoes : s.Does (.ticked t)) :
    s.Heard ∧ s.due ≤ s.now ∧ t = s.device.tick.1 := by
  obtain ⟨next, hnext, hdeeds⟩ := hdoes
  cases turn_of_turn?_eq_some hnext with
  | stop => exact absurd ((deeds_stop s).symm.trans hdeeds) nofun
  | hear => exact absurd ((deeds_hear s _ _).symm.trans hdeeds) nofun
  | hangUp => exact absurd ((deeds_hangUp s).symm.trans hdeeds) nofun
  | serve => exact absurd ((deeds_serve s _ _).symm.trans hdeeds) nofun
  | refill => exact absurd ((deeds_refill s).symm.trans hdeeds) nofun
  | tick hrunning hasked hheard hdeserted hdue =>
      have hsame := (deeds_tick s).symm.trans hdeeds
      rw [List.singleton_inj, Activity.ticked.injEq] at hsame
      exact ⟨⟨hrunning, hasked, letters_eq_nil_of_pop? hheard⟩, hdue, hsame.symm⟩

/-- A request is served when all notifications have been heard and no tick is due, and it
is the oldest one. -/
theorem serves_of_does {job : Job} (hdoes : s.Does (.served job)) :
    s.Heard ∧ s.now < s.due ∧ ∃ requests, s.jobs = job :: requests.queue ∧
      s.turn? = some (Service.serve job { s with requests }) := by
  obtain ⟨next, hnext, hdeeds⟩ := hdoes
  have hturn := turn_of_turn?_eq_some hnext
  cases hturn with
  | stop => exact absurd ((deeds_stop s).symm.trans hdeeds) nofun
  | hear => exact absurd ((deeds_hear s _ _).symm.trans hdeeds) nofun
  | hangUp => exact absurd ((deeds_hangUp s).symm.trans hdeeds) nofun
  | tick => exact absurd ((deeds_tick s).symm.trans hdeeds) nofun
  | refill => exact absurd ((deeds_refill s).symm.trans hdeeds) nofun
  | @serve served requests hrunning hasked hheard hdeserted hearly hpop =>
      have hsame := (deeds_serve s served requests).symm.trans hdeeds
      rw [List.singleton_inj, Activity.served.injEq] at hsame
      subst hsame
      exact ⟨⟨hrunning, hasked, letters_eq_nil_of_pop? hheard⟩, hearly, requests,
        (Mailbox.eq_of_pop?_eq_some hpop).1, hnext⟩

/-- A service that has heard all that is in its mailbox has heard all that ever came in. -/
theorem Heard.received_eq {moves : List Move} (hheard : (s.after moves).Heard)
    (hrunning : s.phase = .running) : s.received moves = heard (s.log moves) := by
  obtain ⟨left, hreceived, hleft⟩ := Service.received_eq hrunning moves
  rw [hreceived, hleft hheard.running, hheard.letters, List.append_nil]

/-- The request that is served is the one whose turn it is. -/
theorem requested_getElem? (hrunning : s.phase = .running) {moves : List Move} {job : Job}
    (hdoes : (s.after moves).Does (.served job)) :
    (s.requested moves)[(served (s.log moves)).length]? = some job := by
  obtain ⟨hheard, -, requests, hjobs, -⟩ := serves_of_does hdoes
  obtain ⟨left, hrequested, hleft⟩ := requested_eq hrunning moves
  rw [hrequested, hleft hheard.running, hjobs, List.getElem?_append_right (Nat.le_refl _),
    Nat.sub_self]
  rfl

/-- Only a turn serves a request, and then one. -/
theorem served_occurrences_cases (s : Service) (m : Move) :
    served (s.occurrences m) = [] ∨
      m = .turn ∧ ∃ job, served (s.occurrences m) = [job] ∧ s.Does (.served job) := by
  rcases s.move_cases m with hidles | ⟨next, rfl, hturn, -, hlog⟩
  · exact Or.inl (served_eq_nil hidles.activities)
  · have hactivities : activities (s.occurrences .turn) = s.deeds next := by
      rw [hlog, activities_turned]
    rcases (turn_of_turn?_eq_some hturn).deeds_cases with hdeeds | ⟨a, hdeeds⟩
    · exact Or.inl (served_eq_nil (hactivities.trans hdeeds))
    rw [served, hactivities, hdeeds]
    cases a with
    | served job => exact Or.inr ⟨rfl, job, rfl, next, hturn, hdeeds⟩
    | _ => exact Or.inl rfl

/-- Each request in the log was served in a turn. -/
theorem exists_does_of_served {moves : List Move} {i : Nat} {job : Job}
    (hserved : (served (s.log moves))[i]? = some job) :
    ∃ first second, moves = first ++ .turn :: second ∧ (s.after first).Does (.served job) ∧
      (served (s.log first)).length = i := by
  induction moves generalizing s i with
  | nil => exact absurd hserved nofun
  | cons m later ih =>
      rw [log, served_append] at hserved
      rcases served_occurrences_cases s m with hnothing | ⟨rfl, job', hjob, hdoes⟩
      · rw [hnothing, List.nil_append] at hserved
        obtain ⟨first, second, rfl, hdoes, hlength⟩ := ih hserved
        refine ⟨m :: first, second, rfl, hdoes, ?_⟩
        rw [log, served_append, hnothing]
        exact hlength
      · rw [hjob, List.singleton_append] at hserved
        cases i with
        | zero =>
            obtain rfl : job' = job := Option.some.inj hserved
            exact ⟨[], later, rfl, hdoes, rfl⟩
        | succ i =>
            obtain ⟨first, second, rfl, hdoes, hlength⟩ := ih hserved
            refine ⟨.turn :: first, second, rfl, hdoes, ?_⟩
            rw [log, served_append, hjob, List.length_append, hlength]
            exact Nat.add_comm 1 i

theorem mem_steps {log : List Occurrence} {step : Device.Step} :
    step ∈ steps log ↔ ∃ a ∈ activities log, a.step? = some step := List.mem_filterMap

theorem mem_heard {log : List Occurrence} {n : Notification} :
    n ∈ heard log ↔ .heard n ∈ activities log := by
  rw [heard, List.mem_filterMap]
  constructor
  · rintro ⟨a, ha, hn⟩
    cases a with
    | heard m =>
        obtain rfl : m = n := Option.some.inj hn
        exact ha
    | _ => contradiction
  · exact fun hmem => ⟨_, hmem, rfl⟩

theorem mem_served {log : List Occurrence} {job : Job} :
    job ∈ served log ↔ .served job ∈ activities log := by
  rw [served, List.mem_filterMap]
  constructor
  · rintro ⟨a, ha, hjob⟩
    cases a with
    | served job' =>
        obtain rfl : job' = job := Option.some.inj hjob
        exact ha
    | _ => contradiction
  · exact fun hmem => ⟨_, hmem, rfl⟩

theorem mark?_of_step?_eq_some {request : Request} {step : Device.Step} {e : Event}
    {mark : Device.Mark} (hstep : request.step? = some step) (hmark : step.mark? e = some mark) :
    request = .signal e ∧ mark = .signaled := by
  cases request with
  | signal f =>
      cases hstep
      change (if f = e then some Device.Mark.signaled else none) = some mark at hmark
      split at hmark
      · next heq =>
          rw [heq]
          exact ⟨rfl, (Option.some.inj hmark).symm⟩
      · contradiction
  | _ => cases hstep <;> contradiction

/-- A service does a step that concerns an event by hearing that the event was delivered,
or by serving a signal of it. -/
theorem mark?_of_mem_steps {log : List Occurrence} {step : Device.Step} {e : Event}
    {mark : Device.Mark} (hstep : step ∈ steps log) (hmark : step.mark? e = some mark) :
    mark = .confirmed ∧ .delivery true (some e) ∈ heard log ∨
      mark = .signaled ∧ ∃ job ∈ served log, job.request = .signal e := by
  obtain ⟨a, ha, hdone⟩ := mem_steps.mp hstep
  cases a with
  | heard n =>
      cases hdone
      obtain ⟨rfl, hconfirmed⟩ := Device.mark?_hear_eq_some hmark
      exact Or.inl ⟨hconfirmed, mem_heard.mpr ha⟩
  | served job =>
      obtain ⟨hrequest, hsignaled⟩ := mark?_of_step?_eq_some hdone hmark
      exact Or.inr ⟨hsignaled, job, mem_served.mpr ha, hrequest⟩
  | ticked t =>
      cases hdone
      contradiction
  | _ => contradiction

theorem mem_steps_of_mem_heard {log : List Occurrence} {n : Notification} (hheard : n ∈ heard log) :
    .hear n ∈ steps log :=
  mem_steps.mpr ⟨_, mem_heard.mp hheard, rfl⟩

/-- What the device of a service keeps in mind depends on its memory alone. -/
theorem pending_after (s : Service) (moves : List Move) :
    (s.after moves).device.pending = (s.device.run (steps (s.log moves))).pending :=
  congrArg Device.Memory.pending (memory_after s moves)

theorem version_after (s : Service) (moves : List Move) :
    (s.after moves).device.version = (s.device.run (steps (s.log moves))).version :=
  congrArg Device.Memory.version (memory_after s moves)

theorem settings_after (s : Service) (moves : List Move) :
    (s.after moves).device.settings = s.device.settings :=
  (congrArg Device.Memory.settings (memory_after s moves)).trans (Device.settings_run _ _)

/-- A device that has heard a document knows the version that it asks for. -/
theorem version_of_mem_heard {moves : List Move} {document : String} {enabled : Bool}
    {version : UInt32} (hheard : .desired document ∈ heard (s.log moves))
    (hasks : Desired.Reading.ofDocument s.device.settings.property document =
      .asks enabled version) :
    version ≤ (s.after moves).device.version.current := by
  rw [version_after]
  apply Device.requested_le_version_run (mem_steps_of_mem_heard hheard)
  change (Desired.Reading.ofDocument s.device.settings.property document).move? = _
  rw [hasks]
  rfl

/-- To send an event again after its delivery was heard takes another signal. -/
theorem exists_signal_of_pending {moves : List Move} {e : Event}
    (hheard : .delivery true (some e) ∈ heard (s.log moves))
    (hpending : (s.after moves).device.pending.contains e = true) :
    ∃ job ∈ served (s.log moves), job.request = .signal e := by
  rw [pending_after] at hpending
  obtain ⟨step, hstep, hmark⟩ := Device.exists_signaled_of_contains
    (mem_steps_of_mem_heard hheard) (if_pos rfl) hpending
  rcases mark?_of_mem_steps hstep hmark with ⟨hconfirmed, -⟩ | ⟨-, hsignal⟩
  · contradiction
  · exact hsignal

/-- A signal that was served is seen until the delivery of its event is heard. -/
theorem pending_of_does_signal {first : List Move} {signal : Job} {e : Event}
    (hdoes : (s.after first).Does (.served signal)) (hsignal : signal.request = .signal e)
    (second : List Move) :
    (s.after (first ++ .turn :: second)).device.pending.contains e = true ∨
      .delivery true (some e) ∈ heard ((s.after (first ++ [.turn])).log second) := by
  obtain ⟨-, -, requests, -, hturn⟩ := serves_of_does hdoes
  obtain ⟨answers, history, heq⟩ := serve_eq signal { s.after first with requests }
  have hserved : s.after (first ++ [.turn]) =
      Service.serve signal { s.after first with requests } := by
    rw [after_append]
    exact (move_turn_of_eq_some hturn).1
  have hbegin : (s.after (first ++ [.turn])).device.pending.contains e = true := by
    rw [hserved, heq, hsignal]
    exact (Pending.contains_insert _ _ _).trans (by rw [decide_eq_true rfl, Bool.true_or])
  have hsplit : s.after (first ++ .turn :: second) =
      (s.after (first ++ [.turn])).after second := by
    rw [← after_append, List.append_assoc, List.singleton_append]
  rw [hsplit]
  by_cases hpending : ((s.after (first ++ [.turn])).after second).device.pending.contains e = true
  · exact Or.inl hpending
  · rw [pending_after] at hpending
    obtain ⟨step, hstep, hmark⟩ := Device.exists_confirmed_of_contains hbegin hpending
    rcases mark?_of_mem_steps hstep hmark with ⟨-, hheard⟩ | ⟨hsignaled, -⟩
    · exact Or.inr hheard
    · contradiction

/-- A tick attempts only what is pending. -/
theorem pending_of_does_tick {t : Tick} {e : Event} (hdoes : s.Does (.ticked t))
    (hattempted : t.attempted? = some e) : s.device.pending.contains e = true := by
  obtain ⟨-, -, rfl⟩ := ticks_of_does hdoes
  rw [Device.attempted?_tick] at hattempted
  exact List.find?_some hattempted

/-- The answer to the question for the status is the status when it is given. -/
theorem answers_of_does_status {ticket : Nat} (hdoes : s.Does (.served ⟨ticket, .status⟩)) :
    (s.move .turn).answers.toList = s.answers.toList ++ [(ticket, .status s.device.status)] := by
  obtain ⟨-, -, requests, -, hturn⟩ := serves_of_does hdoes
  rw [(move_turn_of_eq_some hturn).1]
  exact Trace.toList_add _ _

/-- An upload report bears the version that the device knows when it is sent. -/
theorem calls_of_does_report {ticket : Nat} {enabled : Bool}
    (hdoes : s.Does (.served ⟨ticket, .report enabled⟩)) :
    s.device.callsUntil (s.move .turn).device =
      [Device.uploadCall s.device.settings.property (enabled, s.device.version.current)] := by
  obtain ⟨next, hturn, hdeeds⟩ := hdoes
  rw [(move_turn_of_eq_some hturn).1, (turn_of_turn?_eq_some hturn).called.callsUntil_eq, hdeeds]
  rfl

/-- The order in which a service has worked so far and will take its next turn. -/
structure InOrder (s : Service) (moves : List Move) : Prop where
  /-- Notifications are heard first in, first out, and none is lost while the service
  runs. -/
  letters : ∃ left, s.received moves = heard (s.log moves) ++ left ∧
    ((s.after moves).phase = .running → left = (s.after moves).letters)
  /-- So it is with requests. -/
  jobs : ∃ left, s.requested moves = served (s.log moves) ++ left ∧
    ((s.after moves).phase = .running → left = (s.after moves).jobs)
  tick : ∀ t, (s.after moves).Does (.ticked t) →
    (s.after moves).letters = [] ∧ s.received moves = heard (s.log moves) ∧
      (s.after moves).due ≤ (s.after moves).now
  serve : ∀ job, (s.after moves).Does (.served job) →
    (s.after moves).letters = [] ∧ s.received moves = heard (s.log moves) ∧
      (s.after moves).now < (s.after moves).due ∧
      (s.requested moves)[(served (s.log moves)).length]? = some job
  /-- Whoever is served after a document came in is served in its version or a later
  one. -/
  documents : ∀ job, (s.after moves).Does (.served job) → ∀ document enabled version,
    .desired document ∈ s.received moves →
    Desired.Reading.ofDocument s.device.settings.property document = .asks enabled version →
    version ≤ (s.after moves).device.status.desiredVersion
  status : ∀ ticket, (s.after moves).Does (.served ⟨ticket, .status⟩) →
    (s.after (moves ++ [.turn])).answers.toList =
      (s.after moves).answers.toList ++ [(ticket, .status (s.after moves).device.status)]
  report : ∀ ticket enabled, (s.after moves).Does (.served ⟨ticket, .report enabled⟩) →
    (s.after moves).device.callsUntil (s.after (moves ++ [.turn])).device =
      [Device.uploadCall s.device.settings.property
        (enabled, (s.after moves).device.status.desiredVersion)]
  /-- A signal that came in before the request that is served now is seen, unless the
  event was delivered since the signal was served. -/
  signals : ∀ i signal e job, (s.requested moves)[i]? = some signal →
    signal.request = .signal e → i < (served (s.log moves)).length →
    (s.after moves).Does (.served job) →
    e ∈ (s.after moves).device.status.pending ∨
      ∃ first second, moves = first ++ .turn :: second ∧
        (s.after first).Does (.served signal) ∧ (served (s.log first)).length = i ∧
        .delivery true (some e) ∈ heard ((s.after (first ++ [.turn])).log second)
  /-- An event of which a delivery is in the mailbox is not sent before another signal of
  it is served. -/
  resends : ∀ earlier later t e, moves = earlier ++ later →
    .delivery true (some e) ∈ (s.after earlier).letters →
    (s.after moves).Does (.ticked t) → t.attempted? = some e →
    ∃ job ∈ served ((s.after earlier).log later), job.request = .signal e

theorem inOrder_of_running (hrunning : s.phase = .running) (moves : List Move) :
    s.InOrder moves := by
  have hturn : s.after (moves ++ [.turn]) = (s.after moves).move .turn := after_append s _ _
  constructor
  case letters => exact received_eq hrunning moves
  case jobs => exact requested_eq hrunning moves
  case tick =>
    intro t hdoes
    obtain ⟨hheard, hdue, -⟩ := ticks_of_does hdoes
    exact ⟨hheard.letters, hheard.received_eq hrunning, hdue⟩
  case serve =>
    intro job hdoes
    obtain ⟨hheard, hearly, -⟩ := serves_of_does hdoes
    exact ⟨hheard.letters, hheard.received_eq hrunning, hearly,
      requested_getElem? hrunning hdoes⟩
  case documents =>
    intro job hdoes document enabled version hreceived hasks
    rw [(serves_of_does hdoes).1.received_eq hrunning] at hreceived
    exact version_of_mem_heard hreceived hasks
  case status =>
    intro ticket hdoes
    rw [hturn]
    exact answers_of_does_status hdoes
  case report =>
    intro ticket enabled hdoes
    rw [hturn, ← settings_after s moves]
    exact calls_of_does_report hdoes
  case signals =>
    intro i signal e job hsignal hrequest hbefore hdoes
    obtain ⟨left, hrequested, -⟩ := requested_eq hrunning moves
    rw [hrequested, List.getElem?_append_left hbefore] at hsignal
    obtain ⟨first, second, rfl, hserved, hlength⟩ := exists_does_of_served hsignal
    rcases pending_of_does_signal hserved hrequest second with hpending | hheard
    · exact Or.inl (Pending.mem_toList.mpr hpending)
    · exact Or.inr ⟨first, second, rfl, hserved, hlength, hheard⟩
  case resends =>
    rintro earlier later t e rfl hletter hdoes hattempted
    have hearlier : (s.after earlier).phase = .running := by
      rcases accounts_after hrunning earlier with ⟨hphase, -⟩ | ⟨hshut, -⟩
      · exact hphase
      · rw [hshut.letters_eq_nil] at hletter
        contradiction
    rw [after_append] at hdoes
    -- What was in the mailbox then has been heard by the time of the tick.
    have hheard := (ticks_of_does hdoes).1.received_eq hearlier
    apply exists_signal_of_pending _ (pending_of_does_tick hdoes hattempted)
    rw [← hheard]
    exact List.mem_append_left _ hletter

/-- A service that is started works in order, whatever happens to it and when. -/
theorem inOrder_of_launch {clock : Nat} {d : Device} (hlaunched : launch? clock d = some s) :
    start clock d = .started (s.after (List.replicate s.work .turn)) ∧
      ∀ moves : List Move, s.InOrder moves := by
  refine ⟨?_, ?_⟩
  · rw [← settle_eq_after]
    exact start_of_launch?_eq_some hlaunched
  · obtain ⟨requests, records, -, heq⟩ := eq_of_launch?_eq_some hlaunched
    exact inOrder_of_running (heq ▸ rfl)

/-- While the delivery result of a first tick is in the mailbox, a signal comes in and the
second tick gets due. -/
def tickAndSignal : List Move :=
  [.wait 5000, .turn, .ask 0 (.signal .updateInstalling), .wait 5000, .turn, .turn, .turn,
    .ask 1 .status]

/-- The result is heard first, and the question comes last. -/
theorem inOrder_tick_and_signal :
    ∃ s : Service,
      launch? 60 (.plain (.automatic "loopback" true true
        { capacity := 1, capacity_pos := Nat.one_pos })) = some s ∧
      (s.after tickAndSignal).Does (.served ⟨1, .status⟩) ∧
      heard (s.log tickAndSignal) = [.delivery true (some .appRestart)] ∧
      (s.requested tickAndSignal)[(served (s.log tickAndSignal)).length]? =
        some ⟨1, .status⟩ := by
  refine ⟨_, rfl, ⟨_, rfl, rfl⟩, ?_⟩
  have hinOrder := (inOrder_of_launch (d := .plain (.automatic "loopback" true true
    { capacity := 1, capacity_pos := Nat.one_pos })) (rfl : launch? 60 _ = _)).2 tickAndSignal
  obtain ⟨-, hheard, -, hnext⟩ := hinOrder.serve ⟨1, .status⟩ ⟨_, rfl, rfl⟩
  exact ⟨hheard.symm, hnext⟩

end Service

end DeviceTwin
