/-
A running service follows an ideal outbox.  Between two ticks every turn keeps what is
owed and what was announced; a signal in the mailbox counts as received.  A tick takes
two turns, the second of which hears the result, and only after both is the outbox
followed again.
-/
import DeviceTwin.Proofs.Delivery.Mirror
import DeviceTwin.Proofs.Service.Settling

namespace DeviceTwin

namespace Service

open Delivery

/-- The service runs and all that its outbox promises holds of it. -/
structure Follows (s : Service) (m : Ideal) : Prop where
  running : s.phase = .running
  unasked : s.stopAsked = false
  attached : s.attached = true
  isOpen : s.requests.isOpen = true
  sound : s.device.memory.Sound
  mirrors : s.device.link.Mirrors m.outbox
  /-- What is owed is pending or is about to be. -/
  owed : ∀ e : Event, e ∈ m.outbox.owed ↔
    s.device.pending.contains e = true ∨ ∃ job ∈ s.requests.toList, job.request = .signal e
  period : s.period = m.timer.period
  now : s.now = m.timer.now
  due : s.due = m.timer.due

variable {s : Service} {m : Ideal}

theorem Follows.not_isDeserted (hfollows : s.Follows m) : s.isDeserted = false := by
  rw [isDeserted, hfollows.attached, Bool.not_true, Bool.and_false, Bool.false_and]

theorem checked_of_sound (hsound : s.device.memory.Sound) : s.checked = s :=
  checked_of_intact hsound.intact

/-- What has to be shown of a turn in which the device does something. -/
theorem Follows.withDevice (hfollows : s.Follows m) {d : Device} {o : Outbox}
    {requests : Mailbox Job} {answers : Trace (Nat × Answer)}
    {history : Trace (Nat × Activity)} (hopen : requests.isOpen = s.requests.isOpen)
    (hsound : d.memory.Sound) (hsettings : d.settings = s.device.settings)
    (hmirrors : d.link.Mirrors o)
    (howed : ∀ e : Event, e ∈ o.owed ↔
      d.pending.contains e = true ∨ ∃ job ∈ requests.toList, job.request = .signal e) :
    Follows { s with device := d, requests, answers, history } { m with outbox := o } := by
  refine ⟨hfollows.running, hfollows.unasked, hfollows.attached,
    hopen.trans hfollows.isOpen, hsound, hmirrors, howed, ?_, hfollows.now, hfollows.due⟩
  rw [← hfollows.period, Service.period, Service.period, ← hsettings]

/-- A service that hears what decides no delivery has its flags as before. -/
theorem Follows.hear (hfollows : s.Follows m) {letter : Link.Letter}
    {inbox : Mailbox Link.Letter}
    (hpop : s.device.link.inbox.pop? = some (letter, inbox)) :
    (Service.hear letter.content { s with device := s.device.withInbox inbox }).Follows m := by
  obtain ⟨hsettled, hmirrors⟩ := hfollows.mirrors.pop hpop
  have hmirrors : (s.device.withInbox inbox).link.Mirrors m.outbox := hmirrors
  obtain ⟨answers, history, heq⟩ :=
    hear_eq letter.content { s with device := s.device.withInbox inbox }
  have hmemory : ((s.device.withInbox inbox).hear letter.content).memory =
      s.device.memory.hear letter.content := Device.memory_hear _ _
  have hsound : ((s.device.withInbox inbox).hear letter.content).memory.Sound :=
    hmemory ▸ hfollows.sound.hear _
  have hpending : ((s.device.withInbox inbox).hear letter.content).pending =
      s.device.pending :=
    (congrArg Device.Memory.pending hmemory).trans (Device.Memory.pending_hear hsettled _)
  have hsettings : ((s.device.withInbox inbox).hear letter.content).settings =
      s.device.settings :=
    (congrArg Device.Memory.settings hmemory).trans (Device.Memory.settings_hear _ _)
  rw [heq, checked_of_sound hsound]
  refine hfollows.withDevice rfl hsound hsettings
    (hmirrors.reportUse (Device.link_hear letter.content _)) ?_
  intro e
  rw [hpending]
  exact hfollows.owed e

/-- A signal that is served is pending instead of on its way. -/
theorem Follows.serve (hfollows : s.Follows m) {job : Job} {requests : Mailbox Job}
    (hpop : s.requests.pop? = some (job, requests)) :
    (Service.serve job { s with requests }).Follows m := by
  obtain ⟨answers, history, heq⟩ := serve_eq job { s with requests }
  have hmemory := s.device.memory_grant job.request
  have hsound : (s.device.grant job.request).memory.Sound := by
    rw [hmemory]
    exact ⟨hfollows.sound.intact, hfollows.sound.steadfast⟩
  have hopen : requests.isOpen = s.requests.isOpen := by
    rw [(Mailbox.eq_of_pop?_eq_some hpop).2]
  rw [heq]
  refine hfollows.withDevice hopen hsound (congrArg Device.Memory.settings hmemory)
    (hfollows.mirrors.untaggedUse (Device.link_grant _ _)) ?_
  intro e
  rw [hfollows.owed e, Mailbox.toList_of_pop? hpop, List.exists_mem_cons_iff,
    Device.contains_grant, or_left_comm, or_assoc]

theorem Follows.refill (hfollows : s.Follows m) : s.refill.Follows m := by
  refine ⟨hfollows.running, hfollows.unasked, hfollows.attached, hfollows.isOpen,
    hfollows.sound, hfollows.mirrors.refill, ?_, hfollows.period, hfollows.now, hfollows.due⟩
  intro e
  change _ ↔ _ ∨ ∃ job ∈ s.requests.refill.toList, job.request = .signal e
  rw [Mailbox.toList_refill]
  exact hfollows.owed e

/-- Before the next tick is due no turn changes what is owed or announced. -/
theorem Follows.turn (hfollows : s.Follows m) (hearly : m.timer.now < m.timer.due)
    {after : Service} (hturn : s.Turn after) : after.Follows m := by
  cases hturn with
  | stop hrunning hasked => exact absurd hasked (by rw [hfollows.unasked]; nofun)
  | hear hrunning hasked hpop => exact hfollows.hear hpop
  | hangUp hrunning hasked hheard hdeserted =>
      exact absurd hdeserted (by rw [hfollows.not_isDeserted]; nofun)
  | tick hrunning hasked hheard hdeserted hdue =>
      rw [hfollows.now, hfollows.due] at hdue
      exact absurd hdue (Nat.not_le_of_lt hearly)
  | serve hrunning hasked hheard hdeserted hsoon hpop => exact hfollows.serve hpop
  | refill hrunning hasked hheard hdeserted hsoon hserved hwaiting => exact hfollows.refill

theorem Follows.settle (hfollows : s.Follows m) (hearly : m.timer.now < m.timer.due) :
    s.settle.Follows m :=
  settle_induction (P := fun s => s.Follows m)
    (fun _ _ hs hturn => hs.turn hearly hturn) s hfollows

/-- A service at rest has empty mailboxes and waits for its next tick. -/
structure Idle (s : Service) : Prop where
  heard : s.device.link.inbox.toList = []
  served : s.requests.toList = []
  early : s.now < s.due

theorem Follows.idle (hfollows : s.Follows m) (hrest : s.turn? = none) : s.Idle := by
  cases atRest_of_turn?_eq_none hrest with
  | ended hphase => exact absurd hfollows.running hphase
  | idle hasked hheard hdeserted hearly hserved hwaiting =>
      simp only [hasWaiting, Bool.or_eq_false_iff, Bool.not_eq_false', List.isEmpty_iff]
        at hwaiting
      exact ⟨Mailbox.toList_eq_nil_iff.mpr ⟨hheard, hwaiting.1⟩,
        Mailbox.toList_eq_nil_iff.mpr ⟨hserved, hwaiting.2⟩, hearly⟩

theorem Follows.withDue (hfollows : s.Follows m) :
    Follows { s with due := s.dueAfter } { m with timer := m.timer.advance } := by
  refine ⟨hfollows.running, hfollows.unasked, hfollows.attached, hfollows.isOpen,
    hfollows.sound, hfollows.mirrors, hfollows.owed, hfollows.period, hfollows.now, ?_⟩
  change s.dueAfter = m.timer.advance.due
  rw [dueAfter, hfollows.due, hfollows.now, hfollows.period]
  rfl

/-- Without requests on their way the flags say what is owed. -/
theorem Follows.contains_eq (hfollows : s.Follows m) (hserved : s.requests.toList = []) :
    s.device.pending.contains = fun e => decide (e ∈ m.outbox.owed) := by
  funext e
  have howed := hfollows.owed e
  rw [hserved] at howed
  simp only [List.not_mem_nil, false_and, exists_false, or_false] at howed
  rw [Bool.eq_iff_iff, decide_eq_true_iff, howed]

/-- The next event to be sent is the next one of the outbox. -/
theorem Follows.next?_eq (hfollows : s.Follows m) (hserved : s.requests.toList = []) :
    s.device.pending.next? = m.outbox.next? := by
  rw [Pending.next?, hfollows.contains_eq hserved]
  rfl

/-- The pending events are what is owed, the most urgent first. -/
theorem Follows.pending_eq (hfollows : s.Follows m) (hserved : s.requests.toList = []) :
    s.device.status.pending = m.outbox.toList := by
  change s.device.pending.toList = m.outbox.toList
  rw [Pending.toList, hfollows.contains_eq hserved]
  rfl

/-- The result of an announcement is heard by a service that has no request. -/
theorem Follows.hear_result (hfollows : s.Follows m) (hserved : s.requests.toList = [])
    (e : Event) :
    (Service.hear (.delivery m.outbox.succeeding (some e)) s).Follows
      { m with
        outbox :=
          { m.outbox with
            owed := if m.outbox.succeeding then m.outbox.owed.erase e else m.outbox.owed } } := by
  obtain ⟨answers, history, heq⟩ :=
    hear_eq (.delivery m.outbox.succeeding (some e)) s
  have hmemory := Device.memory_hear (.delivery m.outbox.succeeding (some e)) s.device
  have hsound : (s.device.hear (.delivery m.outbox.succeeding (some e))).memory.Sound :=
    hmemory ▸ hfollows.sound.hear _
  have hpending : (s.device.hear (.delivery m.outbox.succeeding (some e))).pending =
      (s.device.pending.settle m.outbox.succeeding (some e)).2 := rfl
  rw [heq, checked_of_sound hsound]
  apply hfollows.withDevice rfl hsound rfl (hfollows.mirrors.withOwed _)
  intro f
  rw [hpending, Pending.settle]
  cases m.outbox.succeeding with
  | false => exact hfollows.owed f
  | true =>
      rw [hserved]
      simp only [↓reduceIte, Finset.mem_erase, Pending.contains_erase,
        hfollows.contains_eq hserved, Bool.and_eq_true, Bool.not_eq_true',
        decide_eq_false_iff_not, decide_eq_true_iff, ne_eq, List.not_mem_nil, false_and,
        exists_false, or_false]

/-- A service that has just sent an announcement hears the result, if there is one,
before anything else. -/
theorem Follows.settle_announced (hfollows : s.Follows m)
    (hearly : m.timer.now < m.timer.due) (hheard : s.device.link.inbox.toList = [])
    (hserved : s.requests.toList = []) {d : Device} {e : Event}
    {history : Trace (Nat × Activity)} (hmemory : d.memory = s.device.memory)
    (hlink : d.link = (s.device.link.telemetry e.announcement.write (some e)).link) :
    (Service.settle { s with device := d, history }).Follows
      { m with
        outbox :=
          { m.outbox.announce e with
            owed := if m.outbox.online && m.outbox.succeeding then m.outbox.owed.erase e
              else m.outbox.owed } } := by
  obtain ⟨loopback, hloopback, hannounced⟩ := hfollows.mirrors.telemetry_announcement e
  rw [hannounced] at hlink
  -- The service as if the result were already out of the mailbox.
  have hnoted : Follows
      { s with device := d.withInbox s.device.link.inbox, history }
      { m with outbox := m.outbox.announce e } := by
    refine hfollows.withDevice rfl (hmemory ▸ hfollows.sound)
      (congrArg Device.Memory.settings hmemory) ?_ ?_
    · refine ⟨⟨loopback, ?_, hloopback⟩, hfollows.mirrors.isOpen,
        hfollows.mirrors.unsettled⟩
      rw [Device.withInbox, hlink]
    · intro f
      have hpending : d.pending = s.device.pending := congrArg Device.Memory.pending hmemory
      change _ ↔ d.pending.contains f = true ∨ _
      rw [hpending]
      exact hfollows.owed f
  by_cases honline : m.outbox.online = true
  · rw [if_pos honline] at hlink
    have hpop : d.link.inbox.pop? =
        some (⟨.link, .delivery m.outbox.succeeding (some e)⟩, s.device.link.inbox) := by
      rw [hlink]
      exact Mailbox.pop?_push_of_toList_eq_nil hheard _
    have hturn : Turn { s with device := d, history } _ :=
      .hear hfollows.running hfollows.unasked hpop
    rw [settle_of_turn?_eq_some (turn?_eq_some_iff.mpr hturn), honline, Bool.true_and]
    exact (hnoted.hear_result hserved e).settle hearly
  · rw [if_neg honline] at hlink
    have hinbox : d.link.inbox = s.device.link.inbox := by rw [hlink]
    rw [← hinbox] at hnoted
    rw [Bool.eq_false_of_not_eq_true honline, Bool.false_and]
    exact hnoted.settle hearly

/-- A tick of a service at rest, with all that follows from it at once, is a tick of
the outbox. -/
theorem Follows.settle_tick (hfollows : s.Follows m)
    (hheard : s.device.link.inbox.toList = []) (hserved : s.requests.toList = [])
    (hdue : m.timer.due ≤ m.timer.now) :
    s.settle.Follows ⟨m.outbox.tick, m.timer.advance⟩ := by
  have hadvanced := hfollows.withDue
  have hearly : m.timer.advance.now < m.timer.advance.due := by
    rw [← hadvanced.now, ← hadvanced.due]
    exact s.now_lt_dueAfter
  have hturn : s.turn? = some s.tick := by
    refine turn?_eq_some_iff.mpr (.tick hfollows.running hfollows.unasked
      (Mailbox.toList_eq_nil_iff.mp hheard).1 hfollows.not_isDeserted ?_)
    rw [hfollows.due, hfollows.now]
    exact hdue
  obtain ⟨records, history, heq⟩ := tick_eq s
  have hmemory : (s.device.tick.2.log records).memory = s.device.memory :=
    Device.memory_tick s.device
  have hlink := s.device.link_tick
  rw [settle_of_turn?_eq_some hturn, heq]
  rw [hfollows.next?_eq hserved] at hlink
  unfold Outbox.tick
  cases hnext : m.outbox.next? with
  | none =>
      rw [hnext] at hlink
      refine Follows.settle (m := ⟨m.outbox, m.timer.advance⟩) ?_ hearly
      refine hadvanced.withDevice rfl (hmemory ▸ hfollows.sound)
        (congrArg Device.Memory.settings hmemory) ?_ ?_
      · change s.device.tick.2.link.Mirrors m.outbox
        rw [hlink]
        exact hfollows.mirrors
      · intro e
        have hpending := congrArg Device.Memory.pending hmemory
        change _ ↔ (s.device.tick.2.log records).memory.pending.contains e = true ∨ _
        rw [hpending]
        exact hfollows.owed e
  | some e =>
      rw [hnext] at hlink
      exact hadvanced.settle_announced hearly hheard hserved hmemory hlink

end Service

end DeviceTwin
