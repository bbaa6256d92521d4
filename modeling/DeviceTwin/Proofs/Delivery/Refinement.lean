/-
Delivery over an unreliable network.  Whatever happens to a started service, at rest its
pending events are those that an ideal outbox owes, and the messages that its loopback
keeps for events are the announcements of the outbox, in their order.
-/
import DeviceTwin.Proofs.Delivery.Simulation

namespace DeviceTwin

namespace Service

open Delivery

variable {s : Service} {m : Ideal}

/-- A signal is owed as soon as it is asked for, also while it has to wait. -/
theorem Follows.ask (hfollows : s.Follows m) (ticket : Nat) (request : Request) :
    (s.ask ticket request).Follows (m.receive (.ask ticket request)) := by
  have hasked : ∀ e : Event,
      (∃ job ∈ (s.requests.push ⟨ticket, request⟩).toList, job.request = .signal e) ↔
        request = .signal e ∨ ∃ job ∈ s.requests.toList, job.request = .signal e := by
    intro e
    simp only [Mailbox.mem_toList_push, or_and_right, exists_or, exists_eq_left]
    exact or_comm
  rw [ask_eq hfollows.isOpen]
  cases request with
  | signal f =>
      refine hfollows.withDevice (o := m.outbox.signal f) (Mailbox.isOpen_push _ _)
        hfollows.sound rfl (hfollows.mirrors.withOwed _) ?_
      intro e
      rw [hasked e, or_left_comm, ← hfollows.owed e, Request.signal.injEq, eq_comm (a := f)]
      exact Finset.mem_insert
  | _ =>
      refine hfollows.withDevice (Mailbox.isOpen_push _ _) hfollows.sound rfl
        hfollows.mirrors ?_
      intro e
      rw [hasked e, hfollows.owed e]
      simp only [reduceCtorEq, false_or]

theorem Follows.deliver (hfollows : s.Follows m) (ticket : Nat) {n : Notification}
    (hunsettled : n.settled? = none) : (s.deliver ticket n).Follows m := by
  obtain ⟨answers, heq⟩ := deliver_eq hfollows.attached hfollows.mirrors.isOpen ticket n
  rw [heq]
  exact hfollows.withDevice rfl hfollows.sound rfl (hfollows.mirrors.deliver hunsettled)
    hfollows.owed

theorem Follows.modifyLoopback (hfollows : s.Follows m) {f : Link.Loopback → Link.Loopback}
    {online succeeding : Bool}
    (hmodified : ∀ loopback : Link.Loopback, loopback.Mirrors m.outbox →
      (f loopback).Mirrors { m.outbox with online, succeeding }) :
    (s.modifyLoopback f).Follows { m with outbox := { m.outbox with online, succeeding } } :=
  hfollows.withDevice rfl hfollows.sound rfl (hfollows.mirrors.modifyLoopback hmodified)
    hfollows.owed

theorem Follows.receive (hfollows : s.Follows m) (stimulus : Stimulus) :
    (s.receive stimulus).Follows (m.receive stimulus) := by
  cases stimulus with
  | ask ticket request => exact hfollows.ask ticket request
  | desired ticket document => exact hfollows.deliver ticket rfl
  | invocation ticket method payload reply => exact hfollows.deliver ticket rfl
  | connection ticket connected => exact hfollows.deliver ticket rfl
  | network online =>
      exact hfollows.modifyLoopback fun _ h => ⟨h.closed, rfl, h.acks, h.tagged⟩
  | verdict success =>
      exact hfollows.modifyLoopback fun _ h => ⟨h.closed, h.online, rfl, h.tagged⟩

theorem Follows.foldl_receive (hfollows : s.Follows m) (stimuli : List Stimulus) :
    (stimuli.foldl Service.receive s).Follows (stimuli.foldl Ideal.receive m) ∧
      (stimuli.foldl Ideal.receive m).timer = m.timer := by
  induction stimuli generalizing s m with
  | nil => exact ⟨hfollows, rfl⟩
  | cons stimulus later ih =>
      obtain ⟨hlater, htimer⟩ := ih (hfollows.receive stimulus)
      exact ⟨hlater, htimer.trans (m.timer_receive stimulus)⟩

theorem Follows.withNow (hfollows : s.Follows m) (now : Nat) :
    Follows { s with now } { m with timer := { m.timer with now } } :=
  ⟨hfollows.running, hfollows.unasked, hfollows.attached, hfollows.isOpen, hfollows.sound,
    hfollows.mirrors, hfollows.owed, hfollows.period, rfl, hfollows.due⟩

theorem Follows.period_pos (hfollows : s.Follows m) : 0 < m.timer.period := by
  rw [← hfollows.period]
  exact Nat.lt_of_lt_of_le (by decide) s.period_pos

/-- Time that passes without a tick changes nothing. -/
theorem Follows.settle_withNow (hfollows : s.Follows m) {target : Nat}
    (hearly : target < m.timer.due) :
    (Service.settle { s with now := target }).Follows (m.passTo target) := by
  rw [Ideal.passTo_of_lt hearly]
  exact (hfollows.withNow target).settle hearly

/-- Time that passes is as many ticks of the outbox as are due meanwhile. -/
theorem Follows.passTo (hfollows : s.Follows m) (hrest : s.turn? = none)
    {target stops : Nat} (hstops : m.timer.ticksUntil target ≤ stops) :
    (s.passTo target stops).Follows (m.passTo target) := by
  induction stops generalizing s m with
  | zero =>
      have hearly : target < m.timer.due := by
        apply Nat.lt_of_not_le
        intro hdue
        rw [Timer.ticksUntil_of_le hfollows.period_pos hdue] at hstops
        exact absurd hstops (Nat.not_succ_le_zero _)
      exact hfollows.settle_withNow hearly
  | succ stops ih =>
      unfold Service.passTo
      by_cases hdue : m.timer.due ≤ target
      · -- A stop: the first tick is done at its time, and what is left is one tick less.
        have hidle := hfollows.idle hrest
        have hnow : max s.now s.due = m.timer.due := by
          rw [Nat.max_eq_right (Nat.le_of_lt hidle.early), hfollows.due]
        have hticked := (hfollows.withNow m.timer.due).settle_tick hidle.heard hidle.served
          (Nat.le_refl _)
        rw [Timer.ticksUntil_of_le hfollows.period_pos hdue] at hstops
        rw [if_pos ⟨hfollows.running, hfollows.due ▸ hdue⟩, hnow,
          Ideal.passTo_of_le hfollows.period_pos hdue]
        apply ih hticked (turn?_settle _)
        rw [Timer.advance_on_time]
        exact Nat.le_of_succ_le_succ hstops
      · rw [if_neg (fun h => hdue (hfollows.due ▸ h.2))]
        exact hfollows.settle_withNow (Nat.lt_of_not_le hdue)

/-- All that is due after a jump is one tick. -/
theorem Follows.jump (hfollows : s.Follows m) (hrest : s.turn? = none) (ms : Nat) :
    (s.jump ms).Follows (m.undergo (.jump ms)) := by
  have hidle := hfollows.idle hrest
  have hlater := hfollows.withNow (m.timer.now + ms)
  rw [Service.jump, hfollows.now, Ideal.undergo, Timer.jump]
  dsimp only
  split
  · next hdue => exact hlater.settle_tick hidle.heard hidle.served hdue
  · next hdue => exact hlater.settle (Nat.lt_of_not_le hdue)

theorem Follows.undergo (hfollows : s.Follows m) (hrest : s.turn? = none)
    (stretch : Stretch) :
    (s.undergo stretch).Follows (m.undergo stretch) ∧ (s.undergo stretch).turn? = none := by
  cases stretch with
  | together stimuli =>
      obtain ⟨hreceived, htimer⟩ := hfollows.foldl_receive stimuli
      have hearly := (hfollows.idle hrest).early
      refine ⟨hreceived.settle ?_, turn?_settle _⟩
      rw [htimer, ← hfollows.now, ← hfollows.due]
      exact hearly
  | pass ms =>
      refine ⟨?_, turn?_passTo _ _ _⟩
      change (s.pass ms).Follows (m.passTo (m.timer.now + ms))
      rw [pass, hfollows.now, hfollows.due, hfollows.period]
      apply hfollows.passTo hrest
      unfold Timer.ticksUntil
      split
      · exact Nat.le_refl _
      · exact Nat.zero_le _
  | jump ms => exact ⟨hfollows.jump hrest ms, turn?_settle _⟩

theorem Follows.run (hfollows : s.Follows m) (hrest : s.turn? = none)
    (stretches : List Stretch) :
    (s.run stretches).Follows (m.run stretches) ∧ (s.run stretches).turn? = none := by
  induction stretches generalizing s m with
  | nil => exact ⟨hfollows, hrest⟩
  | cons stretch later ih =>
      obtain ⟨hafter, hstill⟩ := hfollows.undergo hrest stretch
      exact ih hafter hstill

/-- A service that has just been started owes the restart. -/
theorem follows_of_start {name : String} {online succeeding : Bool} {capacity : Nat}
    {inbox : Mailbox Link.Letter} {settings : Settings} {hooks : Hooks} {d : Device}
    {clock : Nat} (hinbox : Mailbox.ofCapacity? capacity = some inbox)
    (hcreated : Device.ofSettings settings hooks (.automatic name online succeeding inbox) =
      .ok d)
    (hhooks : ∀ earlier call, hooks.fails earlier call = false)
    (hstarted : start clock d = .started s) (hrunning : s.phase = .running) :
    s.Follows (.atStart (1000 * settings.interval.toNat) online succeeding) ∧
      s.turn? = none := by
  obtain ⟨hmemory, hlink, -⟩ := Device.eq_of_ofSettings hcreated
  have hsettings : d.settings = settings := congrArg Device.Memory.settings hmemory
  obtain ⟨requests, records, hrequests, rfl⟩ := start_eq_started hstarted hrunning
  obtain ⟨hempty, hopen⟩ := Mailbox.eq_of_ofCapacity?_eq_some hrequests
  have hknown : (d.startLink.2.log records).memory = .ofSettings settings hooks :=
    d.memory_startLink.trans hmemory
  have hmirrors : (d.startLink.2.log records).link.Mirrors (.atStart online succeeding) := by
    change d.startLink.2.link.Mirrors _
    rw [Device.link_startLink, hlink]
    exact (Link.Mirrors.automatic hinbox name online succeeding).start _
  have hpending : (d.startLink.2.log records).pending = .atStart :=
    congrArg Device.Memory.pending hknown
  have hinterval : d.settings.interval.toNat ≠ 0 :=
    fun h => d.interval_ne_zero (UInt64.toNat_inj.mp h)
  refine ⟨Follows.settle ⟨rfl, rfl, rfl, hopen, ?_, hmirrors, ?_, ?_, rfl, ?_⟩ ?_,
    turn?_settle _⟩
  · rw [hknown]
    exact ⟨rfl, hhooks⟩
  · intro e
    rw [hpending, hempty]
    simp [Ideal.atStart, Outbox.atStart, Pending.atStart]
  · change 1000 * (d.startLink.2.log records).memory.settings.interval.toNat = _
    rw [hknown]
    rfl
  · rw [hsettings]
    rfl
  · change 0 < 1000 * settings.interval.toNat
    rw [← hsettings]
    omega

/-- A service at rest that is asked for its status answers with the state of its device,
and then is at rest again. -/
theorem Follows.settle_ask_status (hfollows : s.Follows m) (hrest : s.turn? = none)
    (ticket : Nat) :
    (s.ask ticket .status).settle.answers.toList =
      s.answers.toList ++ [(ticket, .status s.device.status)] := by
  have hidle := hfollows.idle hrest
  have hpop := Mailbox.pop?_push_of_toList_eq_nil hidle.served (⟨ticket, .status⟩ : Job)
  have hturn : (s.ask ticket .status).turn? = some (Service.serve ⟨ticket, .status⟩
      { s.ask ticket .status with requests := s.requests }) := by
    rw [ask_eq hfollows.isOpen]
    exact turn?_eq_some_iff.mpr (.serve hfollows.running hfollows.unasked
      (Mailbox.toList_eq_nil_iff.mp hidle.heard).1 hfollows.not_isDeserted hidle.early hpop)
  have hserved : AtRest (Service.serve ⟨ticket, .status⟩
      { s.ask ticket .status with requests := s.requests }) := by
    rw [ask_eq hfollows.isOpen]
    cases atRest_of_turn?_eq_none hrest with
    | ended hphase => exact .ended hphase
    | idle hasked hheard hdeserted hearly hserved hwaiting =>
        exact .idle hasked hheard hdeserted hearly hserved hwaiting
  have hanswers : (s.ask ticket .status).answers.toList = s.answers.toList := by
    rw [ask_eq hfollows.isOpen]
    dsimp only
    split
    · rfl
    · rw [Trace.toList_append]
      exact List.append_nil _
  have hstatus : (s.ask ticket .status).device.status = s.device.status := by
    rw [ask_eq hfollows.isOpen]
  rw [settle_of_turn?_eq_some hturn, settle_of_turn?_eq_none (turn?_eq_none_iff.mpr hserved),
    ← hanswers, ← hstatus]
  exact Trace.toList_add _ _

/-- Delivery refines an ideal outbox.  After any run of a service that was started on a
loopback with results of its own, and whatever the capacities of the mailboxes, the
pending events are those that the outbox owes, the messages kept for events are its
announcements, and the service still runs and says so when it is asked. -/
theorem run_refines {name : String} {online succeeding : Bool} {capacity : Nat}
    {inbox : Mailbox Link.Letter} {settings : Settings} {hooks : Hooks} {d : Device}
    {clock : Nat} {s : Service} (hinbox : Mailbox.ofCapacity? capacity = some inbox)
    (hcreated : Device.ofSettings settings hooks (.automatic name online succeeding inbox) =
      .ok d)
    (hhooks : ∀ earlier call, hooks.fails earlier call = false)
    (hstarted : start clock d = .started s) (hrunning : s.phase = .running)
    (stretches : List Stretch) :
    let after := s.run stretches
    let outbox :=
      ((Ideal.atStart (1000 * settings.interval.toNat) online succeeding).run stretches).outbox
    after.phase = .running ∧ after.turn? = none ∧
      after.device.status.pending = outbox.toList ∧
      after.device.link.loopback?.map Link.Loopback.tagged =
        some (outbox.announced.map Event.message) ∧
      ∀ ticket : Nat, (after.ask ticket .status).settle.answers.toList =
        after.answers.toList ++ [(ticket, .status after.device.status)] := by
  obtain ⟨hbegin, hbegun⟩ := follows_of_start hinbox hcreated hhooks hstarted hrunning
  obtain ⟨hfollows, hrest⟩ := hbegin.run hbegun stretches
  obtain ⟨loopback, hkind, hloopback⟩ := hfollows.mirrors.loopback
  refine ⟨hfollows.running, hrest, hfollows.pending_eq (hfollows.idle hrest).served, ?_,
    hfollows.settle_ask_status hrest⟩
  rw [Link.loopback?, hkind, ← hloopback.tagged]
  rfl

/-- A loopback without a network, in whose mailbox there is room for one letter. -/
def narrowLink : Link :=
  .automatic "loopback" false true { capacity := 1, capacity_pos := Nat.one_pos }

/-- The network comes back after the first tick, and deliveries succeed again after the
third. -/
def outage : List Stretch :=
  [.together [.ask 0 (.signal .updateInstalling), .ask 1 .moved], .pass 5000,
    .together [.network true, .verdict false], .pass 10000,
    .together [.verdict true, .ask 2 .moved, .connection 3 true], .jump 12000]

/-- The signaled event is announced until a delivery succeeds, and the restart has to
wait for it. -/
theorem run_refines_outage :
    ∃ s : Service, start 60 (Device.plain narrowLink) = .started s ∧ s.phase = .running ∧
      (s.run outage).device.status.pending = [.appRestart] ∧
      (s.run outage).device.link.loopback?.map Link.Loopback.tagged =
        some (List.map Event.message
          [.updateInstalling, .updateInstalling, .updateInstalling]) := by
  refine ⟨_, rfl, rfl, ?_⟩
  have hinbox : Mailbox.ofCapacity? 1 =
      some { capacity := 1, capacity_pos := Nat.one_pos : Mailbox Link.Letter } := rfl
  have hrefines := run_refines hinbox (Device.ofSettings_plain narrowLink)
    (fun _ call => by cases call <;> rfl)
    (show start 60 (Device.plain narrowLink) = .started _ from rfl) rfl outage
  exact ⟨hrefines.2.2.1.trans (by decide), hrefines.2.2.2.1.trans (by decide)⟩

end Service

end DeviceTwin
