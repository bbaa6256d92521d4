/-
A service comes to rest.  Every turn leaves less work than there was before, so the
turns that settling takes are all there are, and to settle is to take one turn after
the other for as long as there is one.
-/
import DeviceTwin.Proofs.Device.Memory
import DeviceTwin.Proofs.Mailbox
import DeviceTwin.Proofs.Service.Turn

namespace DeviceTwin

namespace Service

theorem work_eq (s : Service) :
    s.work = s.device.link.inbox.load + s.requests.load + 2 * s.requests.toList.length +
      (if s.due ≤ s.now then 3 else 0) + (if s.listening then 1 else 0) +
      (if s.phase = .running then 1 else 0) := by
  unfold work Mailbox.load Mailbox.toList
  rw [List.length_append]
  omega

/-- What is left to do after the end: nothing in the mailboxes. -/
theorem work_finish (phase : Phase) (s : Service) :
    (s.finish phase).work =
      (if s.due ≤ s.now then 3 else 0) + (if s.listening then 1 else 0) +
        (if phase = .running then 1 else 0) := by
  rw [work_eq]
  change s.device.link.inbox.close.load + s.requests.close.load +
    2 * s.requests.close.toList.length + (if s.due ≤ s.now then 3 else 0) +
    (if s.listening then 1 else 0) + (if phase = .running then 1 else 0) = _
  simp only [Mailbox.load_close, Mailbox.toList_close, List.length_nil]
  omega

theorem work_checked_le (s : Service) : s.checked.work ≤ s.work := by
  unfold checked
  split
  · rw [work_finish, work_eq]
    simp only [reduceCtorEq, ↓reduceIte]
    omega
  · exact Nat.le_refl _

theorem period_pos (s : Service) : 1000 ≤ s.period := by
  have hne : s.device.settings.interval.toNat ≠ 0 :=
    fun h => s.device.interval_ne_zero (UInt64.toNat_inj.mp h)
  unfold period
  omega

/-- After a tick the next one is not due before time passes. -/
theorem now_lt_dueAfter (s : Service) : s.now < s.dueAfter := by
  have hperiod := s.period_pos
  have htolerance : tolerance = 5 := rfl
  unfold dueAfter
  split <;> omega

theorem load_telemetry_le (l : Link) (payload : String) (tag : Tag) :
    (l.telemetry payload tag).link.inbox.load ≤ l.inbox.load + 2 := by
  rcases l.inbox_telemetry payload tag with heq | ⟨success, heq⟩
  · rw [heq]
    omega
  · rw [heq]
    exact Mailbox.load_push_le _ _

theorem load_untaggedUse_le {l used : Link} (huse : l.UntaggedUse used) :
    used.inbox.load ≤ l.inbox.load + 2 := by
  cases huse with
  | reporting hreport =>
      rw [hreport.inbox_eq]
      omega
  | telemetry payload => exact load_telemetry_le l payload none

/-- Every turn leaves less to do. -/
theorem work_lt_of_turn {s after : Service} (hturn : s.Turn after) : after.work < s.work := by
  cases hturn with
  | stop hrunning hasked =>
      rw [stop, work_finish, work_eq]
      change (if s.due ≤ s.now then 3 else 0) + (if s.listening then 1 else 0) + 0 < _
      rw [if_pos hrunning]
      omega
  | @hear letter inbox hrunning hasked hpop =>
      obtain ⟨answers, history, heq⟩ :=
        hear_eq letter.content { s with device := s.device.withInbox inbox }
      rw [heq]
      apply Nat.lt_of_le_of_lt (work_checked_le _)
      have hload := Mailbox.load_of_pop?_eq_some hpop
      rw [work_eq, work_eq, Device.inbox_hear]
      change inbox.load + s.requests.load + 2 * s.requests.toList.length +
        (if s.due ≤ s.now then 3 else 0) + (if s.listening then 1 else 0) +
        (if s.phase = .running then 1 else 0) < _
      rw [hload]
      omega
  | hangUp hrunning hasked hheard hdeserted =>
      have hlistening : s.listening = true := by
        simp only [isDeserted, Bool.and_eq_true] at hdeserted
        exact hdeserted.1.1
      rw [work_eq, work_eq]
      change s.device.link.inbox.load + s.requests.load + 2 * s.requests.toList.length +
        (if s.due ≤ s.now then 3 else 0) + 0 + (if s.phase = .running then 1 else 0) < _
      rw [if_pos hlistening]
      omega
  | tick hrunning hasked hheard hdeserted hdue =>
      -- The letter that a tick may bring weighs less than the tick.
      obtain ⟨records, history, heq⟩ := tick_eq s
      have hload : s.device.tick.2.link.inbox.load ≤ s.device.link.inbox.load + 2 := by
        rw [Device.link_tick]
        cases s.device.pending.next? with
        | none => exact Nat.le_add_right _ 2
        | some e => exact load_telemetry_le _ _ _
      rw [work_eq, work_eq, heq]
      change s.device.tick.2.link.inbox.load + s.requests.load +
        2 * s.requests.toList.length + (if s.dueAfter ≤ s.now then 3 else 0) +
        (if s.listening then 1 else 0) + (if s.phase = .running then 1 else 0) < _
      rw [if_neg (Nat.not_le_of_lt s.now_lt_dueAfter), if_pos hdue]
      omega
  | @serve job requests hrunning hasked hheard hdeserted hearly hpop =>
      obtain ⟨answers, history, heq⟩ := serve_eq job { s with requests }
      -- The letter that a request may bring weighs less than the request, even if it waits.
      have hload := load_untaggedUse_le (Device.link_grant job.request s.device)
      have hrequests := Mailbox.load_of_pop?_eq_some hpop
      have hlength := congrArg List.length (Mailbox.toList_of_pop? hpop)
      rw [List.length_cons] at hlength
      rw [work_eq, work_eq, heq]
      change (s.device.grant job.request).link.inbox.load + requests.load +
        2 * requests.toList.length + (if s.due ≤ s.now then 3 else 0) +
        (if s.listening then 1 else 0) + (if s.phase = .running then 1 else 0) < _
      rw [hrequests, hlength]
      omega
  | refill hrunning hasked hheard hdeserted hearly hserved hwaiting =>
      have hinbox := Mailbox.load_refill_le s.device.link.inbox
      have hrequests := Mailbox.load_refill_le s.requests
      have hless : s.device.link.inbox.refill.load + s.requests.refill.load <
          s.device.link.inbox.load + s.requests.load := by
        simp only [hasWaiting, Bool.or_eq_true, Bool.not_eq_true', List.isEmpty_eq_false_iff]
          at hwaiting
        rcases hwaiting with hletters | hjobs
        · have hlt := Mailbox.load_refill_lt (Mailbox.pop?_eq_none_iff.mp hheard) hletters
          omega
        · have hlt := Mailbox.load_refill_lt (Mailbox.pop?_eq_none_iff.mp hserved) hjobs
          omega
      rw [work_eq, work_eq]
      change s.device.link.inbox.refill.load + s.requests.refill.load +
        2 * s.requests.refill.toList.length + (if s.due ≤ s.now then 3 else 0) +
        (if s.listening then 1 else 0) + (if s.phase = .running then 1 else 0) < _
      rw [Mailbox.toList_refill]
      omega

theorem turns_of_turn?_eq_none {s : Service} (hrest : s.turn? = none) (n : Nat) :
    s.turns n = s := by
  cases n with
  | zero => rfl
  | succ n => rw [turns, hrest]

theorem turns_succ_of_turn?_eq_some {s after : Service} (hturn : s.turn? = some after)
    (n : Nat) : s.turns (n + 1) = after.turns n := by
  rw [turns, hturn]

/-- As many turns as there is work lead to rest. -/
theorem turn?_turns_of_work_le {s : Service} {n : Nat} (hwork : s.work ≤ n) :
    (s.turns n).turn? = none := by
  induction n generalizing s with
  | zero =>
      cases hturn : s.turn? with
      | none => exact hturn
      | some after =>
          have hlt := work_lt_of_turn (turn_of_turn?_eq_some hturn)
          omega
  | succ n ih =>
      cases hturn : s.turn? with
      | none =>
          rw [turns_of_turn?_eq_none hturn]
          exact hturn
      | some after =>
          have hlt := work_lt_of_turn (turn_of_turn?_eq_some hturn)
          rw [turns_succ_of_turn?_eq_some hturn]
          exact ih (by omega)

theorem turn?_settle (s : Service) : s.settle.turn? = none :=
  turn?_turns_of_work_le (Nat.le_refl s.work)

theorem settle_of_turn?_eq_none {s : Service} (hrest : s.turn? = none) : s.settle = s :=
  turns_of_turn?_eq_none hrest s.work

/-- More turns than there is work change nothing. -/
theorem turns_eq_settle {s : Service} {n : Nat} (hwork : s.work ≤ n) :
    s.turns n = s.settle := by
  obtain ⟨extra, rfl⟩ := Nat.exists_eq_add_of_le hwork
  have hadd : ∀ (first second : Nat) (s : Service),
      s.turns (first + second) = (s.turns first).turns second := by
    intro first second
    induction first with
    | zero =>
        intro s
        rw [Nat.zero_add]
        rfl
    | succ first ih =>
        intro s
        cases hturn : s.turn? with
        | none => simp only [turns_of_turn?_eq_none hturn]
        | some after =>
            rw [Nat.succ_add, turns_succ_of_turn?_eq_some hturn,
              turns_succ_of_turn?_eq_some hturn, ih]
  rw [hadd, ← settle, turns_of_turn?_eq_none (turn?_settle s)]

/-- Settling begins with the next turn. -/
theorem settle_of_turn?_eq_some {s after : Service} (hturn : s.turn? = some after) :
    s.settle = after.settle := by
  have hlt := work_lt_of_turn (turn_of_turn?_eq_some hturn)
  obtain ⟨n, hn⟩ := Nat.exists_eq_succ_of_ne_zero (Nat.ne_zero_of_lt hlt)
  rw [settle, hn, turns_succ_of_turn?_eq_some hturn]
  exact turns_eq_settle (by omega)

/-- What every turn preserves holds when the service has come to rest. -/
theorem settle_induction {P : Service → Prop}
    (hturn : ∀ s after : Service, P s → s.Turn after → P after) (s : Service) (hs : P s) :
    P s.settle := by
  have hturns : ∀ (n : Nat) (s : Service), P s → P (s.turns n) := by
    intro n
    induction n with
    | zero =>
        intro s hs
        exact hs
    | succ n ih =>
        intro s hs
        cases hnext : s.turn? with
        | none =>
            rw [turns_of_turn?_eq_none hnext]
            exact hs
        | some after =>
            rw [turns_succ_of_turn?_eq_some hnext]
            exact ih after (hturn s after hs (turn_of_turn?_eq_some hnext))
  exact hturns s.work s hs

/-- At the end of any time that passes the service is at rest. -/
theorem turn?_passTo (target stops : Nat) (s : Service) :
    (s.passTo target stops).turn? = none := by
  induction stops generalizing s with
  | zero => exact turn?_settle _
  | succ stops ih =>
      unfold passTo
      split
      · exact ih _
      · exact turn?_settle _

/-- A service that is started and does not break off at once settles with a first tick
a period ahead. -/
theorem start_eq_started {s : Service} {clock : Nat} {d : Device}
    (hstarted : start clock d = .started s) (hrunning : s.phase = .running) :
    ∃ requests records, Mailbox.ofCapacity? d.settings.capacity.toNat = some requests ∧
      s = settle
        { device := d.startLink.2.log records, requests, now := 0
          due := 1000 * d.settings.interval.toNat } := by
  have hsettings : d.startLink.2.settings = d.settings :=
    congrArg Device.Memory.settings d.memory_startLink
  unfold start at hstarted
  rcases hlink : d.startLink with ⟨result, after⟩
  rw [hlink] at hstarted hsettings
  cases result with
  | error cause => exact absurd hstarted nofun
  | ok _ =>
      dsimp only at hstarted hsettings ⊢
      rw [hsettings] at hstarted
      cases hrequests : Mailbox.ofCapacity? (α := Job) d.settings.capacity.toNat with
      | none =>
          rw [hrequests] at hstarted
          exact absurd hstarted nofun
      | some requests =>
          rw [hrequests] at hstarted
          dsimp only at hstarted
          rw [Start.started.injEq] at hstarted
          subst hstarted
          split at hrunning
          · exact absurd hrunning nofun
          · next hclock =>
              rw [if_neg hclock]
              exact ⟨requests, _, rfl, rfl⟩

end Service

end DeviceTwin
