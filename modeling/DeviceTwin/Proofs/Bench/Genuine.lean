/-
No event is taken for delivered that was not.  As long as nobody but the device sends and
nobody forges a delivery result, every result that takes an event out was made for a
message of its own, and every such message was sent by a tick while the event was the most
urgent one.
-/
import Mathlib.Data.List.Perm.Basic
import DeviceTwin.Proofs.Bench.Basic
import DeviceTwin.Proofs.Device.Flags
import DeviceTwin.Proofs.Link.Sent

namespace DeviceTwin

/-- Whether a notification says that an event was delivered. -/
def Notification.confirms (e : Event) : Notification → Bool
  | .delivery true (some f) => f == e
  | _ => false

namespace Bench

/-- Whether an action neither forges a delivery result nor sends in place of the device. -/
def Action.isHonest : Action → Bool
  | .act (.settle _ _) _ | .act (.hear (.delivery _ _)) _ => false
  | .push _ (.delivery _ _) => false
  | .use (.telemetry _ _) | .use (.report _) => false
  | _ => true

variable {b : Bench} {e : Event}

/-- One if the flag of an event goes from set to clear in an action, and zero otherwise. -/
def fall (e : Event) (b : Bench) (a : Action) : Nat :=
  if b.device.pending.contains e && !(b.work a).device.pending.contains e then 1 else 0

/-- The messages that are accepted in an action. -/
def fresh (b : Bench) (a : Action) : List Link.Message :=
  (b.work a).device.link.sent.drop b.device.link.sent.length

/-- How many messages for an event are accepted in an action while the network is on and
deliveries succeed. -/
def delivered (e : Event) (b : Bench) (a : Action) : Nat :=
  if b.device.link.isDelivering then (b.fresh a).countP (·.tag == some e) else 0

/-- How often the flag of an event goes from set to clear in a run. -/
def falls (e : Event) (b : Bench) : List Action → Nat
  | [] => 0
  | a :: later => b.fall e a + (b.work a).falls e later

def deliveries (e : Event) (b : Bench) : List Action → Nat
  | [] => 0
  | a :: later => b.delivered e a + (b.work a).deliveries e later

/-- How many results that an event was delivered have not been heard. -/
def outstanding (e : Event) (b : Bench) : Nat :=
  (b.device.link.onTheWay ++ b.hand).countP (Notification.confirms e)

theorem calls_cases (b : Bench) (a : Action) :
    b.calls a = [] ∨ ∃ c, b.calls a = [c] := by
  cases a with
  | act step hown => exact b.device.memory.calls_cases step
  | hear i =>
      rw [calls_hear]
      cases b.hand[i]? with
      | none => exact Or.inl rfl
      | some n => exact b.device.memory.calls_cases (.hear n)
  | use c => exact Or.inr ⟨c, rfl⟩
  | _ => exact Or.inl rfl

theorem loopback?_modifyLoopback {l : Link} {loopback : Link.Loopback}
    (hloopback : l.loopback? = some loopback) (f : Link.Loopback → Link.Loopback) :
    (l.modifyLoopback f).loopback? = some (f loopback) := by
  obtain ⟨name, kind, inbox⟩ := l
  cases kind with
  | scripted script => contradiction
  | loopback loopback =>
      cases hloopback
      rfl

/-- What an action makes of the loopback. -/
theorem loopback?_work {loopback : Link.Loopback}
    (hloopback : b.device.link.loopback? = some loopback) (a : Action) :
    ∃ after, (b.work a).device.link.loopback? = some after ∧
      after.sent.toList = loopback.sent.toList ++ (b.calls a).filterMap loopback.accepted? ∧
      after.attempts =
        loopback.attempts + UInt64.ofNat ((b.calls a).countP Link.Call.isTelemetry) := by
  have hstill : ∀ {after : Link}, after.kind = b.device.link.kind → b.calls a = [] →
      ∃ next, after.loopback? = some next ∧
        next.sent.toList = loopback.sent.toList ++ (b.calls a).filterMap loopback.accepted? ∧
        next.attempts =
          loopback.attempts + UInt64.ofNat ((b.calls a).countP Link.Call.isTelemetry) := by
    intro after hkind hcalls
    rw [Link.loopback?, hkind, hcalls]
    exact ⟨loopback, hloopback, (List.append_nil _).symm, (UInt64.add_zero _).symm⟩
  have hmade := Link.loopback?_performAll hloopback (b.calls_cases a)
  cases a with
  | act step hown =>
      change ∃ next, (b.device.act step).link.loopback? = some next ∧ _
      rw [link_act b.device hown]
      exact hmade
  | hear i =>
      rw [hear_eq]
      cases hn : b.hand[i]? with
      | none => exact hstill rfl (by rw [calls_hear, hn]; rfl)
      | some n =>
          have hcalls : b.calls (.hear i) = b.device.memory.calls (.hear n) := by
            rw [calls_hear, hn]
            rfl
          change ∃ next, (b.device.act (.hear n)).link.loopback? = some next ∧ _
          rw [link_act b.device rfl, ← hcalls]
          exact hmade
  | take =>
      apply hstill _ rfl
      rw [work, Device.popNotification?]
      cases b.device.link.inbox.pop? <;> rfl
  | push ticket n =>
      apply hstill _ rfl
      rw [work]
      split <;> rfl
  | use c => exact hmade
  | network online =>
      exact ⟨_, loopback?_modifyLoopback hloopback _, (List.append_nil _).symm,
        (UInt64.add_zero _).symm⟩
  | acks acks =>
      exact ⟨_, loopback?_modifyLoopback hloopback _, (List.append_nil _).symm,
        (UInt64.add_zero _).symm⟩
  | refuse refusing =>
      exact ⟨_, loopback?_modifyLoopback hloopback _, (List.append_nil _).symm,
        (UInt64.add_zero _).symm⟩
  | deafen => exact hstill rfl rfl

variable {loopback : Link.Loopback}

theorem sent_eq_of_loopback? {l : Link} (hloopback : l.loopback? = some loopback) :
    l.sent = loopback.sent.toList := by
  rw [Link.sent, hloopback]
  rfl

theorem attempts_eq_of_loopback? {l : Link} (hloopback : l.loopback? = some loopback) :
    l.attempts = loopback.attempts := by
  rw [Link.attempts, hloopback]
  rfl

theorem fresh_eq (hloopback : b.device.link.loopback? = some loopback) (a : Action) :
    b.fresh a = (b.calls a).filterMap loopback.accepted? := by
  obtain ⟨after, hafter, hsent, -⟩ := loopback?_work hloopback a
  rw [fresh, sent_eq_of_loopback? hafter, sent_eq_of_loopback? hloopback, hsent, List.drop_left]

theorem confirms_iff {n : Notification} : n.confirms e = true ↔ n = .delivery true (some e) := by
  cases n with
  | delivery success tag =>
      rcases success with _ | _ <;> rcases tag with _ | f <;> simp [Notification.confirms]
  | _ => simp [Notification.confirms]

/-- Each result that an event was delivered is made for a message of its own. -/
theorem countP_results_le (hloopback : b.device.link.loopback? = some loopback) (e : Event)
    (a : Action) :
    (b.device.link.results (b.calls a)).countP (Notification.confirms e) ≤ b.delivered e a := by
  rcases b.calls_cases a with hcalls | ⟨c, hcalls⟩
  · rw [hcalls]
    exact Nat.zero_le _
  · rw [hcalls, Link.results, Link.results, List.append_nil]
    cases hresult : b.device.link.result? c with
    | none => exact Nat.zero_le _
    | some n =>
        by_cases hconfirms : n.confirms e = true
        · rw [confirms_iff.mp hconfirms] at hresult
          obtain ⟨hdelivering, payload, -, haccepted⟩ :=
            Link.eq_of_result?_eq_some hloopback hresult
          have hlink : b.device.link.isDelivering = true := by
            rw [Link.isDelivering, hloopback]
            exact hdelivering
          rw [delivered, hlink, if_pos rfl, fresh_eq hloopback, hcalls, List.filterMap_cons,
            haccepted]
          exact Nat.le_of_eq (by simp [hconfirms, Link.Message.tag])
        · rw [Option.toList_some, List.countP_singleton, if_neg hconfirms]
          exact Nat.zero_le _

theorem countP_onTheWay_le (hloopback : b.device.link.loopback? = some loopback) (e : Event)
    (a : Action) :
    (b.device.link.performAll (b.calls a)).refill.onTheWay.countP (Notification.confirms e) ≤
      b.device.link.onTheWay.countP (Notification.confirms e) + b.delivered e a := by
  have hrefill : (b.device.link.performAll (b.calls a)).refill.onTheWay =
      (b.device.link.performAll (b.calls a)).onTheWay :=
    congrArg (List.map Link.Letter.content) (Mailbox.toList_refill _)
  rw [hrefill]
  exact Nat.le_trans (Link.countP_onTheWay_performAll _ _ _)
    (Nat.add_le_add_left (countP_results_le hloopback e a) _)

theorem fall_eq_zero {a : Action}
    (hstays : b.device.pending.contains e = true → (b.work a).device.pending.contains e = true) :
    b.fall e a = 0 := by
  rw [fall, if_neg]
  rw [Bool.and_eq_true, not_and]
  intro hbefore hafter
  rw [hstays hbefore] at hafter
  contradiction

/-- A flag goes from set to clear only where a step says that the event was delivered. -/
theorem contains_act_of_mark? {step : Device.Step} (d : Device)
    (hmark : step.mark? e ≠ some .confirmed) (hbefore : d.pending.contains e = true) :
    (d.act step).pending.contains e = true := by
  rw [Device.pending_act, Device.Memory.contains_act]
  cases hstep : step.mark? e with
  | none => exact hbefore
  | some mark =>
      cases mark with
      | signaled => rfl
      | confirmed => contradiction

theorem mark?_of_isHonest {step : Device.Step} {hown : step.isRelink = false}
    (hhonest : (Action.act step hown).isHonest = true) : step.mark? e ≠ some .confirmed := by
  intro hmark
  cases step with
  | hear n =>
      obtain ⟨rfl, -⟩ := Device.mark?_hear_eq_some hmark
      contradiction
  | settle success tag => contradiction
  | signal f =>
      change (if f = e then some Device.Mark.signaled else none) = some .confirmed at hmark
      split at hmark <;> contradiction
  | _ => contradiction

theorem outstanding_eq (e : Event) (b : Bench) :
    b.outstanding e = b.device.link.onTheWay.countP (Notification.confirms e) +
      b.hand.countP (Notification.confirms e) :=
  List.countP_append

/-- What changes neither the flags nor what is to be heard takes no event out. -/
theorem fall_add_outstanding_of_memory {a : Action}
    (hmemory : (b.work a).device.memory = b.device.memory) (hhand : (b.work a).hand = b.hand)
    (hletters : (b.work a).device.link.onTheWay.countP (Notification.confirms e) ≤
      b.device.link.onTheWay.countP (Notification.confirms e) + b.delivered e a) :
    b.fall e a + (b.work a).outstanding e ≤ b.outstanding e + b.delivered e a := by
  have hpending : (b.work a).device.pending = b.device.pending :=
    congrArg Device.Memory.pending hmemory
  rw [fall_eq_zero fun hbefore => hpending ▸ hbefore, outstanding_eq, outstanding_eq, hhand]
  omega

/-- A result is out of the hand when it is heard. -/
theorem fall_add_outstanding_hear (hloopback : b.device.link.loopback? = some loopback)
    (e : Event) (i : Nat) :
    b.fall e (.hear i) + (b.work (.hear i)).outstanding e ≤
      b.outstanding e + b.delivered e (.hear i) := by
  have hletters := countP_onTheWay_le hloopback e (.hear i)
  rw [calls_hear] at hletters
  have hwork := hear_eq b i
  cases hn : b.hand[i]? with
  | none =>
      rw [hn] at hwork
      exact fall_add_outstanding_of_memory (hwork ▸ rfl) (hwork ▸ rfl)
        (hwork ▸ Nat.le_add_right _ _)
  | some n =>
      rw [hn] at hwork hletters
      have hlink : (b.work (.hear i)).device.link =
          (b.device.link.performAll (b.device.memory.calls (.hear n))).refill := by
        rw [hwork]
        exact congrArg Link.refill (link_act b.device rfl)
      have hhand : (b.work (.hear i)).hand.countP (Notification.confirms e) +
          (if n.confirms e then 1 else 0) = b.hand.countP (Notification.confirms e) := by
        obtain ⟨hlt, hget⟩ := List.getElem?_eq_some_iff.mp hn
        rw [hwork, ← (List.getElem_cons_eraseIdx_perm hlt).countP_eq, hget, List.countP_cons]
      -- What leaves the hand pays for the event that is taken out.
      have hfall : b.fall e (.hear i) ≤ if n.confirms e then 1 else 0 := by
        by_cases hconfirms : n.confirms e = true
        · rw [if_pos hconfirms, fall]
          split <;> omega
        · rw [if_neg hconfirms]
          refine Nat.le_of_eq (fall_eq_zero fun hbefore => ?_)
          rw [hwork]
          refine contains_act_of_mark? b.device (fun hmark => hconfirms ?_) hbefore
          exact confirms_iff.mpr (Device.mark?_hear_eq_some hmark).1
      rw [outstanding_eq, outstanding_eq, hlink]
      change (b.device.link.performAll (b.device.memory.calls (.hear n))).refill.onTheWay.countP _ ≤
        _ at hletters
      omega

/-- One action: the results that are still to be heard pay for the events that are taken
out. -/
theorem fall_add_outstanding_le (hloopback : b.device.link.loopback? = some loopback) (e : Event)
    {a : Action} (hhonest : a.isHonest = true) :
    b.fall e a + (b.work a).outstanding e ≤ b.outstanding e + b.delivered e a := by
  have hletters := countP_onTheWay_le hloopback e a
  have hswitch : ∀ f : Link.Loopback → Link.Loopback,
      (b.onLink (·.modifyLoopback f)).device.link.onTheWay = b.device.link.onTheWay := by
    intro f
    rw [onLink, Link.onTheWay, inbox_modifyLoopback]
    rfl
  cases a with
  | hear i => exact fall_add_outstanding_hear hloopback e i
  | act step hown =>
      have hlink : (b.work (.act step hown)).device.link =
          (b.device.link.performAll (b.calls (.act step hown))).refill :=
        congrArg Link.refill (link_act b.device hown)
      have hfall : b.fall e (.act step hown) = 0 :=
        fall_eq_zero (contains_act_of_mark? b.device (mark?_of_isHonest hhonest))
      rw [hfall, outstanding_eq, outstanding_eq, hlink]
      change _ + (_ + b.hand.countP _) ≤ _
      omega
  | take =>
      -- The notification goes from the mailbox into the hand.
      refine Nat.le_trans ?_ (Nat.le_add_right _ _)
      rw [fall_eq_zero, Nat.zero_add, outstanding, outstanding, work, Device.popNotification?]
      · cases hpop : b.device.link.inbox.pop? with
        | none => exact Nat.le_refl _
        | some popped =>
            obtain ⟨letter, rest⟩ := popped
            change ((rest.refill.toList.map Link.Letter.content) ++
              (b.hand ++ [letter.content])).countP _ ≤
                (b.device.link.inbox.toList.map Link.Letter.content ++ b.hand).countP _
            rw [Mailbox.toList_refill, Mailbox.toList_of_pop? hpop, List.map_cons]
            simp only [List.countP_append, List.countP_cons, List.countP_nil]
            omega
      · intro hbefore
        rw [work, Device.popNotification?]
        cases b.device.link.inbox.pop? <;> exact hbefore
  | push ticket n =>
      have hforeign : n.confirms e = false := by
        cases n with
        | delivery success tag => contradiction
        | _ => rfl
      have hwork : b.work (.push ticket n) = b ∨ b.work (.push ticket n) =
          b.onLink fun l => (l.deliver (.outside ticket) n).refill := by
        rw [work]
        split
        · exact Or.inr rfl
        · exact Or.inl rfl
      rcases hwork with hwork | hwork
      · refine fall_add_outstanding_of_memory (congrArg (·.device.memory) hwork)
          (congrArg (·.hand) hwork) ?_
        rw [hwork]
        exact Nat.le_add_right _ _
      · refine fall_add_outstanding_of_memory (congrArg (·.device.memory) hwork)
          (congrArg (·.hand) hwork) ?_
        have hperm := (Mailbox.perm_toList_push b.device.link.inbox ⟨.outside ticket, n⟩).map
          Link.Letter.content
        rw [hwork]
        change ((b.device.link.inbox.push ⟨.outside ticket, n⟩).refill.toList.map
          Link.Letter.content).countP _ ≤ _
        rw [Mailbox.toList_refill, hperm.countP_eq, List.map_cons, List.countP_cons,
          if_neg (ne_true_of_eq_false hforeign)]
        exact Nat.le_add_right _ _
  | use c => exact fall_add_outstanding_of_memory rfl rfl hletters
  | network online =>
      exact fall_add_outstanding_of_memory rfl rfl ((hswitch _).symm ▸ Nat.le_add_right _ _)
  | acks acks =>
      exact fall_add_outstanding_of_memory rfl rfl ((hswitch _).symm ▸ Nat.le_add_right _ _)
  | refuse refusing =>
      exact fall_add_outstanding_of_memory rfl rfl ((hswitch _).symm ▸ Nat.le_add_right _ _)
  | deafen => exact fall_add_outstanding_of_memory rfl rfl (Nat.zero_le _)

/-- A run: no event is taken out more often than it was delivered. -/
theorem falls_add_outstanding_le (hloopback : b.device.link.loopback? = some loopback)
    (e : Event) {actions : List Action} (hhonest : ∀ a ∈ actions, a.isHonest = true) :
    b.falls e actions + (b.run actions).outstanding e ≤
      b.outstanding e + b.deliveries e actions := by
  induction actions generalizing b loopback with
  | nil => exact Nat.le_of_eq (Nat.zero_add _)
  | cons a later ih =>
      rw [List.forall_mem_cons] at hhonest
      obtain ⟨after, hafter, -⟩ := loopback?_work hloopback a
      have hfirst := fall_add_outstanding_le hloopback e hhonest.1
      have hlater := ih hafter hhonest.2
      rw [falls, deliveries]
      change _ + ((b.work a).run later).outstanding e ≤ _
      omega

theorem loopback?_run (hloopback : b.device.link.loopback? = some loopback)
    (actions : List Action) : ∃ after, (b.run actions).device.link.loopback? = some after := by
  induction actions generalizing b loopback with
  | nil => exact ⟨loopback, hloopback⟩
  | cons a later ih =>
      obtain ⟨after, hafter, -⟩ := loopback?_work hloopback a
      exact ih hafter

/-- Only a tick sends a message for an event, and only for the most urgent one that is
pending. -/
theorem tick_of_mem_calls {a : Action} (hhonest : a.isHonest = true) {payload : String}
    (hcall : .telemetry payload (some e) ∈ b.calls a) :
    a = .act .tick rfl ∧ b.device.pending.next? = some e ∧ payload = e.announcement.write := by
  cases a with
  | act step hown =>
      change _ ∈ b.device.memory.calls step at hcall
      cases step with
      | tick =>
          obtain ⟨f, hf, hsame⟩ := List.mem_map.mp hcall
          obtain ⟨rfl, hevent⟩ := Link.Call.telemetry.inj hsame
          obtain rfl : f = e := Option.some.inj hevent
          exact ⟨rfl, Option.mem_toList.mp hf, rfl⟩
      | hear n =>
          have hreport := Device.Memory.isTelemetry_of_mem_calls_hear hcall
          contradiction
      | connectionChanged connected =>
          have hreport := Device.Memory.isTelemetry_of_mem_calls_hear (n := .connection connected)
            hcall
          contradiction
      | _ => simp_all [Device.Memory.calls, Device.uploadCall]
  | hear i =>
      rw [calls_hear] at hcall
      cases hn : b.hand[i]? with
      | none =>
          rw [hn] at hcall
          contradiction
      | some n =>
          rw [hn] at hcall
          have hreport := Device.Memory.isTelemetry_of_mem_calls_hear hcall
          contradiction
  | use c =>
      obtain rfl := List.mem_singleton.mp hcall
      contradiction
  | _ => contradiction

/-- A message for an event is accepted in a tick only. -/
theorem tick_of_mem_fresh (hloopback : b.device.link.loopback? = some loopback) {a : Action}
    (hhonest : a.isHonest = true) {payload : String}
    (hfresh : .telemetry payload (some e) ∈ b.fresh a) :
    a = .act .tick rfl ∧ b.device.pending.next? = some e ∧ payload = e.announcement.write := by
  rw [fresh_eq hloopback, List.mem_filterMap] at hfresh
  obtain ⟨c, hcall, haccepted⟩ := hfresh
  rw [Link.Loopback.accepted?] at haccepted
  split at haccepted
  · cases c with
    | telemetry payload' tag =>
        obtain ⟨rfl, rfl⟩ := Link.Message.telemetry.inj (Option.some.inj haccepted)
        exact tick_of_mem_calls hhonest hcall
    | _ => simp [Link.Loopback.messageOf?] at haccepted
  · contradiction

/-- One message at most is accepted in an action, and it is kept behind the others. -/
theorem sent_work (hloopback : b.device.link.loopback? = some loopback) (a : Action) :
    (b.work a).device.link.sent = b.device.link.sent ++ b.fresh a ∧
      (b.fresh a = [] ∨ ∃ m, b.fresh a = [m]) := by
  obtain ⟨after, hafter, hsent, -⟩ := loopback?_work hloopback a
  refine ⟨?_, ?_⟩
  · rw [fresh_eq hloopback, sent_eq_of_loopback? hafter, sent_eq_of_loopback? hloopback, hsent]
  · rw [fresh_eq hloopback]
    rcases b.calls_cases a with hcalls | ⟨c, hcalls⟩
    · exact Or.inl (by rw [hcalls]; rfl)
    · rw [hcalls, List.filterMap_cons]
      cases loopback.accepted? c with
      | none => exact Or.inl rfl
      | some m => exact Or.inr ⟨m, rfl⟩

/-- Each message that is kept after a run was there before or was accepted in an action. -/
theorem exists_work_of_sent (hloopback : b.device.link.loopback? = some loopback)
    {actions : List Action} {i : Nat} {m : Link.Message}
    (hsent : (b.run actions).device.link.sent[i]? = some m) :
    b.device.link.sent[i]? = some m ∨
      ∃ earlier a later, actions = earlier ++ a :: later ∧
        (b.run earlier).device.link.sent.length = i ∧ m ∈ (b.run earlier).fresh a := by
  induction actions generalizing b loopback with
  | nil => exact Or.inl hsent
  | cons a later ih =>
      obtain ⟨after, hafter, -⟩ := loopback?_work hloopback a
      rcases ih hafter hsent with hfirst | ⟨earlier, a', rest, rfl, hlength, hfresh⟩
      · -- The message was kept when the first action was done.
        obtain ⟨hgrown, hone⟩ := sent_work hloopback a
        rw [hgrown] at hfirst
        by_cases hold : i < b.device.link.sent.length
        · rw [List.getElem?_append_left hold] at hfirst
          exact Or.inl hfirst
        · rw [List.getElem?_append_right (Nat.le_of_not_lt hold)] at hfirst
          refine Or.inr ⟨[], a, later, rfl, ?_, List.mem_of_getElem? hfirst⟩
          change b.device.link.sent.length = i
          rcases hone with hnone | ⟨m', hm'⟩
          · rw [hnone] at hfirst
            contradiction
          · rw [hm'] at hfirst
            obtain ⟨hlt, -⟩ := List.getElem?_eq_some_iff.mp hfirst
            rw [List.length_singleton] at hlt
            omega
      · exact Or.inr ⟨a :: earlier, a', rest, rfl, hlength, hfresh⟩

/-- The device makes the calls that are its own in an action, and no other. -/
theorem called_work (b : Bench) (a : Action) :
    b.device.Called (b.work a).device (b.ownCalls a) := by
  have hact : ∀ step (hown : step.isRelink = false),
      b.device.Called (b.device.act step).refill (b.device.memory.calls step) :=
    fun step hown => (Device.makes_act b.device step hown).called.then_nothing
      (Device.called_nothing rfl rfl rfl rfl)
  cases a with
  | act step hown => exact hact step hown
  | hear i =>
      rw [hear_eq, ownCalls]
      cases b.hand[i]? with
      | none => exact Device.called_nothing rfl rfl rfl rfl
      | some n => exact hact (.hear n) rfl
  | take =>
      rw [work, Device.popNotification?]
      cases b.device.link.inbox.pop? <;> exact Device.called_nothing rfl rfl rfl rfl
  | push ticket n =>
      rw [work]
      split <;> exact Device.called_nothing rfl rfl rfl rfl
  | deafen =>
      have hdeaf : b.device.Called { b.device with link := b.device.link.deafen.1 } [] :=
        Device.called_nothing rfl rfl rfl rfl
      exact hdeaf.then_nothing (Device.called_log _ _)
  | _ => exact Device.called_nothing rfl rfl rfl rfl

theorem mem_calls_of_mem_ownCalls {a : Action} {c : Link.Call} (hcall : c ∈ b.ownCalls a) :
    c ∈ b.calls a := by
  cases a with
  | use c' => contradiction
  | _ => exact hcall

/-- A tick attempts to send the most urgent event, once, if there is one. -/
theorem tick_spec (hloopback : b.device.link.loopback? = some loopback) :
    b.device.callsUntil (b.work (.act .tick rfl)).device =
        (b.device.status.pending.head?.toList.map fun e =>
          .telemetry e.announcement.write (some e)) ∧
      (b.work (.act .tick rfl)).device.link.attempts = b.device.link.attempts +
        (if b.device.status.pending = [] then 0 else 1) := by
  have hhead : b.device.status.pending.head? = b.device.pending.next? := Pending.head?_toList _
  have hcalls : b.calls (.act .tick rfl) = (b.device.status.pending.head?.toList.map fun e =>
      .telemetry e.announcement.write (some e)) := by
    rw [hhead]
    rfl
  refine ⟨(called_work b (.act .tick rfl)).callsUntil_eq.trans hcalls, ?_⟩
  obtain ⟨after, hafter, -, hattempts⟩ := loopback?_work hloopback (.act .tick rfl)
  rw [attempts_eq_of_loopback? hafter, attempts_eq_of_loopback? hloopback, hattempts, hcalls]
  cases b.device.status.pending <;> rfl

/-- What is true of a run in which the messages are the device's own and the delivery
results are the link's own. -/
structure Genuine (b : Bench) (actions : List Action) : Prop where
  /-- Each time an event was taken out it had been delivered once more. -/
  falls : ∀ e, b.falls e actions ≤ b.deliveries e actions
  /-- Each message for an event announces it, and was sent by a tick at which the event was
  the most urgent one pending. -/
  messages : ∀ i payload e,
    (b.run actions).device.link.sent[i]? = some (.telemetry payload (some e)) →
    payload = "\x7b\"" ++ e.name ++ "\":true\x7d" ∧
      ∃ earlier later, actions = earlier ++ .act .tick rfl :: later ∧
        (b.run earlier).device.link.sent.length = i ∧
        e ∈ (b.run earlier).device.status.pending ∧
        ∀ f, f.rank < e.rank → f ∉ (b.run earlier).device.status.pending
  /-- A tick attempts to send once if an event is pending, and else does nothing. -/
  tick : (b.run actions).device.callsUntil ((b.run actions).work (.act .tick rfl)).device =
        ((b.run actions).device.status.pending.head?.toList.map fun e =>
          .telemetry e.announcement.write (some e)) ∧
      ((b.run actions).work (.act .tick rfl)).device.link.attempts =
        (b.run actions).device.link.attempts +
          (if (b.run actions).device.status.pending = [] then 0 else 1)
  /-- Nothing else sends a message for an event. -/
  others : ∀ a, a.isHonest = true → a ≠ .act .tick rfl → ∀ payload e,
    .telemetry payload (some e) ∉
        (b.run actions).device.callsUntil ((b.run actions).work a).device ∧
      .telemetry payload (some e) ∉ (b.run actions).fresh a

theorem write_announcement (e : Event) :
    e.announcement.write = "\x7b\"" ++ e.name ++ "\":true\x7d" := by
  cases e <;> decide

theorem status_of_next? {d : Device} (hnext : d.pending.next? = some e) :
    e ∈ d.status.pending ∧ ∀ f, f.rank < e.rank → f ∉ d.status.pending := by
  refine ⟨Pending.mem_toList.mpr (List.find?_some hnext), ?_⟩
  intro f hrank hf
  have hflag : d.pending.contains f = true := Pending.mem_toList.mp hf
  rw [Pending.next?] at hnext
  cases e <;> cases f <;> simp_all [Event.rank, Event.byPriority]

/-- If the device alone sends and the link alone confirms, no event is taken for delivered
that was not, and every message for an event is genuine. -/
theorem genuine_of_isHonest {settings : Settings} {hooks : Hooks} {name : String}
    {online refusing : Bool} {acks : Link.Acks} {capacity : Nat} {inbox : Mailbox Link.Letter}
    {d : Device} (hinbox : Mailbox.ofCapacity? capacity = some inbox)
    (hcreated : Device.ofSettings settings hooks
      ⟨name, .loopback { online, acks, refusing }, inbox⟩ = .ok d)
    {actions : List Action} (hhonest : ∀ a ∈ actions, a.isHonest = true) :
    Genuine { device := d } actions := by
  obtain ⟨-, hlink, -⟩ := Device.eq_of_ofSettings hcreated
  have hloopback : Link.loopback? (Bench.device { device := d }).link =
      some { online, acks, refusing } := by
    change d.link.loopback? = _
    rw [hlink]
    rfl
  have hempty : inbox.toList = [] := (Mailbox.eq_of_ofCapacity?_eq_some hinbox).1
  obtain ⟨last, hlast⟩ := loopback?_run hloopback actions
  constructor
  case falls =>
    intro e
    have hcount := falls_add_outstanding_le hloopback e hhonest
    have hnone : outstanding e { device := d } = 0 := by
      rw [outstanding, Link.onTheWay]
      change (d.link.inbox.toList.map _ ++ []).countP _ = 0
      rw [hlink, hempty]
      rfl
    omega
  case messages =>
    intro i payload e hsent
    rcases exists_work_of_sent hloopback hsent with hold | ⟨earlier, a, later, rfl, hlength, hfresh⟩
    · rw [sent_eq_of_loopback? hloopback] at hold
      contradiction
    · obtain ⟨between, hbetween⟩ := loopback?_run hloopback earlier
      have ha : a.isHonest = true := hhonest a (by simp)
      obtain ⟨rfl, hnext, rfl⟩ := tick_of_mem_fresh hbetween ha hfresh
      exact ⟨write_announcement e, earlier, later, rfl, hlength, status_of_next? hnext⟩
  case tick => exact tick_spec hlast
  case others =>
    intro a ha hother payload e
    refine ⟨fun hcall => ?_, fun hfresh => hother (tick_of_mem_fresh hlast ha hfresh).1⟩
    rw [(called_work _ a).callsUntil_eq] at hcall
    exact hother (tick_of_mem_calls ha (mem_calls_of_mem_ownCalls hcall)).1

/-- A refused message, then two for the same event, between whose results the event is
signaled again. -/
def retries : List Action :=
  [.network false, .tick, .network true, .tick, .tick, .take, .hear 0,
    .act (.signal .appRestart) rfl, .take, .hear 0]

/-- The event is taken out twice, and was delivered twice. -/
theorem genuine_retries :
    ∃ (inbox : Mailbox Link.Letter) (d : Device), Mailbox.ofCapacity? 1 = some inbox ∧
      Device.ofSettings {} {} ⟨"loopback", .loopback {}, inbox⟩ = .ok d ∧
      (∀ a ∈ retries, a.isHonest = true) ∧ falls .appRestart { device := d } retries = 2 ∧
      2 ≤ deliveries .appRestart { device := d } retries := by
  have hinbox : Mailbox.ofCapacity? 1 =
      some { capacity := 1, capacity_pos := Nat.one_pos : Mailbox Link.Letter } := rfl
  have hcreated : Device.ofSettings {} {}
      ⟨"loopback", .loopback {}, { capacity := 1, capacity_pos := Nat.one_pos }⟩ =
        .ok (Device.plain _) := Device.ofSettings_plain _
  have hhonest : ∀ a ∈ retries, a.isHonest = true := by decide
  have hgenuine := genuine_of_isHonest hinbox hcreated hhonest
  exact ⟨_, _, hinbox, hcreated, hhonest, by decide, hgenuine.falls .appRestart⟩

end Bench

end DeviceTwin
