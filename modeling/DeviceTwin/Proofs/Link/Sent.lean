/-
What a loopback keeps of the calls on it: the messages that it accepts, and the number of
attempts to send telemetry.
-/
import DeviceTwin.Proofs.Link.Result

namespace DeviceTwin

namespace Link

namespace Loopback

/-- The message that a call carries. -/
def messageOf? : Call → Option Message
  | .telemetry payload tag => some (.telemetry payload tag)
  | .report payload => some (.report payload)
  | .start _ | .close => none

/-- Whether messages are accepted now. -/
def isAccepting (l : Loopback) : Bool := l.online && !l.closed

/-- Whether messages that are accepted now will be delivered. -/
def isDelivering (l : Loopback) : Bool := l.online && l.acks == .succeed

/-- The message of a call, if it is accepted. -/
def accepted? (l : Loopback) (c : Call) : Option Message :=
  if l.isAccepting then messageOf? c else none

theorem available_eq_ok_iff (l : Loopback) : l.available = .ok () ↔ l.isAccepting = true := by
  unfold available isAccepting
  cases l.closed <;> cases l.online <;> simp

/-- A message that is accepted is kept, and nothing else changes. -/
theorem accept_eq (l : Loopback) (m : Message) :
    ∃ sent : Trace Message, (l.accept m).2 = { l with sent } ∧
      sent.toList = l.sent.toList ++ (if l.isAccepting then some m else none).toList := by
  have haccepting := l.available_eq_ok_iff
  unfold accept
  cases havailable : l.available with
  | error cause =>
      rw [havailable] at haccepting
      rw [if_neg (mt haccepting.mpr nofun)]
      exact ⟨l.sent, rfl, (List.append_nil _).symm⟩
  | ok _ =>
      rw [if_pos (haccepting.mp havailable)]
      exact ⟨l.sent.add m, rfl, Trace.toList_add _ _⟩

/-- What a call makes of a loopback. -/
theorem after_eq (name : String) (l : Loopback) (c : Call) :
    (l.after name c).sent.toList = l.sent.toList ++ (l.accepted? c).toList ∧
      (l.after name c).attempts = l.attempts + (if c.isTelemetry then 1 else 0) ∧
      (l.after name c).isDelivering = l.isDelivering := by
  cases c with
  | start model =>
      have hnone : l.accepted? (.start model) = none := ite_self none
      rw [hnone, after, start]
      split <;> exact ⟨(List.append_nil _).symm, (UInt64.add_zero _).symm, rfl⟩
  | close =>
      have hnone : l.accepted? .close = none := ite_self none
      rw [hnone]
      exact ⟨(List.append_nil _).symm, (UInt64.add_zero _).symm, rfl⟩
  | report payload =>
      obtain ⟨sent, heq, hsent⟩ := accept_eq l (.report payload)
      rw [after, report, heq]
      exact ⟨hsent, (UInt64.add_zero _).symm, rfl⟩
  | telemetry payload tag =>
      obtain ⟨sent, heq, hsent⟩ :=
        accept_eq { l with attempts := l.attempts + 1 } (.telemetry payload tag)
      rw [after, telemetry, heq]
      exact ⟨hsent, rfl, rfl⟩

end Loopback

theorem loopback?_perform {l : Link} {loopback : Loopback} (hloopback : l.loopback? = some loopback)
    (c : Call) : (l.perform c).link.loopback? = some (loopback.after l.name c) := by
  rw [perform_eq]
  obtain ⟨name, kind, inbox⟩ := l
  cases kind with
  | scripted script => contradiction
  | loopback loopback =>
      cases hloopback
      rfl

/-- A delivery result says of a message with its tag that it was accepted while messages
were delivered. -/
theorem eq_of_result?_eq_some {l : Link} {loopback : Loopback}
    (hloopback : l.loopback? = some loopback) {c : Call} {tag : Tag}
    (hresult : l.result? c = some (.delivery true tag)) :
    loopback.isDelivering = true ∧ ∃ payload, c = .telemetry payload tag ∧
      loopback.accepted? c = some (.telemetry payload tag) := by
  cases c with
  | telemetry payload tag' =>
      rw [result?_telemetry, hloopback, Option.bind_some, Loopback.result?] at hresult
      have haccepting := loopback.available_eq_ok_iff
      cases havailable : loopback.available with
      | error cause =>
          rw [havailable] at hresult
          contradiction
      | ok _ =>
          rw [havailable] at hresult haccepting
          have hopen : loopback.isAccepting = true := haccepting.mp rfl
          have honline : loopback.online = true := (Bool.and_eq_true_iff.mp hopen).1
          obtain ⟨success, hverdict, hsame⟩ := Option.map_eq_some_iff.mp hresult
          obtain ⟨rfl, rfl⟩ := Notification.delivery.inj hsame
          have hacks : loopback.acks = .succeed := by
            cases hmode : loopback.acks with
            | succeed => rfl
            | fail => rw [hmode] at hverdict; contradiction
            | manual => rw [hmode] at hverdict; contradiction
          refine ⟨?_, payload, rfl, if_pos hopen⟩
          rw [Loopback.isDelivering, honline, hacks]
          rfl
  | _ => contradiction

/-- The messages that a link keeps, if it keeps any. -/
def sent (l : Link) : List Message := (l.loopback?.map (·.sent.toList)).getD []

def attempts (l : Link) : UInt64 := (l.loopback?.map (·.attempts)).getD 0

def isDelivering (l : Link) : Bool := l.loopback?.any (·.isDelivering)

/-- What becomes of a loopback when one call at most is made on it. -/
theorem loopback?_performAll {l : Link} {loopback : Loopback}
    (hloopback : l.loopback? = some loopback) {calls : List Call}
    (hcalls : calls = [] ∨ ∃ c, calls = [c]) :
    ∃ after, (l.performAll calls).loopback? = some after ∧
      after.sent.toList = loopback.sent.toList ++ calls.filterMap loopback.accepted? ∧
      after.attempts = loopback.attempts + UInt64.ofNat (calls.countP Call.isTelemetry) := by
  rcases hcalls with rfl | ⟨c, rfl⟩
  · exact ⟨loopback, hloopback, (List.append_nil _).symm, (UInt64.add_zero _).symm⟩
  · obtain ⟨hsent, hattempts, -⟩ := loopback.after_eq l.name c
    refine ⟨_, loopback?_perform hloopback c, ?_, ?_⟩
    · rw [hsent, List.filterMap_cons]
      cases loopback.accepted? c <;> rfl
    · rw [hattempts, List.countP_singleton, apply_ite UInt64.ofNat]
      rfl

/-- The notifications on their way are at most those that were, and the new result. -/
theorem countP_onTheWay_perform (p : Notification → Bool) (l : Link) (c : Call) :
    (l.perform c).link.onTheWay.countP p ≤
      l.onTheWay.countP p + (l.result? c).toList.countP p := by
  rw [onTheWay, inbox_perform]
  cases l.result? c with
  | none => exact Nat.le_refl _
  | some n =>
      dsimp only
      split
      · have hperm := (Mailbox.perm_toList_push l.inbox ⟨.link, n⟩).map Letter.content
        rw [hperm.countP_eq, List.map_cons, List.countP_cons]
        exact Nat.le_of_eq (congrArg _ (List.countP_singleton).symm)
      · exact Nat.le_add_right _ _

theorem countP_onTheWay_performAll (p : Notification → Bool) (l : Link) (calls : List Call) :
    (l.performAll calls).onTheWay.countP p ≤
      l.onTheWay.countP p + (l.results calls).countP p := by
  induction calls generalizing l with
  | nil => exact Nat.le_refl _
  | cons c later ih =>
      have hfirst := countP_onTheWay_perform p l c
      have hlater := ih (l.perform c).link
      rw [results, List.countP_append]
      change ((l.perform c).link.performAll later).onTheWay.countP p ≤ _
      omega

end Link

end DeviceTwin
