/-
The delivery result that a call on the link brings by itself.  A message that is accepted
brings one, unless the results are given by hand; no other call brings any, and none is
brought in another way.
-/
import DeviceTwin.Proofs.Device.LinkUse
import DeviceTwin.Proofs.Mailbox

namespace DeviceTwin

namespace Link

/-- The delivery result that a call brings by itself.  A message that is accepted brings one
with its own tag, as the results are at that time, unless they are given by hand. -/
def result? (l : Link) : Call → Option Notification
  | .telemetry payload tag =>
      match (l.telemetry payload tag).result, l.loopback?.bind (·.acks.verdict?) with
      | .ok (), some success => some (.delivery success tag)
      | _, _ => none
  | _ => none

/-- What a call brings by itself is a delivery result. -/
theorem exists_delivery_of_result? {l : Link} {c : Call} {n : Notification}
    (hresult : l.result? c = some n) : ∃ success tag, n = .delivery success tag := by
  cases c with
  | telemetry payload tag =>
      unfold result? at hresult
      dsimp only at hresult
      split at hresult
      · exact ⟨_, _, (Option.some.inj hresult).symm⟩
      · contradiction
  | _ => contradiction

/-- The result that a loopback gives for a message with a tag. -/
def Loopback.result? (l : Loopback) (tag : Tag) : Option Notification :=
  match l.available with
  | .ok () => l.acks.verdict?.map (.delivery · tag)
  | .error _ => none

theorem result?_telemetry (l : Link) (payload : String) (tag : Tag) :
    l.result? (.telemetry payload tag) = l.loopback?.bind (·.result? tag) := by
  unfold result? telemetry loopback?
  cases l.kind with
  | scripted script =>
      dsimp only [Option.bind_none]
      split
      · contradiction
      · rfl
  | loopback loopback =>
      have havailable : Loopback.available { loopback with attempts := loopback.attempts + 1 }
          = loopback.available := rfl
      simp only [Option.bind_some, Loopback.result?, Loopback.telemetry, Loopback.accept,
        havailable]
      cases loopback.available with
      | error cause => rfl
      | ok _ => cases loopback.acks.verdict? <;> rfl

/-- The loopback after a call. -/
def Loopback.after (name : String) (l : Loopback) : Call → Loopback
  | .start model => (l.start name model).2
  | .telemetry payload tag => (l.telemetry payload tag).2
  | .report payload => (l.report payload).2
  | .close => l.close

/-- How a link behaves after a call. -/
def Kind.after (name : String) : Kind → Call → Kind
  | .loopback l, c => .loopback (l.after name c)
  | .scripted script, .close => .scripted script
  | .scripted script, _ => .scripted script.take.2

theorem acknowledge_eq (success : Bool) (tag : Tag) (l : Link) :
    (l.acknowledge success tag).1 = { l with inbox := (l.acknowledge success tag).1.inbox } := by
  unfold acknowledge
  split <;> rfl

/-- A call leaves the name of a link alone, and how the link behaves after it does not depend
on the mailbox. -/
theorem perform_eq (l : Link) (c : Call) :
    (l.perform c).link =
      { l with kind := l.kind.after l.name c, inbox := (l.perform c).link.inbox } := by
  obtain ⟨name, kind, inbox⟩ := l
  cases kind with
  | scripted script => cases c <;> rfl
  | loopback loopback =>
      cases c with
      | start model => rfl
      | close => rfl
      | report payload =>
          unfold perform report Kind.after Loopback.after
          dsimp only
          rcases loopback.report payload with ⟨result, after⟩
          cases result <;> rfl
      | telemetry payload tag =>
          unfold perform telemetry Kind.after Loopback.after
          dsimp only
          rcases loopback.telemetry payload tag with ⟨result, after⟩
          cases result with
          | error cause => rfl
          | ok _ =>
              cases loopback.acks.verdict? with
              | none => rfl
              | some success => exact acknowledge_eq success tag _

/-- A call changes the mailbox by its delivery result only. -/
theorem inbox_perform (l : Link) (c : Call) :
    (l.perform c).link.inbox =
      match l.result? c with
      | some n => if l.inbox.isOpen then l.inbox.push ⟨.link, n⟩ else l.inbox
      | none => l.inbox := by
  cases c with
  | start model =>
      change (l.start model).link.inbox = l.inbox
      unfold Link.start
      cases l.kind with
      | loopback loopback => rfl
      | scripted script => rfl
  | report payload => exact inbox_report l payload
  | close =>
      change l.close.link.inbox = l.inbox
      unfold Link.close
      cases l.kind with
      | loopback loopback => rfl
      | scripted script => rfl
  | telemetry payload tag =>
      change (l.telemetry payload tag).link.inbox = _
      rw [result?_telemetry]
      unfold Link.telemetry loopback?
      cases l.kind with
      | scripted script => rfl
      | loopback loopback =>
          have havailable : Loopback.available { loopback with attempts := loopback.attempts + 1 }
              = loopback.available := rfl
          simp only [Option.bind_some, Loopback.result?, Loopback.telemetry, Loopback.accept,
            havailable]
          cases loopback.available with
          | error cause => rfl
          | ok _ =>
              cases loopback.acks.verdict? with
              | none => rfl
              | some success => exact inbox_acknowledge _ success tag

/-- The letter of a call that comes into the mailbox at once. -/
def entering (l : Link) (c : Call) : List Letter :=
  match l.result? c with
  | some n => if l.inbox.isOpen then l.inbox.entering ⟨.link, n⟩ else []
  | none => []

theorem queue_perform (l : Link) (c : Call) :
    (l.perform c).link.inbox.queue = l.inbox.queue ++ l.entering c := by
  rw [inbox_perform, entering]
  cases l.result? c with
  | none => exact (List.append_nil _).symm
  | some n =>
      dsimp only
      split
      · exact Mailbox.queue_push _ _
      · exact (List.append_nil _).symm

def Call.isTelemetry : Call → Bool
  | .telemetry _ _ => true
  | _ => false

theorem entering_of_not_isTelemetry {c : Call} (hcall : c.isTelemetry = false) (l : Link) :
    l.entering c = [] := by
  cases c with
  | telemetry payload tag => cases hcall
  | _ => rfl

/-- The link after calls that are made one after the other. -/
def performAll (l : Link) (calls : List Call) : Link :=
  calls.foldl (fun l c => (l.perform c).link) l

/-- The letters of calls that come into the mailbox at once. -/
def enteringAll (l : Link) : List Call → List Letter
  | [] => []
  | c :: later => l.entering c ++ (l.perform c).link.enteringAll later

theorem queue_performAll (l : Link) (calls : List Call) :
    (l.performAll calls).inbox.queue = l.inbox.queue ++ l.enteringAll calls := by
  induction calls generalizing l with
  | nil => exact (List.append_nil _).symm
  | cons c later ih =>
      change ((l.perform c).link.performAll later).inbox.queue = _
      rw [ih, queue_perform, enteringAll, List.append_assoc]

theorem enteringAll_eq_nil {calls : List Call} (hcalls : ∀ c ∈ calls, c.isTelemetry = false)
    (l : Link) : l.enteringAll calls = [] := by
  induction calls generalizing l with
  | nil => rfl
  | cons c later ih =>
      rw [List.forall_mem_cons] at hcalls
      rw [enteringAll, entering_of_not_isTelemetry hcalls.1, ih hcalls.2, List.nil_append]

/-- The notifications on their way, in the mailbox or outside of it. -/
def onTheWay (l : Link) : List Notification := l.inbox.toList.map (·.content)

/-- The delivery results that calls bring, in the order of the calls. -/
def results (l : Link) : List Call → List Notification
  | [] => []
  | c :: later => (l.result? c).toList ++ (l.perform c).link.results later

/-- A link whose notifications will be taken, and none of which waits without need. -/
structure Listening (l : Link) : Prop where
  isOpen : l.inbox.isOpen = true
  packed : l.inbox.Packed

theorem Listening.deliver {l : Link} (hlistening : l.Listening) (sender : Sender)
    (n : Notification) :
    (l.deliver sender n).Listening ∧ (l.deliver sender n).onTheWay = l.onTheWay ++ [n] := by
  obtain ⟨hpacked, hlist⟩ := hlistening.packed.push ⟨sender, n⟩
  refine ⟨⟨(Mailbox.isOpen_push _ _).trans hlistening.isOpen, hpacked⟩, ?_⟩
  exact (congrArg (List.map (·.content)) hlist).trans List.map_append

theorem Listening.perform {l : Link} (hlistening : l.Listening) (c : Call) :
    (l.perform c).link.Listening ∧
      (l.perform c).link.onTheWay = l.onTheWay ++ (l.result? c).toList := by
  have hinbox := inbox_perform l c
  rw [hlistening.isOpen] at hinbox
  cases hresult : l.result? c with
  | none =>
      rw [hresult] at hinbox
      refine ⟨⟨hinbox ▸ hlistening.isOpen, hinbox ▸ hlistening.packed⟩, ?_⟩
      rw [onTheWay, hinbox]
      exact (List.append_nil _).symm
  | some n =>
      rw [hresult] at hinbox
      obtain ⟨hafter, hlist⟩ := hlistening.deliver .link n
      refine ⟨⟨hinbox ▸ hafter.isOpen, hinbox ▸ hafter.packed⟩, ?_⟩
      rw [onTheWay, hinbox]
      exact hlist

theorem Listening.performAll {l : Link} (hlistening : l.Listening) (calls : List Call) :
    (l.performAll calls).Listening ∧
      (l.performAll calls).onTheWay = l.onTheWay ++ l.results calls := by
  induction calls generalizing l with
  | nil => exact ⟨hlistening, (List.append_nil _).symm⟩
  | cons c later ih =>
      obtain ⟨hafter, hlist⟩ := hlistening.perform c
      obtain ⟨hlast, hlater⟩ := ih hafter
      refine ⟨hlast, hlater.trans ?_⟩
      rw [hlist, results, List.append_assoc]

/-- Those who wait have come in before, so it changes nothing to let them in again. -/
theorem Listening.refill {l : Link} (hlistening : l.Listening) :
    l.refill.Listening ∧ l.refill.onTheWay = l.onTheWay :=
  ⟨⟨hlistening.isOpen, Mailbox.packed_refill hlistening.packed.length_le⟩,
    congrArg (List.map Letter.content) (Mailbox.toList_refill l.inbox)⟩

/-- The next letter of a link, if there is any, is the oldest one on its way. -/
theorem Listening.pop?_cases {l : Link} (hlistening : l.Listening) :
    l.inbox.pop? = none ∧ l.inbox.toList = [] ∨
      ∃ letter rest, l.inbox.pop? = some (letter, rest) ∧
        l.inbox.toList = letter :: rest.toList ∧
          ({ l with inbox := rest } : Link).refill.Listening := by
  cases hpop : l.inbox.pop? with
  | none => exact Or.inl ⟨rfl, hlistening.packed.toList_of_pop?_eq_none hpop⟩
  | some popped =>
      obtain ⟨letter, rest⟩ := popped
      have hopen : rest.isOpen = true := by
        rw [(Mailbox.eq_of_pop?_eq_some hpop).2]
        exact hlistening.isOpen
      exact Or.inr ⟨letter, rest, rfl, Mailbox.toList_of_pop? hpop, hopen,
        hlistening.packed.refill_of_pop? hpop⟩

theorem performAll_append (l : Link) (earlier later : List Call) :
    l.performAll (earlier ++ later) = (l.performAll earlier).performAll later := by
  rw [performAll, List.foldl_append]
  rfl

end Link

end DeviceTwin
