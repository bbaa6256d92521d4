/-
The books of a loopback.  Whatever is done to it from all sides, and in whatever order, its
log holds the messages of the calls that succeeded, and whether a call succeeds is decided by
the switches as they were set last and by whether the link was closed before.  What becomes of
the delivery results plays no part in it.
-/
import DeviceTwin.Proofs.Link.Sent

namespace DeviceTwin

namespace Link

/-- What can be done to a link: by those who call it, by the owner of its switches, by those
who send notifications and by the one who takes them out. -/
inductive Operation
  | call (c : Call)
  | network (online : Bool)
  | acks (acks : Acks)
  | refuse (refusing : Bool)
  /-- Somebody sends a notification from outside.  Nothing comes in if nobody listens. -/
  | deliver (sender : Sender) (n : Notification)
  /-- Those that wait outside a full mailbox come in where there is room. -/
  | letIn
  /-- The oldest notification is taken out of the mailbox, if there is any. -/
  | take
  /-- Nobody takes notifications out any more. -/
  | deafen

namespace Operation

def call? : Operation → Option Call
  | .call c => some c
  | _ => none

def network? : Operation → Option Bool
  | .network on => some on
  | _ => none

def acks? : Operation → Option Acks
  | .acks mode => some mode
  | _ => none

def refuse? : Operation → Option Bool
  | .refuse refusing => some refusing
  | _ => none

def isClose : Operation → Bool
  | .call .close => true
  | _ => false

end Operation

/-- The model of a call that starts a link. -/
def Call.model? : Call → Option String
  | .start model => some model
  | _ => none

def operate (l : Link) : Operation → Link
  | .call c => (l.perform c).link
  | .network online => l.modifyLoopback fun b => { b with online }
  | .acks acks => l.modifyLoopback fun b => { b with acks }
  | .refuse refusing => l.modifyLoopback fun b => { b with refusing }
  | .deliver sender n => if l.inbox.isOpen then l.deliver sender n else l
  | .letIn => l.refill
  | .take =>
      match l.inbox.pop? with
      | some (_, inbox) => { l with inbox }
      | none => l
  | .deafen => l.deafen.1

def operateAll (l : Link) (ops : List Operation) : Link := ops.foldl operate l

/-- The calls among operations that succeed. -/
def granted (l : Link) : List Operation → List Call
  | [] => []
  | op :: later =>
      (op.call?.toList.filter fun c => (l.perform c).result.isOk) ++ (l.operate op).granted later

theorem operateAll_append (l : Link) (earlier later : List Operation) :
    l.operateAll (earlier ++ later) = (l.operateAll earlier).operateAll later :=
  List.foldl_append

/-- The value of a switch that was set to some values after the one it started with. -/
def setting {α : Type} (start : α) (values : List α) : α := values.getLast?.getD start

theorem setting_append {α : Type} (start : α) (earlier later : List α) :
    setting start (earlier ++ later) = setting (setting start earlier) later := by
  rw [setting, List.getLast?_append, setting, setting]
  cases later.getLast? <;> rfl

namespace Loopback

/-- A loopback after an operation.  Those on the mailbox do not concern it. -/
def operate (name : String) (b : Loopback) : Operation → Loopback
  | .call c => b.after name c
  | .network online => { b with online }
  | .acks acks => { b with acks }
  | .refuse refusing => { b with refusing }
  | .deliver _ _ | .letIn | .take | .deafen => b

/-- What a loopback answers to a call. -/
def answer (name : String) (b : Loopback) : Call → Result
  | .start model => (b.start name model).1
  | .telemetry _ _ | .report _ => b.available
  | .close => .ok ()

/-- What a call leaves alone. -/
theorem switches_after (name : String) (b : Loopback) (c : Call) :
    (b.after name c).online = b.online ∧ (b.after name c).acks = b.acks ∧
      (b.after name c).refusing = b.refusing := by
  cases c with
  | start model =>
      rw [after, start]
      split <;> exact ⟨rfl, rfl, rfl⟩
  | close => exact ⟨rfl, rfl, rfl⟩
  | report payload =>
      obtain ⟨sent, heq, -⟩ := accept_eq b (.report payload)
      rw [after, report, heq]
      exact ⟨rfl, rfl, rfl⟩
  | telemetry payload tag =>
      obtain ⟨sent, heq, -⟩ :=
        accept_eq { b with attempts := b.attempts + 1 } (.telemetry payload tag)
      rw [after, telemetry, heq]
      exact ⟨rfl, rfl, rfl⟩

theorem closed_after (name : String) (b : Loopback) (c : Call) :
    (b.after name c).closed = (b.closed || (Operation.call c).isClose) := by
  cases c with
  | start model =>
      rw [after, start]
      split <;> exact (Bool.or_false _).symm
  | close => exact (Bool.or_true _).symm
  | report payload =>
      obtain ⟨sent, heq, -⟩ := accept_eq b (.report payload)
      rw [after, report, heq]
      exact (Bool.or_false _).symm
  | telemetry payload tag =>
      obtain ⟨sent, heq, -⟩ :=
        accept_eq { b with attempts := b.attempts + 1 } (.telemetry payload tag)
      rw [after, telemetry, heq]
      exact (Bool.or_false _).symm

/-- The model changes with a call that succeeds in starting the link, and with no other. -/
theorem model_after (name : String) (b : Loopback) (c : Call) :
    (b.after name c).model =
      (if (b.answer name c).isOk then c.model? else none).or b.model := by
  cases c with
  | start model =>
      rw [after, answer, start]
      split <;> rfl
  | close => rfl
  | report payload =>
      obtain ⟨sent, heq, -⟩ := accept_eq b (.report payload)
      rw [after, report, heq]
      exact (congrArg (Option.or · b.model) (ite_self none)).symm
  | telemetry payload tag =>
      obtain ⟨sent, heq, -⟩ :=
        accept_eq { b with attempts := b.attempts + 1 } (.telemetry payload tag)
      rw [after, telemetry, heq]
      exact (congrArg (Option.or · b.model) (ite_self none)).symm

/-- A message is accepted if and only if its call succeeds. -/
theorem accepted?_eq (name : String) (b : Loopback) (c : Call) :
    b.accepted? c = if (b.answer name c).isOk then messageOf? c else none := by
  have haccepting := b.available_eq_ok_iff
  have hmessage : ∀ m : Option Message,
      (if b.isAccepting = true then m else none) =
        if b.available.isOk = true then m else none := by
    intro m
    cases havailable : b.available with
    | error cause =>
        rw [havailable] at haccepting
        rw [if_neg (mt haccepting.mpr nofun), if_neg (by nofun)]
    | ok _ =>
        rw [havailable] at haccepting
        rw [if_pos (haccepting.mp rfl)]
        exact (if_pos rfl).symm
  cases c with
  | start model => rw [accepted?, messageOf?, ite_self, ite_self]
  | close => rw [accepted?, messageOf?, ite_self, ite_self]
  | report payload => exact hmessage _
  | telemetry payload tag => exact hmessage _

end Loopback

theorem name_operate (l : Link) (op : Operation) : (l.operate op).name = l.name := by
  cases op with
  | call c => rw [operate, perform_eq]
  | deliver sender n =>
      rw [operate]
      split <;> rfl
  | take =>
      rw [operate]
      split <;> rfl
  | letIn => rfl
  | deafen => rfl
  | _ =>
      rw [operate, modifyLoopback]
      split <;> rfl

theorem name_operateAll (l : Link) (ops : List Operation) : (l.operateAll ops).name = l.name := by
  induction ops generalizing l with
  | nil => rfl
  | cons op later ih => exact (ih (l.operate op)).trans (l.name_operate op)

/-- What becomes of a loopback in an operation does not depend on the mailbox. -/
theorem loopback?_operate {l : Link} {b : Loopback} (hloopback : l.loopback? = some b)
    (op : Operation) : (l.operate op).loopback? = some (b.operate l.name op) := by
  cases op with
  | call c => exact loopback?_perform hloopback c
  | deliver sender n =>
      rw [operate]
      split <;> exact hloopback
  | take =>
      rw [operate]
      split <;> exact hloopback
  | letIn => exact hloopback
  | deafen => exact hloopback
  | _ =>
      obtain ⟨name, kind, inbox⟩ := l
      cases kind with
      | scripted script => contradiction
      | loopback b =>
          cases hloopback
          rfl

theorem result_perform {l : Link} {b : Loopback} (hloopback : l.loopback? = some b) (c : Call) :
    (l.perform c).result = b.answer l.name c := by
  obtain ⟨name, kind, inbox⟩ := l
  cases kind with
  | scripted script => contradiction
  | loopback b =>
      cases hloopback
      cases c with
      | start model => rfl
      | close => rfl
      | report payload =>
          rw [perform, Link.report, Loopback.answer]
          dsimp only
          rw [Loopback.report, Loopback.accept]
          cases b.available <;> rfl
      | telemetry payload tag =>
          have havailable : Loopback.available { b with attempts := b.attempts + 1 }
              = b.available := rfl
          rw [perform, Link.telemetry, Loopback.answer]
          dsimp only
          rw [Loopback.telemetry, Loopback.accept, havailable]
          cases b.available with
          | error cause => rfl
          | ok _ => cases b.acks.verdict? <;> rfl

/-- What operations on a loopback leave in its books, of which some calls succeeded. -/
structure Booked (b : Loopback) (ops : List Operation) (granted : List Call)
    (after : Loopback) : Prop where
  online : after.online = setting b.online (ops.filterMap Operation.network?)
  acks : after.acks = setting b.acks (ops.filterMap Operation.acks?)
  refusing : after.refusing = setting b.refusing (ops.filterMap Operation.refuse?)
  closed : after.closed = (b.closed || ops.any Operation.isClose)
  sent : after.sent.toList = b.sent.toList ++ granted.filterMap Loopback.messageOf?
  attempts : after.attempts =
    b.attempts + UInt64.ofNat ((ops.filterMap Operation.call?).countP Call.isTelemetry)
  model : after.model = (granted.filterMap Call.model?).getLast?.or b.model

theorem Booked.append {b mid after : Loopback} {earlier later : List Operation}
    {granted granted' : List Call} (hearlier : Booked b earlier granted mid)
    (hlater : Booked mid later granted' after) :
    Booked b (earlier ++ later) (granted ++ granted') after := by
  refine ⟨?_, ?_, ?_, ?_, ?_, ?_, ?_⟩
  · rw [hlater.online, hearlier.online, List.filterMap_append, setting_append]
  · rw [hlater.acks, hearlier.acks, List.filterMap_append, setting_append]
  · rw [hlater.refusing, hearlier.refusing, List.filterMap_append, setting_append]
  · rw [hlater.closed, hearlier.closed, List.any_append, Bool.or_assoc]
  · rw [hlater.sent, hearlier.sent, List.filterMap_append, List.append_assoc]
  · rw [hlater.attempts, hearlier.attempts, List.filterMap_append, List.countP_append,
      UInt64.ofNat_add, UInt64.add_assoc]
  · rw [hlater.model, hearlier.model, List.filterMap_append, List.getLast?_append,
      Option.or_assoc]

/-- What one operation leaves in the books. -/
theorem booked_operate {l : Link} {b : Loopback} (hloopback : l.loopback? = some b)
    (op : Operation) :
    Booked b [op] (op.call?.toList.filter fun c => (l.perform c).result.isOk)
      (b.operate l.name op) := by
  cases op with
  | call c =>
      obtain ⟨honline, hacks, hrefusing⟩ := b.switches_after l.name c
      obtain ⟨hsent, hattempts, -⟩ := b.after_eq l.name c
      have hresult := result_perform hloopback c
      have hgranted : (some c).toList.filter (fun c => (l.perform c).result.isOk) =
          if (b.answer l.name c).isOk then [c] else [] := by
        rw [Option.toList_some, List.filter_cons, List.filter_nil, hresult]
      refine ⟨honline, hacks, hrefusing, ?_, ?_, ?_, ?_⟩
      · rw [Loopback.operate, b.closed_after l.name c, List.any_cons, List.any_nil,
          Bool.or_false]
      · rw [Loopback.operate, hsent, Operation.call?, hgranted, b.accepted?_eq l.name]
        split
        · rw [List.filterMap_cons]
          cases Loopback.messageOf? c <;> rfl
        · rfl
      · change _ = b.attempts + UInt64.ofNat ([c].countP Call.isTelemetry)
        rw [Loopback.operate, hattempts, List.countP_singleton, apply_ite UInt64.ofNat]
        rfl
      · rw [Loopback.operate, b.model_after l.name c, Operation.call?, hgranted]
        split
        · rw [List.filterMap_cons]
          cases c.model? <;> rfl
        · rfl
  | _ =>
      exact ⟨rfl, rfl, rfl, (Bool.or_false _).symm, (List.append_nil _).symm,
        (UInt64.add_zero _).symm, rfl⟩

/-- What a run of operations leaves in the books. -/
theorem booked_operateAll {l : Link} {b : Loopback} (hloopback : l.loopback? = some b)
    (ops : List Operation) :
    ∃ after, (l.operateAll ops).loopback? = some after ∧ Booked b ops (l.granted ops) after := by
  induction ops generalizing l b with
  | nil =>
      exact ⟨b, hloopback, rfl, rfl, rfl, (Bool.or_false _).symm, (List.append_nil _).symm,
        (UInt64.add_zero _).symm, rfl⟩
  | cons op later ih =>
      obtain ⟨after, hafter, hlater⟩ := ih (loopback?_operate hloopback op)
      exact ⟨after, hafter, (booked_operate hloopback op).append hlater⟩

/-- A closed loopback takes no message any more, whatever is done to it. -/
theorem messages_granted_of_closed {l : Link} {b : Loopback} (hloopback : l.loopback? = some b)
    (hclosed : b.closed = true) (ops : List Operation) :
    (l.granted ops).filterMap Loopback.messageOf? = [] := by
  induction ops generalizing l b with
  | nil => rfl
  | cons op later ih =>
      have hbooked := booked_operate hloopback op
      have hstill : (b.operate l.name op).closed = true := by
        rw [hbooked.closed, hclosed, Bool.true_or]
      have hfirst : (op.call?.toList.filter fun c => (l.perform c).result.isOk).filterMap
          Loopback.messageOf? = [] := by
        cases op with
        | call c =>
            have hnone : b.accepted? c = none := by
              rw [Loopback.accepted?, Loopback.isAccepting, hclosed, Bool.and_comm]
              rfl
            have hsent := hbooked.sent
            rw [Loopback.operate, (b.after_eq l.name c).1, hnone] at hsent
            exact (List.append_cancel_left hsent).symm
        | _ => rfl
      rw [granted, List.filterMap_append, hfirst, List.nil_append]
      exact ih (loopback?_operate hloopback op) hstill

section New

/-- A loopback as it is made, with a mailbox. -/
def newLoopback (name : String) (inbox : Mailbox Letter) : Link :=
  { name, kind := .loopback {}, inbox }

/-- Whether there is a network after operations on a new loopback. -/
def isOnline (ops : List Operation) : Bool :=
  setting true (ops.filterMap Operation.network?)

def isClosed (ops : List Operation) : Bool := ops.any Operation.isClose

def isRefusing (ops : List Operation) : Bool :=
  setting false (ops.filterMap Operation.refuse?)

/-- Which delivery results come back after operations on a new loopback. -/
def acksOf (ops : List Operation) : Acks :=
  setting .succeed (ops.filterMap Operation.acks?)

/-- What a call is to be answered after operations on a new loopback of a name.  A closed one
takes no message, and is said to be closed even if there is no network either. -/
def due (name : String) (ops : List Operation) : Call → Result
  | .start model =>
      if isRefusing ops then .error (.failure s!"{name} refused model {model}") else .ok ()
  | .telemetry _ _ | .report _ =>
      if isClosed ops then .error .closed
      else if isOnline ops then .ok ()
      else .error .noNetwork
  | .close => .ok ()

/-- The delivery result that a message is to bring by itself if it is accepted. -/
def dueAck? (ops : List Operation) : Call → Option Notification
  | .telemetry _ tag => (acksOf ops).verdict?.map (.delivery · tag)
  | _ => none

/-- What a call does to a link, whether or not it is granted. -/
structure Entered (answer : Result) (ack : Option Notification) (c : Call) (before : Link)
    (outcome : Outcome) : Prop where
  result : outcome.result = answer
  /-- A message that is granted is entered at the end of the log, once. -/
  granted {m : Message} : Loopback.messageOf? c = some m → answer = .ok () →
    outcome.link.sent = before.sent ++ [m]
  /-- Its delivery result goes to the mailbox, whether or not there is room in it, and it is
  lost if nobody listens. -/
  acknowledged : answer = .ok () → outcome.link.inbox =
    ack.elim before.inbox fun n =>
      if before.inbox.isOpen then before.inbox.push ⟨.link, n⟩ else before.inbox
  /-- Nothing is entered for a call that is not granted, and no delivery result comes. -/
  refused : answer ≠ .ok () →
    outcome.link.sent = before.sent ∧ outcome.link.inbox = before.inbox
  attempts : outcome.link.attempts = before.attempts + if c.isTelemetry then 1 else 0

/-- The books of a loopback that was new before operations. -/
structure Bookkeeping (name : String) (inbox : Mailbox Letter) (ops : List Operation)
    (b : Loopback) : Prop where
  /-- The loopback is the one that the operations leave. -/
  left : ((newLoopback name inbox).operateAll ops).loopback? = some b
  /-- Entries come at the end, and those that are there never change. -/
  grows {earlier later : List Operation} : ops = earlier ++ later →
    ((newLoopback name inbox).operateAll earlier).sent <+: b.sent.toList
  /-- The log is the messages of the calls that were granted, in their order. -/
  sent : b.sent.toList = ((newLoopback name inbox).granted ops).filterMap Loopback.messageOf?
  /-- Each call is answered by the switches as they were set last before it. -/
  entered {earlier later : List Operation} {c : Call} : ops = earlier ++ .call c :: later →
    Entered (due name earlier c) (dueAck? earlier c) c
      ((newLoopback name inbox).operateAll earlier)
      (((newLoopback name inbox).operateAll earlier).perform c)
  /-- All calls to send telemetry are counted, granted or not, in 64 bits. -/
  attempts : b.attempts.toNat =
    (ops.filterMap Operation.call?).countP Call.isTelemetry % UInt64.size
  closed {earlier later : List Operation} : ops = earlier ++ later → isClosed earlier = true →
    b.sent.toList = ((newLoopback name inbox).operateAll earlier).sent
  /-- The log without the entries that have no tag, each of the others as often as it was
  entered. -/
  tagged : b.tagged = b.sent.toList.filter (·.tag.isSome) ∧
    ∀ m, m ∈ b.tagged ↔ m ∈ b.sent.toList ∧ ∃ payload e, m = .telemetry payload (some e)
  reported : b.reported = b.sent.toList.filter (·.isReport) ∧
    ∀ m, m ∈ b.reported ↔ m ∈ b.sent.toList ∧ ∃ payload, m = .report payload
  disjoint : ∀ m ∈ b.tagged, m ∉ b.reported
  /-- The model is the one of the last start that was granted. -/
  model : b.model = (((newLoopback name inbox).granted ops).filterMap Call.model?).getLast?

variable {name : String} {inbox : Mailbox Letter}

/-- What is due to a call is what the loopback answers. -/
theorem answer_eq_due {ops : List Operation} {granted : List Call} {b : Loopback}
    (hbooked : Booked {} ops granted b) (name : String) (c : Call) :
    b.answer name c = due name ops c := by
  have hclosed : b.closed = isClosed ops := hbooked.closed
  have honline : b.online = isOnline ops := hbooked.online
  have hrefusing : b.refusing = isRefusing ops := hbooked.refusing
  have havailable : b.available =
      if isClosed ops then .error .closed
      else if isOnline ops then .ok ()
      else .error .noNetwork := by
    rw [Loopback.available, hclosed, honline]
    cases isOnline ops <;> rfl
  cases c with
  | start model =>
      rw [Loopback.answer, Loopback.start, hrefusing, due]
      split <;> rfl
  | close => rfl
  | report payload => exact havailable
  | telemetry payload tag => exact havailable

theorem result?_eq {l : Link} {b : Loopback} (hloopback : l.loopback? = some b) {c : Call}
    (hresult : b.answer l.name c = .ok ()) {ops : List Operation} (hacks : b.acks = acksOf ops) :
    l.result? c = dueAck? ops c := by
  cases c with
  | telemetry payload tag =>
      have havailable : b.available = .ok () := hresult
      rw [result?_telemetry, hloopback, Option.bind_some, Loopback.result?, havailable, dueAck?,
        hacks]
  | _ => rfl

theorem result?_eq_none {l : Link} {b : Loopback} (hloopback : l.loopback? = some b) {c : Call}
    (hresult : b.answer l.name c ≠ .ok ()) : l.result? c = none := by
  cases c with
  | telemetry payload tag =>
      rw [result?_telemetry, hloopback, Option.bind_some, Loopback.result?]
      cases havailable : b.available with
      | error cause => rfl
      | ok _ => exact absurd havailable hresult
  | _ => rfl

theorem sent_eq {l : Link} {b : Loopback} (hloopback : l.loopback? = some b) :
    l.sent = b.sent.toList ∧ l.attempts = b.attempts := by
  rw [sent, attempts, hloopback]
  exact ⟨rfl, rfl⟩

theorem entered_perform {l : Link} {b : Loopback} (hloopback : l.loopback? = some b)
    {ops : List Operation} {granted : List Call} (hbooked : Booked {} ops granted b) (c : Call) :
    Entered (due l.name ops c) (dueAck? ops c) c l (l.perform c) := by
  have hanswer := answer_eq_due hbooked l.name c
  have hperform := loopback?_perform hloopback c
  obtain ⟨hsent, hattempts, -⟩ := b.after_eq l.name c
  obtain ⟨hbefore, hcounted⟩ := sent_eq hloopback
  obtain ⟨hafter, hcount⟩ := sent_eq hperform
  have haccepted := b.accepted?_eq l.name c
  refine ⟨(result_perform hloopback c).trans hanswer, ?_, ?_, ?_, ?_⟩
  · intro m hmessage hok
    have hthis : b.accepted? c = some m := by
      rw [haccepted, hanswer, hok, ← hmessage]
      rfl
    rw [hafter, hsent, hbefore, hthis]
    rfl
  · intro hok
    rw [inbox_perform, result?_eq hloopback (hanswer.trans hok) hbooked.acks]
    cases dueAck? ops c <;> rfl
  · intro hrefused
    have hnone : b.accepted? c = none := by
      rw [haccepted, hanswer]
      cases hdue : due l.name ops c with
      | error cause => rfl
      | ok _ => exact absurd hdue hrefused
    refine ⟨?_, ?_⟩
    · rw [hafter, hsent, hbefore, hnone]
      exact List.append_nil _
    · rw [inbox_perform, result?_eq_none hloopback (hanswer ▸ hrefused)]
  · rw [hcount, hattempts, hcounted]

theorem mem_tagged_iff {b : Loopback} {m : Message} :
    m ∈ b.tagged ↔ m ∈ b.sent.toList ∧ ∃ payload e, m = .telemetry payload (some e) := by
  rw [Loopback.tagged, List.mem_filter]
  refine and_congr_right fun _ => ?_
  cases m with
  | report payload => exact iff_of_false (by nofun) (by nofun)
  | telemetry payload tag =>
      cases tag with
      | none => exact iff_of_false (by nofun) (by nofun)
      | some e => exact iff_of_true rfl ⟨payload, e, rfl⟩

theorem mem_reported_iff {b : Loopback} {m : Message} :
    m ∈ b.reported ↔ m ∈ b.sent.toList ∧ ∃ payload, m = .report payload := by
  rw [Loopback.reported, List.mem_filter]
  refine and_congr_right fun _ => ?_
  cases m with
  | report payload => exact iff_of_true rfl ⟨payload, rfl⟩
  | telemetry payload tag => exact iff_of_false (by nofun) (by nofun)

/-- Whatever is done to a new loopback, its books are in order. -/
theorem bookkeeping_of_new (name : String) (inbox : Mailbox Letter) (ops : List Operation) :
    ∃ b, Bookkeeping name inbox ops b := by
  have hmade : (newLoopback name inbox).loopback? = some {} := rfl
  obtain ⟨b, hleft, hbooked⟩ := booked_operateAll hmade ops
  -- The books at an earlier time, and what the rest of the operations adds to them.
  have hsplit : ∀ {earlier later : List Operation}, ops = earlier ++ later →
      ∃ mid, ((newLoopback name inbox).operateAll earlier).loopback? = some mid ∧
        Booked {} earlier ((newLoopback name inbox).granted earlier) mid ∧
          b.sent.toList = mid.sent.toList ++
            (((newLoopback name inbox).operateAll earlier).granted later).filterMap
              Loopback.messageOf? := by
    intro earlier later hops
    obtain ⟨mid, hmid, hearlier⟩ := booked_operateAll hmade earlier
    obtain ⟨last, hlast, hlater⟩ := booked_operateAll hmid later
    rw [hops, operateAll_append, hlast] at hleft
    cases hleft
    exact ⟨mid, hmid, hearlier, hlater.sent⟩
  refine ⟨b, hleft, ?_, hbooked.sent, ?_, ?_, ?_, ?_, ?_, ?_, ?_⟩
  · intro earlier later hops
    obtain ⟨mid, hmid, -, hsent⟩ := hsplit hops
    rw [(sent_eq hmid).1, hsent]
    exact List.prefix_append _ _
  · intro earlier later c hops
    obtain ⟨mid, hmid, hearlier, -⟩ := hsplit hops
    have hentered := entered_perform hmid hearlier c
    rw [name_operateAll] at hentered
    exact hentered
  · rw [hbooked.attempts]
    exact (congrArg UInt64.toNat (UInt64.zero_add _)).trans UInt64.toNat_ofNat
  · intro earlier later hops hclosed
    obtain ⟨mid, hmid, hearlier, hsent⟩ := hsplit hops
    have hshut : mid.closed = true := hearlier.closed.trans hclosed
    rw [(sent_eq hmid).1, hsent, messages_granted_of_closed hmid hshut, List.append_nil]
  · exact ⟨rfl, fun _ => mem_tagged_iff⟩
  · exact ⟨rfl, fun _ => mem_reported_iff⟩
  · intro m htagged hreported
    obtain ⟨-, payload, e, htelemetry⟩ := mem_tagged_iff.mp htagged
    obtain ⟨-, text, hreport⟩ := mem_reported_iff.mp hreported
    rw [htelemetry] at hreport
    contradiction
  · rw [hbooked.model]
    exact Option.or_none

/-- A link that is closed and has no network either says that it is closed. -/
example : due "loopback" [.network false, .call .close] (.report "") = .error .closed := rfl

end New

end Link

end DeviceTwin
