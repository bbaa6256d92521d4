/-
A loopback mirrors an outbox: its network and its results are as they are there, and
the messages that it keeps for events are the announcements, in their order.  Only the
announcement of an event changes that.
-/
import DeviceTwin.Proofs.Delivery.Ideal
import DeviceTwin.Proofs.Device.Sound
import DeviceTwin.Proofs.Mailbox

namespace DeviceTwin

open Delivery

/-- The message by which an event is announced. -/
def Event.message (e : Event) : Link.Message := .telemetry e.announcement.write (some e)

namespace Link

theorem Acks.verdict?_automatic (success : Bool) :
    (Acks.automatic success).verdict? = some success := by
  cases success <;> rfl

structure Loopback.Mirrors (l : Loopback) (o : Outbox) : Prop where
  closed : l.closed = false
  online : l.online = o.online
  acks : l.acks = .automatic o.succeeding
  tagged : l.tagged = o.announced.map Event.message

namespace Loopback

variable {l : Loopback} {o : Outbox}

/-- A message is kept exactly if there is a network. -/
theorem Mirrors.accept_eq (hmirrors : l.Mirrors o) (message : Message) :
    l.accept message =
      if o.online then (.ok (), { l with sent := l.sent.add message })
      else (.error .noNetwork, l) := by
  unfold accept available
  rw [hmirrors.closed, hmirrors.online]
  cases o.online with
  | true => rfl
  | false => rfl

theorem Mirrors.add_untagged (hmirrors : l.Mirrors o) {message : Message}
    (huntagged : message.tag = none) :
    Mirrors { l with sent := l.sent.add message } o := by
  refine ⟨hmirrors.closed, hmirrors.online, hmirrors.acks, ?_⟩
  rw [← hmirrors.tagged, Loopback.tagged, Loopback.tagged, Trace.toList_add,
    List.filter_append]
  simp [huntagged]

theorem Mirrors.add_message (hmirrors : l.Mirrors o) (e : Event) :
    Mirrors { l with sent := l.sent.add e.message }
      { o with announced := o.announced ++ [e] } := by
  refine ⟨hmirrors.closed, hmirrors.online, hmirrors.acks, ?_⟩
  rw [List.map_append, ← hmirrors.tagged, Loopback.tagged, Loopback.tagged,
    Trace.toList_add, List.filter_append]
  rfl

end Loopback

/-- The loopback of a link mirrors an outbox, and no result of an announcement is on
its way. -/
structure Mirrors (l : Link) (o : Outbox) : Prop where
  loopback : ∃ loopback, l.kind = .loopback loopback ∧ loopback.Mirrors o
  isOpen : l.inbox.isOpen = true
  unsettled : ∀ letter ∈ l.inbox.toList, letter.content.settled? = none

variable {l : Link} {o : Outbox}

/-- No loopback tells what is owed. -/
theorem Mirrors.withOwed (hmirrors : l.Mirrors o) (owed : Finset Event) :
    l.Mirrors { o with owed } := by
  obtain ⟨loopback, hkind, hloopback⟩ := hmirrors.loopback
  exact ⟨⟨loopback, hkind, hloopback.closed, hloopback.online, hloopback.acks,
    hloopback.tagged⟩, hmirrors.isOpen, hmirrors.unsettled⟩

theorem Mirrors.modifyLoopback (hmirrors : l.Mirrors o) {f : Loopback → Loopback}
    {after : Outbox}
    (hmodified : ∀ loopback : Loopback, loopback.Mirrors o → (f loopback).Mirrors after) :
    (l.modifyLoopback f).Mirrors after := by
  obtain ⟨loopback, hkind, hloopback⟩ := hmirrors.loopback
  unfold Link.modifyLoopback
  rw [hkind]
  exact ⟨⟨_, rfl, hmodified loopback hloopback⟩, hmirrors.isOpen, hmirrors.unsettled⟩

/-- Starting the link, or failing to, sends nothing. -/
theorem Mirrors.start (hmirrors : l.Mirrors o) (model : String) :
    (l.start model).link.Mirrors o := by
  obtain ⟨loopback, hkind, hloopback⟩ := hmirrors.loopback
  unfold Link.start Loopback.start
  rw [hkind]
  dsimp only
  split
  · exact ⟨⟨_, rfl, hloopback⟩, hmirrors.isOpen, hmirrors.unsettled⟩
  · exact ⟨⟨_, rfl, hloopback.closed, hloopback.online, hloopback.acks, hloopback.tagged⟩,
      hmirrors.isOpen, hmirrors.unsettled⟩

theorem Mirrors.withInbox (hmirrors : l.Mirrors o) {inbox : Mailbox Letter}
    (hopen : inbox.isOpen = true)
    (hunsettled : ∀ letter ∈ inbox.toList, letter.content.settled? = none) :
    Mirrors { l with inbox } o :=
  ⟨hmirrors.loopback, hopen, hunsettled⟩

theorem Mirrors.deliver (hmirrors : l.Mirrors o) {sender : Sender} {n : Notification}
    (hunsettled : n.settled? = none) : (l.deliver sender n).Mirrors o := by
  apply hmirrors.withInbox ((Mailbox.isOpen_push _ _).trans hmirrors.isOpen)
  intro letter hletter
  rcases Mailbox.mem_toList_push.mp hletter with hold | rfl
  · exact hmirrors.unsettled letter hold
  · exact hunsettled

theorem Mirrors.refill (hmirrors : l.Mirrors o) : l.refill.Mirrors o := by
  refine hmirrors.withInbox hmirrors.isOpen ?_
  rw [Mailbox.toList_refill]
  exact hmirrors.unsettled

theorem Mirrors.pop (hmirrors : l.Mirrors o) {letter : Letter} {inbox : Mailbox Letter}
    (hpop : l.inbox.pop? = some (letter, inbox)) :
    letter.content.settled? = none ∧ Mirrors { l with inbox } o := by
  have hletters := Mailbox.toList_of_pop? hpop
  have hunsettled := hmirrors.unsettled
  rw [hletters, List.forall_mem_cons] at hunsettled
  have hopen : inbox.isOpen = l.inbox.isOpen := by
    rw [(Mailbox.eq_of_pop?_eq_some hpop).2]
  exact ⟨hunsettled.1, hmirrors.withInbox (hopen.trans hmirrors.isOpen) hunsettled.2⟩

/-- Sending telemetry has an effect exactly if there is a network: the message is kept
and its result comes into the mailbox. -/
theorem Mirrors.telemetry_eq (hmirrors : l.Mirrors o) (payload : String) (tag : Tag) :
    ∃ loopback : Loopback, loopback.Mirrors o ∧
      (l.telemetry payload tag).link =
        if o.online then
          { l with
            kind := .loopback
              { loopback with sent := loopback.sent.add (.telemetry payload tag) }
            inbox := l.inbox.push ⟨.link, .delivery o.succeeding tag⟩ }
        else { l with kind := .loopback loopback } := by
  obtain ⟨loopback, hkind, hloopback⟩ := hmirrors.loopback
  have hattempted : Loopback.Mirrors { loopback with attempts := loopback.attempts + 1 } o :=
    ⟨hloopback.closed, hloopback.online, hloopback.acks, hloopback.tagged⟩
  refine ⟨_, hattempted, ?_⟩
  unfold telemetry
  rw [hkind]
  dsimp only
  rw [Loopback.telemetry, hattempted.accept_eq]
  cases o.online with
  | false => rfl
  | true =>
      rw [if_pos rfl, if_pos rfl]
      dsimp only
      rw [hloopback.acks, Acks.verdict?_automatic]
      dsimp only
      rw [acknowledge, if_pos hmirrors.isOpen]

/-- An announcement is kept if there is a network, and then its result comes into the
mailbox. -/
theorem Mirrors.telemetry_announcement (hmirrors : l.Mirrors o) (e : Event) :
    ∃ loopback : Loopback, loopback.Mirrors (o.announce e) ∧
      (l.telemetry e.announcement.write (some e)).link =
        { l with
          kind := .loopback loopback
          inbox := if o.online then l.inbox.push ⟨.link, .delivery o.succeeding (some e)⟩
            else l.inbox } := by
  obtain ⟨loopback, hloopback, hlink⟩ := hmirrors.telemetry_eq e.announcement.write (some e)
  rw [hlink]
  by_cases honline : o.online = true
  · rw [Outbox.announce_of_online honline, if_pos honline, if_pos honline]
    exact ⟨_, hloopback.add_message e, rfl⟩
  · rw [Outbox.announce_of_offline honline, if_neg honline, if_neg honline]
    exact ⟨_, hloopback, rfl⟩

theorem Mirrors.report (hmirrors : l.Mirrors o) (payload : String) :
    (l.report payload).link.Mirrors o := by
  refine ⟨?_, ?_, ?_⟩
  · obtain ⟨loopback, hkind, hloopback⟩ := hmirrors.loopback
    unfold Link.report
    rw [hkind]
    dsimp only
    rw [Loopback.report, hloopback.accept_eq]
    cases o.online with
    | true => exact ⟨_, rfl, hloopback.add_untagged rfl⟩
    | false => exact ⟨_, rfl, hloopback⟩
  · rw [inbox_report]
    exact hmirrors.isOpen
  · rw [inbox_report]
    exact hmirrors.unsettled

theorem Mirrors.reportUse (hmirrors : l.Mirrors o) {used : Link} (huse : l.ReportUse used) :
    used.Mirrors o := by
  cases huse with
  | unused => exact hmirrors
  | report payload => exact hmirrors.report payload

/-- What is sent for no event is no announcement. -/
theorem Mirrors.untaggedUse (hmirrors : l.Mirrors o) {used : Link}
    (huse : l.UntaggedUse used) : used.Mirrors o := by
  cases huse with
  | reporting hreport => exact hmirrors.reportUse hreport
  | telemetry payload =>
      obtain ⟨loopback, hloopback, hlink⟩ := hmirrors.telemetry_eq payload none
      rw [hlink]
      cases o.online with
      | false => exact ⟨⟨_, rfl, hloopback⟩, hmirrors.isOpen, hmirrors.unsettled⟩
      | true =>
          have hdelivered : (l.deliver .link (.delivery o.succeeding none)).Mirrors o :=
            hmirrors.deliver rfl
          exact ⟨⟨_, rfl, hloopback.add_untagged rfl⟩, hdelivered.isOpen,
            hdelivered.unsettled⟩

/-- A new loopback has announced nothing. -/
theorem Mirrors.automatic {inbox : Mailbox Letter} {capacity : Nat}
    (hinbox : Mailbox.ofCapacity? capacity = some inbox) (name : String)
    (online succeeding : Bool) :
    (Link.automatic name online succeeding inbox).Mirrors (.atStart online succeeding) := by
  obtain ⟨hempty, hopen⟩ := Mailbox.eq_of_ofCapacity?_eq_some hinbox
  refine ⟨⟨_, rfl, rfl, rfl, rfl, rfl⟩, hopen, ?_⟩
  change ∀ letter ∈ inbox.toList, letter.content.settled? = none
  rw [hempty]
  exact List.forall_mem_nil _

end Link

end DeviceTwin
