/-
How a device uses its link.  What it hears makes it send one report at most, so no
letter comes into the mailbox for it; and only a tick sends with a tag.
-/
import DeviceTwin.Device

namespace DeviceTwin

namespace Link

/-- A use of a link for one report at most. -/
inductive ReportUse (l : Link) : Link → Prop
  | unused : ReportUse l l
  | report (payload : String) : ReportUse l (l.report payload).link

/-- A use of a link that concerns no event. -/
inductive UntaggedUse (l : Link) : Link → Prop
  | reporting {used : Link} (huse : l.ReportUse used) : UntaggedUse l used
  | telemetry (payload : String) : UntaggedUse l (l.telemetry payload none).link

@[simp] theorem inbox_report (l : Link) (payload : String) :
    (l.report payload).link.inbox = l.inbox := by
  unfold report
  cases l.kind with
  | scripted script => rfl
  | loopback loopback =>
      dsimp only
      rcases loopback.report payload with ⟨result, after⟩
      cases result <;> rfl

theorem inbox_acknowledge (l : Link) (success : Bool) (tag : Tag) :
    (l.acknowledge success tag).1.inbox =
      if l.inbox.isOpen then l.inbox.push ⟨.link, .delivery success tag⟩ else l.inbox := by
  unfold acknowledge
  split <;> rfl

/-- Sending telemetry brings at most one letter into the mailbox, a delivery result
with the tag of the message. -/
theorem inbox_telemetry (l : Link) (payload : String) (tag : Tag) :
    (l.telemetry payload tag).link.inbox = l.inbox ∨
      ∃ success, (l.telemetry payload tag).link.inbox =
        l.inbox.push ⟨.link, .delivery success tag⟩ := by
  unfold telemetry
  cases l.kind with
  | scripted script => exact Or.inl rfl
  | loopback loopback =>
      dsimp only
      rcases loopback.telemetry payload tag with ⟨result, after⟩
      cases result with
      | error cause => exact Or.inl rfl
      | ok _ =>
          cases loopback.acks.verdict? with
          | none => exact Or.inl rfl
          | some success =>
              dsimp only
              rw [inbox_acknowledge]
              split
              · exact Or.inr ⟨success, rfl⟩
              · exact Or.inl rfl

theorem ReportUse.inbox_eq {l used : Link} (huse : l.ReportUse used) :
    used.inbox = l.inbox := by
  cases huse with
  | unused => rfl
  | report payload => exact inbox_report l payload

end Link

namespace Device

theorem link_startLink (d : Device) :
    d.startLink.2.link = (d.link.start d.settings.model).link := by
  unfold startLink
  have hlink : (d.call (.start d.settings.model)).2.link =
      (d.link.start d.settings.model).link := rfl
  rcases hstart : d.call (.start d.settings.model) with ⟨result, after⟩
  rw [hstart] at hlink
  cases result with
  | error cause => exact hlink
  | ok _ => exact hlink

@[simp] theorem link_reconcile (document : String) (d : Device) :
    (d.reconcile document).2.link = d.link := by
  unfold reconcile applyReading
  dsimp only
  split <;> rfl

@[simp] theorem link_invoke (name : String) (payload : Bytes) (d : Device) :
    (d.invoke name payload).2.link = d.link := rfl

@[simp] theorem link_respond (method : String) (reply : Option Nat)
    (response : Method.Response) (d : Device) :
    (d.respond method reply response).link = d.link := by
  cases reply <;> rfl

theorem link_introduce {d : Device} {l : Link} (hlink : d.link = l) :
    l.ReportUse d.introduce.link := by
  subst hlink
  unfold introduce
  cases d.settings.serial with
  | none => exact .unused
  | some serialNumber =>
      dsimp only
      have huse : d.link.ReportUse (d.reportDetails serialNumber).2.link := .report _
      rcases hreport : d.reportDetails serialNumber with ⟨result, after⟩
      rw [hreport] at huse
      cases result with
      | error cause => exact huse
      | ok _ => exact huse

theorem link_connectionChanged (connected : Bool) (d : Device) :
    d.link.ReportUse (d.connectionChanged connected).link := by
  unfold connectionChanged
  dsimp only
  split
  · exact link_introduce rfl
  · exact .unused

/-- Whatever a device hears, it sends no telemetry. -/
theorem link_hear (n : Notification) (d : Device) : d.link.ReportUse (d.hear n).link := by
  cases n with
  | delivery success tag => exact .unused
  | desired document =>
      rw [hear, link_reconcile]
      exact .unused
  | invocation method payload reply =>
      have hlink := link_invoke method payload d
      simp only [hear]
      rcases hinvoke : d.invoke method payload with ⟨response, after⟩
      rw [hinvoke] at hlink
      cases response with
      | none =>
          change d.link.ReportUse after.link
          rw [hlink]
          exact .unused
      | some response =>
          change d.link.ReportUse (after.respond method reply response).link
          rw [link_respond, hlink]
          exact .unused
  | connection connected => exact link_connectionChanged connected d

/-- A tick sends the most urgent pending event, and nothing if there is none. -/
theorem link_tick (d : Device) :
    d.tick.2.link =
      match d.pending.next? with
      | none => d.link
      | some e => (d.link.telemetry e.announcement.write (some e)).link := by
  unfold tick
  cases d.pending.next? with
  | none => rfl
  | some e =>
      dsimp only
      have hlink : ((d.log [Log.debug s!"Trying to send {e.name} event"]).send
          e.announcement (some e)).2.link =
            (d.link.telemetry e.announcement.write (some e)).link := rfl
      rcases hsend : (d.log [Log.debug s!"Trying to send {e.name} event"]).send
        e.announcement (some e) with ⟨result, after⟩
      rw [hsend] at hlink
      cases result with
      | error cause => exact hlink
      | ok _ => exact hlink

/-- To hear a notification makes no other. -/
theorem inbox_hear (n : Notification) (d : Device) : (d.hear n).link.inbox = d.link.inbox :=
  (link_hear n d).inbox_eq

end Device

end DeviceTwin
