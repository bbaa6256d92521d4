/-
The way of notifications to a device on the bench.  Whatever the capacity of the mailbox,
the notifications that were taken and those that are on their way are all that were made,
in the order in which they were made.
-/
import DeviceTwin.Proofs.Bench.Basic

namespace DeviceTwin

namespace Bench

variable {b : Bench}

/-- Between two times notifications were made, and none was lost. -/
def Keeps (b after : Bench) (made : List Notification) : Prop :=
  after.device.link.Listening ∧
    after.taken ++ after.device.link.onTheWay = b.taken ++ b.device.link.onTheWay ++ made

theorem Keeps.trans {between after : Bench} {earlier later : List Notification}
    (hearlier : b.Keeps between earlier) (hlater : between.Keeps after later) :
    b.Keeps after (earlier ++ later) := by
  refine ⟨hlater.1, ?_⟩
  rw [hlater.2, hearlier.2, List.append_assoc]

/-- What is made goes to the end of what is on its way. -/
theorem keeps_of_link {link : Link} {made : List Notification} (hlistening : link.Listening)
    (hmade : link.onTheWay = b.device.link.onTheWay ++ made) {after : Bench}
    (htaken : after.taken = b.taken) (hlink : after.device.link = link.refill) :
    b.Keeps after made := by
  obtain ⟨hrefilled, hsame⟩ := hlistening.refill
  refine ⟨hlink ▸ hrefilled, ?_⟩
  rw [htaken, hlink, hsame, hmade, List.append_assoc]

theorem keeps_act (hlistening : b.device.link.Listening) {step : Device.Step}
    (hown : step.isRelink = false) (hand : List Notification) :
    b.Keeps { b with device := (b.device.act step).refill, hand }
      (b.device.link.results (b.device.memory.calls step)) := by
  obtain ⟨hafter, hmade⟩ := hlistening.performAll (b.device.memory.calls step)
  exact keeps_of_link hafter hmade rfl (congrArg Link.refill (link_act b.device hown))

theorem keeps_modifyLoopback (hlistening : b.device.link.Listening)
    (f : Link.Loopback → Link.Loopback) : b.Keeps (b.onLink (·.modifyLoopback f)) [] := by
  have hinbox := inbox_modifyLoopback f b.device.link
  refine ⟨⟨hinbox ▸ hlistening.isOpen, hinbox ▸ hlistening.packed⟩, ?_⟩
  rw [List.append_nil, onLink, Link.onTheWay, hinbox]
  rfl

/-- What is taken is the oldest notification of those on their way. -/
theorem keeps_take (hlistening : b.device.link.Listening) : b.Keeps (b.work .take) [] := by
  rw [work, Device.popNotification?]
  rcases hlistening.pop?_cases with ⟨hpop, -⟩ | ⟨letter, rest, hpop, hlist, hafter⟩
  · rw [hpop]
    exact ⟨hlistening, (List.append_nil _).symm⟩
  · rw [hpop]
    refine ⟨hafter, ?_⟩
    change b.taken ++ [letter.content] ++ rest.refill.toList.map (·.content) =
      b.taken ++ b.device.link.inbox.toList.map (·.content) ++ []
    rw [Mailbox.toList_refill, hlist, List.map_cons, List.append_nil, List.append_assoc]
    rfl

/-- No action loses a notification, or lets one overtake another. -/
theorem keeps_work (hlistening : b.device.link.Listening) {a : Action} (ha : a ≠ .deafen) :
    b.Keeps (b.work a) (b.notices a) := by
  cases a with
  | deafen => contradiction
  | act step hown => exact keeps_act hlistening hown b.hand
  | hear i =>
      change b.Keeps _ (b.device.link.results (b.calls (.hear i)))
      rw [calls_hear, hear_eq]
      cases b.hand[i]? with
      | none => exact ⟨hlistening, (List.append_nil _).symm⟩
      | some n => exact keeps_act hlistening rfl _
  | take => exact keeps_take hlistening
  | push ticket n =>
      obtain ⟨hafter, hmade⟩ := hlistening.deliver (.outside ticket) n
      rw [work, if_pos hlistening.isOpen]
      exact keeps_of_link hafter hmade rfl rfl
  | use c =>
      obtain ⟨hafter, hmade⟩ := hlistening.performAll [c]
      exact keeps_of_link hafter hmade rfl rfl
  | network online => exact keeps_modifyLoopback hlistening _
  | acks acks => exact keeps_modifyLoopback hlistening _
  | refuse refusing => exact keeps_modifyLoopback hlistening _

theorem keeps_run (hlistening : b.device.link.Listening) {actions : List Action}
    (hactions : .deafen ∉ actions) : b.Keeps (b.run actions) (b.allNotices actions) := by
  induction actions generalizing b with
  | nil => exact ⟨hlistening, (List.append_nil _).symm⟩
  | cons a later ih =>
      rw [List.mem_cons, not_or] at hactions
      have hfirst := keeps_work hlistening (Ne.symm hactions.1)
      exact hfirst.trans (ih hfirst.1 hactions.2)

/-- Whoever takes a notification gets the oldest one on its way, if there is any. -/
theorem reply_take (hlistening : b.device.link.Listening) :
    b.reply .take = .took b.device.link.onTheWay.head? := by
  rw [reply, Device.popNotification?, Link.onTheWay]
  rcases hlistening.pop?_cases with ⟨hpop, hlist⟩ | ⟨letter, rest, hpop, hlist, -⟩
  · rw [hpop, hlist]
    rfl
  · rw [hpop, hlist]
    rfl

end Bench

end DeviceTwin
