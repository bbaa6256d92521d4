/-
A device that no service works.  Whoever holds it uses its entry points, takes the
notifications out of its mailbox and has the device hear them when they like.  Meanwhile
notifications come in, the loopback is switched and others use the link; and after each of
these things those who wait outside the mailbox come in, as far as there is room.
-/
import DeviceTwin.Proofs.Device.Calls

namespace DeviceTwin

/-- A device in somebody's hands. -/
structure Bench where
  device : Device
  /-- The notifications that were taken out of the mailbox, the oldest first. -/
  taken : List Notification := []
  /-- Those of them that the device has not heard. -/
  hand : List Notification := []

namespace Bench

/-- What may be done on the bench. -/
inductive Action
  /-- An entry point of the device is used. -/
  | act (step : Device.Step) (hown : step.isRelink = false)
  /-- The device hears one of the notifications in the hand. -/
  | hear (i : Nat)
  | take
  | push (ticket : Nat) (n : Notification)
  /-- Somebody else makes a call on the link. -/
  | use (c : Link.Call)
  | network (online : Bool)
  | acks (acks : Link.Acks)
  | refuse (refusing : Bool)
  /-- Nobody takes notifications any more. -/
  | deafen

def Action.tick : Action := .act .tick rfl

/-- What an action gives back. -/
inductive Reply
  | done
  | started (result : Except Fault Unit)
  | sent (result : Link.Result)
  | ticked (t : Tick)
  | settled (s : Settlement)
  | reconciled (r : Option Desired.Reconciliation)
  | responded (r : Option Method.Response)
  | took (n : Option Notification)

/-- What an entry point of a device gives back. -/
def replyOf (d : Device) : Device.Step → Reply
  | .startLink => .started d.startLink.1
  | .sendTelemetry t => .sent (d.sendTelemetry t).1
  | .sendMoved => .sent d.sendMoved.1
  | .reportDetails serialNumber => .sent (d.reportDetails serialNumber).1
  | .reportUpload enabled => .sent (d.reportUpload enabled).1
  | .tick => .ticked d.tick.1
  | .settle success tag => .settled (d.settle success tag).1
  | .reconcile document => .reconciled (d.reconcile document).1
  | .invoke method payload => .responded (d.invoke method payload).1
  | .signal _ | .connectionChanged _ | .hear _ | .relink _ => .done

def reply (b : Bench) : Action → Reply
  | .act step _ => replyOf b.device step
  | .take => .took (b.device.popNotification?.map Prod.fst)
  | .use c => .sent (b.device.link.perform c).result
  | .hear _ | .push _ _ | .network _ | .acks _ | .refuse _ | .deafen => .done

/-- The link of the device is changed from outside. -/
def onLink (f : Link → Link) (b : Bench) : Bench :=
  { b with device := { b.device with link := f b.device.link } }

def work (b : Bench) : Action → Bench
  | .act step _ => { b with device := (b.device.act step).refill }
  | .hear i =>
      match b.hand[i]? with
      | some n => { b with device := (b.device.hear n).refill, hand := b.hand.eraseIdx i }
      | none => b
  | .take =>
      match b.device.popNotification? with
      | some (n, device) =>
          { device := device.refill, taken := b.taken ++ [n], hand := b.hand ++ [n] }
      | none => b
  | .push ticket n =>
      if b.device.link.inbox.isOpen then b.onLink fun l => (l.deliver (.outside ticket) n).refill
      else b
  | .use c => b.onLink fun l => (l.perform c).link.refill
  | .network online => b.onLink (·.modifyLoopback fun l => { l with online })
  | .acks acks => b.onLink (·.modifyLoopback fun l => { l with acks })
  | .refuse refusing => b.onLink (·.modifyLoopback fun l => { l with refusing })
  | .deafen => { b with device := b.device.deafen }

def run (b : Bench) (actions : List Action) : Bench := actions.foldl work b

/-- What the actions of a run give back. -/
def replies (b : Bench) : List Action → List Reply
  | [] => []
  | a :: later => b.reply a :: (b.work a).replies later

/-- The calls on the link that the device makes in an action. -/
def ownCalls (b : Bench) : Action → List Link.Call
  | .act step _ => b.device.memory.calls step
  | .hear i => (b.hand[i]?.map fun n => b.device.memory.calls (.hear n)).getD []
  | _ => []

/-- All calls on the link that are made in an action. -/
def calls (b : Bench) : Action → List Link.Call
  | .use c => [c]
  | a => b.ownCalls a

/-- The notifications that an action makes: the one that is pushed, or the delivery results
of the calls. -/
def notices (b : Bench) : Action → List Notification
  | .push _ n => [n]
  | a => b.device.link.results (b.calls a)

/-- The notifications that a run makes, in the order of the actions. -/
def allNotices (b : Bench) : List Action → List Notification
  | [] => []
  | a :: later => b.notices a ++ (b.work a).allNotices later

variable {b : Bench}

/-- The mailbox changes with the calls only, and with what is done to it. -/
theorem inbox_modifyLoopback (f : Link.Loopback → Link.Loopback) (l : Link) :
    (l.modifyLoopback f).inbox = l.inbox := by
  unfold Link.modifyLoopback
  cases l.kind <;> rfl

theorem link_act (d : Device) {step : Device.Step} (hown : step.isRelink = false) :
    (d.act step).link = d.link.performAll (d.memory.calls step) :=
  (Device.makes_act d step hown).link

theorem calls_hear (b : Bench) (i : Nat) :
    b.calls (.hear i) =
      (b.hand[i]?.map fun n => b.device.memory.calls (.hear n)).getD [] := rfl

/-- To hear a notification out of the hand is to have the device take that step. -/
theorem hear_eq (b : Bench) (i : Nat) :
    b.work (.hear i) =
      match b.hand[i]? with
      | some n =>
          { b with device := (b.device.act (.hear n)).refill, hand := b.hand.eraseIdx i }
      | none => b := rfl

end Bench

end DeviceTwin
