/-
What a device promises of its events, without mailboxes, results and turns: an outbox
of owed events, of which every tick announces the most urgent one, and a timer that
tells how many ticks there are while time passes.
-/
import Mathlib.Data.Finset.Basic
import DeviceTwin.Proofs.Service.Stimulus

namespace DeviceTwin

namespace Delivery

/-- The events that are owed and those that were announced, the oldest first. -/
structure Outbox where
  owed : Finset Event
  announced : List Event := []
  /-- Whether there is a network. -/
  online : Bool
  /-- Whether a delivery succeeds. -/
  succeeding : Bool

namespace Outbox

/-- At start the restart is owed. -/
def atStart (online succeeding : Bool) : Outbox :=
  { owed := {.appRestart}, online, succeeding }

def signal (e : Event) (o : Outbox) : Outbox := { o with owed := insert e o.owed }

/-- The most urgent event that is owed. -/
def next? (o : Outbox) : Option Event := Event.byPriority.find? (· ∈ o.owed)

/-- Without a network nothing is announced. -/
def announce (e : Event) (o : Outbox) : Outbox :=
  { o with announced := if o.online then o.announced ++ [e] else o.announced }

theorem announce_of_online {o : Outbox} (honline : o.online = true) (e : Event) :
    o.announce e = { o with announced := o.announced ++ [e] } := by
  rw [announce, if_pos honline]

theorem announce_of_offline {o : Outbox} (honline : ¬o.online = true) (e : Event) :
    o.announce e = o := by
  rw [announce, if_neg honline]

/-- An event is owed until it was announced and its delivery has succeeded. -/
def tick (o : Outbox) : Outbox :=
  match o.next? with
  | none => o
  | some e =>
      { o.announce e with
        owed := if o.online && o.succeeding then o.owed.erase e else o.owed }

/-- What is owed, the most urgent first. -/
def toList (o : Outbox) : List Event := Event.byPriority.filter (· ∈ o.owed)

/-- A tick takes the head of the list and leaves the rest. -/
theorem next?_eq_head?_toList (o : Outbox) : o.next? = o.toList.head? := by
  rw [next?, toList, List.head?_filter]

end Outbox

/-- A timer with the time and the time of the next tick, in milliseconds. -/
structure Timer where
  period : Nat
  now : Nat
  due : Nat

namespace Timer

/-- The first tick comes a period after the start. -/
def atStart (period : Nat) : Timer := ⟨period, 0, period⟩

/-- How many ticks there are up to a time if each is done when it is due. -/
def ticksUntil (target : Nat) (t : Timer) : Nat :=
  if t.due ≤ target then (target - t.due) / t.period + 1 else 0

/-- Time passes, with a tick whenever one is due. -/
def passTo (target : Nat) (t : Timer) : Timer :=
  { t with now := target, due := t.due + t.ticksUntil target * t.period }

theorem ticksUntil_of_lt {target : Nat} {t : Timer} (hearly : target < t.due) :
    t.ticksUntil target = 0 := if_neg (Nat.not_le_of_lt hearly)

/-- The first of the ticks is due now, the others after a period. -/
theorem ticksUntil_of_le {target : Nat} {t : Timer} (hperiod : 0 < t.period)
    (hdue : t.due ≤ target) :
    t.ticksUntil target =
      Timer.ticksUntil target { t with due := t.due + t.period } + 1 := by
  unfold ticksUntil
  rw [if_pos hdue]
  dsimp only
  split
  · rw [Nat.div_eq_sub_div hperiod (by omega), Nat.sub_sub]
  · rw [Nat.div_eq_of_lt (by omega)]

/-- A tick is done, and the next one is a period later.  A tick that is too late
does not keep its place. -/
def advance (t : Timer) : Timer :=
  { t with
    due := if t.due + Service.tolerance < t.now then t.now + t.period else t.due + t.period }

theorem advance_on_time (t : Timer) :
    Timer.advance { t with now := t.due } = { t with now := t.due, due := t.due + t.period } := by
  unfold advance
  rw [if_neg (Nat.not_lt_of_le (Nat.le_add_right _ _))]

/-- The time jumps, and all that was due meanwhile is one tick. -/
def jump (ms : Nat) (t : Timer) : Timer :=
  let later := { t with now := t.now + ms }
  if later.due ≤ later.now then later.advance else later

end Timer

/-- An outbox with its timer. -/
structure Ideal where
  outbox : Outbox
  timer : Timer

namespace Ideal

def atStart (period : Nat) (online succeeding : Bool) : Ideal :=
  ⟨.atStart online succeeding, .atStart period⟩

/-- Of all that may happen, only the signals of events, the network and the results of
deliveries matter. -/
def receive (m : Ideal) : Service.Stimulus → Ideal
  | .ask _ (.signal e) => { m with outbox := m.outbox.signal e }
  | .network online => { m with outbox := { m.outbox with online } }
  | .verdict succeeding => { m with outbox := { m.outbox with succeeding } }
  | _ => m

/-- Time passes, and each tick is done when it is due. -/
def passTo (target : Nat) (m : Ideal) : Ideal where
  outbox := Nat.iterate Outbox.tick (m.timer.ticksUntil target) m.outbox
  timer := m.timer.passTo target

def undergo (m : Ideal) : Service.Stretch → Ideal
  | .together stimuli => stimuli.foldl receive m
  | .pass ms => m.passTo (m.timer.now + ms)
  | .jump ms =>
      { outbox := if m.timer.due ≤ m.timer.now + ms then m.outbox.tick else m.outbox
        timer := m.timer.jump ms }

def run (m : Ideal) (stretches : List Service.Stretch) : Ideal := stretches.foldl undergo m

theorem timer_receive (m : Ideal) (stimulus : Service.Stimulus) :
    (m.receive stimulus).timer = m.timer := by
  unfold receive
  split <;> rfl

theorem passTo_of_lt {m : Ideal} {target : Nat} (hearly : target < m.timer.due) :
    m.passTo target = { m with timer := { m.timer with now := target } } := by
  rw [passTo, Timer.passTo, Timer.ticksUntil_of_lt hearly, Nat.zero_mul, Nat.add_zero]
  rfl

/-- The first tick that is due is done before all that follows. -/
theorem passTo_of_le {m : Ideal} {target : Nat} (hperiod : 0 < m.timer.period)
    (hdue : m.timer.due ≤ target) :
    m.passTo target =
      passTo target ⟨m.outbox.tick, Timer.advance { m.timer with now := m.timer.due }⟩ := by
  rw [Timer.advance_on_time, passTo, passTo, Timer.passTo, Timer.passTo,
    Timer.ticksUntil_of_le hperiod hdue]
  have hadd : ∀ n : Nat, m.timer.due + (n + 1) * m.timer.period =
      m.timer.due + m.timer.period + n * m.timer.period := by
    intro n
    rw [Nat.add_mul, Nat.one_mul]
    omega
  rw [hadd]
  rfl

end Ideal

end Delivery

end DeviceTwin
