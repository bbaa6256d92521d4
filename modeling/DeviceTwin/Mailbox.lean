/-
Mailboxes of bounded capacity. What does not fit waits outside in order, and
nothing is lost. As long as those that wait are let in whenever there is room,
nothing overtakes either: the mailbox and those that wait are one queue, first
in, first out.
-/
namespace DeviceTwin

/-- A mailbox, with those that wait outside of it. -/
structure Mailbox (α : Type) where
  capacity : Nat
  capacity_pos : 0 < capacity
  /-- The letters inside, the oldest first. -/
  queue : List α := []
  /-- The letters outside, the oldest first. -/
  waiting : List α := []
  /-- Whether somebody will still take letters out. -/
  isOpen : Bool := true

namespace Mailbox

variable {α : Type}

/-- The greatest capacity that a mailbox can have. -/
def maxCapacity : Nat := 0x1FFFFFFFFFFFFFFF

/-- An empty mailbox. A capacity of zero counts as one. -/
def ofCapacity? (capacity : Nat) : Option (Mailbox α) :=
  if capacity ≤ maxCapacity then some { capacity := max capacity 1, capacity_pos := by omega }
  else none

/-- All letters, inside and outside. -/
def toList (m : Mailbox α) : List α := m.queue ++ m.waiting

/-- Whether the next letter would have to wait. -/
def isFull (m : Mailbox α) : Bool := m.capacity ≤ m.queue.length + m.waiting.length

/-- Puts a letter in, or at the end of those that wait. -/
def push (m : Mailbox α) (a : α) : Mailbox α :=
  if m.isFull then { m with waiting := m.waiting ++ [a] }
  else { m with queue := m.queue ++ [a] }

/-- How many letters there is room for. -/
def room (m : Mailbox α) : Nat := m.capacity - m.queue.length

/-- Those that wait and can come in. -/
def admissible (m : Mailbox α) : List α := m.waiting.take m.room

/-- Lets those come in that there is room for. -/
def refill (m : Mailbox α) : Mailbox α :=
  { m with queue := m.queue ++ m.admissible, waiting := m.waiting.drop m.room }

def pop? (m : Mailbox α) : Option (α × Mailbox α) :=
  match m.queue with
  | [] => none
  | a :: rest => some (a, { m with queue := rest })

/-- Nobody takes letters out any more; all that are there are gone. -/
def close (m : Mailbox α) : Mailbox α :=
  { m with queue := [], waiting := [], isOpen := false }

/-- A letter comes last if nobody waits. -/
theorem toList_push_of_waiting_nil {m : Mailbox α} (h : m.waiting = []) (a : α) :
    (m.push a).toList = m.toList ++ [a] := by
  unfold push toList
  split <;> simp [h]

@[simp] theorem toList_refill (m : Mailbox α) : m.refill.toList = m.toList := by
  simp [refill, admissible, toList, List.append_assoc]

theorem toList_of_pop? {m m' : Mailbox α} {a : α} (h : m.pop? = some (a, m')) :
    m.toList = a :: m'.toList := by
  unfold pop? at h
  split at h
  · contradiction
  · next queue =>
      simp only [Option.some.injEq, Prod.mk.injEq] at h
      obtain ⟨rfl, rfl⟩ := h
      simp [toList, queue]

@[simp] theorem toList_close (m : Mailbox α) : m.close.toList = [] := rfl

end Mailbox

end DeviceTwin
