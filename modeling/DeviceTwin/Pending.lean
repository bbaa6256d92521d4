/-
The events whose delivery is not confirmed yet. An event is put in by a signal
and taken out by a confirmation of its own delivery, and by nothing else.
-/
import DeviceTwin.Event
import DeviceTwin.Log

namespace DeviceTwin

/-- A set of events, one truth value for each. -/
structure Pending where
  noUpdateAvailable : Bool
  updateInstalling : Bool
  appRestart : Bool
  deriving DecidableEq

/-- What a confirmation of delivery did. -/
inductive Settlement
  /-- The delivery succeeded and the event is no longer pending. -/
  | cleared (e : Event)
  /-- The delivery failed and will be tried again. -/
  | stillPending (e : Event)
  /-- The message was not sent for an event. -/
  | untracked
  deriving DecidableEq

namespace Pending

def empty : Pending := ⟨false, false, false⟩

def contains (p : Pending) : Event → Bool
  | .noUpdateAvailable => p.noUpdateAvailable
  | .updateInstalling => p.updateInstalling
  | .appRestart => p.appRestart

/-- The set with the truth value of one event replaced. -/
def set (p : Pending) (e : Event) (b : Bool) : Pending :=
  match e with
  | .noUpdateAvailable => { p with noUpdateAvailable := b }
  | .updateInstalling => { p with updateInstalling := b }
  | .appRestart => { p with appRestart := b }

def insert (p : Pending) (e : Event) : Pending := p.set e true

def erase (p : Pending) (e : Event) : Pending := p.set e false

/-- At start the restart itself is to be announced. -/
def atStart : Pending := empty.insert .appRestart

/-- The pending events, the most urgent first. -/
def toList (p : Pending) : List Event := Event.byPriority.filter p.contains

/-- The most urgent pending event. -/
def next? (p : Pending) : Option Event := Event.byPriority.find? p.contains

def count (p : Pending) : Nat := p.toList.length

theorem contains_set (p : Pending) (e f : Event) (b : Bool) :
    (p.set e b).contains f = if f = e then b else p.contains f := by
  cases e <;> cases f <;> rfl

@[simp] theorem contains_insert (p : Pending) (e f : Event) :
    (p.insert e).contains f = (decide (f = e) || p.contains f) := by
  simp only [insert, contains_set]; split <;> simp_all

@[simp] theorem contains_erase (p : Pending) (e f : Event) :
    (p.erase e).contains f = (!decide (f = e) && p.contains f) := by
  simp only [erase, contains_set]; split <;> simp_all

@[simp] theorem contains_empty (e : Event) : empty.contains e = false := by cases e <;> rfl

/-- Two sets with the same members are the same. -/
theorem ext_contains {p q : Pending} (h : ∀ e, p.contains e = q.contains e) : p = q := by
  obtain ⟨a, b, c⟩ := p
  obtain ⟨a', b', c'⟩ := q
  have h₀ : a = a' := h .noUpdateAvailable
  have h₁ : b = b' := h .updateInstalling
  have h₂ : c = c' := h .appRestart
  subst h₀ h₁ h₂
  rfl

@[simp] theorem mem_toList {p : Pending} {e : Event} : e ∈ p.toList ↔ p.contains e = true := by
  simp [toList, Event.mem_byPriority]

theorem head?_toList (p : Pending) : p.toList.head? = p.next? := by
  simp [toList, next?]

/-- The result of a delivery: a success takes the event out, a failure leaves it,
and a message without a tag concerns no event. -/
def settle (p : Pending) (success : Bool) : Tag → Settlement × Pending
  | none => (.untracked, p)
  | some e => if success then (.cleared e, p.erase e) else (.stillPending e, p)

/-- The set as the operator sees it, the most urgent event first. -/
def shown (p : Pending) : String :=
  s!"EventRegistry \x7b flags: [{p.noUpdateAvailable}, {p.updateInstalling}, {p.appRestart}] \x7d"

end Pending

/-- What the log says of a settlement. -/
def Settlement.records : Settlement → List Log.Record
  | .cleared e => [Log.debug s!"{e.name} event sent to cloud OK"]
  | .stillPending e => [Log.debug s!"{e.name} event send failed, will retry"]
  | .untracked => []

end DeviceTwin
