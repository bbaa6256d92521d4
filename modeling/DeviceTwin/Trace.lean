/-
Traces: what happened, in the order in which it did. A trace only grows, at its
end, and growing takes the same time however long it is. Main statements: the list
of a trace after adding to it is the list before with what was added behind it,
and what a trace holds since a time is its list without what it held then.
-/
namespace DeviceTwin

/-- What happened so far. -/
structure Trace (α : Type) where
  /-- The entries, the latest first. -/
  latest : List α := []

namespace Trace

variable {α : Type}

/-- The entries, the oldest first. -/
def toList (t : Trace α) : List α := t.latest.reverse

def length (t : Trace α) : Nat := t.latest.length

def add (t : Trace α) (a : α) : Trace α := ⟨a :: t.latest⟩

def append (t : Trace α) (as : List α) : Trace α := ⟨as.foldl (fun latest a => a :: latest) t.latest⟩

instance : HAppend (Trace α) (List α) (Trace α) := ⟨append⟩

/-- The entries that were added after the first ones of a number. -/
def since (t : Trace α) (n : Nat) : List α := (t.latest.take (t.length - n)).reverse

@[simp] theorem toList_empty : ({} : Trace α).toList = [] := rfl

@[simp] theorem toList_add (t : Trace α) (a : α) : (t.add a).toList = t.toList ++ [a] := by
  simp [toList, add]

@[simp] theorem toList_append (t : Trace α) (as : List α) :
    (t ++ as).toList = t.toList ++ as := by
  change (append t as).toList = _
  simp [toList, append]

@[simp] theorem length_toList (t : Trace α) : t.toList.length = t.length := by
  simp [toList, length]

theorem since_eq_drop (t : Trace α) (n : Nat) : t.since n = t.toList.drop n := by
  simp [since, toList, length, List.drop_reverse]

/-- What was added to a trace is what it holds since then. -/
theorem since_append (t : Trace α) (as : List α) : (t ++ as).since t.length = as := by
  rw [since_eq_drop, toList_append, ← length_toList, List.drop_left]

end Trace

end DeviceTwin
