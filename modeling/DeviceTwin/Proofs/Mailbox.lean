/-
What is in a mailbox and outside of it.  Each letter inside has to be taken out, and each
one outside has to come in before that; and as long as nobody waits who would find room,
the mailbox and those that wait are one queue.
-/
import DeviceTwin.Mailbox

namespace DeviceTwin

namespace Mailbox

variable {α : Type}

/-- The letters, those outside counted twice. -/
def load (m : Mailbox α) : Nat := m.queue.length + 2 * m.waiting.length

@[simp] theorem load_close (m : Mailbox α) : m.close.load = 0 := rfl

theorem load_push_le (m : Mailbox α) (a : α) : (m.push a).load ≤ m.load + 2 := by
  unfold push load
  split
  · simp only [List.length_append, List.length_singleton]
    omega
  · simp only [List.length_append, List.length_singleton]
    omega

/-- What it means that a letter was taken out. -/
theorem eq_of_pop?_eq_some {m rest : Mailbox α} {a : α} (h : m.pop? = some (a, rest)) :
    m.queue = a :: rest.queue ∧ rest = { m with queue := rest.queue } := by
  unfold pop? at h
  split at h
  · contradiction
  · next tail hqueue =>
      rw [Option.some.injEq, Prod.mk.injEq] at h
      obtain ⟨rfl, rfl⟩ := h
      exact ⟨hqueue, rfl⟩

theorem load_of_pop?_eq_some {m rest : Mailbox α} {a : α} (h : m.pop? = some (a, rest)) :
    m.load = rest.load + 1 := by
  obtain ⟨hqueue, hrest⟩ := eq_of_pop?_eq_some h
  have hwaiting : rest.waiting = m.waiting := by rw [hrest]
  rw [load, load, hqueue, hwaiting, List.length_cons]
  omega

theorem pop?_eq_none_iff {m : Mailbox α} : m.pop? = none ↔ m.queue = [] := by
  unfold pop?
  split
  · next hqueue => exact iff_of_true rfl hqueue
  · next hqueue =>
      apply iff_of_false nofun
      rw [hqueue]
      exact List.cons_ne_nil _ _

/-- Those who come in weigh less inside than outside. -/
theorem load_refill_add (m : Mailbox α) : m.refill.load + m.admissible.length = m.load := by
  unfold refill admissible load
  simp only [List.length_append, List.length_take, List.length_drop]
  omega

theorem load_refill_le (m : Mailbox α) : m.refill.load ≤ m.load := by
  rw [← load_refill_add m]
  exact Nat.le_add_right _ _

/-- Letters come in when there are some outside and none inside. -/
theorem load_refill_lt {m : Mailbox α} (hqueue : m.queue = []) (hwaiting : m.waiting ≠ []) :
    m.refill.load < m.load := by
  have hroom : 0 < m.room := by
    rw [room, hqueue]
    exact m.capacity_pos
  have hsome : 0 < m.waiting.length := List.length_pos_iff.mpr hwaiting
  unfold refill admissible load
  simp only [List.length_append, List.length_take, List.length_drop]
  omega

@[simp] theorem isOpen_push (m : Mailbox α) (a : α) : (m.push a).isOpen = m.isOpen := by
  unfold push
  split <;> rfl

/-- The letter that is put in, if it comes in at once. -/
def entering (m : Mailbox α) (a : α) : List α := if m.isFull then [] else [a]

theorem queue_push (m : Mailbox α) (a : α) : (m.push a).queue = m.queue ++ m.entering a := by
  unfold push entering
  split
  · rw [List.append_nil]
  · rfl

/-- Whether or not a letter has to wait, it is there, and all others still are. -/
theorem perm_toList_push (m : Mailbox α) (a : α) : (m.push a).toList.Perm (a :: m.toList) := by
  unfold push toList
  split
  · rw [← List.append_assoc]
    exact List.perm_append_singleton a _
  · rw [List.append_assoc]
    exact List.perm_middle

theorem mem_toList_push {m : Mailbox α} {a b : α} :
    b ∈ (m.push a).toList ↔ b ∈ m.toList ∨ b = a := by
  unfold push toList
  split
  · simp only [List.mem_append, List.mem_singleton, or_assoc]
  · simp only [List.mem_append, List.mem_singleton, or_right_comm]

theorem filter_toList_push_of_neg {p : α → Bool} {a : α} (ha : p a = false) (m : Mailbox α) :
    (m.push a).toList.filter p = m.toList.filter p := by
  unfold push toList
  split
  · simp [ha]
  · simp [ha]

theorem toList_eq_nil_iff {m : Mailbox α} :
    m.toList = [] ↔ m.pop? = none ∧ m.waiting = [] := by
  rw [toList, List.append_eq_nil_iff, pop?_eq_none_iff]

/-- There is room in an empty mailbox. -/
theorem isFull_of_toList_eq_nil {m : Mailbox α} (hempty : m.toList = []) : m.isFull = false := by
  have hlength : m.queue.length + m.waiting.length = 0 := by
    rw [← List.length_append]
    exact List.length_eq_zero_iff.mpr hempty
  have hpos := m.capacity_pos
  rw [isFull, hlength, decide_eq_false_iff_not]
  omega

/-- A letter that comes into an empty mailbox is the next one to be taken out. -/
theorem pop?_push_of_toList_eq_nil {m : Mailbox α} (hempty : m.toList = []) (a : α) :
    (m.push a).pop? = some (a, m) := by
  obtain ⟨hqueue, -⟩ := List.append_eq_nil_iff.mp hempty
  have hfull := isFull_of_toList_eq_nil hempty
  rcases m with ⟨capacity, capacity_pos, queue, waiting, isOpen⟩
  dsimp only at hqueue
  subst hqueue
  rw [push, hfull]
  rfl

/-- Nobody waits who would find room: the first letters are inside, as many as fit. -/
def Packed (m : Mailbox α) : Prop := m.queue = m.toList.take m.capacity

theorem Packed.length_le {m : Mailbox α} (hpacked : m.Packed) : m.queue.length ≤ m.capacity := by
  rw [hpacked, List.length_take]
  exact Nat.min_le_left _ _

theorem packed_refill {m : Mailbox α} (hfits : m.queue.length ≤ m.capacity) : m.refill.Packed := by
  have hcapacity : m.refill.capacity = m.capacity := rfl
  rw [Packed, toList_refill, toList, hcapacity, List.take_append, List.take_of_length_le hfits]
  rfl

theorem Packed.push {m : Mailbox α} (hpacked : m.Packed) (a : α) :
    (m.push a).Packed ∧ (m.push a).toList = m.toList ++ [a] := by
  have hlength : m.toList.length = m.queue.length + m.waiting.length := List.length_append
  by_cases hfull : m.isFull = true
  · have hle : m.capacity ≤ m.toList.length := hlength ▸ of_decide_eq_true hfull
    have hlist : (m.push a).toList = m.toList ++ [a] := by
      rw [Mailbox.push, if_pos hfull]
      exact (List.append_assoc _ _ _).symm
    refine ⟨?_, hlist⟩
    rw [Packed, hlist, Mailbox.push, if_pos hfull]
    dsimp only
    rw [List.take_append_of_le_length hle]
    exact hpacked
  · have hlt : m.toList.length < m.capacity :=
      hlength ▸ Nat.lt_of_not_le (fun hle => hfull (decide_eq_true hle))
    have hqueue : m.queue = m.toList := hpacked.trans (List.take_of_length_le (Nat.le_of_lt hlt))
    have hwaiting : m.waiting = [] := by
      rw [← List.length_eq_zero_iff]
      have hsame := congrArg List.length hqueue
      omega
    have hlist := toList_push_of_waiting_nil hwaiting a
    refine ⟨?_, hlist⟩
    rw [Packed, hlist, Mailbox.push, if_neg hfull, List.take_of_length_le]
    · rw [hqueue]
    · rw [List.length_append, List.length_singleton]
      exact hlt

/-- In a packed mailbox the oldest letter is inside. -/
theorem Packed.toList_of_pop?_eq_none {m : Mailbox α} (hpacked : m.Packed)
    (hpop : m.pop? = none) : m.toList = [] := by
  rw [pop?_eq_none_iff, hpacked, List.take_eq_nil_iff] at hpop
  exact hpop.resolve_left (Nat.ne_of_gt m.capacity_pos)

theorem Packed.refill_of_pop? {m rest : Mailbox α} (hpacked : m.Packed) {a : α}
    (hpop : m.pop? = some (a, rest)) : rest.refill.Packed := by
  obtain ⟨hqueue, hrest⟩ := eq_of_pop?_eq_some hpop
  apply packed_refill
  have hlength := hpacked.length_le
  rw [hqueue, List.length_cons] at hlength
  have hcapacity : rest.capacity = m.capacity := by rw [hrest]
  omega

theorem packed_of_ofCapacity? {capacity : Nat} {m : Mailbox α}
    (hmade : ofCapacity? capacity = some m) : m.Packed ∧ m.capacity = max capacity 1 := by
  unfold ofCapacity? at hmade
  split at hmade
  · rw [Option.some.injEq] at hmade
    subst hmade
    exact ⟨(List.take_nil).symm, rfl⟩
  · contradiction

/-- A mailbox that could be made is empty, and somebody takes letters out. -/
theorem eq_of_ofCapacity?_eq_some {capacity : Nat} {m : Mailbox α}
    (hmade : ofCapacity? capacity = some m) : m.toList = [] ∧ m.isOpen = true := by
  unfold ofCapacity? at hmade
  split at hmade
  · rw [Option.some.injEq] at hmade
    subst hmade
    exact ⟨rfl, rfl⟩
  · contradiction

end Mailbox

end DeviceTwin
