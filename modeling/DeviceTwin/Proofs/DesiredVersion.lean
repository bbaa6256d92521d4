/-
The version counter after any sequence of documents and stamps.  Each version that
a document asked for, and the version at the start, is carried up by one for every
later stamp; the counter is the highest of these, and never above the greatest
number.
-/
import DeviceTwin.DesiredVersion

namespace DeviceTwin

namespace DesiredVersion

/-- What may happen to the counter. -/
inductive Move
  /-- A document asks for a version. -/
  | observe (requested : UInt32)
  /-- A report takes the number as its stamp. -/
  | stamp

def move (v : DesiredVersion) : Move → DesiredVersion
  | .observe requested => v.observe requested
  | .stamp => v.advance

def after (v : DesiredVersion) (moves : List Move) : DesiredVersion := moves.foldl move v

@[simp] theorem after_nil (v : DesiredVersion) : v.after [] = v := rfl

@[simp] theorem after_cons (v : DesiredVersion) (m : Move) (later : List Move) :
    v.after (m :: later) = (v.move m).after later := rfl

/-- How many stamps were taken. -/
def stamps : List Move → Nat
  | [] => 0
  | .observe _ :: later => stamps later
  | .stamp :: later => stamps later + 1

/-- Each version that was asked for, with the number of the stamps taken after it. -/
def carried : List Move → List Nat
  | [] => []
  | .observe requested :: later => (requested.toNat + stamps later) :: carried later
  | .stamp :: later => carried later

theorem toNat_le_greatest (n : UInt32) : n.toNat ≤ greatest.toNat := by
  have hbound := n.toNat_lt_size
  have hsize : UInt32.size = greatest.toNat + 1 := rfl
  omega

/-- The closed form of the counter.  The largest of no numbers counts as zero. -/
theorem toNat_after (v : DesiredVersion) (moves : List Move) :
    (v.after moves).current.toNat =
      min greatest.toNat (max (v.current.toNat + stamps moves) ((carried moves).foldr max 0)) := by
  induction moves generalizing v with
  | nil =>
      have hbound := toNat_le_greatest v.current
      simp only [after_nil, stamps, carried, List.foldr_nil]
      omega
  | cons m later ih =>
      rw [after_cons, ih]
      cases m with
      | observe requested =>
          have hobserve : (v.move (.observe requested)).current.toNat =
              max v.current.toNat requested.toNat := toNat_observe v requested
          simp only [stamps, carried, List.foldr_cons]
          omega
      | stamp =>
          have hadvance : (v.move .stamp).current.toNat =
              min (v.current.toNat + 1) greatest.toNat := toNat_advance v
          simp only [stamps, carried]
          omega

/-- The answer to a version that is asked for says whether the counter moves. -/
theorem isBelow_iff_observe_ne (v : DesiredVersion) (requested : UInt32) :
    v.isBelow requested = true ↔ v.observe requested ≠ v := by
  unfold observe
  by_cases hbelow : v.isBelow requested = true
  · rw [if_pos hbelow]
    apply iff_of_true hbelow
    intro heq
    have hlt : v.current < requested := by simpa [isBelow] using hbelow
    rw [← heq] at hlt
    exact UInt32.lt_irrefl requested hlt
  · rw [if_neg hbelow]
    exact iff_of_false hbelow (fun hne => hne rfl)

theorem le_move (v : DesiredVersion) (m : Move) : v.current ≤ (v.move m).current := by
  rw [UInt32.le_iff_toNat_le]
  cases m with
  | observe requested =>
      have hobserve : (v.move (.observe requested)).current.toNat =
          max v.current.toNat requested.toNat := toNat_observe v requested
      omega
  | stamp =>
      have hadvance : (v.move .stamp).current.toNat =
          min (v.current.toNat + 1) greatest.toNat := toNat_advance v
      have hbound := toNat_le_greatest v.current
      omega

/-- Nothing lowers the counter. -/
theorem le_after (v : DesiredVersion) (moves : List Move) :
    v.current ≤ (v.after moves).current := by
  induction moves generalizing v with
  | nil => exact UInt32.le_refl v.current
  | cons m later ih => exact UInt32.le_trans (le_move v m) (ih (v.move m))

/-- How a stamp stands to a later one: below it, or both are the greatest number. -/
def StampedBefore (earlier later : UInt32) : Prop :=
  earlier < later ∨ earlier = greatest ∧ later = greatest

/-- Once the number is taken as a stamp, every number that the counter can still
take makes a proper later stamp. -/
theorem stampedBefore_of_advance_le {v : DesiredVersion} {later : UInt32}
    (hle : v.advance.current ≤ later) : StampedBefore v.current later := by
  rw [UInt32.le_iff_toNat_le, toNat_advance] at hle
  have hbound := toNat_le_greatest later
  by_cases heq : v.current = greatest
  · refine Or.inr ⟨heq, UInt32.toNat_inj.mp ?_⟩
    rw [heq] at hle
    omega
  · have hne : v.current.toNat ≠ greatest.toNat := fun h => heq (UInt32.toNat_inj.mp h)
    have hcurrent := toNat_le_greatest v.current
    apply Or.inl
    rw [UInt32.lt_iff_toNat_lt]
    omega

end DesiredVersion

end DeviceTwin
