/-
The version counter of the desired properties. Documents raise it to the version
they ask for, reports advance it by one, and nothing lowers it.
-/
namespace DeviceTwin

/-- The latest version that was applied. -/
structure DesiredVersion where
  current : UInt32
  deriving DecidableEq

namespace DesiredVersion

/-- The version at start. -/
def initial : DesiredVersion := ⟨1⟩

/-- The greatest number a version can have. -/
def greatest : UInt32 := 0xFFFFFFFF

/-- Whether a requested version is newer than the counter. -/
def isBelow (v : DesiredVersion) (requested : UInt32) : Bool := v.current < requested

/-- Raises the counter to a requested version if that is newer. -/
def observe (v : DesiredVersion) (requested : UInt32) : DesiredVersion :=
  if v.isBelow requested then ⟨requested⟩ else v

/-- Advances the counter by one, or leaves it at the greatest number. The number
before is the stamp of the report for which this is done. -/
def advance (v : DesiredVersion) : DesiredVersion :=
  if v.current = greatest then v else ⟨v.current + 1⟩

theorem toNat_observe (v : DesiredVersion) (requested : UInt32) :
    (v.observe requested).current.toNat = max v.current.toNat requested.toNat := by
  unfold observe isBelow
  simp only [decide_eq_true_eq, UInt32.lt_iff_toNat_lt]
  split
  · show requested.toNat = _
    omega
  · omega

theorem toNat_advance (v : DesiredVersion) :
    v.advance.current.toNat = min (v.current.toNat + 1) greatest.toNat := by
  have bound := v.current.toNat_lt_size
  have greatest_eq : greatest.toNat = UInt32.size - 1 := rfl
  unfold advance
  split
  · next h => simp [h, greatest]
  · next h =>
    have below : v.current.toNat ≠ greatest.toNat := fun e => h (UInt32.toNat_inj.mp e)
    have size_eq : UInt32.size = 4294967296 := rfl
    rw [UInt32.toNat_add, greatest_eq]
    simp only [UInt32.reduceToNat]
    omega

end DesiredVersion

end DeviceTwin
