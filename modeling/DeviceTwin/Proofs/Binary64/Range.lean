/-
The range of binary64.  A quotient has a finite number exactly if it is below one bound, half
way between the greatest finite number and the next power of two.  Of whole numbers and of
their products that is said without patterns: each factor is cut to fifty-three bits, to the
nearest, and the product of what is left is compared to the bound.
-/
import Mathlib.Tactic.Linarith
import Mathlib.Tactic.Ring
import DeviceTwin.Proofs.Binary64.Rounding

namespace DeviceTwin.Binary64

theorem isFinite_ofMagnitude_iff (negative : Bool) (magnitude : Nat) :
    (ofMagnitude negative magnitude).isFinite = true ↔ magnitude < infiniteMagnitude := by
  constructor
  · intro hfinite
    by_contra hlarge
    have hbits : (ofMagnitude negative magnitude).bits.toNat =
        infiniteMagnitude + if negative then signWeight else 0 := by
      rw [ofMagnitude, Nat.min_eq_right (Nat.le_of_not_lt hlarge)]
      cases negative <;> rfl
    rw [isFinite, exponentField, hbits] at hfinite
    cases negative <;> exact absurd hfinite (by decide)
  · intro hlt
    obtain ⟨-, hfield, -⟩ := fields_of_toNat hlt (toNat_ofMagnitude hlt negative)
    rw [isFinite, hfield, decide_eq_true_eq, Nat.div_lt_iff_lt_mul hidden_pos]
    exact hlt

/-- A quotient has a finite number exactly if it is below the bound. -/
theorem isFinite_ofRatio_iff (negative : Bool) {num den : Nat} (hden : 0 < den) :
    (ofRatio negative num den).isFinite = true ↔ num < den * leastInfinite := by
  by_cases hlow : den * hidden ≤ num * unitsPerOne
  · obtain ⟨scale, hscale, hbelow, habove⟩ := exists_scale hden hlow
    rw [ofRatio_eq negative hscale, isFinite_ofMagnitude_iff, magnitude_lt_iff hden hbelow habove]
  -- Below the normal range a quotient has the least scale, and is finite.
  · have hsmall : num * unitsPerOne < den * hidden := Nat.lt_of_not_le hlow
    have hlog : (num * unitsPerOne / den).log2 - 52 = 0 := by
      have hquotient : num * unitsPerOne / den < 2 ^ 52 := Nat.div_lt_of_lt_mul hsmall
      rcases Nat.eq_zero_or_pos (num * unitsPerOne / den) with hzero | hpos
      · rw [hzero]
        rfl
      · have := (Nat.log2_lt (Nat.ne_of_gt hpos)).mpr hquotient
        omega
    have hrounded : roundedQuotient (num * unitsPerOne) (den * 2 ^ 0) < 2 * hidden := by
      rw [pow_zero, Nat.mul_one, roundedQuotient_lt_iff _ hden (by decide),
        Nat.mul_comm _ den]
      have hwide := Nat.mul_le_mul_left den (show 1 ≤ hidden by decide)
      have htwice : den * (2 * hidden) = 2 * (den * hidden) := Nat.mul_left_comm _ _ _
      omega
    have hroof : 2 * hidden ≤ infiniteMagnitude := by decide
    rw [ofRatio_eq negative hlog, isFinite_ofMagnitude_iff, Nat.zero_mul, Nat.zero_add]
    refine iff_of_true (hrounded.trans_le hroof) ?_
    calc num ≤ num * unitsPerOne := Nat.le_mul_of_pos_right _ unitsPerOne_pos
      _ < den * hidden := hsmall
      _ ≤ den * leastInfinite := Nat.mul_le_mul_left den (by decide +kernel)

/-- A whole number that is rounded to its first fifty-three bits. -/
def nearest (n : Nat) : Nat := roundedQuotient n (2 ^ (n.log2 - 52)) * 2 ^ (n.log2 - 52)

theorem nearest_eq_self {n : Nat} (hn : n < 2 * hidden) : nearest n = n := by
  have hlog : n.log2 - 52 = 0 := by
    rcases Nat.eq_zero_or_pos n with rfl | hpos
    · rfl
    · have := (Nat.log2_lt (Nat.ne_of_gt hpos)).mpr (show n < 2 ^ 53 from hn)
      omega
  have hexact : roundedQuotient (n * 1) 1 = n := roundedQuotient_mul Nat.one_pos
  rw [Nat.mul_one] at hexact
  rw [nearest, hlog, pow_zero, Nat.mul_one, hexact]

/-- The number for a whole number is the whole number rounded to its first bits. -/
theorem units_ofNat_eq {n : Nat} (hlt : n < leastInfinite) :
    (ofNat n).units = nearest n * unitsPerOne := by
  by_cases hsmall : n < 2 * hidden
  · rw [(units_ofNat hsmall).1, nearest_eq_self hsmall]
  · have hzero : n ≠ 0 := by
      rintro rfl
      exact hsmall (by decide)
    obtain ⟨scale, hscale, -, hunits, -⟩ := exists_units_ofRatio false Nat.one_pos
      (hidden_le_mul_unitsPerOne (Nat.pos_of_ne_zero hzero)) ((Nat.one_mul _).symm ▸ hlt)
    obtain ⟨last, hlast⟩ : ∃ last, last = 1074 := ⟨_, rfl⟩
    have hone : unitsPerOne = 2 ^ last := by
      rw [unitsPerOne_eq (show last + 0 = 1074 by omega), pow_zero, Nat.mul_one]
    have hlog : 53 ≤ n.log2 := (Nat.le_log2 hzero).mpr (Nat.le_of_not_lt hsmall)
    have hsum : scale = n.log2 - 52 + last := by
      rw [Nat.div_one, hone, log2_mul_two_pow hzero] at hscale
      omega
    have hrounded : roundedQuotient (n * unitsPerOne) (1 * 2 ^ scale) =
        roundedQuotient n (2 ^ (n.log2 - 52)) := by
      rw [Nat.one_mul, hsum, pow_add, ← hone, roundedQuotient_mul_mul _ _ unitsPerOne_pos]
    rw [ofNat, hunits, hrounded, nearest, hsum, pow_add, ← hone, Nat.mul_assoc]

/-- Rounding takes away one part in two to the power of fifty-three at most. -/
theorem le_nearest {n : Nat} (hlt : n < leastInfinite) :
    (2 * hidden - 1) * n ≤ 2 * hidden * nearest n := by
  rcases Nat.eq_zero_or_pos n with rfl | hpos
  · exact Nat.zero_le _
  · have hge := (near_ofNat hpos hlt).1.ge
    rw [units_ofNat_eq hlt, Nat.one_mul, ← Nat.mul_assoc, ← Nat.mul_assoc] at hge
    exact Nat.le_of_mul_le_mul_right hge unitsPerOne_pos

/-- The product of the numbers of two whole numbers is finite exactly if the product of what
they are rounded to is below the bound. -/
theorem isFinite_mul_ofNat_iff {a b : Nat} (ha : a < leastInfinite) (hb : b < leastInfinite) :
    ((ofNat a).mul (ofNat b)).isFinite = true ↔ nearest a * nearest b < leastInfinite := by
  have hpos : 0 < unitsPerOne * unitsPerOne := Nat.mul_pos unitsPerOne_pos unitsPerOne_pos
  have hproduct : nearest a * unitsPerOne * (nearest b * unitsPerOne) =
      nearest a * nearest b * (unitsPerOne * unitsPerOne) := by ring
  rw [mul, isFinite_ofRatio_iff _ hpos, units_ofNat_eq ha, units_ofNat_eq hb, hproduct,
    Nat.mul_comm (unitsPerOne * unitsPerOne), Nat.mul_lt_mul_right hpos]

end DeviceTwin.Binary64
