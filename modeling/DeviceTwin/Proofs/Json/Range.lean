/-
Numerals in the range of binary64.  The digits that fit into 64 bits and the power of ten are
two whole numbers, and each of them is rounded before they are multiplied: a numeral has a
number exactly if that product is below the bound of the range, or if there is nothing to be
multiplied.
-/
import DeviceTwin.Proofs.Binary64.Range
import DeviceTwin.Proofs.Json.Integer

namespace DeviceTwin.Json

open DeviceTwin.Binary64 (nearest leastInfinite)

/-- Gathered digits that do not exceed the range with their power of ten: nothing but zeros,
or digits that are divided, or a product that is rounded to a finite number. -/
def Scaled.InRange (s : Scaled) : Prop :=
  s.significand = 0 ∨ s.exponent < 0 ∨
    s.exponent ≤ 308 ∧ nearest s.significand * nearest (10 ^ s.exponent.toNat) < leastInfinite

/-- A numeral that does not exceed the range of binary64. -/
def Numeral.InRange (n : Numeral) : Prop := n.scaled.InRange

theorem significand_gatherFraction_lt {s : Scaled} (hs : s.significand < UInt64.size)
    (digits : List Nat) : (gatherFraction s digits).significand < UInt64.size := by
  induction digits generalizing s with
  | nil => exact hs
  | cons d rest ih =>
      rw [gatherFraction]
      split
      · next hfits => exact ih hfits
      · exact hs

theorem Numeral.significand_scaled_lt (n : Numeral) : n.scaled.significand < UInt64.size := by
  have hgathered := significand_gatherFraction_lt
    (s := ⟨(gather 0 n.whole).1, (gather 0 n.whole).2⟩)
    (gathered_gather n.whole (by decide)).below n.fraction
  unfold scaled
  dsimp only
  cases n.exponent <;> exact hgathered

/-- Gathered digits have a magnitude exactly if they are in range. -/
theorem Scaled.isSome_magnitude?_iff {s : Scaled} (hs : s.significand < UInt64.size) :
    s.magnitude?.isSome ↔ s.InRange := by
  obtain ⟨significand, exponent⟩ := s
  dsimp only at hs
  rw [magnitude?, InRange]
  dsimp only
  by_cases hzero : significand = 0
  · rw [if_pos hzero]
    exact iff_of_true rfl (Or.inl hzero)
  by_cases hdivided : exponent < 0
  · rw [if_neg hzero, if_pos hdivided]
    refine iff_of_true ?_ (Or.inr (Or.inl hdivided))
    split <;> rfl
  simp only [hzero, hdivided, if_false, false_or]
  by_cases hlarge : 308 < exponent
  · rw [if_pos hlarge]
    exact iff_of_false Bool.false_ne_true fun hrange => absurd hrange.1 (Int.not_le.mpr hlarge)
  · have hexponent : exponent ≤ 308 := Int.not_lt.mp hlarge
    have hproduct := Binary64.isFinite_mul_ofNat_iff (hs.trans Binary64.size_lt_leastInfinite)
      (Binary64.pow_lt_leastInfinite (show exponent.toNat ≤ 308 by omega))
    rw [if_neg hlarge, and_iff_right hexponent, ← hproduct, Binary64.powerOfTen_eq_ofNat]
    by_cases hfinite :
        ((Binary64.ofNat significand).mul (Binary64.ofNat (10 ^ exponent.toNat))).isFinite = true
    · rw [if_pos hfinite]
      exact iff_of_true rfl hfinite
    · rw [if_neg hfinite]
      exact iff_of_false Bool.false_ne_true hfinite

/-- What is not more than the largest power of ten is in range. -/
theorem Scaled.inRange_of_le {s : Scaled} (hs : s.significand < UInt64.size)
    (hle : s.significand * 10 ^ s.exponent.toNat ≤ 10 ^ 308) : s.InRange := by
  rcases Nat.eq_zero_or_pos s.significand with hzero | hpos
  · exact Or.inl hzero
  have htenths : 0 < 10 ^ s.exponent.toNat := Nat.pow_pos (by decide)
  have hexponent : s.exponent.toNat ≤ 308 := le_of_mul_pow_le hpos hle
  have hfinite := hs.trans Binary64.size_lt_leastInfinite
  obtain ⟨hx, -⟩ := Binary64.near_ofNat hpos hfinite
  obtain ⟨hy, -⟩ := Binary64.near_powerOfTen hexponent
  refine Or.inr (Or.inr ⟨by omega, ?_⟩)
  rw [← Binary64.isFinite_mul_ofNat_iff hfinite (Binary64.pow_lt_leastInfinite hexponent)]
  exact (Binary64.near_mul hx hy hpos htenths hle).1.finite

/-- A whole number that fits into 64 bits is in range. -/
theorem Numeral.inRange_of_lt {n : Numeral} (hfraction : n.fraction = [])
    (hexponent : n.exponent = none) (hlt : Text.ofDigits 10 n.whole < UInt64.size) :
    n.InRange := by
  have hgathered := gathered_gather n.whole (show 0 < UInt64.size by decide)
  have hscaled : n.scaled = ⟨(gather 0 n.whole).1, (gather 0 n.whole).2⟩ := by
    rw [scaled, hfraction, hexponent]
    rfl
  apply Scaled.inRange_of_le n.significand_scaled_lt
  rw [hscaled]
  generalize hlast : 308 = last
  calc (gather 0 n.whole).1 * 10 ^ (gather 0 n.whole).2 ≤ Text.ofDigits 10 n.whole := hgathered.le
    _ ≤ UInt64.size := Nat.le_of_lt hlt
    _ ≤ 10 ^ 20 := by decide
    _ ≤ 10 ^ last := Nat.pow_le_pow_right (by decide) (by omega)

/-- A numeral has a number exactly if it is in range. -/
theorem Numeral.isSome_number?_iff (n : Numeral) : n.number?.isSome ↔ n.InRange := by
  rw [number?]
  by_cases hwhole : n.fraction = [] ∧ n.exponent = none ∧
      (if n.negative then 0 < Text.ofDigits 10 n.whole ∧
        Text.ofDigits 10 n.whole ≤ 0x8000000000000000
      else Text.ofDigits 10 n.whole < UInt64.size)
  · rw [if_pos hwhole]
    obtain ⟨hfraction, hexponent, hfits⟩ := hwhole
    refine iff_of_true rfl (inRange_of_lt hfraction hexponent ?_)
    split at hfits
    · exact Nat.lt_of_le_of_lt hfits.2 (by decide)
    · exact hfits
  · rw [if_neg hwhole, Option.isSome_map, real?, Option.isSome_map,
      Scaled.isSome_magnitude?_iff n.significand_scaled_lt]
    rfl

end DeviceTwin.Json
