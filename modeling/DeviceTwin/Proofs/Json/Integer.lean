/-
Numerals that are whole numbers.  Whatever number of digits there is, the number that comes
of them has the right sign and, clamped to 32 bits, the right value: it is exact where that
matters and rounded only far beyond.
-/
import DeviceTwin.Json.Number
import DeviceTwin.Proofs.Binary64.Rounding

namespace DeviceTwin.Json

open DeviceTwin.Text

/-- The whole number that a numeral without a point and without an exponent is written as. -/
def Numeral.integer? (n : Numeral) : Option Int :=
  if n.fraction = [] ∧ n.exponent = none then
    some (if n.negative then -(ofDigits 10 n.whole : Int) else ofDigits 10 n.whole)
  else none

/-- A whole number brought into the range of 32 bits. -/
def clamp (z : Int) : Int := min (max z 0) (2 ^ 32 - 1)

/-! ## Gathered digits -/

/-- Leading digits of a number and how many digits were left out behind them. -/
structure Gathered (significand dropped value : Nat) : Prop where
  below : significand < UInt64.size
  le : significand * 10 ^ dropped ≤ value
  full : dropped ≠ 0 → UInt64.size * 10 ^ (dropped - 1) ≤ value

theorem le_foldl_digits (digits : List Nat) (lead : Nat) :
    lead * 10 ^ digits.length ≤ digits.foldl (fun n d => 10 * n + d) lead := by
  induction digits generalizing lead with
  | nil => simp
  | cons d rest ih =>
      have hdown := Nat.mul_le_mul_right (10 ^ rest.length) (Nat.le_add_right (10 * lead) d)
      rw [List.foldl_cons, List.length_cons, Nat.pow_succ']
      calc lead * (10 * 10 ^ rest.length) = 10 * lead * 10 ^ rest.length := by ring
        _ ≤ (10 * lead + d) * 10 ^ rest.length := hdown
        _ ≤ _ := ih (10 * lead + d)

/-- Digits behind a number count less than one in its last place. -/
theorem foldl_digits_lt {digits : List Nat} (hdecimal : ∀ d ∈ digits, d < 10) (lead : Nat) :
    digits.foldl (fun n d => 10 * n + d) lead < (lead + 1) * 10 ^ digits.length := by
  induction digits generalizing lead with
  | nil => simp
  | cons d rest ih =>
      have hd := hdecimal d List.mem_cons_self
      have hlt := ih (fun e he => hdecimal e (List.mem_cons_of_mem d he)) (10 * lead + d)
      have hup := Nat.mul_le_mul_right (10 ^ rest.length)
        (show 10 * lead + d + 1 ≤ 10 * (lead + 1) by omega)
      rw [List.foldl_cons, List.length_cons, Nat.pow_succ']
      calc rest.foldl (fun n d => 10 * n + d) (10 * lead + d)
          < (10 * lead + d + 1) * 10 ^ rest.length := hlt
        _ ≤ 10 * (lead + 1) * 10 ^ rest.length := hup
        _ = (lead + 1) * (10 * 10 ^ rest.length) := by ring

theorem gathered_gather (digits : List Nat) {lead : Nat} (hlead : lead < UInt64.size) :
    Gathered (gather lead digits).1 (gather lead digits).2
      (digits.foldl (fun n d => 10 * n + d) lead) := by
  induction digits generalizing lead with
  | nil => exact ⟨hlead, by simp [gather], fun h => absurd rfl h⟩
  | cons d rest ih =>
      rw [gather]
      split
      · next hfits => exact ih hfits
      · next hfull =>
          refine ⟨hlead, le_foldl_digits (d :: rest) lead, fun _ => ?_⟩
          calc UInt64.size * 10 ^ (rest.length + 1 - 1)
              ≤ (10 * lead + d) * 10 ^ rest.length :=
                Nat.mul_le_mul_right _ (Nat.le_of_not_lt hfull)
            _ ≤ (d :: rest).foldl (fun n d => 10 * n + d) lead :=
                le_foldl_digits rest (10 * lead + d)

theorem gather_lt {digits : List Nat} (hdecimal : ∀ d ∈ digits, d < 10) (lead : Nat) :
    digits.foldl (fun n d => 10 * n + d) lead <
      ((gather lead digits).1 + 1) * 10 ^ (gather lead digits).2 := by
  induction digits generalizing lead with
  | nil => simp [gather]
  | cons d rest ih =>
      rw [gather]
      split
      · exact ih (fun e he => hdecimal e (List.mem_cons_of_mem d he)) (10 * lead + d)
      · exact foldl_digits_lt hdecimal lead

/-- Digits are left out only behind as many digits as fit. -/
theorem Gathered.size_lt {significand dropped value : Nat}
    (hgathered : Gathered significand dropped value)
    (hlt : value < (significand + 1) * 10 ^ dropped) (hdropped : dropped ≠ 0) :
    UInt64.size < 10 * (significand + 1) := by
  have hfull := hgathered.full hdropped
  obtain ⟨fewer, rfl⟩ := Nat.exists_eq_succ_of_ne_zero hdropped
  refine Nat.lt_of_mul_lt_mul_right (a := 10 ^ fewer) ?_
  calc UInt64.size * 10 ^ fewer ≤ value := hfull
    _ < (significand + 1) * 10 ^ (fewer + 1) := hlt
    _ = 10 * (significand + 1) * 10 ^ fewer := by ring

/-! ## Numbers of numerals -/

theorem le_of_mul_pow_le {n k last : Nat} (hn : 0 < n) (hle : n * 10 ^ k ≤ 10 ^ last) : k ≤ last :=
  (Nat.pow_le_pow_iff_right (by decide)).mp ((Nat.le_mul_of_pos_left _ hn).trans hle)

/-- The magnitude of a whole number is finite, and beyond 64 bits it is beyond 32 bits. -/
theorem Gathered.exists_magnitude? {significand dropped value : Nat}
    (hgathered : Gathered significand dropped value)
    (hlt : value < (significand + 1) * 10 ^ dropped) (hsmall : value < 10 ^ 308) :
    ∃ x, Scaled.magnitude? ⟨significand, dropped⟩ = some x ∧ x.negative = false ∧
      (UInt64.size ≤ value → x.clampedUInt32.toNat = UInt32.size - 1) := by
  have hfull := hgathered.size_lt hlt
  obtain ⟨hbelow, hle, -⟩ := hgathered
  have hfinite := hbelow.trans Binary64.size_lt_leastInfinite
  unfold Scaled.magnitude?
  by_cases hzero : significand = 0
  · have hdropped : dropped = 0 := by
      by_contra hne
      exact absurd (hzero ▸ hfull hne) (by decide)
    subst hzero hdropped
    refine ⟨_, rfl, Binary64.negative_ofNat hfinite, fun hsize => ?_⟩
    have hone : 1 < UInt64.size := by decide
    simp only [Nat.zero_add, pow_zero, Nat.mul_one] at hlt
    omega
  · have hpositive := Nat.pos_of_ne_zero hzero
    have hleading : significand * 10 ^ dropped < 10 ^ 308 := hle.trans_lt hsmall
    have hexponent : dropped ≤ 308 := le_of_mul_pow_le hpositive hleading.le
    obtain ⟨hx, hxsign⟩ := Binary64.near_ofNat hpositive hfinite
    obtain ⟨hy, hysign⟩ := Binary64.near_powerOfTen hexponent
    have htenths : 0 < 10 ^ dropped := Nat.pow_pos (by decide)
    obtain ⟨hnear, hsign⟩ := Binary64.near_mul hx hy hpositive htenths hleading.le
    rw [hxsign, hysign] at hsign
    refine ⟨_, ?_, hsign, fun hsize => ?_⟩
    · have hrange : ¬(308 : Int) < dropped := Int.not_lt.mpr (Int.ofNat_le.mpr hexponent)
      dsimp only
      rw [if_neg hzero, if_neg (Int.not_lt.mpr (Int.natCast_nonneg dropped)), if_neg hrange,
        Int.toNat_natCast, if_pos hnear.finite]
    -- Three roundings take away seven eighths at most, and 32 bits are left of 64 still.
    · apply Binary64.toNat_clampedUInt32_of_le hnear.finite hsign
      have heighth := Binary64.le_units_mul hx hy hpositive htenths hleading.le
      have htwice : (significand + 1) * 10 ^ dropped ≤ 2 * (significand * 10 ^ dropped) := by
        rw [← Nat.mul_assoc]
        exact Nat.mul_le_mul_right _ (by omega)
      have hwide : 16 * (UInt32.size - 1) ≤ UInt64.size := by decide
      have hmul := Nat.mul_le_mul_right Binary64.unitsPerOne
        (show 8 * (UInt32.size - 1) ≤ significand * 10 ^ dropped by omega)
      linarith

/-- A whole number of 64 bits is clamped to 32 bits as it is, also if it is below zero. -/
theorem Number.clamped_whole {z : Int} (hlt : z.natAbs < UInt64.size) :
    ((Number.whole z).toBinary64.clampedUInt32.toNat : Int) = clamp z := by
  have hsize : UInt32.size = 4294967296 := rfl
  by_cases hbelow : z < 0
  · have hnegative : (Binary64.ofNat z.natAbs).neg.negative = true := by
      rw [Binary64.negative_neg, Binary64.negative_ofNat (hlt.trans Binary64.size_lt_leastInfinite)]
      rfl
    rw [toBinary64, if_pos hbelow, Binary64.clampedUInt32_of_negative hnegative, UInt32.toNat_zero,
      clamp]
    omega
  · rw [toBinary64, if_neg hbelow, Binary64.toNat_clampedUInt32_ofNat hlt, clamp]
    omega

variable {whole : List Nat} {x : Binary64}

/-- A whole number with a minus sign is clamped to zero, whether or not it fits into 64 bits. -/
theorem Numeral.exists_number?_negative (hx : x.negative = false)
    (hreal : (Numeral.mk true whole [] none).real? = some x.neg) :
    ∃ number, (Numeral.mk true whole [] none).number? = some number ∧
      (number.toBinary64.clampedUInt32.toNat : Int) = clamp (-(ofDigits 10 whole : Int)) := by
  rw [number?, hreal, Option.map_some]
  dsimp only
  by_cases hfits : 0 < ofDigits 10 whole ∧ ofDigits 10 whole ≤ 0x8000000000000000
  · refine ⟨_, if_pos ⟨rfl, rfl, hfits⟩, Number.clamped_whole ?_⟩
    rw [if_pos rfl, Int.natAbs_neg, Int.natAbs_natCast]
    exact Nat.lt_of_le_of_lt hfits.2 (by decide)
  · refine ⟨_, if_neg fun hplain => hfits hplain.2.2, ?_⟩
    have hnegative : x.neg.negative = true := by
      rw [Binary64.negative_neg, hx]
      rfl
    rw [Number.toBinary64, Binary64.clampedUInt32_of_negative hnegative, UInt32.toNat_zero, clamp]
    omega

/-- A whole number without a sign is clamped as it is if it fits into 64 bits, and else to the
greatest number. -/
theorem Numeral.exists_number?_natural
    (hreal : (Numeral.mk false whole [] none).real? = some x)
    (hbeyond : UInt64.size ≤ ofDigits 10 whole → x.clampedUInt32.toNat = UInt32.size - 1) :
    ∃ number, (Numeral.mk false whole [] none).number? = some number ∧
      (number.toBinary64.clampedUInt32.toNat : Int) = clamp (ofDigits 10 whole) := by
  rw [number?, hreal, Option.map_some]
  dsimp only
  by_cases hfits : ofDigits 10 whole < UInt64.size
  · refine ⟨_, if_pos ⟨rfl, rfl, hfits⟩, Number.clamped_whole ?_⟩
    rw [if_neg (by decide), Int.natAbs_natCast]
    exact hfits
  · refine ⟨_, if_neg fun hplain => hfits hplain.2.2, ?_⟩
    have hwide : 4294967295 ≤ UInt64.size := by decide
    have hsize : UInt32.size = 4294967296 := rfl
    rw [Number.toBinary64, hbeyond (Nat.le_of_not_lt hfits), clamp]
    omega

/-- The number of a numeral that is a whole number of any length below the largest power of
ten, clamped to 32 bits. -/
theorem Numeral.exists_number?_of_integer? {n : Numeral} (hdecimal : ∀ d ∈ n.whole, d < 10)
    {z : Int} (hinteger : n.integer? = some z) (hsmall : z.natAbs < 10 ^ 308) :
    ∃ number, n.number? = some number ∧
      (number.toBinary64.clampedUInt32.toNat : Int) = clamp z := by
  obtain ⟨negative, whole, fraction, exponent⟩ := n
  rw [integer?, Option.ite_none_right_eq_some, Option.some.injEq] at hinteger
  obtain ⟨⟨hfraction, hexponent⟩, hz⟩ := hinteger
  dsimp only at hdecimal hfraction hexponent hz
  subst hfraction hexponent
  have hvalue : z.natAbs = ofDigits 10 whole := by
    rw [← hz]
    split <;> simp
  rw [hvalue] at hsmall
  have hgathered : Gathered (gather 0 whole).1 (gather 0 whole).2 (ofDigits 10 whole) :=
    gathered_gather whole (by decide)
  obtain ⟨x, hmagnitude, hx, hbeyond⟩ := hgathered.exists_magnitude? (gather_lt hdecimal 0) hsmall
  have hreal : (Numeral.mk negative whole [] none).real? =
      some (if negative then x.neg else x) :=
    congrArg (Option.map _) hmagnitude
  rw [← hz]
  cases negative with
  | true => exact exists_number?_negative hx hreal
  | false => exact exists_number?_natural hreal hbeyond

end DeviceTwin.Json
