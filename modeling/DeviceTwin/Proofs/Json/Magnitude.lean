/-
What a numeral is worth as it is written, and the range of binary64.  Of however many digits
only those that fit into 64 bits are gathered, but they are worth nearly what all of them
are.  So a numeral that is worth no more than the largest power of ten is in range, and one
that is worth twice as much is not.
-/
import Mathlib
import DeviceTwin.Proofs.Json.Grammar
import DeviceTwin.Proofs.Json.Range

namespace DeviceTwin.Json

open DeviceTwin.Text
open DeviceTwin.Binary64 (nearest leastInfinite)

/-- The power of ten that stands behind the digits of a numeral. -/
def Numeral.power (n : Numeral) : Int :=
  n.exponent.elim 0 fun (negative, digits) =>
    if negative then -(ofDigits 10 digits : Int) else ofDigits 10 digits

/-- What a numeral is worth, without its sign. -/
def Numeral.magnitude (n : Numeral) : ℚ :=
  ofDigits 10 (n.whole ++ n.fraction) * 10 ^ (n.power - n.fraction.length)

/-- Digits with a power of ten that are worth what a number is, or a little less. -/
structure Leads (s : Scaled) (value : ℚ) : Prop where
  le : s.significand * 10 ^ s.exponent ≤ value
  ge : 16 * value ≤ 17 * (s.significand * 10 ^ s.exponent)

theorem leads_of_bounds {significand value length : Nat} (exponent : Int)
    (hle : significand * 10 ^ length ≤ value)
    (hge : 16 * value ≤ 17 * (significand * 10 ^ length)) :
    Leads ⟨significand, exponent⟩ (value * 10 ^ (exponent - length)) := by
  have hpos : (0 : ℚ) ≤ 10 ^ (exponent - length) := by positivity
  have hsplit : (significand : ℚ) * 10 ^ exponent =
      significand * 10 ^ length * 10 ^ (exponent - length) := by
    rw [mul_assoc, ← zpow_natCast, ← zpow_add₀ (by norm_num)]
    congr 2
    omega
  have hle : (significand * 10 ^ length : ℚ) ≤ value := by exact_mod_cast hle
  have hge : (16 * value : ℚ) ≤ 17 * (significand * 10 ^ length) := by exact_mod_cast hge
  constructor
  · rw [hsplit]
    exact mul_le_mul_of_nonneg_right hle hpos
  · rw [hsplit]
    linarith [mul_le_mul_of_nonneg_right hge hpos]

/-- A power of ten does not change how near digits come to a number. -/
theorem Leads.mul_pow {s : Scaled} {value : ℚ} (hleads : Leads s value) (power : Int) :
    Leads ⟨s.significand, s.exponent + power⟩ (value * 10 ^ power) := by
  have hpos : (0 : ℚ) ≤ 10 ^ power := by positivity
  have hsplit : (s.significand : ℚ) * 10 ^ (s.exponent + power) =
      s.significand * 10 ^ s.exponent * 10 ^ power := by
    rw [zpow_add₀ (by norm_num), mul_assoc]
  constructor
  · rw [hsplit]
    exact mul_le_mul_of_nonneg_right hleads.le hpos
  · rw [hsplit]
    linarith [mul_le_mul_of_nonneg_right hleads.ge hpos]

/-- Digits behind the point lead the number that they make up with those before it. -/
theorem leads_gatherFraction {digits : List Nat} (hdecimal : ∀ d ∈ digits, d < 10) (s : Scaled) :
    Leads (gatherFraction s digits)
      ((digits.foldl (fun n d => 10 * n + d) s.significand : Nat) *
        10 ^ (s.exponent - digits.length)) := by
  induction digits generalizing s with
  | nil => exact leads_of_bounds s.exponent (by simp) (by simp; omega)
  | cons d rest ih =>
      rw [gatherFraction]
      split
      · have hrest := ih (fun e he => hdecimal e (List.mem_cons_of_mem d he))
          ⟨10 * s.significand + d, s.exponent - 1⟩
        have hpower : s.exponent - (d :: rest).length = s.exponent - 1 - rest.length := by
          rw [List.length_cons]
          omega
        rw [hpower]
        exact hrest
      · next hfull =>
          have hd := hdecimal d List.mem_cons_self
          have hsize : 10 * 16 + 9 < UInt64.size := by decide
          have hlt := foldl_digits_lt hdecimal s.significand
          have hmul := Nat.mul_le_mul_right (10 ^ (d :: rest).length)
            (show 16 ≤ s.significand by omega)
          refine leads_of_bounds s.exponent (le_foldl_digits (d :: rest) s.significand) ?_
          rw [Nat.add_mul] at hlt
          omega

/-- Where digits before the point are left out, one digit at most is gathered behind it, and it
stands for one that was left out. -/
theorem gatherFraction_of_full {s : Scaled} (digits : List Nat)
    (hfull : UInt64.size < 10 * (s.significand + 1)) :
    gatherFraction s digits = s ∨ ∃ d, 10 * s.significand + d < UInt64.size ∧
      gatherFraction s digits = ⟨10 * s.significand + d, s.exponent - 1⟩ := by
  cases digits with
  | nil => exact Or.inl rfl
  | cons d rest =>
      rw [gatherFraction]
      split
      · next hfits =>
          refine Or.inr ⟨d, hfits, ?_⟩
          cases rest with
          | nil => rfl
          | cons e rest =>
              have hsize : 18 < UInt64.size := by decide
              rw [gatherFraction, if_neg (by dsimp only; omega)]
      · exact Or.inl rfl

/-- What leads the digits before the point leads all of them if it is off by one in the last
place of those too. -/
theorem leads_of_whole {significand dropped lead value length : Nat}
    (hle : significand * 10 ^ dropped ≤ lead)
    (hge : 16 * (lead + 1) ≤ 17 * (significand * 10 ^ dropped))
    (hvalue : lead * 10 ^ length ≤ value) (hlt : value < (lead + 1) * 10 ^ length) :
    Leads ⟨significand, dropped⟩ (value * 10 ^ (-length : Int)) := by
  have hpower : (-length : Int) = dropped - (dropped + length : Nat) := by omega
  rw [hpower]
  apply leads_of_bounds
  · calc significand * 10 ^ (dropped + length)
        = significand * 10 ^ dropped * 10 ^ length := by ring
      _ ≤ lead * 10 ^ length := Nat.mul_le_mul_right _ hle
      _ ≤ value := hvalue
  · calc 16 * value ≤ 16 * (lead + 1) * 10 ^ length := by linarith
      _ ≤ 17 * (significand * 10 ^ dropped) * 10 ^ length := Nat.mul_le_mul_right _ hge
      _ = 17 * (significand * 10 ^ (dropped + length)) := by ring

/-- Digits before the point that do not all fit lead the number with those behind the point. -/
theorem Gathered.leads {significand dropped lead : Nat}
    (hgathered : Gathered significand dropped lead)
    (hlead : lead < (significand + 1) * 10 ^ dropped) (hdropped : dropped ≠ 0)
    {digits : List Nat} (hdecimal : ∀ d ∈ digits, d < 10) :
    Leads (gatherFraction ⟨significand, dropped⟩ digits)
      ((digits.foldl (fun n d => 10 * n + d) lead : Nat) * 10 ^ (-digits.length : Int)) := by
  have hfull := hgathered.size_lt hlead hdropped
  have hroom := hgathered.full hdropped
  have hvalue := le_foldl_digits digits lead
  have hlt := foldl_digits_lt hdecimal lead
  have hsize : 10 * 17 < UInt64.size := by decide
  rcases gatherFraction_of_full (s := ⟨significand, dropped⟩) digits hfull with
    hall | ⟨d, hfits, hall⟩
  · rw [hall]
    refine leads_of_whole hgathered.le ?_ hvalue hlt
    calc 16 * (lead + 1) ≤ 16 * (significand + 1) * 10 ^ dropped := by linarith
      _ ≤ 17 * significand * 10 ^ dropped := Nat.mul_le_mul_right _ (by omega)
      _ = 17 * (significand * 10 ^ dropped) := Nat.mul_assoc _ _ _
  · obtain ⟨fewer, rfl⟩ := Nat.exists_eq_succ_of_ne_zero hdropped
    rw [hall, Nat.succ_eq_add_one, Int.natCast_add, Int.natCast_one, Int.add_sub_cancel]
    refine leads_of_whole ?_ ?_ hvalue hlt
    · calc (10 * significand + d) * 10 ^ fewer ≤ UInt64.size * 10 ^ fewer :=
            Nat.mul_le_mul_right _ (Nat.le_of_lt hfits)
        _ ≤ lead := hroom
    · calc 16 * (lead + 1) ≤ 16 * ((significand + 1) * 10 ^ (fewer + 1)) :=
            Nat.mul_le_mul_left 16 hlead
        _ = 160 * (significand + 1) * 10 ^ fewer := by ring
        _ ≤ 17 * (10 * significand + d) * 10 ^ fewer := Nat.mul_le_mul_right _ (by omega)
        _ = 17 * ((10 * significand + d) * 10 ^ fewer) := Nat.mul_assoc _ _ _

/-- The digits that are gathered lead all digits of a numeral. -/
theorem leads_gather {whole fraction : List Nat} (hdecimal : ∀ d ∈ whole ++ fraction, d < 10) :
    Leads (gatherFraction ⟨(gather 0 whole).1, (gather 0 whole).2⟩ fraction)
      (ofDigits 10 (whole ++ fraction) * 10 ^ (-fraction.length : Int)) := by
  have hfraction := fun d hd => hdecimal d (List.mem_append_right whole hd)
  have hgathered := gathered_gather whole (show 0 < UInt64.size by decide)
  have hlt := gather_lt (fun d hd => hdecimal d (List.mem_append_left fraction hd)) 0
  rw [ofDigits, List.foldl_append]
  generalize whole.foldl (fun n d => 10 * n + d) 0 = lead at *
  generalize (gather 0 whole).1 = significand at *
  generalize (gather 0 whole).2 = dropped at *
  rcases Nat.eq_zero_or_pos dropped with rfl | hdropped
  · have hexact : lead = significand := by
      have hle := hgathered.le
      rw [pow_zero, Nat.mul_one] at hle hlt
      omega
    have hleads := leads_gatherFraction hfraction ⟨significand, 0⟩
    rw [zero_sub] at hleads
    rw [hexact]
    exact hleads
  · exact hgathered.leads hlt (Nat.ne_of_gt hdropped) hfraction

/-- What is gathered of a numeral leads what it is worth. -/
theorem Numeral.leads_scaled {n : Numeral} (hdecimal : ∀ d ∈ n.whole ++ n.fraction, d < 10) :
    Leads n.scaled n.magnitude := by
  have hleads := (leads_gather hdecimal).mul_pow n.power
  have hpower : (-n.fraction.length : Int) + n.power = n.power - n.fraction.length := by omega
  have hscaled : n.scaled =
      ⟨(gatherFraction ⟨(gather 0 n.whole).1, (gather 0 n.whole).2⟩ n.fraction).significand,
        (gatherFraction ⟨(gather 0 n.whole).1, (gather 0 n.whole).2⟩ n.fraction).exponent +
          n.power⟩ := by
    rw [scaled, power]
    cases n.exponent with
    | none => simp
    | some exponent =>
        obtain ⟨negative, digits⟩ := exponent
        cases negative <;> simp [Int.sub_eq_add_neg]
  rw [mul_assoc, ← zpow_add₀ (by norm_num), hpower] at hleads
  rw [hscaled]
  exact hleads

/-! ## The two sides of the bound -/

variable {n : Numeral} {cs : List Char}

theorem SpellsNumeral.decimal (hn : SpellsNumeral n cs) : ∀ d ∈ n.whole ++ n.fraction, d < 10 := by
  obtain ⟨hwhole, hfraction, -⟩ := hn
  intro d hd
  rcases List.mem_append.mp hd with hd | hd
  · exact hwhole.decimal d hd
  · cases hfraction with
    | absent => contradiction
    | present hdigits => exact hdigits.decimal d hd

/-- A numeral that is worth no more than the largest power of ten is in range. -/
theorem SpellsNumeral.inRange_of_magnitude_le (hn : SpellsNumeral n cs)
    (hle : n.magnitude ≤ 10 ^ 308) : n.InRange := by
  have hworth := (Numeral.leads_scaled hn.decimal).le.trans hle
  rcases lt_or_ge n.scaled.exponent 0 with hdivided | hexponent
  · exact Or.inr (Or.inl hdivided)
  · apply Scaled.inRange_of_le n.significand_scaled_lt
    rw [← Int.toNat_of_nonneg hexponent, zpow_natCast] at hworth
    exact_mod_cast hworth

/-- Two roundings do not bring a product below the bound if it is well above the range. -/
theorem Scaled.not_inRange_of_le {s : Scaled} (hs : s.significand < UInt64.size)
    (hexponent : 0 ≤ s.exponent)
    (hle : 32 * 10 ^ 308 ≤ 17 * (s.significand * 10 ^ s.exponent.toNat)) : ¬s.InRange := by
  obtain ⟨last, hlast⟩ : ∃ last, last = 308 := ⟨_, rfl⟩
  rw [← hlast] at hle
  rintro (hzero | hdivided | ⟨hsmall, hproduct⟩)
  · have hpos : 0 < 10 ^ last := Nat.pow_pos (by decide)
    rw [hzero] at hle
    omega
  · exact absurd hdivided (Int.not_lt.mpr hexponent)
  · have hlead := Binary64.le_nearest (hs.trans Binary64.size_lt_leastInfinite)
    have hpower := Binary64.le_nearest
      (Binary64.pow_lt_leastInfinite (show s.exponent.toNat ≤ 308 by omega))
    have hboth := Nat.mul_le_mul hlead hpower
    obtain ⟨c, hc⟩ : ∃ c, c = 2 * Binary64.hidden := ⟨_, rfl⟩
    have hbound : 17 * (c * c * leastInfinite) ≤ (c - 1) * (c - 1) * (32 * Nat.pow 10 last) := by
      rw [hc, hlast]
      decide +kernel
    have hpos : 0 < c * c := by
      rw [hc]
      decide
    have hscaled := Nat.mul_le_mul_left ((c - 1) * (c - 1)) hle
    change (c - 1) * (c - 1) * (32 * Nat.pow 10 last) ≤ _ at hscaled
    have hstrict := Nat.mul_lt_mul_of_pos_left hproduct hpos
    rw [← hc] at hboth
    generalize c - 1 = b at *
    generalize leastInfinite = limit at *
    linarith

/-- A numeral that is worth twice the largest power of ten is not in range. -/
theorem SpellsNumeral.not_inRange_of_le_magnitude (hn : SpellsNumeral n cs)
    (hle : 2 * 10 ^ 308 ≤ n.magnitude) : ¬n.InRange := by
  obtain ⟨last, hlast⟩ : ∃ last, last = 308 := ⟨_, rfl⟩
  rw [← hlast] at hle
  have hworth := (Numeral.leads_scaled hn.decimal).ge
  have hbelow := n.significand_scaled_lt
  have hleading : 32 * 10 ^ last ≤ 17 * (n.scaled.significand * 10 ^ n.scaled.exponent : ℚ) := by
    linarith
  rcases lt_or_ge n.scaled.exponent 0 with hdivided | hexponent
  -- Divided digits are worth less than what fits into 64 bits.
  · exfalso
    have hpower : (10 : ℚ) ^ n.scaled.exponent ≤ 1 :=
      zpow_le_one_of_nonpos₀ (by norm_num) hdivided.le
    have hroof : (10 : ℚ) ^ 20 ≤ 10 ^ last := pow_le_pow_right₀ (by norm_num) (by omega)
    have hdigits : (n.scaled.significand : ℚ) ≤ 10 ^ 20 := by
      exact_mod_cast hbelow.le.trans (show UInt64.size ≤ 10 ^ 20 by decide)
    have hmul := mul_le_mul_of_nonneg_left hpower
      (show (0 : ℚ) ≤ n.scaled.significand by positivity)
    linarith
  · apply Scaled.not_inRange_of_le hbelow hexponent
    rw [hlast, ← Int.toNat_of_nonneg hexponent, zpow_natCast] at hleading
    exact_mod_cast hleading

end DeviceTwin.Json
