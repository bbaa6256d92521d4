/-
Rounding to binary64.  A rounded quotient is off by half a unit of its last place at most,
so that a number in the normal range is off by one part in two to the power of
fifty-three; whole numbers of fifty-three bits are not off at all.  What is left of a number
in 32 bits follows from that.
-/
import Mathlib.Tactic.Linarith
import Mathlib.Tactic.Ring
import DeviceTwin.Binary64.Basic

namespace DeviceTwin.Binary64

theorem unitsPerOne_eq {a b : Nat} (h : a + b = 1074) : unitsPerOne = 2 ^ a * 2 ^ b := by
  unfold unitsPerOne
  rw [← h]
  exact pow_add 2 a b

theorem hidden_eq : hidden = 2 ^ 52 := rfl

theorem hidden_pos : 0 < hidden := Nat.zero_lt_succ _

theorem unitsPerOne_pos : 0 < unitsPerOne := by decide +kernel

theorem roundedQuotient_bounds (num : Nat) {den : Nat} (hden : 0 < den) :
    2 * num ≤ 2 * (roundedQuotient num den * den) + den ∧
      2 * (roundedQuotient num den * den) ≤ 2 * num + den := by
  have hsplit := Nat.div_add_mod' num den
  have hmod := Nat.mod_lt num hden
  unfold roundedQuotient
  dsimp only
  split
  · omega
  · split
    · rw [Nat.add_mul]
      omega
    · rcases Nat.mod_two_eq_zero_or_one (num / den) with heven | hodd
      · rw [heven, Nat.add_zero]
        omega
      · rw [hodd, Nat.add_mul]
        omega

/-- Below an even bound a quotient is rounded exactly if it is half a unit away from it. -/
theorem roundedQuotient_lt_iff (num : Nat) {den bound : Nat} (hden : 0 < den)
    (heven : bound % 2 = 0) :
    roundedQuotient num den < bound ↔ 2 * num + den < 2 * (bound * den) := by
  have hsplit := Nat.div_add_mod' num den
  have hmod := Nat.mod_lt num hden
  unfold roundedQuotient
  dsimp only
  generalize num / den = floor at hsplit ⊢
  generalize num % den = rest at hsplit hmod ⊢
  -- Only the last quotient below the bound can be rounded up to it.
  have hplace : bound ≤ floor ∧ bound * den ≤ floor * den ∨
      bound = floor + 1 ∧ bound * den = floor * den + den ∨
      floor + 2 ≤ bound ∧ floor * den + 2 * den ≤ bound * den := by
    rcases Nat.lt_trichotomy bound (floor + 1) with hbelow | heq | habove
    · exact Or.inl ⟨Nat.le_of_lt_succ hbelow, Nat.mul_le_mul_right den (Nat.le_of_lt_succ hbelow)⟩
    · exact Or.inr (Or.inl ⟨heq, by rw [heq, Nat.succ_mul]⟩)
    · exact Or.inr (Or.inr ⟨habove, Nat.add_mul floor 2 den ▸ Nat.mul_le_mul_right den habove⟩)
  split
  · omega
  · split <;> omega

/-- A quotient is rounded by its value alone. -/
theorem roundedQuotient_mul_mul (num den : Nat) {factor : Nat} (hfactor : 0 < factor) :
    roundedQuotient (num * factor) (den * factor) = roundedQuotient num den := by
  unfold roundedQuotient
  rw [Nat.mul_div_mul_right _ _ hfactor, Nat.mul_mod_mul_right, ← Nat.mul_assoc]
  simp only [Nat.mul_lt_mul_right hfactor]

/-- A whole quotient is not rounded. -/
theorem roundedQuotient_mul {quotient den : Nat} (hden : 0 < den) :
    roundedQuotient (quotient * den) den = quotient := by
  simp [roundedQuotient, Nat.mul_div_cancel _ hden, Nat.mul_mod_left, hden]

/-- A significand and a scale that make up the pattern of a finite number. -/
structure Packable (significand scale : Nat) : Prop where
  normal : scale = 0 ∨ hidden ≤ significand
  le : significand ≤ 2 * hidden
  lt : scale * hidden + significand < infiniteMagnitude

theorem toNat_ofMagnitude {magnitude : Nat} (hlt : magnitude < infiniteMagnitude)
    (negative : Bool) : (ofMagnitude negative magnitude).bits.toNat =
      magnitude + if negative then signWeight else 0 := by
  have hlimit : infiniteMagnitude = 0x7FF0000000000000 := rfl
  have hweight : signWeight = 0x8000000000000000 := rfl
  rw [ofMagnitude, Nat.min_eq_left (Nat.le_of_lt hlt), UInt64.toNat_ofNat_of_lt']
  rw [UInt64.size]
  split <;> omega

/-- The three fields of a pattern. -/
theorem fields_of_toNat {x : Binary64} {magnitude : Nat} {negative : Bool}
    (hlt : magnitude < infiniteMagnitude)
    (hbits : x.bits.toNat = magnitude + if negative then signWeight else 0) :
    x.fraction = magnitude % hidden ∧ x.exponentField = magnitude / hidden ∧
      x.negative = negative := by
  simp only [infiniteMagnitude, signWeight, hidden] at hlt hbits
  refine ⟨?_, ?_, ?_⟩
  · rw [fraction, hbits, hidden]
    split <;> omega
  · rw [exponentField, hbits, hidden]
    split <;> omega
  · cases negative with
    | false =>
        apply decide_eq_false
        simp only [Bool.false_eq_true, if_false] at hbits
        simp only [signWeight]
        omega
    | true =>
        apply decide_eq_true
        simp only [if_true] at hbits
        simp only [signWeight]
        omega

/-- A significand and a scale put together come apart again, also when the significand is
carried over into the next power of two. -/
theorem significand_mul_scale {significand scale : Nat} (hnormal : scale = 0 ∨ hidden ≤ significand)
    (hle : significand ≤ 2 * hidden) :
    (if (scale * hidden + significand) / hidden = 0 then (scale * hidden + significand) % hidden
      else (scale * hidden + significand) % hidden + hidden) *
        2 ^ ((scale * hidden + significand) / hidden - 1) = significand * 2 ^ scale := by
  generalize hquotient : (scale * hidden + significand) / hidden = quotient
  generalize hrest : (scale * hidden + significand) % hidden = rest
  simp only [hidden] at hnormal hle hquotient hrest ⊢
  -- The significand has no leading bit, or it has one, or it has become the next power of two.
  rcases Nat.lt_or_ge significand 0x10000000000000 with hsmall | hlarge
  · obtain ⟨rfl, rfl, rfl⟩ : scale = 0 ∧ quotient = 0 ∧ rest = significand := by omega
    rw [if_pos rfl]
  · rcases Nat.lt_or_ge significand (2 * 0x10000000000000) with hbelow | hcarry
    · obtain ⟨rfl, rfl⟩ : quotient = scale + 1 ∧ significand = rest + 0x10000000000000 := by omega
      rw [if_neg (Nat.succ_ne_zero scale), Nat.add_sub_cancel]
    · obtain ⟨rfl, rfl, rfl⟩ :
          quotient = scale + 2 ∧ rest = 0 ∧ significand = 2 * 0x10000000000000 := by omega
      rw [if_neg (Nat.succ_ne_zero _), Nat.zero_add, show scale + 2 - 1 = scale + 1 from rfl,
        pow_succ]
      ring

/-- The pattern of a number gives its significand, its scale and its sign back. -/
theorem Packable.unpack {significand scale : Nat} (hpack : Packable significand scale)
    (negative : Bool) :
    (ofMagnitude negative (scale * hidden + significand)).units = significand * 2 ^ scale ∧
      (ofMagnitude negative (scale * hidden + significand)).isFinite = true ∧
      (ofMagnitude negative (scale * hidden + significand)).negative = negative := by
  obtain ⟨hfraction, hfield, hsign⟩ :=
    fields_of_toNat hpack.lt (toNat_ofMagnitude hpack.lt negative)
  refine ⟨?_, ?_, hsign⟩
  · rw [units, Binary64.significand, Binary64.scale, hfraction, hfield]
    exact significand_mul_scale hpack.normal hpack.le
  · rw [isFinite, hfield, decide_eq_true_eq, Nat.div_lt_iff_lt_mul hidden_pos]
    exact hpack.lt

/-- The least whole number that is rounded to infinity.  It is half way between the greatest
finite number and the next power of two, of which the significand is even. -/
def leastInfinite : Nat := Nat.pow 2 1024 - Nat.pow 2 970

theorem leastInfinite_mul_unitsPerOne {last : Nat} (hlast : last = 2044) :
    leastInfinite * unitsPerOne = (4 * hidden - 1) * 2 ^ last := by
  have hunits : leastInfinite * unitsPerOne = (4 * hidden - 1) * Nat.pow 2 last := by
    rw [hlast]
    decide +kernel
  exact hunits

theorem roundedQuotient_normal {num den : Nat} (hden : 0 < den) (hlow : hidden * den ≤ num)
    (hhigh : num < 2 * hidden * den) :
    hidden ≤ roundedQuotient num den ∧ roundedQuotient num den ≤ 2 * hidden := by
  obtain ⟨hbelow, habove⟩ := roundedQuotient_bounds num hden
  generalize roundedQuotient num den = r at hbelow habove ⊢
  constructor
  · by_contra hsmall
    have hnext := Nat.mul_le_mul_right den (Nat.lt_of_not_le hsmall)
    rw [Nat.succ_mul] at hnext
    omega
  · by_contra hlarge
    have hnext := Nat.mul_le_mul_right den (Nat.lt_of_not_le hlarge)
    rw [Nat.succ_mul] at hnext
    omega

/-- In the normal range it is the quotient that says whether the pattern is that of a finite
number.  Only at the last scale but one can the significand be carried over too far. -/
theorem magnitude_lt_iff {num den scale : Nat} (hden : 0 < den)
    (hlow : hidden * (den * 2 ^ scale) ≤ num * unitsPerOne)
    (hhigh : num * unitsPerOne < 2 * hidden * (den * 2 ^ scale)) :
    scale * hidden + roundedQuotient (num * unitsPerOne) (den * 2 ^ scale) < infiniteMagnitude ↔
      num < den * leastInfinite := by
  -- The exponent keeps a name, since the power is too large to be worked out.
  obtain ⟨last, hlast⟩ : ∃ last, last = 2044 := ⟨_, rfl⟩
  have hpos : 0 < den * 2 ^ scale := Nat.mul_pos hden (Nat.pow_pos Nat.two_pos)
  obtain ⟨hfloor, hceil⟩ := roundedQuotient_normal hpos hlow hhigh
  have hcarry := roundedQuotient_lt_iff (num * unitsPerOne) hpos
    (show 2 * hidden % 2 = 0 by decide)
  have hbound : num < den * leastInfinite ↔
      num * unitsPerOne < (4 * hidden - 1) * (den * 2 ^ last) := by
    rw [Nat.mul_left_comm, ← leastInfinite_mul_unitsPerOne hlast, ← Nat.mul_assoc,
      Nat.mul_lt_mul_right unitsPerOne_pos]
  have hroof : infiniteMagnitude = 2047 * hidden := rfl
  rw [hbound]
  generalize roundedQuotient (num * unitsPerOne) (den * 2 ^ scale) = r at *
  generalize num * unitsPerOne = total at *
  rcases Nat.lt_trichotomy scale (last + 1) with hbelow | heq | habove
  · have hscale := Nat.mul_le_mul_right hidden (show scale ≤ 2044 by omega)
    have hgrown : den * 2 ^ scale ≤ den * 2 ^ last :=
      Nat.mul_le_mul_left den (Nat.pow_le_pow_right Nat.two_pos (Nat.le_of_lt_succ hbelow))
    simp only [hidden] at *
    omega
  · have hscale := congrArg (· * hidden) (show scale = 2045 by omega)
    have hgrown : den * 2 ^ scale = 2 * (den * 2 ^ last) := by
      rw [heq, pow_succ]
      ring
    simp only [hidden] at *
    omega
  · have hscale := Nat.mul_le_mul_right hidden (show 2046 ≤ scale by omega)
    have hgrown : 4 * (den * 2 ^ last) ≤ den * 2 ^ scale :=
      calc 4 * (den * 2 ^ last) = den * 2 ^ (last + 2) := by ring
        _ ≤ den * 2 ^ scale := Nat.mul_le_mul_left den (Nat.pow_le_pow_right Nat.two_pos habove)
    simp only [hidden] at *
    omega

/-- A finite number that is away from a quotient by one part in two to the power of fifty-three
at most. -/
structure Near (x : Binary64) (num den : Nat) : Prop where
  finite : x.isFinite = true
  le : 2 * hidden * (den * x.units) ≤ (2 * hidden + 1) * (num * unitsPerOne)
  ge : (2 * hidden - 1) * (num * unitsPerOne) ≤ 2 * hidden * (den * x.units)

/-- The scale for a quotient in the normal range leaves a significand of fifty-three bits. -/
theorem exists_scale {total den : Nat} (hden : 0 < den) (hlow : den * hidden ≤ total) :
    ∃ scale, (total / den).log2 - 52 = scale ∧ hidden * (den * 2 ^ scale) ≤ total ∧
      total < 2 * hidden * (den * 2 ^ scale) := by
  have hquotient : hidden ≤ total / den :=
    (Nat.le_div_iff_mul_le hden).mpr (Nat.mul_comm den hidden ▸ hlow)
  have hne : total / den ≠ 0 := Nat.ne_of_gt (Nat.lt_of_lt_of_le hidden_pos hquotient)
  have hlog : 52 ≤ (total / den).log2 := (Nat.le_log2 hne).mpr (hidden_eq ▸ hquotient)
  obtain ⟨scale, hscale⟩ := Nat.exists_eq_add_of_le hlog
  have hfloor := Nat.log2_self_le hne
  have hceil : total / den < 2 ^ ((total / den).log2 + 1) := Nat.lt_log2_self
  rw [hscale] at hfloor hceil
  refine ⟨scale, by rw [hscale, Nat.add_sub_cancel_left], ?_, ?_⟩
  · calc hidden * (den * 2 ^ scale) = 2 ^ (52 + scale) * den := by
          rw [pow_add, ← hidden_eq]
          ring
      _ ≤ total / den * den := Nat.mul_le_mul_right den hfloor
      _ ≤ total := Nat.div_mul_le_self total den
  · calc total < 2 ^ (52 + scale + 1) * den := (Nat.div_lt_iff_lt_mul hden).mp hceil
      _ = 2 * hidden * (den * 2 ^ scale) := by
          rw [pow_succ, pow_add, ← hidden_eq]
          ring

theorem ofRatio_eq {num den scale : Nat} (negative : Bool)
    (hscale : (num * unitsPerOne / den).log2 - 52 = scale) :
    ofRatio negative num den = ofMagnitude negative
      (scale * hidden + roundedQuotient (num * unitsPerOne) (den * 2 ^ scale)) := by
  rw [ofRatio, hscale]
  rfl

/-- The number for a quotient in the normal range. -/
theorem exists_units_ofRatio (negative : Bool) {num den : Nat} (hden : 0 < den)
    (hlow : den * hidden ≤ num * unitsPerOne) (hhigh : num < den * leastInfinite) :
    ∃ scale, (num * unitsPerOne / den).log2 - 52 = scale ∧
      hidden * (den * 2 ^ scale) ≤ num * unitsPerOne ∧
      (ofRatio negative num den).units =
        roundedQuotient (num * unitsPerOne) (den * 2 ^ scale) * 2 ^ scale ∧
      (ofRatio negative num den).isFinite = true ∧
      (ofRatio negative num den).negative = negative := by
  obtain ⟨scale, hscale, hbelow, habove⟩ := exists_scale hden hlow
  have hpos : 0 < den * 2 ^ scale := Nat.mul_pos hden (Nat.pow_pos Nat.two_pos)
  obtain ⟨hfloor, hceil⟩ := roundedQuotient_normal hpos hbelow habove
  have hpack : Packable (roundedQuotient (num * unitsPerOne) (den * 2 ^ scale)) scale :=
    ⟨Or.inr hfloor, hceil, (magnitude_lt_iff hden hbelow habove).mpr hhigh⟩
  refine ⟨scale, hscale, hbelow, ?_⟩
  rw [ofRatio_eq negative hscale]
  exact hpack.unpack negative

/-- The number for a quotient in the normal range is near to the quotient. -/
theorem near_ofRatio (negative : Bool) {num den : Nat} (hden : 0 < den)
    (hlow : den * hidden ≤ num * unitsPerOne) (hhigh : num < den * leastInfinite) :
    (ofRatio negative num den).Near num den ∧ (ofRatio negative num den).negative = negative := by
  obtain ⟨scale, -, hbelow, hunits, hfinite, hnegative⟩ :=
    exists_units_ofRatio negative hden hlow hhigh
  obtain ⟨hmore, hless⟩ := roundedQuotient_bounds (num * unitsPerOne)
    (Nat.mul_pos hden (Nat.pow_pos Nat.two_pos) : 0 < den * 2 ^ scale)
  refine ⟨⟨hfinite, ?_, ?_⟩, hnegative⟩
  all_goals
    rw [hunits, Nat.mul_left_comm den]
    simp only [hidden] at hbelow ⊢
    omega

/-- Rounding takes away half of a quotient at most. -/
theorem Near.half_le {x : Binary64} {num den : Nat} (hnear : x.Near num den) :
    num * unitsPerOne ≤ 2 * (den * x.units) := by
  have hge := hnear.ge
  simp only [hidden] at hge
  omega

/-! ## Whole numbers -/

theorem log2_mul_two_pow {n : Nat} (hn : n ≠ 0) (a : Nat) : (n * 2 ^ a).log2 = n.log2 + a := by
  have hpow : 2 ^ a ≠ 0 := Nat.ne_of_gt (Nat.pow_pos Nat.two_pos)
  rw [Nat.log2_eq_iff (Nat.mul_ne_zero hn hpow)]
  constructor
  · rw [pow_add]
    exact Nat.mul_le_mul_right _ (Nat.log2_self_le hn)
  · rw [Nat.add_right_comm, pow_add]
    exact Nat.mul_lt_mul_of_pos_right Nat.lt_log2_self (Nat.pos_of_ne_zero hpow)

/-- In units a whole number ends in as many zeros as its scale takes away, and more. -/
theorem exists_exact_scale {n : Nat} (hzero : n ≠ 0) (hn : n < 2 * hidden) :
    ∃ scale more, (n * unitsPerOne / 1).log2 - 52 = scale ∧
      n * unitsPerOne = n * 2 ^ more * (1 * 2 ^ scale) ∧ Packable (n * 2 ^ more) scale := by
  obtain ⟨last, hlast⟩ : ∃ last, last = 1074 := ⟨_, rfl⟩
  have hunits : unitsPerOne = 2 ^ last := by
    rw [unitsPerOne_eq (show last + 0 = 1074 by omega), pow_zero, Nat.mul_one]
  have hlog : n.log2 < 53 := (Nat.log2_lt hzero).mpr (show n < 2 ^ 53 from hn)
  obtain ⟨more, hmore⟩ := Nat.exists_eq_add_of_le (Nat.le_of_lt_succ hlog)
  have hfloor : hidden ≤ n * 2 ^ more := by
    rw [hidden_eq, hmore, pow_add]
    exact Nat.mul_le_mul_right _ (Nat.log2_self_le hzero)
  have hceil : n * 2 ^ more < 2 * hidden := by
    have hlt : n < 2 ^ (n.log2 + 1) := Nat.lt_log2_self
    have hmul := Nat.mul_lt_mul_of_pos_right hlt (show 0 < 2 ^ more from Nat.pow_pos Nat.two_pos)
    rw [← pow_add, show n.log2 + 1 + more = 53 by omega] at hmul
    exact hmul
  refine ⟨n.log2 + last - 52, more, ?_, ?_, Or.inr hfloor, Nat.le_of_lt hceil, ?_⟩
  · rw [Nat.div_one, hunits, log2_mul_two_pow hzero]
  · have hsum : more + (n.log2 + last - 52) = last := by omega
    rw [hunits, Nat.one_mul, Nat.mul_assoc, ← pow_add, hsum]
  · have hlimit : infiniteMagnitude = 2047 * hidden := rfl
    have hscale := Nat.mul_le_mul_right hidden (show n.log2 + last - 52 ≤ 2044 by omega)
    omega

/-- A whole number of fifty-three bits has a number that is the same. -/
theorem units_ofNat {n : Nat} (hn : n < 2 * hidden) :
    (ofNat n).units = n * unitsPerOne ∧ (ofNat n).isFinite = true ∧
      (ofNat n).negative = false := by
  by_cases hzero : n = 0
  · subst hzero
    decide +kernel
  · obtain ⟨scale, more, hscale, hsplit, hpack⟩ := exists_exact_scale hzero hn
    have hpos : 0 < 1 * 2 ^ scale := Nat.mul_pos Nat.one_pos (Nat.pow_pos Nat.two_pos)
    have hexact : roundedQuotient (n * unitsPerOne) (1 * 2 ^ scale) = n * 2 ^ more := by
      rw [hsplit, roundedQuotient_mul hpos]
    have hpacked : ofNat n = ofMagnitude false (scale * hidden + n * 2 ^ more) := by
      rw [← hexact]
      exact ofRatio_eq false hscale
    obtain ⟨hunits, hfinite, hnegative⟩ := hpack.unpack false
    rw [hpacked]
    refine ⟨hunits.trans ?_, hfinite, hnegative⟩
    rw [hsplit, Nat.one_mul]

theorem hidden_le_mul_unitsPerOne {n : Nat} (hpos : 0 < n) : 1 * hidden ≤ n * unitsPerOne := by
  have hwide : hidden ≤ unitsPerOne := by decide +kernel
  exact Nat.mul_le_mul hpos hwide

theorem size_lt_leastInfinite : UInt64.size < leastInfinite := by decide +kernel

theorem pow_lt_leastInfinite {k : Nat} (hle : k ≤ 308) : 10 ^ k < leastInfinite := by
  obtain ⟨last, hlast⟩ : ∃ last, last = 308 := ⟨_, rfl⟩
  have hlimit : Nat.pow 10 last < leastInfinite := by
    rw [hlast]
    decide +kernel
  rw [← hlast] at hle
  exact (Nat.pow_le_pow_right (by decide) hle).trans_lt hlimit

/-- A whole number in the range of the format is rounded to a number. -/
theorem near_ofNat {n : Nat} (hpos : 0 < n) (hlt : n < leastInfinite) :
    (ofNat n).Near n 1 ∧ (ofNat n).negative = false :=
  near_ofRatio false Nat.one_pos (hidden_le_mul_unitsPerOne hpos) ((Nat.one_mul _).symm ▸ hlt)

theorem negative_ofNat {n : Nat} (hlt : n < leastInfinite) : (ofNat n).negative = false := by
  rcases Nat.eq_zero_or_pos n with rfl | hpos
  · exact (units_ofNat (by decide)).2.2
  · exact (near_ofNat hpos hlt).2

theorem powerOfTen_eq_ofNat (k : Nat) : powerOfTen k = ofNat (10 ^ k) := rfl

/-- A power of ten in the range of the format is rounded to a number. -/
theorem near_powerOfTen {k : Nat} (hle : k ≤ 308) :
    (powerOfTen k).Near (10 ^ k) 1 ∧ (powerOfTen k).negative = false := by
  rw [powerOfTen_eq_ofNat]
  exact near_ofNat (Nat.pow_pos (by decide)) (pow_lt_leastInfinite hle)

/-! ## Products, signs and whole parts -/

/-- The product of the numbers of two whole numbers is finite if theirs is below the
largest power of ten. -/
theorem mul_units_lt {x y : Binary64} {a b : Nat} (hx : x.Near a 1) (hy : y.Near b 1)
    (hsmall : a * b ≤ 10 ^ 308) :
    x.units * y.units < unitsPerOne * unitsPerOne * leastInfinite := by
  have hx := hx.le
  have hy := hy.le
  rw [Nat.one_mul] at hx hy
  obtain ⟨c, hc⟩ : ∃ c, c = 2 * hidden := ⟨_, rfl⟩
  obtain ⟨last, hlast⟩ : ∃ last, last = 308 := ⟨_, rfl⟩
  have hlimit : (c + 1) * (c + 1) * Nat.pow 10 last < c * c * leastInfinite := by
    rw [hc, hlast]
    decide +kernel
  rw [← hc] at hx hy
  rw [← hlast] at hsmall
  have hproduct := Nat.mul_le_mul hx hy
  have hscaled := Nat.mul_le_mul_left ((c + 1) * (c + 1)) hsmall
  change (c + 1) * (c + 1) * (a * b) ≤ (c + 1) * (c + 1) * Nat.pow 10 last at hscaled
  have hpos := unitsPerOne_pos
  generalize Nat.pow 10 last = roof at *
  generalize leastInfinite = limit at *
  generalize unitsPerOne = unit at *
  by_contra hle
  have hmore := Nat.mul_le_mul_left (c * c) (Nat.le_of_not_lt hle)
  have hroof := Nat.mul_le_mul_right (unit * unit) hscaled
  have hstrict := Nat.mul_lt_mul_of_pos_right hlimit (Nat.mul_pos hpos hpos)
  linarith

/-- The product of the numbers of two whole numbers is rounded to a number. -/
theorem near_mul {x y : Binary64} {a b : Nat} (hx : x.Near a 1) (hy : y.Near b 1) (ha : 0 < a)
    (hb : 0 < b) (hsmall : a * b ≤ 10 ^ 308) :
    (x.mul y).Near (x.units * y.units) (unitsPerOne * unitsPerOne) ∧
      (x.mul y).negative = (x.negative != y.negative) := by
  refine near_ofRatio _ (Nat.mul_pos unitsPerOne_pos unitsPerOne_pos) ?_ (mul_units_lt hx hy hsmall)
  have hwide : 4 * hidden ≤ unitsPerOne := by decide +kernel
  have hx := hx.half_le
  have hy := hy.half_le
  have hone : unitsPerOne ≤ 2 * x.units := by
    have := Nat.mul_le_mul_right unitsPerOne (Nat.succ_le_of_lt ha)
    omega
  have htwo : unitsPerOne ≤ 2 * y.units := by
    have := Nat.mul_le_mul_right unitsPerOne (Nat.succ_le_of_lt hb)
    omega
  calc unitsPerOne * unitsPerOne * hidden ≤ 2 * x.units * (2 * y.units) * hidden :=
        Nat.mul_le_mul_right hidden (Nat.mul_le_mul hone htwo)
    _ = x.units * y.units * (4 * hidden) := by ring
    _ ≤ x.units * y.units * unitsPerOne := Nat.mul_le_mul_left _ hwide

/-- A product is not less than the eighth part of the product of the whole numbers. -/
theorem le_units_mul {x y : Binary64} {a b : Nat} (hx : x.Near a 1) (hy : y.Near b 1) (ha : 0 < a)
    (hb : 0 < b) (hsmall : a * b ≤ 10 ^ 308) :
    a * b * unitsPerOne ≤ 8 * (x.mul y).units := by
  have hproduct := (near_mul hx hy ha hb hsmall).1.half_le
  have hx := hx.half_le
  have hy := hy.half_le
  have hpos := unitsPerOne_pos
  generalize unitsPerOne = unit at *
  have hboth := Nat.mul_le_mul hx hy
  refine Nat.le_of_mul_le_mul_right ?_ (Nat.mul_pos hpos hpos)
  have hscaled := Nat.mul_le_mul_right unit hboth
  linarith

theorem negative_eq_msb (x : Binary64) : x.negative = x.bits.toBitVec.msb :=
  (BitVec.msb_eq_decide x.bits.toBitVec).symm

theorem negative_neg (x : Binary64) : x.neg.negative = !x.negative := by
  rw [negative_eq_msb, negative_eq_msb, neg, UInt64.toBitVec_xor, BitVec.msb_xor]
  exact Bool.xor_true _

theorem clampedUInt32_of_negative {x : Binary64} (hnegative : x.negative = true) :
    x.clampedUInt32 = 0 := by
  rw [clampedUInt32, hnegative, Bool.or_true, if_pos rfl]

/-- A finite number that is not negative loses its fraction, and what is left of it is clamped. -/
theorem toNat_clampedUInt32 {x : Binary64} (hfinite : x.isFinite = true)
    (hnegative : x.negative = false) :
    x.clampedUInt32.toNat = min (x.units / unitsPerOne) (UInt32.size - 1) := by
  have hnan : x.isNaN = false := by rw [isNaN, hfinite]; rfl
  rw [clampedUInt32, hnan, hnegative, hfinite, if_neg (by decide), if_pos rfl,
    UInt32.toNat_ofNat_of_lt']
  exact Nat.lt_of_le_of_lt (Nat.min_le_right _ _) (by decide)

/-- What is not less than a number of units beyond 32 bits is clamped to the greatest number. -/
theorem toNat_clampedUInt32_of_le {x : Binary64} (hfinite : x.isFinite = true)
    (hnegative : x.negative = false) (hle : (UInt32.size - 1) * unitsPerOne ≤ x.units) :
    x.clampedUInt32.toNat = UInt32.size - 1 := by
  rw [toNat_clampedUInt32 hfinite hnegative]
  exact Nat.min_eq_right ((Nat.le_div_iff_mul_le unitsPerOne_pos).mpr hle)

/-- Whole numbers of 64 bits are clamped to 32 bits, and nothing else is done to them. -/
theorem toNat_clampedUInt32_ofNat {n : Nat} (hlt : n < UInt64.size) :
    (ofNat n).clampedUInt32.toNat = min n (UInt32.size - 1) := by
  by_cases hsmall : n < 2 * hidden
  · obtain ⟨hunits, hfinite, hnegative⟩ := units_ofNat hsmall
    rw [toNat_clampedUInt32 hfinite hnegative, hunits, Nat.mul_div_cancel _ unitsPerOne_pos]
  · have hpos := hidden_pos
    have hwide : 2 * UInt32.size ≤ 2 * hidden := by decide
    obtain ⟨hnear, hnegative⟩ := near_ofNat (show 0 < n by omega) (hlt.trans size_lt_leastInfinite)
    have hhalf := hnear.half_le
    have hmul := Nat.mul_le_mul_right unitsPerOne (show 2 * (UInt32.size - 1) ≤ n by omega)
    rw [Nat.min_eq_right (by omega), toNat_clampedUInt32_of_le hnear.finite hnegative]
    linarith

end DeviceTwin.Binary64
