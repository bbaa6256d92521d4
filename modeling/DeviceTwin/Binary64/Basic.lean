/-
Binary floating-point numbers of 64 bits, with their values as whole numbers:
every finite one is a multiple of the least, 2 ^ (-1074). Sums of products are
exact on that scale, and a result is rounded once, to the nearest number with a
tie to the even one.
-/
namespace DeviceTwin

/-- A number of the format binary64, as its bit pattern. -/
structure Binary64 where
  /-- One sign bit, eleven exponent bits, fifty-two fraction bits. -/
  bits : UInt64
  deriving DecidableEq, Inhabited

namespace Binary64

/-- The weight of the last exponent bit: two to the power of fifty-two. -/
def hidden : Nat := 0x10000000000000

/-- The weight of the sign bit: two to the power of sixty-three. -/
def signWeight : Nat := 0x8000000000000000

def fraction (x : Binary64) : Nat := x.bits.toNat % hidden

def exponentField (x : Binary64) : Nat := x.bits.toNat / hidden % 2048

def negative (x : Binary64) : Bool := signWeight ≤ x.bits.toNat

/-- Neither infinite nor a NaN. -/
def isFinite (x : Binary64) : Bool := x.exponentField < 2047

def isNaN (x : Binary64) : Bool := !x.isFinite && x.fraction != 0

/-- The significand of a finite number, with the leading bit of a normal one. -/
def significand (x : Binary64) : Nat :=
  if x.exponentField = 0 then x.fraction else x.fraction + hidden

/-- The power of two by which the significand counts in units of 2 ^ (-1074). -/
def scale (x : Binary64) : Nat := x.exponentField - 1

/-- The units in which magnitudes are counted, per one. -/
def unitsPerOne : Nat := Nat.pow 2 1074

/-- The magnitude of a finite number in units of 2 ^ (-1074). -/
def units (x : Binary64) : Nat := x.significand * Nat.pow 2 x.scale

def isZero (x : Binary64) : Bool := x.units == 0

def infiniteMagnitude : Nat := 2047 * hidden

/-- The number with a sign and a magnitude pattern, infinite from there on. -/
def ofMagnitude (negative : Bool) (magnitude : Nat) : Binary64 :=
  ⟨UInt64.ofNat (min magnitude infiniteMagnitude + if negative then signWeight else 0)⟩

/-- The same number with the other sign. -/
def neg (x : Binary64) : Binary64 := ⟨x.bits ^^^ 0x8000000000000000⟩

/-- The whole number nearest to a quotient; of two equally near, the even one. -/
def roundedQuotient (num den : Nat) : Nat :=
  let floor := num / den
  let twice := 2 * (num % den)
  if twice < den then floor
  else if den < twice then floor + 1
  else floor + floor % 2

/-- The number nearest to a quotient. The significand takes the first fifty-three
bits of the quotient in units, or all of them if there are fewer; the pattern of
a carry out of it is that of the next power of two. -/
def ofRatio (negative : Bool) (num den : Nat) : Binary64 :=
  let scale := (num * unitsPerOne / den).log2 - 52
  let significand := roundedQuotient (num * unitsPerOne) (den * Nat.pow 2 scale)
  ofMagnitude negative (scale * hidden + significand)

/-- The number nearest to a whole number. -/
def ofNat (n : Nat) : Binary64 := ofRatio false n 1

/-- The number nearest to a power of ten. -/
def powerOfTen (k : Nat) : Binary64 := ofRatio false (Nat.pow 10 k) 1

def mul (x y : Binary64) : Binary64 :=
  ofRatio (x.negative != y.negative) (x.units * y.units) (unitsPerOne * unitsPerOne)

/-- The quotient of two finite numbers, the second of them not zero. -/
def div (x y : Binary64) : Binary64 :=
  ofRatio (x.negative != y.negative) x.units y.units

/-- The number nearest to `digits * 10 ^ exponent`. Exponents beyond the range of
the format are settled by the number of digits alone. -/
def ofDecimal (negative : Bool) (digits : Nat) (exponent : Int) : Binary64 :=
  let length := (Nat.toDigits 10 digits).length
  if digits = 0 ∨ length + exponent < -400 then ofMagnitude negative 0
  else if 400 < length + exponent then ofMagnitude negative infiniteMagnitude
  else if exponent < 0 then ofRatio negative digits (Nat.pow 10 exponent.natAbs)
  else ofRatio negative (digits * Nat.pow 10 exponent.toNat) 1

/-- The whole number of 32 bits nearest to zero's side of a number: the fraction
is cut off, and what lies outside of the range becomes its nearer end. -/
def clampedUInt32 (x : Binary64) : UInt32 :=
  if x.isNaN || x.negative then 0
  else if x.isFinite then UInt32.ofNat (min (x.units / unitsPerOne) (UInt32.size - 1))
  else 0xFFFFFFFF

example : (ofRatio false 1 10).bits = 0x3FB999999999999A := by decide +kernel

example : (ofRatio true 0 1).bits = 0x8000000000000000 := by decide +kernel

example : (ofNat (UInt64.size - 1)).bits = 0x43F0000000000000 := by decide +kernel

example : (ofDecimal false 17976931348623158 292).bits = 0x7FEFFFFFFFFFFFFF := by decide +kernel

example : (ofDecimal false 5 (-324)).bits = 1 := by decide +kernel

example : (ofDecimal false 1 999).isFinite = false := by decide +kernel

end Binary64

end DeviceTwin
