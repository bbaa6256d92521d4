/-
The shortest decimal of a number: of all decimals that read back as the number
one with the fewest digits, and of those the nearest, or the even one of two that
are equally near. Each finite number stands for an interval of reals, the ones
that round to it; on each decimal grid only the two neighbours of the number need
to be tried.
-/
import DeviceTwin.Binary64.Basic

namespace DeviceTwin

/-- A positive decimal: digits without a leading or trailing zero, times a power of ten. -/
structure Decimal where
  /-- The digits as one whole number. -/
  digits : Nat
  /-- The power of ten of the last digit. -/
  exponent : Int
  deriving DecidableEq

namespace Decimal

/-- Moves the zeros at the end of the digits into the exponent. -/
def stripped (digits : Nat) (exponent : Int) : Decimal :=
  let zeros := (Nat.toDigits 10 digits).reverse.takeWhile (· == '0') |>.length
  ⟨digits / Nat.pow 10 zeros, exponent + zeros⟩

end Decimal

namespace Binary64

/-- The reals that round to a number, in quarters of the unit 2 ^ (-1074). -/
structure Interval where
  centre : Nat
  /-- The end towards zero. -/
  low : Nat
  /-- The end away from zero. -/
  high : Nat
  /-- Whether the two ends round to the number too. -/
  closed : Bool

/-- The interval of a finite number. Below a power of two the numbers lie twice
as dense, and a tie goes to the even significand. -/
def interval (x : Binary64) : Interval where
  centre := 4 * x.units
  low := 4 * x.units - (if x.fraction = 0 ∧ 0 < x.scale then 1 else 2) * Nat.pow 2 x.scale
  high := 4 * x.units + 2 * Nat.pow 2 x.scale
  closed := x.significand % 2 == 0

/-- The quarters of a unit in one. -/
def quartersPerOne : Nat := 4 * unitsPerOne

/-- A point of the grid of a power of ten, in parts of a quarter unit that make
the point and the interval whole numbers: `count * 10 ^ exponent` and the factor
for the interval. -/
def gridPoint (count : Nat) (exponent : Int) : Nat × Nat :=
  if exponent < 0 then (count * quartersPerOne, Nat.pow 10 exponent.natAbs)
  else (count * Nat.pow 10 exponent.toNat * quartersPerOne, 1)

/-- Whether a point of a decimal grid lies in an interval. -/
def Interval.spans (i : Interval) (count : Nat) (exponent : Int) : Bool :=
  let (point, factor) := gridPoint count exponent
  if i.closed then i.low * factor ≤ point && point ≤ i.high * factor
  else i.low * factor < point && point < i.high * factor

/-- How many points of a decimal grid lie below the centre or on it. -/
def Interval.countBelow (i : Interval) (exponent : Int) : Nat :=
  if exponent < 0 then i.centre * Nat.pow 10 exponent.natAbs / quartersPerOne
  else i.centre / (Nat.pow 10 exponent.toNat * quartersPerOne)

/-- The nearer of the centre's two neighbours on a grid, the even one if both are
equally near. -/
def Interval.nearest (i : Interval) (count : Nat) (exponent : Int) : Nat :=
  let (below, factor) := gridPoint count exponent
  let (above, _) := gridPoint (count + 1) exponent
  let down := i.centre * factor - below
  let up := above - i.centre * factor
  if down < up then count else if up < down then count + 1 else count + count % 2

/-- The point of one decimal grid for an interval: that one of the centre's two
neighbours which lies inside, the nearest if both do. -/
def Interval.pointOn? (i : Interval) (exponent : Int) : Option Nat :=
  let count := i.countBelow exponent
  match i.spans count exponent, i.spans (count + 1) exponent with
  | true, true => some (i.nearest count exponent)
  | true, false => some count
  | false, true => some (count + 1)
  | false, false => none

/-- The decimal exponent of a positive number's first digit. -/
def leadingExponent (x : Binary64) : Int :=
  if unitsPerOne ≤ x.units then
    (Nat.toDigits 10 (x.units / unitsPerOne)).length - 1
  else
    -(Nat.toDigits 10 ((unitsPerOne - 1) / x.units)).length

/-- The first point found on grids of one digit, two digits and so on. -/
def shortestFrom (i : Interval) (leading : Int) : List Nat → Decimal
  | [] => ⟨i.countBelow (leading - 16), leading - 16⟩
  | places :: more =>
      match i.pointOn? (leading - places) with
      | some count => Decimal.stripped count (leading - places)
      | none => shortestFrom i leading more

/-- The shortest decimal that reads back as a positive finite number, and the
nearest of that length. Seventeen digits always suffice. -/
def shortest (x : Binary64) : Decimal :=
  shortestFrom x.interval x.leadingExponent (List.range 17)

/-- Positional notation up to sixteen digits before the point and five places
after it, scientific notation beyond, always with a sign in the exponent. -/
def digitText (d : Decimal) : List Char :=
  let digits := Nat.toDigits 10 d.digits
  let zeros (n : Nat) := List.replicate n '0'
  let point : Int := digits.length + d.exponent
  if 0 ≤ d.exponent ∧ point ≤ 16 then
    digits ++ zeros d.exponent.toNat ++ ['.', '0']
  else if 0 < point ∧ point ≤ 16 then
    digits.take point.toNat ++ ['.'] ++ digits.drop point.toNat
  else if -5 < point ∧ point ≤ 0 then
    ['0', '.'] ++ zeros point.natAbs ++ digits
  else
    let mantissa := match digits with
      | [] => []
      | [only] => [only]
      | lead :: more => lead :: '.' :: more
    let power := point - 1
    mantissa ++ ['e', if power < 0 then '-' else '+'] ++ Nat.toDigits 10 power.natAbs

/-- A number in JSON text: the shortest digits, with at least one place after the
point; a number that is not finite is `null`. -/
def text (x : Binary64) : List Char :=
  if !x.isFinite then ['n', 'u', 'l', 'l']
  else
    let magnitude := if x.isZero then ['0', '.', '0'] else digitText x.shortest
    if x.negative then '-' :: magnitude else magnitude

example : String.ofList (text ⟨0x4035800000000000⟩) = "21.5" := by decide +kernel

example : String.ofList (text ⟨0x43F0000000000000⟩) = "1.8446744073709552e+19" := by
  decide +kernel

example : String.ofList (text ⟨1⟩) = "5e-324" := by decide +kernel

example : String.ofList (text ⟨0x7FEFFFFFFFFFFFFF⟩) = "1.7976931348623157e+308" := by
  decide +kernel

example : String.ofList (text (ofDecimal true 1 (-5))) = "-0.00001" := by decide +kernel

example : String.ofList (text ⟨0x43118B54F22AEB03⟩) = "1234567890123456.8" := by decide +kernel

end Binary64

end DeviceTwin
