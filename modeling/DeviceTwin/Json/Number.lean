/-
The numbers that JSON numerals stand for. Whole numbers of 64 bits, with sign or
without, are exact. Any other numeral is a binary64 number: the leading digits
that fit into 64 bits, as a number, times or divided by a power of ten, each step
rounded. Too large a number is none at all, too small a one is zero.
-/
import DeviceTwin.Json.Tree
import DeviceTwin.Text.Digits
import DeviceTwin.Binary64.Shortest

namespace DeviceTwin.Json

/-- A number: exact if it is whole and fits into 64 bits. -/
inductive Number
  | whole (n : Int)
  | real (x : Binary64)
  deriving DecidableEq

def Number.toBinary64 : Number → Binary64
  | .whole n => if n < 0 then (Binary64.ofNat n.natAbs).neg else Binary64.ofNat n.natAbs
  | .real x => x

/-- Leading digits with the power of ten that they are to be multiplied by. -/
structure Scaled where
  /-- The digits gathered, below 2 ^ 64. -/
  significand : Nat
  exponent : Int

/-- Gathers digits for as long as they fit into 64 bits, and counts the others. -/
def gather : Nat → List Nat → Nat × Nat
  | significand, [] => (significand, 0)
  | significand, d :: rest =>
      if 10 * significand + d < UInt64.size then gather (10 * significand + d) rest
      else (significand, rest.length + 1)

/-- Gathers digits after the point: each one that fits lowers the power of ten,
the others are dropped. -/
def gatherFraction : Scaled → List Nat → Scaled
  | s, [] => s
  | s, d :: rest =>
      if 10 * s.significand + d < UInt64.size then
        gatherFraction ⟨10 * s.significand + d, s.exponent - 1⟩ rest
      else s

/-- Divides by 10 ^ 308 a number of times, or until nothing is left. -/
def shrink : Nat → Binary64 → Binary64
  | 0, x => x
  | times + 1, x =>
      if x.isZero then x else shrink times (x.div (Binary64.powerOfTen 308))

/-- The binary64 number for gathered digits, `none` if it is too large. -/
def Scaled.magnitude? (s : Scaled) : Option Binary64 :=
  let x := Binary64.ofNat s.significand
  if s.significand = 0 then some x
  else if s.exponent < 0 then
    let x := shrink ((s.exponent.natAbs - 1) / 308) x
    if x.isZero then some x
    else some (x.div (Binary64.powerOfTen ((s.exponent.natAbs - 1) % 308 + 1)))
  else if 308 < s.exponent then none
  else
    let x := x.mul (Binary64.powerOfTen s.exponent.toNat)
    if x.isFinite then some x else none

def Numeral.scaled (n : Numeral) : Scaled :=
  let (significand, dropped) := gather 0 n.whole
  let s := gatherFraction ⟨significand, dropped⟩ n.fraction
  match n.exponent with
  | none => s
  | some (negative, digits) =>
      let power := Text.ofDigits 10 digits
      { s with exponent := if negative then s.exponent - power else s.exponent + power }

def Numeral.real? (n : Numeral) : Option Binary64 :=
  n.scaled.magnitude?.map fun x => if n.negative then x.neg else x

/-- The number of a numeral. Without a point or an exponent it is whole if it
fits; a negative zero has no whole number. -/
def Numeral.number? (n : Numeral) : Option Number :=
  let magnitude := Text.ofDigits 10 n.whole
  if n.fraction = [] ∧ n.exponent = none ∧
      (if n.negative then 0 < magnitude ∧ magnitude ≤ 0x8000000000000000
      else magnitude < UInt64.size) then
    some (.whole (if n.negative then -(magnitude : Int) else magnitude))
  else n.real?.map .real

end DeviceTwin.Json
