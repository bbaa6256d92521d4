/-
TOML's numbers, dates and times. Each function reads one from the front of a
text and returns what is left, or `none` if there is none of its kind.
-/
import DeviceTwin.Toml.Value
import DeviceTwin.Text.Digits

namespace DeviceTwin.Toml

open DeviceTwin.Text

/-- Reads digits, between any two of which one underscore may stand. -/
def readGrouped (digit : Char → Option Nat) : List Char → List Nat × List Char
  | [] => ([], [])
  | '_' :: c :: rest =>
      match digit c with
      | some d => (d :: (readGrouped digit rest).1, (readGrouped digit rest).2)
      | none => ([], '_' :: c :: rest)
  | c :: rest =>
      match digit c with
      | some d => (d :: (readGrouped digit rest).1, (readGrouped digit rest).2)
      | none => ([], c :: rest)

/-- Reads a digit and those that follow it. -/
def readDigits (digit : Char → Option Nat) (cs : List Char) :
    Option (List Nat × List Char) :=
  match cs with
  | c :: _ => if (digit c).isSome then some (readGrouped digit cs) else none
  | [] => none

/-- Reads the digits of a decimal number, a zero only if it is the whole of them. -/
def readWhole : List Char → Option (List Nat × List Char)
  | '0' :: rest => some ([0], rest)
  | cs => readDigits digit? cs

/-- Reads a sign, if there is one; `true` for a minus. -/
def readSign : List Char → Bool × List Char
  | '-' :: rest => (true, rest)
  | '+' :: rest => (false, rest)
  | cs => (false, cs)

/-- A whole number that 64 bits with a sign can hold. -/
def integer? (n : Int) : Option Value :=
  if -0x8000000000000000 ≤ n ∧ n < 0x8000000000000000 then some (.integer n) else none

/-- Reads a whole number in a base other than ten, behind the letter of the base. -/
def readBased (base : Nat) (cs : List Char) : Option (Value × List Char) := do
  let digit := fun c => (hexDigit? c).filter (· < base)
  let (digits, rest) ← readDigits digit cs
  some (← integer? (ofDigits base digits), rest)

/-- Reads a whole number. Only a decimal one may have a sign. -/
def readInteger : List Char → Option (Value × List Char)
  | '0' :: 'x' :: rest => readBased 16 rest
  | '0' :: 'o' :: rest => readBased 8 rest
  | '0' :: 'b' :: rest => readBased 2 rest
  | cs => do
      let (negative, rest) := readSign cs
      let (digits, rest) ← readWhole rest
      let n : Int := ofDigits 10 digits
      some (← integer? (if negative then -n else n), rest)

def readFraction : List Char → Option (List Nat × List Char)
  | '.' :: rest => readDigits digit? rest
  | _ => none

def readExponent : List Char → Option (Int × List Char)
  | c :: rest =>
      if c = 'e' ∨ c = 'E' then do
        let (negative, rest) := readSign rest
        let (digits, rest) ← readDigits digit? rest
        let n : Int := ofDigits 10 digits
        some (if negative then -n else n, rest)
      else none
  | [] => none

def readSpecial (negative : Bool) : List Char → Option (Value × List Char)
  | 'i' :: 'n' :: 'f' :: rest =>
      some (.real (Binary64.ofMagnitude negative Binary64.infiniteMagnitude), rest)
  | 'n' :: 'a' :: 'n' :: rest =>
      some (.real ⟨if negative then 0xFFF8000000000000 else 0x7FF8000000000000⟩, rest)
  | _ => none

/-- Reads a number with a point, an exponent or both. A positive one beyond the
greatest binary64 number is refused. -/
def readPlainReal (negative : Bool) (cs : List Char) : Option (Value × List Char) := do
  let (whole, rest) ← readWhole cs
  let real := fun (fraction : List Nat) (exponent : Int) (rest : List Char) =>
    let x := Binary64.ofDecimal negative (ofDigits 10 (whole ++ fraction))
      (exponent - fraction.length)
    if x.isFinite || x.negative then some (Value.real x, rest) else none
  match readExponent rest with
  | some (exponent, rest) => real [] exponent rest
  | none => do
      let (fraction, rest) ← readFraction rest
      match readExponent rest with
      | some (exponent, rest) => real fraction exponent rest
      | none => real fraction 0 rest

/-- Reads a number that is not whole. -/
def readReal (cs : List Char) : Option (Value × List Char) :=
  let (negative, rest) := readSign cs
  (readPlainReal negative rest).orElse fun _ => readSpecial negative rest

/-- Reads a number of two digits within bounds. -/
def readTwo (low high : Nat) : List Char → Option (Nat × List Char)
  | a :: b :: rest => do
      let n := ofDigits 10 [← digit? a, ← digit? b]
      if low ≤ n ∧ n ≤ high then some (n, rest) else none
  | _ => none

def readChar (c : Char) : List Char → Option (List Char)
  | [] => none
  | first :: rest => if first = c then some rest else none

/-- The number of days in a month of the Gregorian calendar. -/
def daysIn (year month : Nat) : Nat :=
  if month = 2 then
    if year % 4 = 0 ∧ (year % 100 ≠ 0 ∨ year % 400 = 0) then 29 else 28
  else if month = 4 ∨ month = 6 ∨ month = 9 ∨ month = 11 then 30
  else 31

def readDate (cs : List Char) : Option (List Char) := do
  let (century, rest) ← readTwo 0 99 cs
  let (year, rest) ← readTwo 0 99 rest
  let rest ← readChar '-' rest
  let (month, rest) ← readTwo 1 12 rest
  let rest ← readChar '-' rest
  let (_, rest) ← readTwo 1 (daysIn (century * 100 + year) month) rest
  some rest

/-- What follows the fraction of a second, if there is one. -/
def skipSecondFraction (cs : List Char) : List Char :=
  match cs with
  | '.' :: rest =>
      match leadingDigits rest with
      | ([], _) => cs
      | (_, rest) => rest
  | _ => cs

/-- Reads a time of day. A second may be the sixtieth. -/
def readTime (cs : List Char) : Option (List Char) := do
  let (_, rest) ← readTwo 0 23 cs
  let rest ← readChar ':' rest
  let (_, rest) ← readTwo 0 59 rest
  let rest ← readChar ':' rest
  let (_, rest) ← readTwo 0 60 rest
  some (skipSecondFraction rest)

/-- Reads the offset of a time from the prime meridian's, if there is one. -/
def readOffset : List Char → Option (List Char)
  | [] => some []
  | c :: rest =>
      if c = 'Z' ∨ c = 'z' then some rest
      else if c = '+' ∨ c = '-' then do
        let (_, rest) ← readTwo 0 23 rest
        let rest ← readChar ':' rest
        let (_, rest) ← readTwo 0 59 rest
        some rest
      else some (c :: rest)

/-- Reads the time behind a date, if there is one. -/
def readTimeOfDate (cs : List Char) : Option (List Char) :=
  match cs with
  | c :: rest =>
      if c = 'T' ∨ c = 't' ∨ c = ' ' then
        match readTime rest with
        | some rest => readOffset rest
        | none => some cs
      else some cs
  | [] => some []

/-- Reads a date, a time, or both. -/
def readMoment (cs : List Char) : Option (Value × List Char) :=
  match readDate cs with
  | some rest => (readTimeOfDate rest).map (Value.moment, ·)
  | none => (readTime cs).map (Value.moment, ·)

def readBoolean : List Char → Option (Value × List Char)
  | 't' :: 'r' :: 'u' :: 'e' :: rest => some (.boolean true, rest)
  | 'f' :: 'a' :: 'l' :: 's' :: 'e' :: rest => some (.boolean false, rest)
  | _ => none

/-- Reads a value that is no string, array or table. -/
def readScalar (cs : List Char) : Option (Value × List Char) :=
  (readBoolean cs).orElse fun _ =>
    (readMoment cs).orElse fun _ =>
      (readReal cs).orElse fun _ => readInteger cs

end DeviceTwin.Toml
