/-
Digits and the numbers and characters that they name.
-/
namespace DeviceTwin.Text

def digit? (c : Char) : Option Nat :=
  if '0' ≤ c ∧ c ≤ '9' then some (c.toNat - '0'.toNat) else none

/-- The value of a hexadecimal digit, of either case. -/
def hexDigit? (c : Char) : Option Nat :=
  if '0' ≤ c ∧ c ≤ '9' then some (c.toNat - '0'.toNat)
  else if 'a' ≤ c ∧ c ≤ 'f' then some (c.toNat - 'a'.toNat + 10)
  else if 'A' ≤ c ∧ c ≤ 'F' then some (c.toNat - 'A'.toNat + 10)
  else none

/-- The number of a digit sequence in a base. -/
def ofDigits (base : Nat) (digits : List Nat) : Nat :=
  digits.foldl (fun n d => base * n + d) 0

/-- The character of a code point, if it is one. -/
def codePoint? (n : Nat) : Option Char :=
  if h : n.isValidChar then some (Char.ofNatAux n h) else none

/-- The decimal digits at the front of a text, perhaps none, and what follows. -/
def leadingDigits : List Char → List Nat × List Char
  | [] => ([], [])
  | c :: rest =>
      match digit? c with
      | some d => (d :: (leadingDigits rest).1, (leadingDigits rest).2)
      | none => ([], c :: rest)

/-- The whole number that a text writes in decimal digits, one at least. -/
def decimal? (cs : List Char) : Option Nat :=
  match leadingDigits cs with
  | ([], _) => none
  | (digits, []) => some (ofDigits 10 digits)
  | _ => none

/-- The whole number that a text writes in decimal digits, with or without a plus. -/
def unsigned? : List Char → Option Nat
  | '+' :: rest => decimal? rest
  | cs => decimal? cs

/-- The character whose code point hexadecimal digits give. -/
def hexChar? (digits : List Char) : Option Char := do
  codePoint? (ofDigits 16 (← digits.mapM hexDigit?))

/-- Whether a text is an exponent: digits, with or without a sign. -/
def isExponent : List Char → Bool
  | '+' :: rest => (decimal? rest).isSome
  | '-' :: rest => (decimal? rest).isSome
  | cs => (decimal? cs).isSome

/-- Whether a text is a decimal number without a sign: digits with at most one point
among them, and perhaps an exponent. -/
def isReal (cs : List Char) : Bool :=
  let (whole, rest) := leadingDigits cs
  let (fraction, rest) := match rest with
    | '.' :: rest => leadingDigits rest
    | rest => ([], rest)
  !(whole ++ fraction).isEmpty &&
    match rest with
    | [] => true
    | e :: rest => (e == 'e' || e == 'E') && isExponent rest

theorem ofDigits_append_singleton (base : Nat) (digits : List Nat) (d : Nat) :
    ofDigits base (digits ++ [d]) = base * ofDigits base digits + d := by
  simp [ofDigits]

end DeviceTwin.Text
