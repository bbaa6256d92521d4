/-
Reading a JSON text into a tree, after RFC 8259 and nothing more: the four blank
characters between tokens, no comments, no comma at the end of a list, no byte
order mark. Each function takes a text from its front and returns what is left.
-/
import DeviceTwin.Json.Tree
import DeviceTwin.Text.Digits

namespace DeviceTwin.Json

open DeviceTwin.Text

/-- The characters that may stand between two tokens. -/
def isSpace (c : Char) : Bool := c == ' ' || c == '\t' || c == '\n' || c == '\r'

/-- A text without the blanks at its front. -/
def skipSpace (cs : List Char) : List Char := cs.dropWhile isSpace

/-- The unit that four hexadecimal digits stand for. -/
def hexUnit? (a b c d : Char) : Option Nat := do
  some (ofDigits 16 [← hexDigit? a, ← hexDigit? b, ← hexDigit? c, ← hexDigit? d])

/-- The character that a letter after a backslash stands for. -/
def escape? : Char → Option Char
  | '"' => some '"'
  | '\\' => some '\\'
  | '/' => some '/'
  | 'b' => some '\x08'
  | 'f' => some '\x0c'
  | 'n' => some '\n'
  | 'r' => some '\r'
  | 't' => some '\t'
  | _ => none

/-- Reads a string behind its opening mark, up to and with the closing one. -/
def readPieces : List Char → Option (List Piece × List Char)
  | [] => none
  | '"' :: rest => some ([], rest)
  | '\\' :: 'u' :: a :: b :: c :: d :: rest => do
      let value ← hexUnit? a b c d
      let (pieces, rest) ← readPieces rest
      some (.unit value :: pieces, rest)
  | '\\' :: letter :: rest => do
      let c ← escape? letter
      let (pieces, rest) ← readPieces rest
      some (.char c :: pieces, rest)
  | c :: rest =>
      if c.toNat < 0x20 then none
      else do
        let (pieces, rest) ← readPieces rest
        some (.char c :: pieces, rest)

def readDigits (cs : List Char) : Option (List Nat × List Char) :=
  match leadingDigits cs with
  | ([], _) => none
  | read => some read

/-- Reads the digits before the point: a zero alone, or digits that begin otherwise. -/
def readWhole : List Char → Option (List Nat × List Char)
  | '0' :: rest => some ([0], rest)
  | cs => readDigits cs

/-- Reads the digits after the point, if there is a point. -/
def readFraction : List Char → Option (List Nat × List Char)
  | '.' :: rest => readDigits rest
  | cs => some ([], cs)

/-- Reads the digits of an exponent and the sign before them. -/
def readSigned : List Char → Option ((Bool × List Nat) × List Char)
  | '-' :: rest => do
      let (digits, rest) ← readDigits rest
      some ((true, digits), rest)
  | '+' :: rest => do
      let (digits, rest) ← readDigits rest
      some ((false, digits), rest)
  | cs => do
      let (digits, rest) ← readDigits cs
      some ((false, digits), rest)

/-- Reads an exponent, if there is one. -/
def readExponent : List Char → Option (Option (Bool × List Nat) × List Char)
  | c :: rest =>
      if c = 'e' ∨ c = 'E' then do
        let (exponent, rest) ← readSigned rest
        some (some exponent, rest)
      else some (none, c :: rest)
  | [] => some (none, [])

def readMagnitude (negative : Bool) (cs : List Char) : Option (Numeral × List Char) := do
  let (whole, rest) ← readWhole cs
  let (fraction, rest) ← readFraction rest
  let (exponent, rest) ← readExponent rest
  some (⟨negative, whole, fraction, exponent⟩, rest)

def readNumeral : List Char → Option (Numeral × List Char)
  | '-' :: rest => readMagnitude true rest
  | cs => readMagnitude false cs

mutual

/-- Reads one value and the blanks before it. -/
def readValue : Nat → List Char → Option (Tree × List Char)
  | 0, _ => none
  | fuel + 1, cs =>
      match skipSpace cs with
      | '\x7b' :: rest =>
          match skipSpace rest with
          | '\x7d' :: rest => some (.object [], rest)
          | rest => do
              let (members, rest) ← readMembers fuel rest
              some (.object members, rest)
      | '[' :: rest =>
          match skipSpace rest with
          | ']' :: rest => some (.array [], rest)
          | rest => do
              let (elements, rest) ← readElements fuel rest
              some (.array elements, rest)
      | '"' :: rest => do
          let (pieces, rest) ← readPieces rest
          some (.text pieces, rest)
      | 'n' :: 'u' :: 'l' :: 'l' :: rest => some (.null, rest)
      | 't' :: 'r' :: 'u' :: 'e' :: rest => some (.boolean true, rest)
      | 'f' :: 'a' :: 'l' :: 's' :: 'e' :: rest => some (.boolean false, rest)
      | cs => do
          let (numeral, rest) ← readNumeral cs
          some (.numeral numeral, rest)

/-- Reads the elements of an array, at least one, and the bracket behind them. -/
def readElements : Nat → List Char → Option (List Tree × List Char)
  | 0, _ => none
  | fuel + 1, cs => do
      let (element, rest) ← readValue fuel cs
      match skipSpace rest with
      | ',' :: rest => do
          let (elements, rest) ← readElements fuel rest
          some (element :: elements, rest)
      | ']' :: rest => some ([element], rest)
      | _ => none

/-- Reads the members of an object, at least one, and the brace behind them. -/
def readMembers : Nat → List Char → Option (List (List Piece × Tree) × List Char)
  | 0, _ => none
  | fuel + 1, cs =>
      match skipSpace cs with
      | '"' :: rest => do
          let (key, rest) ← readPieces rest
          match skipSpace rest with
          | ':' :: rest => do
              let (value, rest) ← readValue fuel rest
              match skipSpace rest with
              | ',' :: rest => do
                  let (members, rest) ← readMembers fuel rest
                  some ((key, value) :: members, rest)
              | '\x7d' :: rest => some ([(key, value)], rest)
              | _ => none
          | _ => none
      | _ => none

end

/-- Reads a whole text as one value with blanks around it. Every second call
takes a character, so twice the length bounds how deep the calls go. -/
def Tree.ofChars? (cs : List Char) : Option Tree :=
  match readValue (2 * cs.length + 2) cs with
  | some (tree, rest) => if skipSpace rest = [] then some tree else none
  | none => none

/-- The tree of a JSON text, if it is one. -/
def Tree.read? (s : String) : Option Tree := Tree.ofChars? s.toList

end DeviceTwin.Json
