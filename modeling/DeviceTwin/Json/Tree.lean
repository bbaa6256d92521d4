/-
JSON texts as trees: what the grammar alone says of a text. Numbers are still
digits and strings still escapes, so that a reader of a tree can pass over the
parts it has no use for without asking what they mean.
-/
namespace DeviceTwin.Json

/-- A part of a string: a character, or a unit of UTF-16 written as `\uXXXX`. -/
inductive Piece
  | char (c : Char)
  | unit (value : Nat)
  deriving DecidableEq

/-- A number as it is written. -/
structure Numeral where
  /-- Whether a minus sign stands in front. -/
  negative : Bool
  whole : List Nat
  fraction : List Nat
  /-- The sign and the digits of the exponent. -/
  exponent : Option (Bool × List Nat)
  deriving DecidableEq

/-- A JSON text, its members and elements in the order of the text. -/
inductive Tree
  | null
  | boolean (b : Bool)
  | numeral (n : Numeral)
  | text (pieces : List Piece)
  | array (elements : List Tree)
  | object (members : List (List Piece × Tree))

end DeviceTwin.Json
