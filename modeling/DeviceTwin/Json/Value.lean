/-
JSON values: trees with their numbers and strings understood and their objects
turned into tables, in which the last member of a key counts and the keys are in
order. A value has a bounded number of levels.
-/
import DeviceTwin.Json.Reader
import DeviceTwin.Json.Number

namespace DeviceTwin.Json

/-- A JSON value. -/
inductive Value
  | null
  | boolean (b : Bool)
  | number (n : Number)
  | string (s : String)
  | array (elements : List Value)
  | object (members : List (String × Value))

/-- Enters a member into a table whose keys are in order; a key that is there
already gets the new value. -/
def put (key : String) (value : Value) : List (String × Value) → List (String × Value)
  | [] => [(key, value)]
  | (k, v) :: rest =>
      if key < k then (key, value) :: (k, v) :: rest
      else if key = k then (key, value) :: rest
      else (k, v) :: put key value rest

/-- The table of a list of members, of which the last of each key counts. -/
def table (members : List (String × Value)) : List (String × Value) :=
  members.foldl (fun entries member => put member.1 member.2 entries) []

/-- The member of an object under a key. -/
def Value.get? (key : String) : Value → Option Value
  | .object members => members.lookup key
  | _ => none

def Value.object? : Value → Option Value
  | .object members => some (.object members)
  | _ => none

/-- A value that is a truth value. -/
def Value.boolean? : Value → Option Bool
  | .boolean b => some b
  | _ => none

def Value.number? : Value → Option Number
  | .number n => some n
  | _ => none

/-- The text of a string: a unit from the upper half of the surrogates has to be
followed by one from the lower half, and no other may stand anywhere. -/
def textOf? : List Piece → Option (List Char)
  | [] => some []
  | .char c :: rest => (textOf? rest).map (c :: ·)
  | .unit high :: .unit low :: rest =>
      if 0xD800 ≤ high ∧ high < 0xDC00 then
        if 0xDC00 ≤ low ∧ low < 0xE000 then do
          let c ← Text.codePoint? (0x10000 + (high - 0xD800) * 0x400 + (low - 0xDC00))
          (textOf? rest).map (c :: ·)
        else none
      else do
        let c ← Text.codePoint? high
        (textOf? (.unit low :: rest)).map (c :: ·)
  | .unit value :: rest => do
      let c ← Text.codePoint? value
      (textOf? rest).map (c :: ·)

/-- The string of a sequence of pieces. -/
def stringOf? (pieces : List Piece) : Option String := (textOf? pieces).map String.ofList

mutual

/-- The value of a tree with at most the given number of levels. -/
def Tree.value? : Nat → Tree → Option Value
  | _, .null => some .null
  | _, .boolean b => some (.boolean b)
  | _, .numeral n => n.number?.map .number
  | _, .text pieces => (stringOf? pieces).map .string
  | 0, .array _ => none
  | levels + 1, .array elements => (values? levels elements).map .array
  | 0, .object _ => none
  | levels + 1, .object members => (members? levels members).map fun ms => .object (table ms)

/-- The values of a list of trees. -/
def values? : Nat → List Tree → Option (List Value)
  | _, [] => some []
  | levels, tree :: rest => do
      let value ← tree.value? levels
      (values? levels rest).map (value :: ·)

/-- The members of an object, in the order of the text. -/
def members? : Nat → List (List Piece × Tree) → Option (List (String × Value))
  | _, [] => some []
  | levels, (key, tree) :: rest => do
      let key ← stringOf? key
      let value ← tree.value? levels
      (members? levels rest).map ((key, value) :: ·)

end

/-- The number of levels a document may have. -/
def maxLevels : Nat := 127

def Value.read? (s : String) : Option Value := (Tree.read? s).bind (·.value? maxLevels)

end DeviceTwin.Json
