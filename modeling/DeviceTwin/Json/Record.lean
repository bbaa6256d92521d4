/-
Reading a JSON text as a record of known fields. The record is an object, whose
unknown members are passed over unread and whose known ones may come only once,
or an array of its fields in their order. Each field is read by what it holds.
-/
import DeviceTwin.Json.Value

namespace DeviceTwin.Json

/-- The text of a tree that is a string. -/
def Tree.string? : Tree → Option String
  | .text pieces => stringOf? pieces
  | _ => none

/-- The number of a tree that is one. -/
def Tree.number? : Tree → Option Number
  | .numeral n => n.number?
  | _ => none

/-- The binary64 number of a tree that is a number. -/
def Tree.real? (tree : Tree) : Option Binary64 := tree.number?.map (·.toBinary64)

/-- The whole number of a tree that fits into 64 bits without a sign. A number
with a point or an exponent never does. -/
def Tree.natural? (tree : Tree) : Option UInt64 :=
  match tree.number? with
  | some (.whole (.ofNat n)) => some (UInt64.ofNat n)
  | _ => none

/-- The trees of the members with a key. -/
def valuesOf (key : String) (members : List (String × Tree)) : List Tree :=
  members.filterMap fun member => if member.1 = key then some member.2 else none

/-- The only tree of a list, if there is any. -/
def atMostOne? : List Tree → Option (Option Tree)
  | [] => some none
  | [tree] => some (some tree)
  | _ => none

/-- The fields of a record, in the order of their names, each with its tree if it
is there. `none` if the tree is no such record. -/
def Tree.fields? (names : List String) : Tree → Option (List (Option Tree))
  | .object members => do
      let members ← members.mapM fun member => (stringOf? member.1).map (·, member.2)
      names.mapM fun name => atMostOne? (valuesOf name members)
  | .array elements =>
      if elements.length ≤ names.length then
        some (elements.map some ++ List.replicate (names.length - elements.length) none)
      else none
  | _ => none

end DeviceTwin.Json
