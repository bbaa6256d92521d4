/-
JSON values as text: on one line without blanks, or over several lines with two
more blanks at each level. Characters that are not ASCII stand for themselves.
-/
import DeviceTwin.Json.Value

namespace DeviceTwin.Json

/-- One character as it stands in a JSON string: the marks and the controls are
escaped, everything else is itself. -/
def stringChar (c : Char) : List Char :=
  if c = '"' then ['\\', '"']
  else if c = '\\' then ['\\', '\\']
  else if c = '\x08' then ['\\', 'b']
  else if c = '\x0c' then ['\\', 'f']
  else if c = '\n' then ['\\', 'n']
  else if c = '\r' then ['\\', 'r']
  else if c = '\t' then ['\\', 't']
  else if c.toNat < 0x20 then
    ['\\', 'u', '0', '0', Nat.digitChar (c.toNat / 16), Nat.digitChar (c.toNat % 16)]
  else [c]

def stringText (s : String) : List Char := '"' :: s.toList.flatMap stringChar ++ ['"']

def wholeText (n : Int) : List Char :=
  if n < 0 then '-' :: Nat.toDigits 10 n.natAbs else Nat.toDigits 10 n.natAbs

def Number.text : Number → List Char
  | .whole n => wholeText n
  | .real x => x.text

def booleanText (b : Bool) : List Char :=
  if b then ['t', 'r', 'u', 'e'] else ['f', 'a', 'l', 's', 'e']

mutual

/-- A value on one line. -/
def Value.compact : Value → List Char
  | .null => ['n', 'u', 'l', 'l']
  | .boolean b => booleanText b
  | .number n => n.text
  | .string s => stringText s
  | .array [] => ['[', ']']
  | .array (element :: rest) => '[' :: element.compact ++ compactElements rest
  | .object [] => ['\x7b', '\x7d']
  | .object ((key, value) :: rest) =>
      '\x7b' :: stringText key ++ ':' :: value.compact ++ compactMembers rest

/-- The elements after the first, and the bracket behind them. -/
def compactElements : List Value → List Char
  | [] => [']']
  | element :: rest => ',' :: element.compact ++ compactElements rest

/-- The members after the first, and the brace behind them. -/
def compactMembers : List (String × Value) → List Char
  | [] => ['\x7d']
  | (key, value) :: rest =>
      ',' :: stringText key ++ ':' :: value.compact ++ compactMembers rest

end

/-- A new line at a level. -/
def newLine (level : Nat) : List Char := '\n' :: List.replicate (2 * level) ' '

mutual

/-- A value over several lines, its own level given. -/
def Value.spread : Nat → Value → List Char
  | _, .null => ['n', 'u', 'l', 'l']
  | _, .boolean b => booleanText b
  | _, .number n => n.text
  | _, .string s => stringText s
  | _, .array [] => ['[', ']']
  | level, .array (element :: rest) =>
      '[' :: newLine (level + 1) ++ element.spread (level + 1) ++ spreadElements level rest
  | _, .object [] => ['\x7b', '\x7d']
  | level, .object ((key, value) :: rest) =>
      '\x7b' :: newLine (level + 1) ++ stringText key ++ [':', ' '] ++
        value.spread (level + 1) ++ spreadMembers level rest

/-- The elements after the first, and the bracket on a line of its own. -/
def spreadElements : Nat → List Value → List Char
  | level, [] => newLine level ++ [']']
  | level, element :: rest =>
      ',' :: newLine (level + 1) ++ element.spread (level + 1) ++ spreadElements level rest

/-- The members after the first, and the brace on a line of its own. -/
def spreadMembers : Nat → List (String × Value) → List Char
  | level, [] => newLine level ++ ['\x7d']
  | level, (key, value) :: rest =>
      ',' :: newLine (level + 1) ++ stringText key ++ [':', ' '] ++
        value.spread (level + 1) ++ spreadMembers level rest

end

/-- The text of a value on one line. -/
def Value.write (v : Value) : String := String.ofList v.compact

/-- The text of a value over several lines. -/
def Value.writeSpread (v : Value) : String := String.ofList (v.spread 0)

end DeviceTwin.Json
