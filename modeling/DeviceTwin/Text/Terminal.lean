/-
Texts that do nothing to a terminal: the control characters that could move it or
change how it writes are shown by their numbers.
-/
import DeviceTwin.Text.Quoted

namespace DeviceTwin.Text

/-- The controls of one byte that steer a terminal. -/
def steering : List Char := ['\x07', '\x08', '\x0c', '\x1b', '\x7f']

/-- A number below 256 in two hexadecimal digits. -/
def twoDigits (n : Nat) : List Char := [Nat.digitChar (n / 16), Nat.digitChar (n % 16)]

/-- A character as it stands on a terminal. -/
def terminalChar (c : Char) : List Char :=
  if steering.contains c then ['\\', 'x'] ++ twoDigits c.toNat
  else if 0x80 ≤ c.toNat && c.toNat ≤ 0x9F then
    ['\\', 'u', '\x7b'] ++ hexadecimal c.toNat ++ ['\x7d']
  else [c]

/-- A text as it stands on a terminal. -/
def forTerminal (s : String) : String := String.ofList (s.toList.flatMap terminalChar)

example : forTerminal "a\x1b[31m\x07\n" = "a\\x1b[31m\\x07\n" := by decide +kernel

example : forTerminal "\u009b" = "\\u\x7b9b\x7d" := by decide +kernel

end DeviceTwin.Text
