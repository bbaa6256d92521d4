/-
Texts in quotation marks, written so that every character can be told from the
next: the marks and backslashes inside are escaped, and so is whatever is
invisible or would join the character before it.
-/
import DeviceTwin.Text.Unprintable
import DeviceTwin.Text.Extending

namespace DeviceTwin.Text

/-- The lower-case hexadecimal digits of a number. -/
def hexadecimal (n : Nat) : List Char := Nat.toDigits 16 n

/-- The sound marks of halfwidth kana, which extend a letter and yet take a place
of their own. -/
def soundMarks : CodeRanges := [(0xFF9E, 0xFF9F)]

/-- Whether a character is shown by its number inside quotation marks. -/
def isHidden (c : Char) : Bool :=
  extending.contains c && !soundMarks.contains c || unprintable.contains c || fillers.contains c

/-- One character as it stands inside quotation marks. -/
def quotedChar (c : Char) : List Char :=
  if c = '"' then ['\\', '"']
  else if c = '\\' then ['\\', '\\']
  else if c = '\n' then ['\\', 'n']
  else if c = '\r' then ['\\', 'r']
  else if c = '\t' then ['\\', 't']
  else if c = '\x00' then ['\\', '0']
  else if isHidden c then ['\\', 'u', '\x7b'] ++ hexadecimal c.toNat ++ ['\x7d']
  else [c]

def quoted (s : String) : String :=
  String.ofList ('"' :: s.toList.flatMap quotedChar ++ ['"'])

example : quoted "5\x00" = "\"5\\0\"" := by decide +kernel

example : quoted "a\"b" = "\"a\\\"b\"" := by decide +kernel

example : quoted "\uff9e\u1160" = "\"\uff9e\\u\x7b1160\x7d\"" := by decide +kernel

example : quoted "\u0301x" = "\"\\u\x7b301\x7dx\"" := by decide +kernel

end DeviceTwin.Text
