/-
TOML's strings: basic ones with escapes and literal ones without, on one line or
over several. Each function reads behind the opening marks, up to and with the
closing ones, and returns what is left of the text.
-/
import DeviceTwin.Text.Digits

namespace DeviceTwin.Toml

open DeviceTwin.Text

/-- The blanks that may stand within a line. -/
def isSpace (c : Char) : Bool := c == ' ' || c == '\t'

/-- Characters of a comment: no controls other than the tab. -/
def isVisible (c : Char) : Bool := c == '\t' || (0x20 ≤ c.toNat && c.toNat != 0x7F)

/-- Characters that stand for themselves in a basic string. -/
def isBasic (c : Char) : Bool := isVisible c && c != '"' && c != '\\'

/-- Characters that stand for themselves in a literal string. -/
def isLiteral (c : Char) : Bool := isVisible c && c != '\''

/-- The character that a letter after a backslash stands for. -/
def escape? : Char → Option Char
  | '"' => some '"'
  | '\\' => some '\\'
  | 'b' => some '\x08'
  | 'f' => some '\x0c'
  | 'n' => some '\n'
  | 'r' => some '\r'
  | 't' => some '\t'
  | _ => none

/-- Puts a character before a string that was read. -/
def prepend (c : Char) (read : Option (List Char × List Char)) :
    Option (List Char × List Char) :=
  read.map fun (text, rest) => (c :: text, rest)

/-- Reads a basic string of one line. -/
def readBasic : List Char → Option (List Char × List Char)
  | [] => none
  | '"' :: rest => some ([], rest)
  | '\\' :: 'u' :: a :: b :: c :: d :: rest => do
      prepend (← hexChar? [a, b, c, d]) (readBasic rest)
  | '\\' :: 'U' :: a :: b :: c :: d :: e :: f :: g :: h :: rest => do
      prepend (← hexChar? [a, b, c, d, e, f, g, h]) (readBasic rest)
  | '\\' :: letter :: rest => do prepend (← escape? letter) (readBasic rest)
  | c :: rest => if isBasic c then prepend c (readBasic rest) else none

/-- Reads a literal string of one line. -/
def readLiteral : List Char → Option (List Char × List Char)
  | [] => none
  | '\'' :: rest => some ([], rest)
  | c :: rest => if isLiteral c then prepend c (readLiteral rest) else none

/-- Whether a line ends here, perhaps after blanks. -/
def atLineEnd (cs : List Char) : Bool :=
  match cs.dropWhile isSpace with
  | '\n' :: _ => true
  | '\r' :: '\n' :: _ => true
  | _ => false

/-- Reads a basic string of several lines. A backslash at the end of a line takes
with it all blanks and line ends that follow; the flag says that this is going
on. One or two marks right before the closing three belong to the string. -/
def readBasicLines : Bool → List Char → Option (List Char × List Char)
  | _, [] => none
  | _, '"' :: '"' :: '"' :: '"' :: '"' :: rest => some (['"', '"'], rest)
  | _, '"' :: '"' :: '"' :: '"' :: rest => some (['"'], rest)
  | _, '"' :: '"' :: '"' :: rest => some ([], rest)
  | _, '"' :: rest => prepend '"' (readBasicLines false rest)
  | folding, '\r' :: '\n' :: rest =>
      if folding then readBasicLines true rest
      else prepend '\n' (readBasicLines false rest)
  | _, '\\' :: 'u' :: a :: b :: c :: d :: rest => do
      prepend (← hexChar? [a, b, c, d]) (readBasicLines false rest)
  | _, '\\' :: 'U' :: a :: b :: c :: d :: e :: f :: g :: h :: rest => do
      prepend (← hexChar? [a, b, c, d, e, f, g, h]) (readBasicLines false rest)
  | _, '\\' :: letter :: rest =>
      if atLineEnd (letter :: rest) then
        if letter = '\r' then readBasicLines true rest.tail
        else readBasicLines true rest
      else do prepend (← escape? letter) (readBasicLines false rest)
  | folding, c :: rest =>
      if folding && (isSpace c || c == '\n') then readBasicLines true rest
      else if c = '\n' || isBasic c then prepend c (readBasicLines false rest)
      else none
termination_by _ cs => cs.length

/-- Reads a literal string of several lines. One or two marks right before the
closing three belong to the string. -/
def readLiteralLines : List Char → Option (List Char × List Char)
  | [] => none
  | '\'' :: '\'' :: '\'' :: '\'' :: '\'' :: rest => some (['\'', '\''], rest)
  | '\'' :: '\'' :: '\'' :: '\'' :: rest => some (['\''], rest)
  | '\'' :: '\'' :: '\'' :: rest => some ([], rest)
  | '\r' :: '\n' :: rest => prepend '\n' (readLiteralLines rest)
  | c :: rest =>
      if c = '\n' || c = '\'' || isLiteral c then prepend c (readLiteralLines rest)
      else none

/-- A line end at the front of a string of several lines does not belong to it. -/
def skipLineEnd : List Char → List Char
  | '\n' :: rest => rest
  | '\r' :: '\n' :: rest => rest
  | cs => cs

/-- Reads a string of any kind with its opening marks. -/
def readString : List Char → Option (String × List Char)
  | '"' :: '"' :: '"' :: rest => named (readBasicLines false (skipLineEnd rest))
  | '"' :: rest => named (readBasic rest)
  | '\'' :: '\'' :: '\'' :: rest => named (readLiteralLines (skipLineEnd rest))
  | '\'' :: rest => named (readLiteral rest)
  | _ => none
where
  /-- The characters read, as a string. -/
  named (read : Option (List Char × List Char)) : Option (String × List Char) :=
    read.map fun (text, rest) => (String.ofList text, rest)

end DeviceTwin.Toml
