/-
Reading a TOML document, line by line. A value may go on over several lines if
it is an array or a string of that kind; brackets and braces nest to a bounded
depth, and so do the parts of a key.
-/
import DeviceTwin.Toml.Scalar
import DeviceTwin.Toml.Quoted

namespace DeviceTwin.Toml

/-- The number of arrays and inline tables that may stand in one another. -/
def maxNesting : Nat := 79

/-- The number of parts that a key may have. -/
def maxParts : Nat := 79

/-- A key, of one part or of several with dots between them. -/
structure Key where
  /-- The parts before the last. -/
  path : List String
  last : String

/-- A text without the blanks of the line at its front. -/
def skipSpace (cs : List Char) : List Char := cs.dropWhile isSpace

/-- Passes over blanks, line ends and comments; the flag says whether a comment
is going on. A comment has to end with its line. -/
def skipLines : Bool → List Char → Option (List Char)
  | false, [] => some []
  | true, [] => none
  | _, '\n' :: rest => skipLines false rest
  | _, '\r' :: '\n' :: rest => skipLines false rest
  | false, '#' :: rest => skipLines true rest
  | false, c :: rest => if isSpace c then skipLines false rest else some (c :: rest)
  | true, c :: rest => if isVisible c then skipLines true rest else none

/-- Passes over the end of a line, or of the text, and the blanks and the comment
that may stand before it. -/
def readLineEnd (cs : List Char) : Option (List Char) :=
  let rest := match skipSpace cs with
    | '#' :: rest => rest.dropWhile isVisible
    | rest => rest
  match rest with
  | [] => some []
  | '\n' :: rest => some rest
  | '\r' :: '\n' :: rest => some rest
  | _ => none

/-- Characters of a part of a key that stands without quotation marks. -/
def isBare (c : Char) : Bool :=
  ('a' ≤ c && c ≤ 'z') || ('A' ≤ c && c ≤ 'Z') || ('0' ≤ c && c ≤ '9') || c == '-' || c == '_'

def readPart (cs : List Char) : Option (String × List Char) :=
  match cs with
  | '"' :: rest => (readBasic rest).map fun (text, rest) => (String.ofList text, rest)
  | '\'' :: rest => (readLiteral rest).map fun (text, rest) => (String.ofList text, rest)
  | _ =>
      match cs.takeWhile isBare with
      | [] => none
      | part => some (String.ofList part, cs.dropWhile isBare)

/-- Reads a key of at most the given number of parts, with the blanks around it. -/
def readKey : Nat → List Char → Option (Key × List Char)
  | 0, _ => none
  | parts + 1, cs => do
      let (part, rest) ← readPart (skipSpace cs)
      match skipSpace rest with
      | '.' :: rest => do
          let (key, rest) ← readKey parts rest
          some (⟨part :: key.path, key.last⟩, rest)
      | rest => some (⟨[], part⟩, rest)

mutual

/-- Reads a value, in which brackets and braces may nest to a given depth. -/
def readValue : Nat → Nat → List Char → Option (Value × List Char)
  | 0, _, _ => none
  | fuel + 1, depth, cs =>
      match cs with
      | '[' :: rest =>
          match depth with
          | 0 => none
          | depth + 1 => do
              let (elements, rest) ← readElements fuel depth rest
              some (.array elements, rest)
      | '\x7b' :: rest =>
          match depth, skipSpace rest with
          | 0, _ => none
          | _, '\x7d' :: rest => some (.table .inline [], rest)
          | depth + 1, rest => do
              let (entries, rest) ← readPairs fuel depth [] rest
              some (.table .inline entries, rest)
      | '"' :: _ | '\'' :: _ => do
          let (text, rest) ← readString cs
          some (.string text, rest)
      | _ => readScalar cs

/-- Reads the elements of an array, of which the last may have a comma behind it,
and the closing bracket. -/
def readElements : Nat → Nat → List Char → Option (List Value × List Char)
  | 0, _, _ => none
  | fuel + 1, depth, cs => do
      match ← skipLines false cs with
      | ']' :: rest => some ([], rest)
      | cs => do
          let (element, rest) ← readValue fuel depth cs
          match ← skipLines false rest with
          | ',' :: rest => do
              let (elements, rest) ← readElements fuel depth rest
              some (element :: elements, rest)
          | ']' :: rest => some ([element], rest)
          | _ => none

/-- Reads the pairs of an inline table, at least one, into its entries, and the
closing brace. -/
def readPairs : Nat → Nat → Entries → List Char → Option (Entries × List Char)
  | 0, _, _, _ => none
  | fuel + 1, depth, entries, cs => do
      match ← readKey maxParts cs with
      | (key, '=' :: rest) => do
          let (value, rest) ← readValue fuel depth (skipSpace rest)
          let entries ← entries.assign key.path key.last value .inline
          match skipSpace rest with
          | ',' :: rest => readPairs fuel depth entries rest
          | '\x7d' :: rest => some (entries, rest)
          | _ => none
      | _ => none

end

/-- Reads a line with a key and its value. Every second call takes a character,
so twice the length bounds how deep the calls go. -/
def readPair (d : Document) (cs : List Char) : Option (Document × List Char) := do
  match ← readKey maxParts cs with
  | (key, '=' :: rest) => do
      let (value, rest) ← readValue (2 * rest.length + 2) maxNesting (skipSpace rest)
      let rest ← readLineEnd rest
      some (← d.assign key.path key.last value, rest)
  | _ => none

def readLine (d : Document) (cs : List Char) : Option (Document × List Char) := do
  match skipSpace cs with
  | '[' :: '[' :: rest => do
      match ← readKey maxParts rest with
      | (key, ']' :: ']' :: rest) => do
          let rest ← readLineEnd rest
          some (← d.openHeader true key.path key.last, rest)
      | _ => none
  | '[' :: rest => do
      match ← readKey maxParts rest with
      | (key, ']' :: rest) => do
          let rest ← readLineEnd rest
          some (← d.openHeader false key.path key.last, rest)
      | _ => none
  | cs =>
      match readLineEnd cs with
      | some rest => some (d, rest)
      | none => readPair d cs

/-- Reads the lines of a document; each takes a character at least. -/
def readLines : Nat → Document → List Char → Option Document
  | _, d, [] => some d
  | 0, _, _ => none
  | fuel + 1, d, cs => do
      let (d, rest) ← readLine d cs
      readLines fuel d rest

/-- Reads a document, before which a byte order mark may stand. -/
def Document.ofChars? (cs : List Char) : Option Document :=
  let cs := match cs with
    | '\ufeff' :: rest => rest
    | _ => cs
  readLines cs.length .empty cs

/-- The document that a text is, if it is one. -/
def Document.read? (s : String) : Option Document := Document.ofChars? s.toList

/-- The value of a key at the top of a document. -/
def Document.get? (key : String) (d : Document) : Option Value := d.root.lookup key

end DeviceTwin.Toml
