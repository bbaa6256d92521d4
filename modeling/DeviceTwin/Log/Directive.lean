/-
Directives, each of which says how much of the log is shown: a least level, for
the records of a target or for all, perhaps only for those in a span or with a
field. A directive is written `target[span{field}]=level`, and every part
of it may be missing.
-/
import DeviceTwin.Log
import DeviceTwin.Text.Blank
import DeviceTwin.Text.Pattern
import DeviceTwin.Text.Slice

namespace DeviceTwin.Log

/-- How many levels are shown, the most important first. -/
abbrev Limit := Nat

/-- The rank of a level, counted from the most important. -/
def Level.rank : Level → Nat
  | .error => 1
  | .warn => 2
  | .info => 3
  | .debug => 4

/-- The limit that shows every record. -/
def everything : Limit := 5

/-- A field that a record has to have, perhaps with a value. -/
structure FieldFilter where
  name : List Char
  /-- Whether the value of the field counts. -/
  hasValue : Bool
  deriving DecidableEq

/-- A directive. -/
structure Directive where
  /-- What the target of a record has to begin with. -/
  target : Option String := none
  /-- The span in which a record has to be written. -/
  span : Option String := none
  /-- The field that a record has to have. -/
  field : Option FieldFilter := none
  /-- How many levels are shown. -/
  limit : Limit := everything

/-- Why a text is no directive. -/
inductive Misread
  /-- It is not written like one. -/
  | malformed
  /-- A piece of it would begin or end inside a character. -/
  | insideCharacter
  deriving DecidableEq

/-- The limit of a word: the rank of a level or its name, in either case. -/
def limit? (cs : List Char) : Option Limit :=
  let names := ["off", "error", "warn", "info", "debug", "trace"]
  let lower := String.ofList (cs.map Char.toLower)
  ((Text.unsigned? cs).filter (· ≤ everything)).or (names.findIdx? (· = lower))

/-- Whether a text can be the value of a field: a number with a sign, or a pattern. -/
def isFieldValue : List Char → Bool
  | '+' :: rest =>
      Text.isReal rest ||
        ["inf", "infinity", "nan"].contains (String.ofList (rest.map Char.toLower))
  | cs => Text.Pattern.isWellFormed cs

/-- Reads a field, in which all from a second equals sign on does not count. -/
def FieldFilter.ofText? (cs : List Char) : Option FieldFilter :=
  let name := cs.takeWhile (· != '=')
  match cs.dropWhile (· != '=') with
  | [] => some ⟨name, false⟩
  | _ :: rest => if isFieldValue (rest.takeWhile (· != '=')) then some ⟨name, true⟩ else none

namespace Directive

/-- A piece of a text between two positions. -/
def piece (source : List Char) (first last : Nat) : Except Misread (List Char) :=
  match Text.slice? first last source with
  | some cs => .ok cs
  | none => .error .insideCharacter

/-- The limit that stands from a position on; nothing there shows everything. -/
def limitFrom (source : List Char) (first : Nat) : Except Misread Limit :=
  match Text.dropBytes? first source with
  | none => .error .insideCharacter
  | some [] => .ok everything
  | some cs =>
      match limit? cs with
      | some limit => .ok limit
      | none => .error .malformed

/-- Reads what follows a bracket, from a position on. -/
def readLimit (source : List Char) (position : Nat) (d : Directive) :
    List Char → Except Misread Directive
  | [] => .ok d
  | '=' :: _ => do return { d with limit := ← limitFrom source (position + 1) }
  | _ => .error .malformed

/-- Reads a field in braces, from a position on. -/
def readField (source : List Char) (first : Nat) (d : Directive) (cs : List Char) :
    Except Misread Directive :=
  let last := first + Text.byteLength (cs.takeWhile (· != '\x7d'))
  match cs.dropWhile (· != '\x7d') with
  | [] => .error .malformed
  | _ :: rest => do
      let text ← piece source first last
      match text, FieldFilter.ofText? text, rest with
      | _ :: _, some field, ']' :: rest =>
          readLimit source (last + 2) { d with field := some field } rest
      | _, _, _ => .error .malformed

/-- Whether a character ends the name of a span. -/
def endsSpan (c : Char) : Bool := c == ']' || c == '\x7b'

/-- Reads a span in brackets, from a position on. -/
def readSpan (source : List Char) (first : Nat) (d : Directive) (cs : List Char) :
    Except Misread Directive :=
  let last := first + Text.byteLength (cs.takeWhile (!endsSpan ·))
  match cs.dropWhile (!endsSpan ·) with
  | [] => .error .malformed
  | close :: rest => do
      let name := String.ofList (← piece source first last)
      if close = ']' then readLimit source (last + 1) { d with span := some name } rest
      else
        let span := if name = "" then none else some name
        readField source (last + 1) { d with span } rest

def endsTarget (c : Char) : Bool := c == '=' || c == '['

/-- Whether a character may be the first of a target or of a limit. -/
def isFirst (c : Char) : Bool :=
  c == '-' || c == ':' || c == '_' || Text.isAlphanumeric c

/-- Reads a directive. Blanks around it do not count when its parts are told apart;
the positions of the parts are found without them, and the parts are then cut out
of the text with them. -/
def ofText (source : List Char) : Except Misread Directive :=
  let cs := Text.trimmed source
  match cs with
  | [] => .error .malformed
  | '[' :: rest => readSpan source 1 {} rest
  | c :: _ =>
      if !isFirst c then .error .malformed
      else
        let last := Text.byteLength (cs.takeWhile (!endsTarget ·))
        match cs.dropWhile (!endsTarget ·) with
        | [] =>
            match limit? source with
            | some limit => .ok { limit }
            | none => .ok { target := some (String.ofList source) }
        | close :: rest => do
            let target := some (String.ofList (← piece source 0 last))
            if close = '=' then readLimit source last { target } ('=' :: rest)
            else readSpan source (last + 1) { target } rest

end Directive

end DeviceTwin.Log
