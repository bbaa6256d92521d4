/-
Patterns of texts in the notation of regular expressions, and which of them are
well formed: every repetition has something to repeat, every group and every set
is closed, and every escape has a meaning. A count in braces is none of them,
since a pattern has no closing brace here.
-/
import DeviceTwin.Text.Alphanumeric
import DeviceTwin.Text.Digits

namespace DeviceTwin.Text.Pattern

/-- What a character or an escape stands for. -/
inductive Item
  | char (c : Char)
  /-- A set of characters, such as the digits. -/
  | set
  /-- A place in the text, such as its end. -/
  | place

/-- What a letter or a mark after a backslash stands for. -/
def escape? (c : Char) : Option Item :=
  match c with
  | 'a' => some (.char '\x07')
  | 'f' => some (.char '\x0c')
  | 'n' => some (.char '\n')
  | 'r' => some (.char '\r')
  | 't' => some (.char '\t')
  | 'v' => some (.char '\x0b')
  | 'A' => some .place
  | 'z' => some .place
  | _ =>
      if "dDsSwW".toList.contains c then some .set
      else if c.toNat < 0x80 && !c.isAlphanum && c != '<' && c != '>' then some (.char c)
      else none

/-- Whether a letter names a general category. -/
def isCategory (c : Char) : Bool := "LMNPSZC".toList.contains c.toUpper

/-- The item at the front of a pattern, and what follows it. -/
def item? : List Char → Option (Item × List Char)
  | [] => none
  | '\\' :: 'x' :: a :: b :: rest => (hexChar? [a, b]).map (.char ·, rest)
  | '\\' :: 'u' :: a :: b :: c :: d :: rest => (hexChar? [a, b, c, d]).map (.char ·, rest)
  | '\\' :: 'U' :: a :: b :: c :: d :: e :: f :: g :: h :: rest =>
      (hexChar? [a, b, c, d, e, f, g, h]).map (.char ·, rest)
  | '\\' :: 'p' :: c :: rest => if isCategory c then some (.set, rest) else none
  | '\\' :: 'P' :: c :: rest => if isCategory c then some (.set, rest) else none
  | '\\' :: c :: rest => (escape? c).map (·, rest)
  | ['\\'] => none
  | c :: rest => some (.char c, rest)

/-- What follows the opening of a set: the mark of a complement, dashes that stand
for themselves, and a bracket that does if it comes first. -/
def openSet (cs : List Char) : List Char :=
  let cs := match cs with
    | '^' :: rest => rest
    | cs => cs
  match cs with
  | ']' :: rest => rest
  | cs => cs.dropWhile (· == '-')

/-- Reads the rest of a set, in which a number of other sets are open, and returns
what follows it. A range goes upwards and has characters at its ends. -/
def readSet : Nat → Nat → List Char → Option (List Char)
  | 0, _, _ => none
  | fuel + 1, depth, cs =>
      match cs with
      | ']' :: rest => if depth = 0 then some rest else readSet fuel (depth - 1) rest
      | '[' :: rest => readSet fuel (depth + 1) (openSet rest)
      | '&' :: '&' :: rest => readSet fuel depth rest
      | '-' :: '-' :: rest => readSet fuel depth rest
      | '~' :: '~' :: rest => readSet fuel depth rest
      | cs => do
          let (lower, rest) ← item? cs
          match lower, rest with
          | .place, _ => none
          | _, '-' :: ']' :: _ => readSet fuel depth rest
          | _, '-' :: '-' :: _ => readSet fuel depth rest
          | lower, '-' :: rest =>
              match lower, ← item? rest with
              | .char a, (.char b, rest) => if a ≤ b then readSet fuel depth rest else none
              | _, _ => none
          | _, rest => readSet fuel depth rest

/-- Whether a text can be the name of a group. -/
def isGroupName : List Char → Bool
  | [] => false
  | c :: rest =>
      (c == '_' || isAlphanumeric c && (digit? c).isNone) &&
        rest.all fun c => isAlphanumeric c || "_.[]".toList.contains c

/-- Whether a text sets flags: letters, each only once, those to be cleared behind a
dash. -/
def areFlags (cs : List Char) : Bool :=
  cs.all ("imsUuRx-".toList.contains ·) && decide cs.Nodup && cs.getLast? != some '-'

/-- What follows an opening parenthesis, and whether it opens a group or only sets
flags. -/
def openGroup? : List Char → Option (Bool × List Char)
  | '?' :: 'P' :: '<' :: rest => named rest
  | '?' :: '<' :: rest => named rest
  | '?' :: rest =>
      let flags := rest.takeWhile fun c => c != ')' && c != ':'
      match rest.dropWhile fun c => c != ')' && c != ':' with
      | ')' :: rest => if areFlags flags && !flags.isEmpty then some (false, rest) else none
      | ':' :: rest => if areFlags flags then some (true, rest) else none
      | _ => none
  | rest => some (true, rest)
where
  named (rest : List Char) : Option (Bool × List Char) :=
    match rest.dropWhile (· != '>') with
    | _ :: after => if isGroupName (rest.takeWhile (· != '>')) then some (true, after) else none
    | [] => none

/-- Reads a pattern in which a number of groups are open. `operand` says whether
there is something that can be repeated. -/
def scan : Nat → Nat → Bool → List Char → Bool
  | 0, _, _, _ => false
  | fuel + 1, depth, operand, cs =>
      match cs with
      | [] => depth == 0
      | '*' :: rest => operand && scan fuel depth true rest
      | '+' :: rest => operand && scan fuel depth true rest
      | '?' :: rest => operand && scan fuel depth true rest
      | '\x7b' :: _ => false
      | '|' :: rest => scan fuel depth false rest
      | ')' :: rest => depth != 0 && scan fuel (depth - 1) true rest
      | '(' :: rest =>
          match openGroup? rest with
          | some (true, rest) => scan fuel (depth + 1) false rest
          | some (false, rest) => scan fuel depth false rest
          | none => false
      | '[' :: rest =>
          match readSet fuel 0 (openSet rest) with
          | some rest => scan fuel depth true rest
          | none => false
      | cs =>
          match item? cs with
          | some (_, rest) => scan fuel depth true rest
          | none => false

/-- Whether a text is a well-formed pattern. Each step takes a character at least,
which bounds their number. -/
def isWellFormed (cs : List Char) : Bool := scan (cs.length + 1) 0 false cs

example : isWellFormed "a(b|[c-e]+)*?".toList = true := by decide +kernel

example : isWellFormed "*".toList = false := by decide +kernel

example : isWellFormed "(a".toList = false := by decide +kernel

example : isWellFormed "[e-c]".toList = false := by decide +kernel

end DeviceTwin.Text.Pattern
