/-
Reading a command line after a list of options. Words are taken from the left and
the first that is wrong settles the outcome, so that help asked for later does not
help. Long options stand alone, short ones may stand together, and a value may
stand in the same word or in the next, where it must not look like an option.
-/
namespace DeviceTwin.Command

/-- What an option does. -/
inductive Effect
  /-- It is on or off. -/
  | switch
  /-- It has a value, which has to pass a check. -/
  | value (accepts : String → Bool)
  | help
  | version

/-- An option of a command. -/
structure Parameter where
  /-- Its name after two dashes. -/
  long : String
  /-- Its letter after one dash. -/
  short : Option Char
  effect : Effect

/-- Why the reading of a command line ends early. -/
inductive Stop
  | help
  | version
  /-- A word is wrong, or one is missing. -/
  | usage
  deriving DecidableEq

/-- What was found on a command line. -/
structure Found where
  switches : List String := []
  /-- The options with their values. -/
  values : List (String × String) := []
  /-- The words that belong to no option. -/
  words : List String := []

namespace Found

/-- Takes a switch, which may come only once. -/
def switchOn (name : String) (f : Found) : Except Stop Found :=
  if f.switches.contains name then .error .usage
  else .ok { f with switches := f.switches ++ [name] }

/-- Takes a value, which has to pass its check and may come only once. -/
def assign (name value : String) (accepts : String → Bool) (f : Found) : Except Stop Found :=
  if !accepts value || (f.values.lookup name).isSome then .error .usage
  else .ok { f with values := f.values ++ [(name, value)] }

/-- Takes a word, of which there is room for a number. -/
def word (room : Nat) (w : String) (f : Found) : Except Stop Found :=
  if f.words.length < room then .ok { f with words := f.words ++ [w] } else .error .usage

/-- Takes an option that stands without a value in the same word. The name and the
check of the option are returned if its value is still to come. -/
def take (o : Parameter) (f : Found) : Except Stop (Found × Option (String × (String → Bool))) :=
  match o.effect with
  | .switch => (f.switchOn o.long).map (·, none)
  | .value accepts => .ok (f, some (o.long, accepts))
  | .help => .error .help
  | .version => .error .version

/-- Takes letters that stand together. What follows a letter with a value is that
value, with or without an equals sign. -/
def letters (options : List Parameter) :
    List Char → Found → Except Stop (Found × Option (String × (String → Bool)))
  | [], f => .ok (f, none)
  | c :: rest, f =>
      match options.find? (·.short = some c) with
      | none => .error .usage
      | some o => do
          match ← f.take o with
          | (f, none) => letters options rest f
          | (f, some (name, accepts)) =>
              match rest with
              | [] => .ok (f, some (name, accepts))
              | '=' :: value => do
                  .ok (← f.assign name (String.ofList value) accepts, none)
              | value => do
                  .ok (← f.assign name (String.ofList value) accepts, none)

/-- Takes a long option, with the value behind an equals sign if there is one. -/
def longOption (options : List Parameter) (cs : List Char) (f : Found) :
    Except Stop (Found × Option (String × (String → Bool))) :=
  let name := String.ofList (cs.takeWhile (· != '='))
  match options.find? (·.long = name), cs.dropWhile (· != '=') with
  | none, _ => .error .usage
  | some o, [] => f.take o
  | some o, _ :: value =>
      match o.effect with
      | .value accepts => do .ok (← f.assign o.long (String.ofList value) accepts, none)
      | _ => .error .usage

/-- Whether a word looks like an option. A single dash does not. -/
def isDashed (w : String) : Bool :=
  match w.toList with
  | '-' :: _ :: _ => true
  | _ => false

end Found

/-- What a word is. -/
inductive Word
  /-- Two dashes, after which nothing is an option. -/
  | dashes
  | long (cs : List Char)
  | short (cs : List Char)
  | plain

/-- What a word is by its dashes. -/
def Word.of (w : String) : Word :=
  match w.toList with
  | ['-', '-'] => .dashes
  | '-' :: '-' :: cs => .long cs
  | '-' :: c :: cs => .short (c :: cs)
  | _ => .plain

/-- The options of a command and the number of words that it takes besides. -/
structure Grammar where
  options : List Parameter
  /-- How many words there may be. -/
  room : Nat

namespace Grammar

/-- Reads words from the left. If `halts`, the first plain word ends the reading
and is returned with those that follow. `pending` is the option whose value is
to come next. -/
def read (g : Grammar) (halts : Bool) :
    Option (String × (String → Bool)) → List String → Found →
      Except Stop (Found × List String)
  | some _, [], _ => .error .usage
  | none, [], f => .ok (f, [])
  | some (name, accepts), w :: rest, f =>
      if Found.isDashed w then .error .usage
      else do g.read halts none rest (← f.assign name w accepts)
  | none, w :: rest, f =>
      match Word.of w with
      | .dashes => do .ok (← rest.foldlM (fun f w => f.word g.room w) f, [])
      | .long cs => do
          let (f, pending) ← f.longOption g.options cs
          g.read halts pending rest f
      | .short cs => do
          let (f, pending) ← f.letters g.options cs
          g.read halts pending rest f
      | .plain =>
          if halts then .ok (f, w :: rest)
          else do g.read halts none rest (← f.word g.room w)

end Grammar

end DeviceTwin.Command
