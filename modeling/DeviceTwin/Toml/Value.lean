/-
TOML documents as values, and the rules by which headers and dotted keys may
build their tables: no table is given twice, and each is extended only in the
way it came into being.
-/
import DeviceTwin.Binary64.Basic

namespace DeviceTwin.Toml

/-- How a table came into being. -/
inductive Form
  /-- By a header of its own, or as the root. -/
  | header
  /-- By a dotted key. -/
  | dotted
  /-- By the header of a table below it. -/
  | implied
  /-- Between braces. -/
  | inline
  deriving DecidableEq

/-- A TOML value. Of a date or a time only its being one is kept. -/
inductive Value
  | string (s : String)
  | integer (n : Int)
  | real (x : Binary64)
  | boolean (b : Bool)
  | moment
  | array (elements : List Value)
  | table (form : Form) (entries : List (String × Value))
  /-- An array of tables given by headers, the last of them apart. -/
  | series (earlier : List (List (String × Value))) (latest : List (String × Value))

/-- The entries of a table, in the order in which they were given. -/
abbrev Entries := List (String × Value)

namespace Entries

/-- Gives the entry of a key that is there another value. -/
def replace (key : String) (value : Value) (entries : Entries) : Entries :=
  entries.map fun entry => if entry.1 = key then (key, value) else entry

/-- Goes down a path of keys and changes the entries found there, which are
handed over with the form of their table. A table that is missing is made on the
way, dotted or implied. A path of dotted keys does not pass a table with a
header, no path passes an inline table or anything that is not a table, and in a
series every path goes on in the latest table. -/
def within (viaDots : Bool) (change : Form → Entries → Option Entries) :
    List String → Form → Entries → Option Entries
  | [], form, entries => change form entries
  | key :: path, _, entries =>
      match entries.lookup key with
      | none => do
          let form := if viaDots then Form.dotted else Form.implied
          let inner ← within viaDots change path form []
          some (entries ++ [(key, .table form inner)])
      | some (.table form inner) =>
          if form = .inline ∨ (viaDots ∧ form = .header) then none
          else do
            let inner ← within viaDots change path form inner
            some (replace key (.table form inner) entries)
      | some (.series earlier latest) => do
          let latest ← within viaDots change path .header latest
          some (replace key (.series earlier latest) entries)
      | some _ => none

/-- Enters a value under a dotted key, given as the path to its last part and
that part. The table at the end of a path has to be one made by dotted keys. -/
def assign (path : List String) (key : String) (value : Value) (form : Form)
    (entries : Entries) : Option Entries :=
  within true (fun form entries =>
      if (form = .dotted) = (path = []) ∨ (entries.lookup key).isSome then none
      else some (entries ++ [(key, value)]))
    path form entries

/-- Opens a table by its header: a new one, or one that was only implied so far. -/
def openTable (key : String) (entries : Entries) : Option Entries :=
  match entries.lookup key with
  | none => some (entries ++ [(key, .table .header [])])
  | some (.table .implied inner) => some (replace key (.table .header inner) entries)
  | some _ => none

/-- Opens the next table of a series by its header. -/
def openNext (key : String) (entries : Entries) : Option Entries :=
  match entries.lookup key with
  | none => some (entries ++ [(key, .series [] [])])
  | some (.series earlier latest) =>
      some (replace key (.series (earlier ++ [latest]) []) entries)
  | some _ => none

end Entries

/-- A document while it is read: its entries and the header that is open. -/
structure Document where
  root : Entries
  current : List String

namespace Document

def empty : Document := ⟨[], []⟩

/-- A line with a key and its value, which counts for the open table. -/
def assign (path : List String) (key : String) (value : Value) (d : Document) :
    Option Document := do
  let root ← Entries.within false (Entries.assign path key value) d.current .header d.root
  some { d with root }

/-- A line with a header, of a table or of a table in a series. -/
def openHeader (series : Bool) (path : List String) (key : String) (d : Document) :
    Option Document := do
  let change := if series then Entries.openNext key else Entries.openTable key
  let root ← Entries.within false (fun _ => change) path .header d.root
  some ⟨root, path ++ [key]⟩

end Document

end DeviceTwin.Toml
