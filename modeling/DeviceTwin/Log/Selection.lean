/-
Which log records are shown. Of the directives that fit a record the most special
one decides, and without one the record is not shown. No record is written in a
span or has a field with a value to look at, so directives that ask for that fit
none.
-/
import DeviceTwin.Log.Directive

namespace DeviceTwin.Log

namespace Directive

/-- Whether records can fit a directive. -/
def isStatic (d : Directive) : Bool := d.span.isNone && d.field.all (!·.hasValue)

/-- Whether a directive fits the records of a target. -/
def fits (target : String) (d : Directive) : Bool :=
  d.target.all (·.toList.isPrefixOf target.toList) &&
    d.field.all (Record.fields.contains <| String.ofList ·.name)

/-- How special a directive is by its target: the longer the more, and the least
without one. -/
def targetWeight (d : Directive) : Nat := (d.target.map (·.length + 1)).getD 0

/-- Whether a directive is more special than another one. The targets decide, and
then the fields. -/
def isAbove (d e : Directive) : Bool :=
  e.targetWeight < d.targetWeight ||
    e.targetWeight == d.targetWeight && d.field.isSome && e.field.isNone

end Directive

/-- Directives that records can fit, no two for the same records. -/
structure Selection where
  /-- The directives in any order. -/
  directives : List Directive

namespace Selection

/-- Adds a directive in the place of one for the same records. -/
def add (s : Selection) (d : Directive) : Selection :=
  ⟨s.directives.filter (fun e => e.target != d.target || e.field != d.field) ++ [d]⟩

def ofList (directives : List Directive) : Selection :=
  (directives.filter (·.isStatic)).foldl add ⟨[]⟩

def ofText (s : String) : Except Misread Selection := do
  let parts := (s.splitOn ",").filter (· != "")
  return ofList (← parts.mapM fun part => Directive.ofText part.toList)

/-- Of two directives the more special one. -/
def moreSpecial (best : Option Directive) (d : Directive) : Option Directive :=
  match best with
  | none => some d
  | some b => if d.isAbove b then some d else some b

/-- Whether a record of a target is shown. -/
def shows (s : Selection) (target : String) (level : Level) : Bool :=
  match (s.directives.filter (·.fits target)).foldl moreSpecial none with
  | some d => level.rank ≤ d.limit
  | none => false

end Selection

end DeviceTwin.Log
