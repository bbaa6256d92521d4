/-
A link whose answers are laid down beforehand: each call takes the next one, and
when they are used up every call succeeds. It never reports a delivery.
-/
import DeviceTwin.Link.Basic

namespace DeviceTwin.Link

/-- The answers that are left. -/
structure Scripted where
  /-- The next answer first. -/
  results : List Result

def Scripted.take (s : Scripted) : Result × Scripted :=
  match s.results with
  | [] => (.ok (), s)
  | result :: rest => (result, ⟨rest⟩)

end DeviceTwin.Link
