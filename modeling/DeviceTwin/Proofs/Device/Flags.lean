/-
The flag of an event is decided by the last step that concerns it.  A step
concerns an event if it signals it or if it brings a successful delivery result
with its tag; the creation of a device counts as a signal of the restart.
-/
import Mathlib.Data.List.Induction
import DeviceTwin.Proofs.Device.Run

namespace DeviceTwin

namespace Device

/-- What a step can mean to an event. -/
inductive Mark
  | signaled
  | confirmed
  deriving DecidableEq

def Mark.flag : Mark → Bool
  | .signaled => true
  | .confirmed => false

/-- What a step means to an event, if it concerns it. -/
def Step.mark? (e : Event) : Step → Option Mark
  | .signal f => if f = e then some .signaled else none
  | .settle true (some f) => if f = e then some .confirmed else none
  | .hear (.delivery true (some f)) => if f = e then some .confirmed else none
  | _ => none

/-- Of the notifications only the one that an event was delivered means anything to it. -/
theorem mark?_hear_eq_some {n : Notification} {e : Event} {mark : Mark}
    (hmark : (Step.hear n).mark? e = some mark) :
    n = .delivery true (some e) ∧ mark = .confirmed := by
  cases n with
  | delivery success tag =>
      rcases success with _ | _ <;> rcases tag with _ | f
      case true.some =>
        change (if f = e then some Mark.confirmed else none) = some mark at hmark
        split at hmark
        · next heq =>
            rw [heq]
            exact ⟨rfl, (Option.some.inj hmark).symm⟩
        · contradiction
      all_goals contradiction
  | _ => contradiction

/-- What the creation means to an event. -/
def creationMarks (e : Event) : List Mark := if e = .appRestart then [.signaled] else []

/-- All that concerns an event, from the creation through the steps of a run. -/
def marks (e : Event) (steps : List Step) : List Mark :=
  creationMarks e ++ steps.filterMap (Step.mark? e)

theorem contains_atStart (e : Event) :
    Pending.atStart.contains e = ((creationMarks e).getLast?.map Mark.flag).getD false := by
  cases e <;> rfl

theorem contains_settle (p : Pending) (success : Bool) (tag : Tag) (e : Event) :
    (p.settle success tag).2.contains e =
      (p.contains e && !(success && decide (tag = some e))) := by
  cases tag with
  | none => simp [Pending.settle]
  | some f =>
      cases success with
      | false => simp [Pending.settle]
      | true => simp [Pending.settle, eq_comm, Bool.and_comm]

/-- One step: the flag of an event becomes what the step means to it, and stays as
it is if the step does not concern the event. -/
theorem Memory.contains_act (m : Memory) (step : Step) (e : Event) :
    (m.act step).pending.contains e =
      ((step.mark? e).map Mark.flag).getD (m.pending.contains e) := by
  have hsettle : ∀ success tag, (m.pending.settle success tag).2.contains e =
      (((Step.settle success tag).mark? e).map Mark.flag).getD (m.pending.contains e) := by
    intro success tag
    rw [contains_settle]
    rcases success with _ | _ <;> rcases tag with _ | f <;> simp [Step.mark?]
    by_cases heq : f = e <;> simp [heq, Mark.flag]
  cases step with
  | signal f =>
      by_cases heq : f = e
      · simp [Memory.act, Step.mark?, heq, Mark.flag]
      · simp [Memory.act, Step.mark?, heq, Ne.symm heq]
  | settle success tag => exact hsettle success tag
  | hear n =>
      cases n with
      | delivery success tag =>
          rw [show (Step.hear (.delivery success tag)).mark? e =
            (Step.settle success tag).mark? e by
              rcases success with _ | _ <;> rcases tag with _ | f <;> rfl]
          exact hsettle success tag
      | _ => rfl
  | _ => rfl

/-- A whole run: the flag of an event is what the last step that concerns the event
means to it. -/
theorem contains_run (d : Device) (steps : List Step) (e : Event) :
    (d.run steps).pending.contains e =
      ((steps.filterMap (Step.mark? e)).getLast?.map Mark.flag).getD (d.pending.contains e) := by
  induction steps using List.reverseRecOn with
  | nil => rfl
  | append_singleton earlier step ih =>
      have hstep : (d.run (earlier ++ [step])).pending.contains e =
          ((step.mark? e).map Mark.flag).getD ((d.run earlier).pending.contains e) := by
        rw [run_append, run_cons, run_nil, pending_act, Memory.contains_act]
        rfl
      rw [hstep, ih, List.filterMap_append]
      cases hmark : step.mark? e with
      | none => simp [hmark]
      | some mark => simp [hmark]

theorem exists_confirmed_of_contains {d : Device} {steps : List Step} {e : Event}
    (hbefore : d.pending.contains e = true)
    (hafter : (d.run steps).pending.contains e ≠ true) :
    ∃ step ∈ steps, step.mark? e = some .confirmed := by
  rw [contains_run] at hafter
  cases hlast : (steps.filterMap (Step.mark? e)).getLast? with
  | none =>
      rw [hlast] at hafter
      exact absurd hbefore hafter
  | some mark =>
      rw [hlast] at hafter
      cases mark with
      | signaled => exact absurd rfl hafter
      | confirmed => exact List.mem_filterMap.mp (List.mem_of_getLast? hlast)

/-- An event that was delivered is pending again only if it was signaled again. -/
theorem exists_signaled_of_contains {d : Device} {steps : List Step} {e : Event} {step : Step}
    (hstep : step ∈ steps) (hmark : step.mark? e = some .confirmed)
    (hafter : (d.run steps).pending.contains e = true) :
    ∃ step ∈ steps, step.mark? e = some .signaled := by
  rw [contains_run] at hafter
  cases hlast : (steps.filterMap (Step.mark? e)).getLast? with
  | none =>
      rw [List.getLast?_eq_none_iff] at hlast
      exact absurd (List.mem_filterMap.mpr ⟨step, hstep, hmark⟩) (hlast ▸ List.not_mem_nil)
  | some mark =>
      rw [hlast] at hafter
      cases mark with
      | signaled => exact List.mem_filterMap.mp (List.mem_of_getLast? hlast)
      | confirmed => exact absurd hafter nofun

/-- To do the same again changes no flag. -/
theorem Memory.pending_act_act (m : Memory) (step : Step) :
    ((m.act step).act step).pending = (m.act step).pending := by
  apply Pending.ext_contains
  intro e
  rw [contains_act, contains_act]
  cases step.mark? e with
  | none => rfl
  | some mark => rfl

/-- An event is pending at the end of a run exactly if something has concerned it and
the last such thing was no successful delivery result.  A step that does not
concern an event leaves its flag, and to take a step again changes no flag. -/
theorem contains_run_iff_last_mark {settings : Settings} {hooks : Hooks} {link : Link}
    {d : Device} (hcreated : ofSettings settings hooks link = .ok d) (steps : List Step)
    (e : Event) :
    ((d.run steps).pending.contains e = true ↔
      ∃ mark, (marks e steps).getLast? = some mark ∧ mark ≠ .confirmed) ∧
    (∀ step : Step, step.mark? e = none →
      (d.run (steps ++ [step])).pending.contains e = (d.run steps).pending.contains e) ∧
    (∀ step : Step, (d.run (steps ++ [step, step])).pending =
      (d.run (steps ++ [step])).pending) := by
  have hpending : d.pending = .atStart :=
    congrArg Memory.pending (eq_of_ofSettings hcreated).1
  refine ⟨?_, ?_, ?_⟩
  · rw [contains_run, hpending, contains_atStart, marks, List.getLast?_append]
    cases (steps.filterMap (Step.mark? e)).getLast? with
    | none =>
        cases (creationMarks e).getLast? with
        | none => simp
        | some mark => cases mark <;> simp [Mark.flag]
    | some mark => cases mark <;> simp [Mark.flag]
  · intro step hmark
    rw [run_append, run_cons, run_nil, pending_act, Memory.contains_act, hmark]
    rfl
  · intro step
    simp only [run_append, run_cons, run_nil]
    rw [pending_act, memory_act, Memory.pending_act_act, ← pending_act]

/-- A refused send, a failed delivery, a result without a tag and the delivery of
another event leave the second signal pending. -/
theorem contains_run_signaled_again :
    ofSettings {} {} (.scripted [.error .noNetwork]) =
        .ok (plain (.scripted [.error .noNetwork])) ∧
      ((plain (.scripted [.error .noNetwork])).run
        [.signal .updateInstalling, .settle true (some .updateInstalling),
          .signal .updateInstalling, .tick, .settle false (some .updateInstalling),
          .settle true none, .settle true (some .appRestart)]).pending.contains
            .updateInstalling = true :=
  ⟨ofSettings_plain _, (contains_run_iff_last_mark (ofSettings_plain _) _ _).1.mpr
    ⟨.signaled, by decide, by decide⟩⟩

end Device

end DeviceTwin
