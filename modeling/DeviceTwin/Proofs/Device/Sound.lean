/-
A device on which no hook fails does not break, whatever it hears and whatever it is
asked for.
-/
import DeviceTwin.Proofs.Device.Run
import DeviceTwin.Proofs.Method.Copy
import DeviceTwin.Proofs.Service.Turn

namespace DeviceTwin

/-- The event of which a notification says how its delivery went. -/
def Notification.settled? : Notification → Option Event
  | .delivery _ tag => tag
  | _ => none

namespace Device

/-- Nothing has failed and nothing will. -/
structure Memory.Sound (m : Memory) : Prop where
  intact : m.broken = false
  steadfast : ∀ earlier call, m.hooks.fails earlier call = false

theorem Memory.Sound.raise {m : Memory} (hsound : m.Sound) (call : Option Hooks.Call) :
    (m.raise call).Sound := by
  refine ⟨?_, hsound.steadfast⟩
  rw [Memory.raise, hsound.intact, Bool.false_or]
  cases call with
  | none => rfl
  | some c => exact hsound.steadfast _ c

/-- Hooks that come back from every call do not fail. -/
theorem fails_of_present {hooks : Hooks} (hpresent : ∀ c : Hooks.Call, hooks.hookOf c = .present)
    (earlier : List Hooks.Call) (c : Hooks.Call) : hooks.fails earlier c = false := by
  rw [Hooks.fails, hpresent]
  rfl

/-- A response is missing only if a hook fails. -/
theorem isNone_response_dispatch {hooks : Hooks}
    (hhooks : ∀ earlier call, hooks.fails earlier call = false) (earlier : List Hooks.Call)
    (name : String) (payload : Bytes) :
    (Method.dispatch hooks earlier name payload).response.isNone = false := by
  cases hname : Method.ofName? name with
  | none =>
      rw [Method.dispatch_of_unknown hname]
      rfl
  | some method =>
      rw [Method.dispatch_of_known hname, hhooks]
      rfl

theorem Memory.Sound.hear {m : Memory} (hsound : m.Sound) (n : Notification) :
    (m.hear n).Sound := by
  cases n with
  | delivery success tag => exact ⟨hsound.intact, hsound.steadfast⟩
  | desired document =>
      let reading := Desired.Reading.ofDocument m.settings.property document
      exact Sound.raise (m := { m with version := reading.versionAfter m.version })
        ⟨hsound.intact, hsound.steadfast⟩ (Memory.askedCall? reading)
  | invocation method payload reply =>
      refine ⟨?_, hsound.steadfast⟩
      change (m.broken || (Method.dispatch m.hooks m.raised method payload).response.isNone) = false
      rw [hsound.intact, isNone_response_dispatch hsound.steadfast]
      rfl
  | connection connected =>
      exact Sound.raise (m := { m with connected }) ⟨hsound.intact, hsound.steadfast⟩ _

/-- Only the result of its own delivery changes the flag of an event. -/
theorem Memory.pending_hear {n : Notification} (hsettled : n.settled? = none) (m : Memory) :
    (m.hear n).pending = m.pending := by
  cases n with
  | delivery success tag =>
      cases hsettled
      rfl
  | _ => rfl

theorem Memory.settings_hear (m : Memory) (n : Notification) :
    (m.hear n).settings = m.settings := m.settings_act (.hear n)

/-- What a device keeps in mind of a request. -/
theorem memory_grant (d : Device) (request : Service.Request) :
    (d.grant request).memory =
      { d.memory with
        pending := (d.grant request).pending
        version := (d.grant request).version } := by
  cases request with
  | _ => rfl

theorem contains_grant (d : Device) (request : Service.Request) (e : Event) :
    (d.grant request).pending.contains e = true ↔
      request = .signal e ∨ d.pending.contains e = true := by
  cases request with
  | signal f =>
      change (d.pending.insert f).contains e = true ↔ _
      rw [Pending.contains_insert, Bool.or_eq_true, decide_eq_true_iff,
        Service.Request.signal.injEq, eq_comm]
  | _ => exact ⟨Or.inr, fun h => h.resolve_left nofun⟩

end Device

end DeviceTwin
