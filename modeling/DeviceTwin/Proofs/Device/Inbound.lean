/-
What the notifications for a device lead to.  Each one raises the hook that it is for, and a
connection that is there again is answered by one report; nothing else that is done to a
device raises a hook, and no report is made again.
-/
import Mathlib.Data.List.Forall2
import Mathlib.Data.List.Induction
import DeviceTwin.Proofs.Desired.Section
import DeviceTwin.Proofs.Device.Effects
import DeviceTwin.Proofs.Device.Sound

namespace DeviceTwin

namespace Device

open Desired Method

/-- The notification that a step hands over to the device, out of the mailbox or not. -/
def Step.notification? : Step → Option Notification
  | .settle success tag => some (.delivery success tag)
  | .reconcile document => some (.desired document)
  | .invoke method payload => some (.invocation method payload none)
  | .connectionChanged connected => some (.connection connected)
  | .hear n => some n
  | _ => none

/-- The connection that a step tells of. -/
def Step.connectivity? (step : Step) : Option Bool :=
  match step.notification? with
  | some (.connection connected) => some connected
  | _ => none

/-- Whether the rest of the device asks for a report. -/
def Step.isReport : Step → Bool
  | .reportDetails _ | .reportUpload _ => true
  | _ => false

/-- The hook calls of a notification. -/
inductive Raises (property : String) : Notification → List Hooks.Call → Prop
  | delivery {success : Bool} {tag : Tag} : Raises property (.delivery success tag) []
  | upload {document : String} {enabled : Bool} (hcarries : Carries property document enabled) :
      Raises property (.desired document) [.uploadEnabled enabled]
  | mute {document : String} (hmute : ∀ enabled, ¬Carries property document enabled) :
      Raises property (.desired document) []
  | alert {method : String} {payload : Bytes} {reply : Option Nat}
      (hmethod : method = "displayAlert") :
      Raises property (.invocation method payload reply) [.alert (Payload.ofBytes payload).content]
  | unknown {method : String} {payload : Bytes} {reply : Option Nat}
      (hmethod : method ≠ "displayAlert") : Raises property (.invocation method payload reply) []
  | connection {connected : Bool} :
      Raises property (.connection connected) [.connection connected]

/-- A notification leaves no choice of its hook calls. -/
theorem Raises.unique {property : String} {n : Notification} {calls calls' : List Hooks.Call}
    (hraises : Raises property n calls) (hraises' : Raises property n calls') : calls = calls' := by
  cases hraises with
  | upload hcarries =>
      cases hraises' with
      | upload hcarries' => rw [hcarries.unique hcarries']
      | mute hmute => exact absurd hcarries (hmute _)
  | mute hmute =>
      cases hraises' with
      | upload hcarries => exact absurd hcarries (hmute _)
      | mute _ => rfl
  | alert hmethod =>
      cases hraises' with
      | alert _ => rfl
      | unknown hother => exact absurd hmethod hother
  | unknown hother =>
      cases hraises' with
      | alert hmethod => exact absurd hmethod hother
      | unknown _ => rfl
  | delivery => cases hraises'; rfl
  | connection => cases hraises'; rfl

/-- The report that a notification makes necessary. -/
def introductions (settings : Settings) : Notification → List Link.Call
  | .connection true => introduction settings
  | _ => []

/-- The effects of a step.  A notification raises its hooks before a report is made for it; any
other step makes one call on the link at most, which is a report if it asks for one. -/
inductive Emits (settings : Settings) : Step → List Effect → Prop
  | heard {step : Step} {n : Notification} {calls : List Hooks.Call}
      (hheard : step.notification? = some n) (hraises : Raises settings.property n calls) :
      Emits settings step (calls.map .hook ++ (introductions settings n).map .link)
  | own {step : Step} {calls : List Link.Call} (hown : step.notification? = none)
      (hone : calls.length ≤ 1) (hreport : ∀ payload, .report payload ∈ calls → step.isReport) :
      Emits settings step (calls.map .link)

variable {m : Memory} {step : Step} {n : Notification}

/-! ## One step -/

theorem Memory.act_of_notification (hheard : step.notification? = some n) :
    m.act step = m.hear n := by
  cases step <;> cases hheard <;> rfl

theorem Memory.effects_of_notification (hheard : step.notification? = some n) :
    m.effects step = m.effects (.hear n) := by
  cases step <;> cases hheard <;> rfl

theorem Memory.asked?_of_own (hown : step.notification? = none) : m.asked? step = none := by
  cases step <;> first | rfl | contradiction

theorem Memory.isReport_of_mem_calls (hown : step.notification? = none) {payload : String}
    (hcall : .report payload ∈ m.calls step) : step.isReport = true := by
  cases step with
  | tick =>
      obtain ⟨e, -, he⟩ := List.mem_map.mp hcall
      contradiction
  | _ => first | rfl | contradiction

/-- A device without a failing hook stays one. -/
theorem Memory.Sound.act (hsound : m.Sound) (step : Step) : (m.act step).Sound := by
  cases hheard : step.notification? with
  | some n =>
      rw [Memory.act_of_notification hheard]
      exact hsound.hear n
  | none => cases step <;> first | exact ⟨hsound.intact, hsound.steadfast⟩ | contradiction

/-- A notification asks for its hook and for no other. -/
theorem Memory.raises_asked? (m : Memory) (n : Notification) :
    Raises m.settings.property n (m.asked? (.hear n)).toList := by
  cases n with
  | delivery success tag => exact .delivery
  | connection connected => exact .connection
  | invocation method payload reply =>
      rw [asked?, ofName?]
      split
      · next hmethod => exact .alert hmethod
      · next hmethod => exact .unknown hmethod
  | desired document =>
      rw [asked?]
      cases hreading : Reading.ofDocument m.settings.property document with
      | asks enabled version => exact .upload (carries_iff.mpr ⟨version, hreading⟩)
      | _ =>
          refine .mute (not_carries fun _ _ => ?_)
          rw [hreading]
          exact nofun

/-- A device introduces itself to a cloud that is there again. -/
theorem Memory.Sound.calls_hear (hsound : m.Sound) (n : Notification) :
    m.calls (.hear n) = introductions m.settings n := by
  cases n with
  | connection connected =>
      have hintact : (m.connectionChanged connected).broken = false :=
        (hsound.hear (.connection connected)).intact
      rw [calls, callsOnConnection, hintact]
      cases connected <;> rfl
  | _ => rfl

theorem Memory.Sound.emits_effects (hsound : m.Sound)
    (hpresent : ∀ c : Hooks.Call, m.hooks.hookOf c = .present) (step : Step) :
    Emits m.settings step (m.effects step) := by
  have hraised : ∀ step, m.raised? step = m.asked? step := by
    intro step
    rw [raised?]
    cases m.asked? step with
    | none => rfl
    | some c =>
        rw [Option.filter_some, hasHook, hpresent]
        rfl
  cases hheard : step.notification? with
  | some n =>
      rw [effects_of_notification hheard, effects, hraised, hsound.calls_hear]
      exact .heard hheard (m.raises_asked? n)
  | none =>
      rw [effects, hraised, asked?_of_own hheard]
      refine .own hheard ?_ fun payload => isReport_of_mem_calls hheard
      rcases m.calls_cases step with hcalls | ⟨c, hcalls⟩
      · rw [hcalls]
        exact Nat.zero_le 1
      · rw [hcalls]
        exact Nat.le_refl 1

theorem Memory.connected_act (m : Memory) (step : Step) :
    (m.act step).connected = step.connectivity?.getD m.connected := by
  cases step with
  | hear n => cases n <;> rfl
  | _ => rfl

/-! ## Runs -/

theorem Memory.sound_ofSettings {settings : Settings} {hooks : Hooks}
    (hpresent : ∀ c : Hooks.Call, hooks.hookOf c = .present) :
    (Memory.ofSettings settings hooks).Sound := ⟨rfl, fails_of_present hpresent⟩

theorem Memory.hooks_act (m : Memory) (step : Step) : (m.act step).hooks = m.hooks := by
  cases step with
  | hear n => cases n <;> rfl
  | _ => rfl

/-- A device keeps its hooks, and if they are sound it stays whole. -/
theorem sound_run {d : Device} (hsound : d.memory.Sound) (steps : List Step) :
    (d.run steps).memory.Sound ∧ (d.run steps).memory.hooks = d.hooks ∧
      (d.run steps).memory.settings = d.settings := by
  induction steps using List.reverseRecOn with
  | nil => exact ⟨hsound, rfl, rfl⟩
  | append_singleton earlier step ih =>
      obtain ⟨hkept, hhooks, hsettings⟩ := ih
      rw [run_append, run_cons, run_nil, memory_act, Memory.hooks_act, Memory.settings_act]
      exact ⟨hkept.act step, hhooks, hsettings⟩

/-- The effects of each step of a run come after those of the steps before. -/
theorem emits_run {d : Device} (hsound : d.memory.Sound)
    (hpresent : ∀ c : Hooks.Call, d.hooks.hookOf c = .present) (earlier : List Step) (step : Step) :
    ∃ effects, Emits d.settings step effects ∧
      (d.run earlier).Leaves (d.run (earlier ++ [step])) effects := by
  obtain ⟨hkept, hhooks, hsettings⟩ := sound_run hsound earlier
  refine ⟨(d.run earlier).memory.effects step, ?_, ?_⟩
  · rw [← hsettings]
    refine hkept.emits_effects ?_ step
    rw [hhooks]
    exact hpresent
  · rw [run_append, run_cons, run_nil]
    exact leaves_act (d.run earlier) step

/-- The hook calls among the effects of a step are those of its notification. -/
theorem Emits.hookCalls {settings : Settings} {effects : List Effect}
    (hemits : Emits settings step effects) :
    (∃ n, step.notification? = some n ∧
      Raises settings.property n (effects.filterMap Effect.hook?)) ∨
    step.notification? = none ∧ effects.filterMap Effect.hook? = [] := by
  have hlinks : ∀ calls : List Link.Call, (calls.map Effect.link).filterMap Effect.hook? = [] := by
    intro calls
    induction calls with
    | nil => rfl
    | cons c rest ih => exact ih
  have hhooks : ∀ calls : List Hooks.Call,
      (calls.map Effect.hook).filterMap Effect.hook? = calls := by
    intro calls
    induction calls with
    | nil => rfl
    | cons c rest ih => exact congrArg (c :: ·) ih
  cases hemits with
  | heard hheard hraises =>
      refine Or.inl ⟨_, hheard, ?_⟩
      rw [List.filterMap_append, hlinks, hhooks, List.append_nil]
      exact hraises
  | own hown => exact Or.inr ⟨hown, hlinks _⟩

/-- The hook calls of a run are those of its notifications, one after the other. -/
theorem raises_run {d : Device} (hsound : d.memory.Sound)
    (hpresent : ∀ c : Hooks.Call, d.hooks.hookOf c = .present) (steps : List Step) :
    ∃ calls, List.Forall₂ (Raises d.settings.property) (steps.filterMap Step.notification?) calls ∧
      Journal.hookCalls (d.run steps).journal.toList =
        Journal.hookCalls d.journal.toList ++ calls.flatten := by
  -- From the end of the run, since the effects of a step depend on all steps before it.
  induction steps using List.reverseRecOn with
  | nil => exact ⟨[], .nil, (List.append_nil _).symm⟩
  | append_singleton earlier step ih =>
      obtain ⟨calls, hraises, hcalls⟩ := ih
      obtain ⟨effects, hemits, hleaves⟩ := emits_run hsound hpresent earlier step
      have hmore : Journal.hookCalls (d.run (earlier ++ [step])).journal.toList =
          Journal.hookCalls d.journal.toList ++ calls.flatten ++
            effects.filterMap Effect.hook? := by
        rw [Journal.hookCalls_eq_filterMap_effects, hleaves, List.filterMap_append,
          ← Journal.hookCalls_eq_filterMap_effects, hcalls]
      rw [List.filterMap_append, hmore]
      rcases hemits.hookCalls with ⟨n, hheard, hcalls⟩ | ⟨hown, hcalls⟩
      · refine ⟨calls ++ [effects.filterMap Effect.hook?], ?_, ?_⟩
        · rw [List.filterMap_cons_some hheard]
          exact List.rel_append hraises (.cons hcalls .nil)
        · rw [List.flatten_append, List.flatten_singleton, List.append_assoc]
      · refine ⟨calls, ?_, ?_⟩
        · rw [List.filterMap_cons_none hown]
          simpa using hraises
        · rw [hcalls, List.append_nil]

theorem connected_run (d : Device) (steps : List Step) :
    (d.run steps).connected =
      (steps.filterMap Step.connectivity?).getLast?.getD d.connected := by
  induction steps using List.reverseRecOn with
  | nil => rfl
  | append_singleton earlier step ih =>
      have hstep : (d.run (earlier ++ [step])).connected =
          step.connectivity?.getD (d.run earlier).connected := by
        rw [run_append, run_cons, run_nil]
        change (Device.act _ step).memory.connected = _
        rw [memory_act, Memory.connected_act]
        rfl
      rw [hstep, ih, List.filterMap_append]
      cases hconnected : step.connectivity? with
      | none => simp [hconnected]
      | some connected => simp [hconnected]

/-- The hooks of a device, if all of them are there and none fails, are called for the
notifications in the order in which these are heard, and for nothing else.  What a notification
does with the link is done behind its hook and is one report at most, and no other step makes a
report that it is not asked for.  The connection is the one that was told of last. -/
theorem inbound_effects {settings : Settings} {hooks : Hooks} {link : Link} {d : Device}
    (hcreated : ofSettings settings hooks link = .ok d)
    (hpresent : ∀ c : Hooks.Call, hooks.hookOf c = .present) (steps : List Step) :
    (∃ calls, List.Forall₂ (Raises settings.property) (steps.filterMap Step.notification?) calls ∧
      Journal.hookCalls (d.run steps).journal.toList = calls.flatten) ∧
    (∀ earlier step later, steps = earlier ++ step :: later →
      ∃ effects, Emits settings step effects ∧
        (d.run earlier).Leaves (d.run (earlier ++ [step])) effects) ∧
    (d.run steps).connected = (steps.filterMap Step.connectivity?).getLast?.getD false := by
  obtain ⟨hmemory, -, hjournal⟩ := eq_of_ofSettings hcreated
  have hsound : d.memory.Sound := hmemory ▸ Memory.sound_ofSettings hpresent
  have hsettings : d.settings = settings := congrArg Memory.settings hmemory
  have hhooks : d.hooks = hooks := congrArg Memory.hooks hmemory
  have hconnected : d.connected = false := congrArg Memory.connected hmemory
  rw [← hhooks] at hpresent
  subst hsettings
  refine ⟨?_, fun earlier step later _ => emits_run hsound hpresent earlier step, ?_⟩
  · obtain ⟨calls, hraises, hcalls⟩ := raises_run hsound hpresent steps
    refine ⟨calls, hraises, ?_⟩
    rw [hcalls, hjournal]
    rfl
  · rw [connected_run, hconnected]

/-- A device with a serial number and with all hooks, whose link refuses the first call. -/
def attended : Device where
  settings := { serial := some "SN-7" }
  interval_ne_zero := by decide
  hooks := ⟨.present, .present, .present⟩
  link := .scripted [.error .noNetwork]

/-- A refused report, a tick and an unknown method raise no hook. -/
theorem hookCalls_run_attended :
    ofSettings attended.settings attended.hooks attended.link = .ok attended ∧
      Journal.hookCalls (attended.run [.hear (.connection true), .signal .updateInstalling, .tick,
        .hear (.invocation "displayAlert" [104, 105, 0, 106] none),
        .hear (.invocation "reboot" [] (some 0))]).journal.toList =
          [.connection true, .alert [104, 105]] := by
  have hcreated : ofSettings attended.settings attended.hooks attended.link = .ok attended := rfl
  obtain ⟨⟨calls, hraises, hcalls⟩, -, -⟩ := inbound_effects hcreated (by rintro ⟨⟩ <;> rfl)
    [.hear (.connection true), .signal .updateInstalling, .tick,
      .hear (.invocation "displayAlert" [104, 105, 0, 106] none),
      .hear (.invocation "reboot" [] (some 0))]
  have hexpected : List.Forall₂ (Raises attended.settings.property)
      [.connection true, .invocation "displayAlert" [104, 105, 0, 106] none,
        .invocation "reboot" [] (some 0)]
      [[.connection true], [.alert [104, 105]], []] :=
    .cons .connection (.cons (.alert rfl) (.cons (.unknown (by decide)) .nil))
  have hunique := List.right_unique_forall₂' (R := Raises attended.settings.property)
    (fun _ _ _ => Raises.unique) hraises hexpected
  exact ⟨hcreated, hcalls.trans (congrArg List.flatten hunique)⟩

end Device

end DeviceTwin
