/-
The effects of a device: the hooks that it raises and the calls that it makes on its link,
in one order.  Its journal has them all, and for each step they are known beforehand from
what the device keeps in mind.
-/
import DeviceTwin.Proofs.Device.Calls

namespace DeviceTwin

/-- Something that others notice of a device. -/
inductive Effect
  | hook (c : Hooks.Call)
  | link (c : Link.Call)
  deriving DecidableEq

namespace Effect

def hook? : Effect → Option Hooks.Call
  | .hook c => some c
  | .link _ => none

def link? : Effect → Option Link.Call
  | .link c => some c
  | .hook _ => none

end Effect

namespace Journal

/-- The effect of an entry. -/
def Entry.effect? : Entry → Option Effect
  | .hook c => some (.hook c)
  | .link c => some (.link c)
  | .record _ | .response _ _ => none

def effects (journal : List Entry) : List Effect := journal.filterMap (·.effect?)

@[simp] theorem effects_append (earlier later : List Entry) :
    effects (earlier ++ later) = effects earlier ++ effects later := List.filterMap_append

theorem hookCalls_eq_filterMap_effects (journal : List Entry) :
    hookCalls journal = (effects journal).filterMap Effect.hook? := by
  rw [effects, List.filterMap_filterMap]
  refine congrArg (fun f => journal.filterMap f) (funext fun entry => ?_)
  cases entry <;> rfl

theorem linkCalls_eq_filterMap_effects (journal : List Entry) :
    linkCalls journal = (effects journal).filterMap Effect.link? := by
  rw [effects, List.filterMap_filterMap]
  refine congrArg (fun f => journal.filterMap f) (funext fun entry => ?_)
  cases entry <;> rfl

@[simp] theorem effects_map_record (records : List Log.Record) :
    effects (records.map .record) = [] := by
  simp [effects, Entry.effect?]

end Journal

namespace Device

/-- Between two times a device has had effects. -/
def Leaves (d after : Device) (effects : List Effect) : Prop :=
  Journal.effects after.journal.toList = Journal.effects d.journal.toList ++ effects

/-- The hook call that a step asks for, whether or not there is such a hook. -/
def Memory.asked? (m : Memory) : Step → Option Hooks.Call
  | .reconcile document | .hear (.desired document) =>
      askedCall? (Desired.Reading.ofDocument m.settings.property document)
  | .invoke method payload | .hear (.invocation method payload _) =>
      (Method.ofName? method).map (·.call (.ofBytes payload))
  | .connectionChanged connected | .hear (.connection connected) => some (.connection connected)
  | _ => none

/-- Whether there is a hook for a call. -/
def Memory.hasHook (m : Memory) (c : Hooks.Call) : Bool := (m.hooks.hookOf c).isPresent

/-- The hook that a step raises. -/
def Memory.raised? (m : Memory) (step : Step) : Option Hooks.Call :=
  (m.asked? step).filter m.hasHook

/-- The effects of a step: it raises one hook at most, and then it makes its calls on the
link. -/
def Memory.effects (m : Memory) (step : Step) : List Effect :=
  (m.raised? step).toList.map .hook ++ (m.calls step).map .link

/-- The effects of one step after the other. -/
def Memory.effectsAlong (m : Memory) : List Step → List Effect
  | [] => []
  | step :: later => m.effects step ++ (m.act step).effectsAlong later

/-- A step without a call on the link has no effect but the hook that it raises. -/
theorem Memory.effects_of_calls_eq_nil {m : Memory} {step : Step} (hcalls : m.calls step = []) :
    m.effects step = (m.raised? step).toList.map .hook := by
  rw [effects, hcalls, List.map_nil, List.append_nil]

variable {d between after : Device}

theorem Leaves.trans {earlier later : List Effect} (hearlier : d.Leaves between earlier)
    (hlater : between.Leaves after later) : d.Leaves after (earlier ++ later) := by
  rw [Leaves, hlater, hearlier, List.append_assoc]

theorem leaves_nothing (hjournal : after.journal = d.journal) : d.Leaves after [] := by
  rw [Leaves, hjournal, List.append_nil]

theorem leaves_note (d : Device) (entries : List Journal.Entry) :
    d.Leaves (d.note entries) (Journal.effects entries) := by
  rw [Leaves, note, Trace.toList_append, Journal.effects_append]

theorem leaves_log (d : Device) (records : List Log.Record) : d.Leaves (d.log records) [] := by
  have hnoted := d.leaves_note (records.map .record)
  rwa [Journal.effects_map_record] at hnoted

theorem Leaves.log {effects : List Effect} (hleaves : d.Leaves between effects)
    (records : List Log.Record) : d.Leaves (between.log records) effects := by
  have hlogged := hleaves.trans (leaves_log between records)
  rwa [List.append_nil] at hlogged

theorem leaves_call (d : Device) (c : Link.Call) : d.Leaves (d.call c).2 [.link c] :=
  (leaves_note { d with link := (d.link.perform c).link } [.link c]).log _

/-- A hook is raised if it is there. -/
theorem effects_ofCall (hooks : Hooks) (c : Hooks.Call) :
    Journal.effects [Journal.ofCall hooks c] =
      ((some c).filter fun c => (hooks.hookOf c).isPresent).toList.map .hook := by
  unfold Journal.ofCall
  rw [Option.filter_some]
  cases hooks.hookOf c <;> rfl

theorem leaves_raise (d : Device) (c : Hooks.Call) :
    d.Leaves (d.raise c) (((some c).filter d.memory.hasHook).toList.map .hook) := by
  have hnoted := leaves_note d [Journal.ofCall d.hooks c]
  rw [effects_ofCall] at hnoted
  exact hnoted

theorem leaves_startLink (d : Device) :
    d.Leaves d.startLink.2 [.link (.start d.settings.model)] := by
  unfold startLink
  have hcall := leaves_call d (.start d.settings.model)
  rcases hstart : d.call (.start d.settings.model) with ⟨result, after⟩
  rw [hstart] at hcall
  cases result with
  | error cause => exact hcall
  | ok _ => exact hcall.log _

theorem leaves_tick (d : Device) :
    d.Leaves d.tick.2 ((d.memory.calls .tick).map .link) := by
  change d.Leaves d.tick.2 ((d.pending.next?.toList.map fun e =>
    Link.Call.telemetry e.announcement.write (some e)).map .link)
  unfold tick
  cases d.pending.next? with
  | none => exact leaves_nothing rfl
  | some e =>
      dsimp only
      have hcall : d.Leaves ((d.log [Log.debug s!"Trying to send {e.name} event"]).send
          e.announcement (some e)).2 [.link (.telemetry e.announcement.write (some e))] :=
        (leaves_log d _).trans (leaves_call _ _)
      rcases hsend : (d.log [Log.debug s!"Trying to send {e.name} event"]).send
        e.announcement (some e) with ⟨result, after⟩
      rw [hsend] at hcall
      cases result with
      | error cause => exact hcall.log _
      | ok _ => exact hcall

theorem leaves_settle (success : Bool) (tag : Tag) (d : Device) :
    d.Leaves (d.settle success tag).2 [] :=
  leaves_log { d with pending := (d.pending.settle success tag).2 } _

theorem leaves_applyReading (reading : Desired.Reading) (d : Device) :
    d.Leaves (d.applyReading reading)
      (((Memory.askedCall? reading).filter d.memory.hasHook).toList.map .hook) := by
  cases reading with
  | asks enabled version => exact leaves_raise d (.uploadEnabled enabled)
  | _ => exact leaves_nothing rfl

theorem leaves_reconcile (document : String) (d : Device) :
    d.Leaves (d.reconcile document).2 (d.memory.effects (.reconcile document)) := by
  have hlogged : d.Leaves
      (Device.log
        ((Desired.Reading.ofDocument d.settings.property document).records d.settings.property
          d.version)
        { d with
          version := (Desired.Reading.ofDocument d.settings.property document).versionAfter
            d.version }) [] :=
    leaves_log { d with version := _ } _
  rw [Memory.effects_of_calls_eq_nil rfl]
  exact hlogged.trans (leaves_applyReading _ _)

theorem effects_dispatch (hooks : Hooks) (earlier : List Hooks.Call) (method : String)
    (payload : Bytes) :
    Journal.effects (Method.dispatch hooks earlier method payload).entries =
      (((Method.ofName? method).map (·.call (.ofBytes payload))).filter
        fun c => (hooks.hookOf c).isPresent).toList.map .hook := by
  cases hmethod : Method.ofName? method with
  | none =>
      rw [Method.dispatch_of_unknown hmethod, Journal.effects_append, Journal.effects_map_record]
      rfl
  | some known =>
      rw [Method.dispatch_of_known hmethod, Journal.effects_append, Journal.effects_map_record,
        effects_ofCall]
      rfl

theorem leaves_invoke (method : String) (payload : Bytes) (d : Device) :
    d.Leaves (d.invoke method payload).2 (d.memory.effects (.invoke method payload)) := by
  have hnoted := leaves_note d (Method.dispatch d.hooks d.raised method payload).entries
  rw [effects_dispatch] at hnoted
  rw [Memory.effects_of_calls_eq_nil rfl]
  exact hnoted

theorem leaves_respond (method : String) (reply : Option Nat) (response : Method.Response)
    (d : Device) : d.Leaves (d.respond method reply response) [] := by
  cases reply with
  | none => exact leaves_log d _
  | some ticket => exact leaves_note d [.response ticket response]

theorem leaves_introduce (d : Device) :
    d.Leaves d.introduce ((introduction d.settings).map .link) := by
  unfold introduce introduction
  cases d.settings.serial with
  | none => exact leaves_nothing rfl
  | some serialNumber =>
      dsimp only
      have hcall : d.Leaves (d.reportDetails serialNumber).2
          [.link (.report (Report.deviceDetails serialNumber).write)] := leaves_call d _
      rcases hreport : d.reportDetails serialNumber with ⟨result, after⟩
      rw [hreport] at hcall
      cases result with
      | error cause => exact hcall.log _
      | ok _ => exact hcall

theorem leaves_connectionChanged (connected : Bool) (d : Device) :
    d.Leaves (d.connectionChanged connected)
      (d.memory.effects (.connectionChanged connected)) := by
  have hlogged : d.Leaves
      { d.log [Log.info s!"Cloud connection changed: connected={connected}"] with connected } [] :=
    leaves_log d _
  have hraised := hlogged.trans (leaves_raise _ (.connection connected))
  rw [List.nil_append] at hraised
  unfold connectionChanged Memory.effects
  rw [Memory.calls, Memory.callsOnConnection]
  dsimp only
  split
  · next hsound =>
      have hsame : (connected && !(d.memory.connectionChanged connected).broken) = true := hsound
      rw [if_pos hsame]
      exact hraised.trans (leaves_introduce _)
  · next hbroken =>
      have hsame : ¬(connected && !(d.memory.connectionChanged connected).broken) = true :=
        hbroken
      rw [if_neg hsame, List.map_nil, List.append_nil]
      exact hraised

theorem leaves_hear (n : Notification) (d : Device) :
    d.Leaves (d.hear n) (d.memory.effects (.hear n)) := by
  cases n with
  | delivery success tag => exact leaves_settle success tag d
  | desired document => exact leaves_reconcile document d
  | invocation method payload reply =>
      have hinvoked := leaves_invoke method payload d
      simp only [hear]
      rcases hinvoke : d.invoke method payload with ⟨response, after⟩
      rw [hinvoke] at hinvoked
      cases response with
      | none => exact hinvoked
      | some response =>
          have hresponded := hinvoked.trans (leaves_respond method reply response after)
          rw [List.append_nil] at hresponded
          exact hresponded
  | connection connected => exact leaves_connectionChanged connected d

/-- Every step has the effects that it is to have, and no other. -/
theorem leaves_act (d : Device) (step : Step) : d.Leaves (d.act step) (d.memory.effects step) := by
  cases step with
  | startLink => exact leaves_startLink d
  | sendTelemetry t => exact leaves_call d _
  | sendMoved => exact leaves_call d _
  | reportDetails serialNumber => exact leaves_call d _
  | reportUpload enabled => exact leaves_call { d with version := d.version.advance } _
  | tick => exact leaves_tick d
  | settle success tag => exact leaves_settle success tag d
  | reconcile document => exact leaves_reconcile document d
  | invoke method payload => exact leaves_invoke method payload d
  | connectionChanged connected => exact leaves_connectionChanged connected d
  | hear n => exact leaves_hear n d
  | signal e => exact leaves_nothing rfl
  | relink link => exact leaves_nothing rfl

theorem leaves_run (d : Device) (steps : List Step) :
    d.Leaves (d.run steps) (d.memory.effectsAlong steps) := by
  induction steps generalizing d with
  | nil => exact leaves_nothing rfl
  | cons step later ih =>
      rw [run_cons, Memory.effectsAlong, ← memory_act]
      exact (leaves_act d step).trans (ih (d.act step))

end Device

end DeviceTwin
