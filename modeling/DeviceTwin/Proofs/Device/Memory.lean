/-
What a device keeps in mind between two things that it does: all of it but its
link and its journal.  Every entry point acts on the memory in one way, whatever
the link answers, and so does every run of entry points.
-/
import DeviceTwin.Device

namespace DeviceTwin

namespace Device

/-- A device without its link and its journal. -/
structure Memory where
  settings : Settings
  hooks : Hooks
  pending : Pending
  version : DesiredVersion
  connected : Bool
  broken : Bool
  raised : List Hooks.Call

def memory (d : Device) : Memory :=
  ⟨d.settings, d.hooks, d.pending, d.version, d.connected, d.broken, d.raised⟩

/-- The memory of a device that has done nothing yet. -/
def Memory.ofSettings (settings : Settings) (hooks : Hooks) : Memory :=
  ⟨settings, hooks, .atStart, .initial, false, false, []⟩

/-- A device that could be made is as new, with the link that it was given. -/
theorem eq_of_ofSettings {settings : Settings} {hooks : Hooks} {link : Link} {d : Device}
    (hcreated : ofSettings settings hooks link = .ok d) :
    d.memory = .ofSettings settings hooks ∧ d.link = link ∧ d.journal = {} := by
  unfold ofSettings at hcreated
  split at hcreated
  · contradiction
  · split at hcreated
    · contradiction
    · rw [Except.ok.injEq] at hcreated
      subst hcreated
      exact ⟨rfl, rfl, rfl⟩

@[simp] theorem memory_call (c : Link.Call) (d : Device) :
    (d.call c).2.memory = d.memory := rfl

/-- Nobody sees from the memory whether the link could be started. -/
@[simp] theorem memory_startLink (d : Device) : d.startLink.2.memory = d.memory := by
  unfold startLink
  have hcall := memory_call (.start d.settings.model) d
  rcases hstart : d.call (.start d.settings.model) with ⟨result, after⟩
  rw [hstart] at hcall
  cases result with
  | error cause => exact hcall
  | ok _ => exact hcall

/-- A tick leaves the flags as they are, also the one of the event that it sends. -/
@[simp] theorem memory_tick (d : Device) : d.tick.2.memory = d.memory := by
  unfold tick
  cases d.pending.next? with
  | none => rfl
  | some e =>
      dsimp only
      have hmemory : ((d.log [Log.debug s!"Trying to send {e.name} event"]).send
          e.announcement (some e)).2.memory = d.memory := rfl
      rcases hsend : (d.log [Log.debug s!"Trying to send {e.name} event"]).send
        e.announcement (some e) with ⟨result, after⟩
      rw [hsend] at hmemory
      cases result with
      | error cause => exact hmemory
      | ok _ => exact hmemory

/-- The hook call that a document asks for. -/
def Memory.askedCall? : Desired.Reading → Option Hooks.Call
  | .asks enabled _ => some (.uploadEnabled enabled)
  | _ => none

/-- The memory after a hook call, if there is one. -/
def Memory.raise (call : Option Hooks.Call) (m : Memory) : Memory :=
  { m with
    broken := m.broken || call.any (m.hooks.fails m.raised)
    raised := (Journal.hookCalls (call.toList.map (Journal.ofCall m.hooks))).reverse ++ m.raised }

theorem Memory.raise_none (m : Memory) : m.raise none = m := by
  simp [raise, Journal.hookCalls]

@[simp] theorem memory_raise (c : Hooks.Call) (d : Device) :
    (d.raise c).memory = d.memory.raise (some c) := rfl

@[simp] theorem memory_applyReading (reading : Desired.Reading) (d : Device) :
    (d.applyReading reading).memory = d.memory.raise (Memory.askedCall? reading) := by
  cases reading with
  | asks enabled version => rfl
  | _ => exact (Memory.raise_none _).symm

/-- The memory after a document of desired properties. -/
def Memory.reconcile (document : String) (m : Memory) : Memory :=
  let reading := Desired.Reading.ofDocument m.settings.property document
  { m with version := reading.versionAfter m.version }.raise (askedCall? reading)

@[simp] theorem memory_reconcile (document : String) (d : Device) :
    (d.reconcile document).2.memory = d.memory.reconcile document := by
  unfold reconcile
  rw [memory_applyReading]
  rfl

/-- The memory after the invocation of a method. -/
def Memory.invoke (name : String) (payload : Bytes) (m : Memory) : Memory :=
  let dispatch := Method.dispatch m.hooks m.raised name payload
  { m with
    broken := m.broken || dispatch.response.isNone
    raised := (Journal.hookCalls dispatch.entries).reverse ++ m.raised }

@[simp] theorem memory_invoke (name : String) (payload : Bytes) (d : Device) :
    (d.invoke name payload).2.memory = d.memory.invoke name payload := rfl

@[simp] theorem memory_introduce (d : Device) : d.introduce.memory = d.memory := by
  unfold introduce
  cases d.settings.serial with
  | none => rfl
  | some serialNumber =>
      dsimp only
      have hmemory : (d.reportDetails serialNumber).2.memory = d.memory := rfl
      rcases hreport : d.reportDetails serialNumber with ⟨result, after⟩
      rw [hreport] at hmemory
      cases result with
      | error cause => exact hmemory
      | ok _ => exact hmemory

/-- The memory after the connection has come or gone. -/
def Memory.connectionChanged (connected : Bool) (m : Memory) : Memory :=
  { m with connected }.raise (some (.connection connected))

@[simp] theorem memory_connectionChanged (connected : Bool) (d : Device) :
    (d.connectionChanged connected).memory = d.memory.connectionChanged connected := by
  unfold connectionChanged
  dsimp only
  split
  · rw [memory_introduce]
    rfl
  · rfl

@[simp] theorem memory_respond (method : String) (reply : Option Nat)
    (response : Method.Response) (d : Device) :
    (d.respond method reply response).memory = d.memory := by
  cases reply <;> rfl

/-- The memory after a notification. -/
def Memory.hear (n : Notification) (m : Memory) : Memory :=
  match n with
  | .delivery success tag => { m with pending := (m.pending.settle success tag).2 }
  | .desired document => m.reconcile document
  | .invocation method payload _ => m.invoke method payload
  | .connection connected => m.connectionChanged connected

@[simp] theorem memory_hear (n : Notification) (d : Device) :
    (d.hear n).memory = d.memory.hear n := by
  cases n with
  | delivery success tag => rfl
  | desired document => exact memory_reconcile document d
  | invocation method payload reply =>
      have hmemory := memory_invoke method payload d
      simp only [hear, Memory.hear]
      rcases hinvoke : d.invoke method payload with ⟨response, after⟩
      rw [hinvoke] at hmemory
      cases response with
      | none => exact hmemory
      | some response =>
          rw [← hmemory]
          exact memory_respond method reply response after
  | connection connected => exact memory_connectionChanged connected d

end Device

end DeviceTwin
