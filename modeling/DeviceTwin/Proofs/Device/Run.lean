/-
Runs of a device: any sequence of its entry points, between which the link may
become any other link.  The memory after a run is a fold over its steps in which
no answer of a link occurs.
-/
import DeviceTwin.Proofs.Device.Memory

namespace DeviceTwin

/-- A link that answers as it is told and reports no delivery. -/
def Link.scripted (results : List Link.Result) : Link :=
  { name := "link", kind := .scripted ⟨results⟩
    inbox := { capacity := 1, capacity_pos := Nat.one_pos } }

namespace Device

/-- One step of a run: an entry point of the device, or a change of its link in
which the device has no part. -/
inductive Step
  | startLink
  | signal (e : Event)
  | sendTelemetry (t : Telemetry)
  | sendMoved
  | reportDetails (serialNumber : String)
  | reportUpload (enabled : Bool)
  | tick
  | settle (success : Bool) (tag : Tag)
  | reconcile (document : String)
  | invoke (method : String) (payload : Bytes)
  | connectionChanged (connected : Bool)
  | hear (n : Notification)
  /-- The network, the cloud or somebody else with a hold of the link has changed it. -/
  | relink (link : Link)

def act (d : Device) : Step → Device
  | .startLink => d.startLink.2
  | .signal e => d.signal e
  | .sendTelemetry t => (d.sendTelemetry t).2
  | .sendMoved => d.sendMoved.2
  | .reportDetails serialNumber => (d.reportDetails serialNumber).2
  | .reportUpload enabled => (d.reportUpload enabled).2
  | .tick => d.tick.2
  | .settle success tag => (d.settle success tag).2
  | .reconcile document => (d.reconcile document).2
  | .invoke method payload => (d.invoke method payload).2
  | .connectionChanged connected => d.connectionChanged connected
  | .hear n => d.hear n
  | .relink link => { d with link }

def run (d : Device) (steps : List Step) : Device := steps.foldl act d

@[simp] theorem run_nil (d : Device) : d.run [] = d := rfl

@[simp] theorem run_cons (d : Device) (step : Step) (later : List Step) :
    d.run (step :: later) = (d.act step).run later := rfl

theorem run_append (d : Device) (earlier later : List Step) :
    d.run (earlier ++ later) = (d.run earlier).run later := by
  rw [run, run, run, List.foldl_append]

/-- The memory after a step, for which the link is not needed. -/
def Memory.act (m : Memory) : Step → Memory
  | .signal e => { m with pending := m.pending.insert e }
  | .reportUpload _ => { m with version := m.version.advance }
  | .settle success tag => { m with pending := (m.pending.settle success tag).2 }
  | .reconcile document => m.reconcile document
  | .invoke method payload => m.invoke method payload
  | .connectionChanged connected => m.connectionChanged connected
  | .hear n => m.hear n
  | .startLink | .sendTelemetry _ | .sendMoved | .reportDetails _ | .tick | .relink _ => m

@[simp] theorem memory_act (d : Device) (step : Step) :
    (d.act step).memory = d.memory.act step := by
  cases step with
  | startLink => exact memory_startLink d
  | tick => exact memory_tick d
  | reconcile document => exact memory_reconcile document d
  | connectionChanged connected => exact memory_connectionChanged connected d
  | hear n => exact memory_hear n d
  | _ => rfl

theorem pending_act (d : Device) (step : Step) :
    (d.act step).pending = (d.memory.act step).pending :=
  congrArg Memory.pending (memory_act d step)

theorem version_act (d : Device) (step : Step) :
    (d.act step).version = (d.memory.act step).version :=
  congrArg Memory.version (memory_act d step)

/-- What a device keeps in mind after a run does not depend on what its link
answered. -/
theorem memory_run (d : Device) (steps : List Step) :
    (d.run steps).memory = steps.foldl Memory.act d.memory := by
  induction steps generalizing d with
  | nil => rfl
  | cons step later ih => rw [run_cons, ih, memory_act, List.foldl_cons]

/-- No step replaces the settings. -/
theorem Memory.settings_act (m : Memory) (step : Step) : (m.act step).settings = m.settings := by
  cases step with
  | hear n => cases n <;> rfl
  | _ => rfl

theorem settings_act (d : Device) (step : Step) : (d.act step).settings = d.settings := by
  change (d.act step).memory.settings = d.settings
  rw [memory_act, Memory.settings_act]
  rfl

theorem settings_run (d : Device) (steps : List Step) : (d.run steps).settings = d.settings := by
  induction steps generalizing d with
  | nil => rfl
  | cons step later ih => rw [run_cons, ih, settings_act]

/-- A device with the settings that hold by default and without hooks. -/
def plain (link : Link) : Device :=
  { settings := {}, interval_ne_zero := by decide, hooks := {}, link }

theorem ofSettings_plain (link : Link) : ofSettings {} {} link = .ok (plain link) := rfl

end Device

end DeviceTwin
