/-
What a service does in one turn.  The history tells which of the six things it was, and
from that follow the calls on the link and what the device keeps in mind afterwards.
-/
import DeviceTwin.Proofs.Device.Calls
import DeviceTwin.Proofs.Service.Turn

namespace DeviceTwin

namespace Service

/-- The step of the device by which a request is served. -/
def Request.step? : Request → Option Device.Step
  | .signal e => some (.signal e)
  | .telemetry t => some (.sendTelemetry t)
  | .moved => some .sendMoved
  | .details serialNumber => some (.reportDetails serialNumber)
  | .report enabled => some (.reportUpload enabled)
  | .status => none

/-- The step of the device in something that the service did. -/
def Activity.step? : Activity → Option Device.Step
  | .heard n => some (.hear n)
  | .ticked _ => some .tick
  | .served job => job.request.step?
  | .hungUp | .finished => none

/-- The calls on the link that the service makes when it does something. -/
def Activity.calls (m : Device.Memory) : Activity → List Link.Call
  | .heard n => m.calls (.hear n)
  | .ticked _ => m.calls .tick
  | .served job => (job.request.step?.map m.calls).getD []
  | .hungUp => []
  | .finished => [.close]

/-- What the history of a service has got since an earlier time. -/
def deeds (s after : Service) : List Activity :=
  (after.history.since s.history.length).map Prod.snd

theorem deeds_of_add {s after : Service} {t : Nat} {a : Activity}
    (hhistory : after.history = s.history.add (t, a)) : s.deeds after = [a] := by
  rw [deeds, hhistory, Trace.since_eq_drop, Trace.toList_add, ← Trace.length_toList,
    List.drop_left]
  rfl

theorem deeds_of_eq {s after : Service} (hhistory : after.history = s.history) :
    s.deeds after = [] := by
  rw [deeds, hhistory, Trace.since_eq_drop, ← Trace.length_toList, List.drop_length]
  rfl

theorem history_checked (s : Service) : s.checked.history = s.history := by
  unfold checked
  split <;> rfl

theorem history_hear (n : Notification) (s : Service) :
    (s.hear n).history = s.history.add (s.now, .heard n) := by
  unfold hear
  dsimp only
  rw [history_checked]
  cases awaited? n with
  | none => rfl
  | some ticket =>
      dsimp only
      split <;> rfl

theorem history_tick (s : Service) :
    s.tick.history = s.history.add (s.now, .ticked s.device.tick.1) := by
  unfold tick
  rcases s.device.tick with ⟨t, after⟩
  cases t <;> rfl

theorem history_serve (job : Job) (s : Service) :
    (s.serve job).history = s.history.add (s.now, .served job) := by
  unfold serve
  cases job.request <;> rfl

theorem deeds_stop (s : Service) : s.deeds s.stop = [.finished] :=
  deeds_of_add (t := s.now) rfl

theorem deeds_hear (s : Service) (n : Notification) (inbox : Mailbox Link.Letter) :
    s.deeds (hear n { s with device := s.device.withInbox inbox }) = [.heard n] :=
  deeds_of_add (history_hear n { s with device := s.device.withInbox inbox })

theorem deeds_hangUp (s : Service) : s.deeds s.hangUp = [.hungUp] :=
  deeds_of_add (t := s.now) rfl

theorem deeds_tick (s : Service) : s.deeds s.tick = [.ticked s.device.tick.1] :=
  deeds_of_add (history_tick s)

theorem deeds_serve (s : Service) (job : Job) (requests : Mailbox Job) :
    s.deeds (serve job { s with requests }) = [.served job] :=
  deeds_of_add (history_serve job { s with requests })

theorem deeds_refill (s : Service) : s.deeds s.refill = [] :=
  (deeds_of_eq rfl : s.deeds s.refill = [])

theorem grant_eq (d : Device) (request : Request) :
    d.grant request = (request.step?.map d.act).getD d := by
  cases request <;> rfl

theorem memory_checked (s : Service) : s.checked.device.memory = s.device.memory := by
  unfold checked
  split <;> rfl

end Service

namespace Device

/-- The end of the service calls nobody. -/
theorem called_deafen (d : Device) : d.Called d.deafen [] := by
  have hdeaf : d.Called { d with link := d.link.deafen.1 } [] := called_nothing rfl rfl rfl rfl
  exact hdeaf.then_nothing (called_log _ _)

end Device

namespace Service

theorem called_checked (s : Service) : s.device.Called s.checked.device [] := by
  unfold checked
  split
  · exact Device.called_deafen s.device
  · exact Device.called_nothing rfl rfl rfl rfl

variable {s after : Service}

/-- One thing at most is done in a turn. -/
theorem Turn.deeds_cases (hturn : s.Turn after) :
    s.deeds after = [] ∨ ∃ a, s.deeds after = [a] := by
  cases hturn with
  | stop => exact Or.inr ⟨_, deeds_stop s⟩
  | hear => exact Or.inr ⟨_, deeds_hear s _ _⟩
  | hangUp => exact Or.inr ⟨_, deeds_hangUp s⟩
  | tick => exact Or.inr ⟨_, deeds_tick s⟩
  | serve => exact Or.inr ⟨_, deeds_serve s _ _⟩
  | refill => exact Or.inl (deeds_refill s)

/-- What the service does in a turn decides what its device keeps in mind. -/
theorem Turn.memory_eq (hturn : s.Turn after) :
    after.device.memory =
      ((s.deeds after).filterMap Activity.step?).foldl Device.Memory.act s.device.memory := by
  cases hturn with
  | stop hrunning hasked =>
      rw [deeds_stop]
      rfl
  | @hear letter inbox hrunning hasked hpop =>
      rw [deeds_hear]
      obtain ⟨answers, history, heq⟩ :=
        hear_eq letter.content { s with device := s.device.withInbox inbox }
      rw [heq, memory_checked]
      exact Device.memory_hear _ _
  | hangUp hrunning hasked hheard hdeserted =>
      rw [deeds_hangUp]
      rfl
  | tick hrunning hasked hheard hdeserted hdue =>
      rw [deeds_tick]
      obtain ⟨records, history, heq⟩ := tick_eq s
      rw [heq]
      exact Device.memory_tick s.device
  | @serve job requests hrunning hasked hheard hdeserted hearly hpop =>
      rw [deeds_serve]
      obtain ⟨answers, history, heq⟩ := serve_eq job { s with requests }
      rw [heq]
      change (s.device.grant job.request).memory = _
      rw [grant_eq]
      change _ = (job.request.step?.toList).foldl Device.Memory.act s.device.memory
      cases job.request.step? with
      | none => rfl
      | some step => exact Device.memory_act s.device step
  | refill hrunning hasked hheard hdeserted hearly hserved hwaiting =>
      rw [deeds_refill]
      rfl

/-- No request changes the link from outside. -/
theorem isRelink_of_step?_eq_some {request : Request} {step : Device.Step}
    (hstep : request.step? = some step) : step.isRelink = false := by
  cases request <;> cases hstep <;> rfl

/-- To serve a request makes the calls of its step. -/
theorem makes_grant (d : Device) (job : Job) :
    d.Makes (d.grant job.request) ((Activity.served job).calls d.memory) := by
  rw [grant_eq]
  rw [Activity.calls]
  cases hstep : job.request.step? with
  | none => exact Device.makes_nothing rfl rfl rfl rfl rfl
  | some step => exact Device.makes_act d step (isRelink_of_step?_eq_some hstep)

/-- What the service does in a turn decides which calls it makes on the link. -/
theorem Turn.called (hturn : s.Turn after) :
    s.device.Called after.device
      ((s.deeds after).flatMap (Activity.calls s.device.memory)) := by
  cases hturn with
  | stop hrunning hasked =>
      rw [deeds_stop]
      have hclosed : s.device.Called
          (s.device.closeLink.log [Log.info "Cloud adapter stopped"]) [.close] :=
        ((Device.makes_call s.device .close).log _).called
      exact hclosed.then_nothing (Device.called_deafen _)
  | @hear letter inbox hrunning hasked hpop =>
      rw [deeds_hear]
      obtain ⟨answers, history, heq⟩ :=
        hear_eq letter.content { s with device := s.device.withInbox inbox }
      have hpopped : s.device.Called (s.device.withInbox inbox) [] :=
        Device.called_nothing rfl rfl rfl rfl
      have hheard := (Device.makes_act (s.device.withInbox inbox)
        (.hear letter.content) rfl).called
      have hchecked := called_checked
        { s with device := (s.device.withInbox inbox).hear letter.content, answers, history }
      rw [heq, List.flatMap_singleton]
      exact hpopped.trans (hheard.then_nothing hchecked)
  | hangUp hrunning hasked hheard hdeserted =>
      rw [deeds_hangUp]
      exact Device.called_log s.device _
  | tick hrunning hasked hheard hdeserted hdue =>
      rw [deeds_tick]
      obtain ⟨records, history, heq⟩ := tick_eq s
      rw [heq, List.flatMap_singleton]
      exact ((Device.makes_act s.device .tick rfl).log records).called
  | @serve job requests hrunning hasked hheard hdeserted hearly hpop =>
      rw [deeds_serve]
      obtain ⟨answers, history, heq⟩ := serve_eq job { s with requests }
      rw [heq, List.flatMap_singleton]
      exact (makes_grant s.device job).called
  | refill hrunning hasked hheard hdeserted hearly hserved hwaiting =>
      rw [deeds_refill]
      exact Device.called_nothing rfl rfl rfl rfl

end Service

end DeviceTwin
