/-
What a device leaves behind.  The entries that a step adds to the journal tell all that
the step did with the link and whether a hook failed in it; and for each step it is known
beforehand which calls on the link it makes, whatever the link answers.
-/
import DeviceTwin.Proofs.Device.Stamps
import DeviceTwin.Proofs.Link.Result
import DeviceTwin.Proofs.Method.Copy

namespace DeviceTwin

namespace Journal

theorem linkCalls_append (earlier later : List Entry) :
    linkCalls (earlier ++ later) = linkCalls earlier ++ linkCalls later :=
  List.filterMap_append

theorem hookCalls_append (earlier later : List Entry) :
    hookCalls (earlier ++ later) = hookCalls earlier ++ hookCalls later :=
  List.filterMap_append

theorem hookCalls_map_record (records : List Log.Record) :
    hookCalls (records.map .record) = [] := by
  induction records with
  | nil => rfl
  | cons r rest ih => exact ih

end Journal

namespace Hooks

/-- Whether one of several calls fails, made one after the other and after earlier ones. -/
def failsAmong (hooks : Hooks) : (earlier calls : List Call) → Bool
  | _, [] => false
  | earlier, c :: later => hooks.fails earlier c || failsAmong hooks (c :: earlier) later

theorem failsAmong_append (hooks : Hooks) (earlier calls later : List Call) :
    hooks.failsAmong earlier (calls ++ later) =
      (hooks.failsAmong earlier calls || hooks.failsAmong (calls.reverse ++ earlier) later) := by
  induction calls generalizing earlier with
  | nil => rfl
  | cons c rest ih =>
      rw [List.cons_append, failsAmong, failsAmong, ih, List.reverse_cons, List.append_assoc,
        Bool.or_assoc]
      rfl

/-- One of several calls fails if it does after those before it. -/
theorem failsAmong_iff {hooks : Hooks} {earlier calls : List Call} :
    hooks.failsAmong earlier calls = true ↔ ∃ before c later, calls = before ++ c :: later ∧
      hooks.fails (before.reverse ++ earlier) c = true := by
  induction calls generalizing earlier with
  | nil => simp [failsAmong]
  | cons first rest ih =>
      rw [failsAmong, Bool.or_eq_true, ih]
      constructor
      · rintro (hfails | ⟨before, c, later, rfl, hfails⟩)
        · exact ⟨[], first, rest, rfl, hfails⟩
        · refine ⟨first :: before, c, later, rfl, ?_⟩
          rwa [List.reverse_cons, List.append_assoc]
      · rintro ⟨before, c, later, hsplit, hfails⟩
        cases before with
        | nil =>
            obtain ⟨rfl, rfl⟩ := List.cons.inj hsplit
            exact Or.inl hfails
        | cons second more =>
            obtain ⟨rfl, rfl⟩ := List.cons.inj hsplit
            rw [List.reverse_cons, List.append_assoc] at hfails
            exact Or.inr ⟨more, c, later, rfl, hfails⟩

end Hooks

namespace Device

/-- Between two times a device has got entries in its journal, which also tell which hooks were
called and whether it has broken. -/
structure Noted (d after : Device) (entries : List Journal.Entry) : Prop where
  journal : after.journal.toList = d.journal.toList ++ entries
  hooks : after.hooks = d.hooks
  raised : after.raised = (Journal.hookCalls entries).reverse ++ d.raised
  broken : after.broken = (d.broken || d.hooks.failsAmong d.raised (Journal.hookCalls entries))

theorem Noted.trans {d between after : Device} {earlier later : List Journal.Entry}
    (hearlier : d.Noted between earlier) (hlater : between.Noted after later) :
    d.Noted after (earlier ++ later) := by
  refine ⟨?_, hlater.hooks.trans hearlier.hooks, ?_, ?_⟩
  · rw [hlater.journal, hearlier.journal, List.append_assoc]
  · rw [hlater.raised, hearlier.raised, Journal.hookCalls_append, List.reverse_append,
      List.append_assoc]
  · rw [hlater.broken, hearlier.broken, hearlier.hooks, hearlier.raised,
      Journal.hookCalls_append, Hooks.failsAmong_append, Bool.or_assoc]

/-- The entries are what the journal holds since then. -/
theorem Noted.since_eq {d after : Device} {entries : List Journal.Entry}
    (hnoted : d.Noted after entries) : after.journal.since d.journal.length = entries := by
  rw [Trace.since_eq_drop, hnoted.journal, ← Trace.length_toList, List.drop_left]

/-- The calls on the link that the journal has got since an earlier time. -/
def callsUntil (d after : Device) : List Link.Call :=
  Journal.linkCalls (after.journal.since d.journal.length)

/-- Between two times a device has made calls on its link. -/
def Called (d after : Device) (calls : List Link.Call) : Prop :=
  ∃ entries, d.Noted after entries ∧ Journal.linkCalls entries = calls

theorem Called.trans {d between after : Device} {earlier later : List Link.Call}
    (hearlier : d.Called between earlier) (hlater : between.Called after later) :
    d.Called after (earlier ++ later) := by
  obtain ⟨first, hfirst, rfl⟩ := hearlier
  obtain ⟨second, hsecond, rfl⟩ := hlater
  exact ⟨_, hfirst.trans hsecond, Journal.linkCalls_append first second⟩

/-- What makes no call may come afterwards. -/
theorem Called.then_nothing {d between after : Device} {made : List Link.Call}
    (hcalled : d.Called between made) (hlater : between.Called after []) :
    d.Called after made := by
  have hboth := hcalled.trans hlater
  rwa [List.append_nil] at hboth

theorem Called.callsUntil_eq {d after : Device} {calls : List Link.Call}
    (hcalled : d.Called after calls) : d.callsUntil after = calls := by
  obtain ⟨entries, hnoted, rfl⟩ := hcalled
  rw [callsUntil, hnoted.since_eq]

/-- A hook has failed exactly if the journal has a call that fails after the calls before it. -/
theorem Called.broken_iff {d after : Device} {calls : List Link.Call}
    (hcalled : d.Called after calls) (hsound : d.broken = false) :
    after.broken = true ↔ ∃ before c later,
      Journal.hookCalls (after.journal.since d.journal.length) = before ++ c :: later ∧
        d.hooks.fails (before.reverse ++ d.raised) c = true := by
  obtain ⟨entries, hnoted, -⟩ := hcalled
  rw [hnoted.broken, hsound, Bool.false_or, hnoted.since_eq, Hooks.failsAmong_iff]

/-- Nothing was done that the journal should know of. -/
theorem called_nothing {d after : Device} (hjournal : after.journal = d.journal)
    (hhooks : after.hooks = d.hooks) (hraised : after.raised = d.raised)
    (hbroken : after.broken = d.broken) : d.Called after [] := by
  refine ⟨[], ⟨?_, hhooks, hraised, ?_⟩, rfl⟩
  · rw [hjournal, List.append_nil]
  · rw [hbroken]
    exact (Bool.or_false _).symm

theorem called_note {d : Device} {entries : List Journal.Entry}
    (hlink : Journal.linkCalls entries = []) (hhooks : Journal.hookCalls entries = []) :
    d.Called (d.note entries) [] := by
  refine ⟨entries, ⟨Trace.toList_append _ _, rfl, ?_, ?_⟩, hlink⟩
  · rw [hhooks]
    rfl
  · rw [hhooks]
    exact (Bool.or_false _).symm

theorem called_log (d : Device) (records : List Log.Record) : d.Called (d.log records) [] :=
  called_note (linkCalls_map_record records) (Journal.hookCalls_map_record records)

/-- Between two times a device has made calls on its link, and nobody else has changed the
link. -/
structure Makes (d after : Device) (calls : List Link.Call) : Prop where
  called : d.Called after calls
  link : after.link = d.link.performAll calls

theorem Makes.trans {d between after : Device} {earlier later : List Link.Call}
    (hearlier : d.Makes between earlier) (hlater : between.Makes after later) :
    d.Makes after (earlier ++ later) := by
  refine ⟨hearlier.called.trans hlater.called, ?_⟩
  rw [hlater.link, hearlier.link, Link.performAll_append]

theorem makes_nothing {d after : Device} (hjournal : after.journal = d.journal)
    (hlink : after.link = d.link) (hhooks : after.hooks = d.hooks)
    (hraised : after.raised = d.raised) (hbroken : after.broken = d.broken) :
    d.Makes after [] :=
  ⟨called_nothing hjournal hhooks hraised hbroken, hlink⟩

theorem makes_call (d : Device) (c : Link.Call) : d.Makes (d.call c).2 [c] := by
  have hnone : Journal.hookCalls (.link c :: (d.link.perform c).records.map .record) = [] :=
    Journal.hookCalls_map_record _
  refine ⟨⟨.link c :: (d.link.perform c).records.map .record, ⟨?_, rfl, ?_, ?_⟩, ?_⟩, rfl⟩
  · change (d.journal ++ [Journal.Entry.link c] ++
      (d.link.perform c).records.map Journal.Entry.record).toList = _
    rw [Trace.toList_append, Trace.toList_append, List.append_assoc]
    rfl
  · rw [hnone]
    rfl
  · rw [hnone]
    exact (Bool.or_false _).symm
  · change c :: Journal.linkCalls _ = [c]
    rw [linkCalls_map_record]

variable {d between : Device} {made : List Link.Call}

theorem Makes.then_nothing {after : Device} (hmakes : d.Makes between made)
    (hlater : between.Makes after []) : d.Makes after made :=
  ⟨hmakes.called.then_nothing hlater.called, hlater.link.trans hmakes.link⟩

theorem Makes.log (hmakes : d.Makes between made) (records : List Log.Record) :
    d.Makes (between.log records) made :=
  hmakes.then_nothing ⟨called_log between records, rfl⟩

/-- What raising a hook leaves in the journal makes no call on the link, and it has a hook
call that fails exactly if the hook does. -/
theorem calls_ofCall (hooks : Hooks) (earlier : List Hooks.Call) (c : Hooks.Call) :
    Journal.linkCalls [Journal.ofCall hooks c] = [] ∧
      hooks.failsAmong earlier (Journal.hookCalls [Journal.ofCall hooks c]) =
        hooks.fails earlier c := by
  unfold Journal.ofCall Hooks.fails
  cases hhook : hooks.hookOf c with
  | absent => exact ⟨rfl, rfl⟩
  | registered fails =>
      refine ⟨rfl, ?_⟩
      change (hooks.fails earlier c || false) = _
      rw [Bool.or_false, Hooks.fails, hhook]

theorem Makes.raise (hmakes : d.Makes between made) (c : Hooks.Call) :
    d.Makes (between.raise c) made := by
  obtain ⟨hlink, hfails⟩ := calls_ofCall between.hooks between.raised c
  refine hmakes.then_nothing
    ⟨⟨[Journal.ofCall between.hooks c], ⟨Trace.toList_append _ _, rfl, rfl, ?_⟩, hlink⟩, rfl⟩
  rw [hfails]
  rfl

theorem makes_startLink (d : Device) : d.Makes d.startLink.2 [.start d.settings.model] := by
  unfold startLink
  have hcall := makes_call d (.start d.settings.model)
  rcases hstart : d.call (.start d.settings.model) with ⟨result, after⟩
  rw [hstart] at hcall
  cases result with
  | error cause => exact hcall
  | ok _ => exact hcall.log _

/-- A tick makes one call if an event is pending, and none otherwise. -/
theorem makes_tick (d : Device) :
    d.Makes d.tick.2
      (d.pending.next?.toList.map fun e => .telemetry e.announcement.write (some e)) := by
  unfold tick
  cases d.pending.next? with
  | none => exact makes_nothing rfl rfl rfl rfl rfl
  | some e =>
      dsimp only
      have hlogged : d.Makes (d.log [Log.debug s!"Trying to send {e.name} event"]) [] :=
        Makes.log (makes_nothing rfl rfl rfl rfl rfl) _
      have hcall : d.Makes ((d.log [Log.debug s!"Trying to send {e.name} event"]).send
          e.announcement (some e)).2 [.telemetry e.announcement.write (some e)] :=
        hlogged.trans (makes_call _ _)
      rcases hsend : (d.log [Log.debug s!"Trying to send {e.name} event"]).send
        e.announcement (some e) with ⟨result, after⟩
      rw [hsend] at hcall
      cases result with
      | error cause => exact hcall.log _
      | ok _ => exact hcall

/-- A tick attempts the most urgent pending event. -/
theorem attempted?_tick (d : Device) : d.tick.1.attempted? = d.pending.next? := by
  unfold tick
  cases d.pending.next? with
  | none => rfl
  | some e =>
      dsimp only
      rcases (d.log [Log.debug s!"Trying to send {e.name} event"]).send e.announcement (some e) with
        ⟨result, after⟩
      cases result <;> rfl

theorem makes_settle (success : Bool) (tag : Tag) (d : Device) :
    d.Makes (d.settle success tag).2 [] := by
  have hset : d.Makes { d with pending := (d.pending.settle success tag).2 } [] :=
    makes_nothing rfl rfl rfl rfl rfl
  exact hset.log _

theorem makes_reconcile (document : String) (d : Device) :
    d.Makes (d.reconcile document).2 [] := by
  have hset : d.Makes
      { d with
        version := (Desired.Reading.ofDocument d.settings.property document).versionAfter
          d.version } [] :=
    makes_nothing rfl rfl rfl rfl rfl
  unfold reconcile applyReading
  dsimp only
  split
  · exact (hset.log _).raise _
  · exact hset.log _

/-- Dispatching an invocation makes no call on the link, and there is no response exactly
if the hook fails. -/
theorem calls_dispatch (hooks : Hooks) (earlier : List Hooks.Call) (name : String)
    (payload : Bytes) :
    Journal.linkCalls (Method.dispatch hooks earlier name payload).entries = [] ∧
      hooks.failsAmong earlier
          (Journal.hookCalls (Method.dispatch hooks earlier name payload).entries) =
        (Method.dispatch hooks earlier name payload).response.isNone := by
  cases hname : Method.ofName? name with
  | none =>
      rw [Method.dispatch_of_unknown hname, Journal.linkCalls_append, Journal.hookCalls_append,
        linkCalls_map_record, Journal.hookCalls_map_record]
      exact ⟨rfl, rfl⟩
  | some method =>
      obtain ⟨hlink, hfails⟩ := calls_ofCall hooks earlier (method.call (.ofBytes payload))
      rw [Method.dispatch_of_known hname, Journal.linkCalls_append, Journal.hookCalls_append,
        linkCalls_map_record, Journal.hookCalls_map_record, hlink, List.nil_append,
        List.nil_append, hfails]
      refine ⟨rfl, ?_⟩
      cases hooks.fails earlier (method.call (.ofBytes payload)) <;> rfl

theorem makes_invoke (name : String) (payload : Bytes) (d : Device) :
    d.Makes (d.invoke name payload).2 [] := by
  obtain ⟨hlink, hfails⟩ := calls_dispatch d.hooks d.raised name payload
  refine ⟨⟨(Method.dispatch d.hooks d.raised name payload).entries,
    ⟨Trace.toList_append _ _, rfl, rfl, ?_⟩, hlink⟩, rfl⟩
  rw [hfails]
  rfl

theorem Makes.respond (hmakes : d.Makes between made) (method : String) (reply : Option Nat)
    (response : Method.Response) : d.Makes (between.respond method reply response) made := by
  cases reply with
  | none => exact hmakes.log _
  | some ticket => exact hmakes.then_nothing ⟨called_note rfl rfl, rfl⟩

/-- The call by which a device introduces itself, if it has a serial number. -/
def introduction (settings : Settings) : List Link.Call :=
  settings.serial.toList.map fun serialNumber => .report (Report.deviceDetails serialNumber).write

theorem makes_introduce (d : Device) : d.Makes d.introduce (introduction d.settings) := by
  unfold introduce introduction
  cases d.settings.serial with
  | none => exact makes_nothing rfl rfl rfl rfl rfl
  | some serialNumber =>
      dsimp only
      have hcall : d.Makes (d.reportDetails serialNumber).2
          [.report (Report.deviceDetails serialNumber).write] := makes_call d _
      rcases hreport : d.reportDetails serialNumber with ⟨result, after⟩
      rw [hreport] at hcall
      cases result with
      | error cause => exact hcall.log _
      | ok _ => exact hcall

/-- The calls that a device makes when the connection has come or gone: it introduces
itself to a cloud that is there again, unless a hook has failed. -/
def Memory.callsOnConnection (connected : Bool) (m : Memory) : List Link.Call :=
  if connected && !(m.connectionChanged connected).broken then introduction m.settings else []

theorem makes_connectionChanged (connected : Bool) (d : Device) :
    d.Makes (d.connectionChanged connected) (d.memory.callsOnConnection connected) := by
  have hset : d.Makes { d with connected } [] := makes_nothing rfl rfl rfl rfl rfl
  have hraised : d.Makes
      (Device.raise (.connection connected)
        { d.log [Log.info s!"Cloud connection changed: connected={connected}"] with connected })
      [] :=
    (hset.log _).raise _
  unfold connectionChanged Memory.callsOnConnection
  dsimp only
  split
  · next hsound =>
      have hcalls := hraised.trans (makes_introduce _)
      have hsame : (connected && !(d.memory.connectionChanged connected).broken) = true := hsound
      rw [if_pos hsame]
      exact hcalls
  · next hbroken =>
      have hsame : ¬(connected && !(d.memory.connectionChanged connected).broken) = true :=
        hbroken
      rw [if_neg hsame]
      exact hraised

/-- The calls on the link that a step makes.  A change of the link from outside is none
of them. -/
def Memory.calls (m : Memory) : Step → List Link.Call
  | .startLink => [.start m.settings.model]
  | .sendTelemetry t => [.telemetry t.toJson.write none]
  | .sendMoved => [.telemetry Telemetry.moved.write none]
  | .reportDetails serialNumber => [.report (Report.deviceDetails serialNumber).write]
  | .reportUpload enabled => [uploadCall m.settings.property (enabled, m.version.current)]
  | .tick => m.pending.next?.toList.map fun e => .telemetry e.announcement.write (some e)
  | .connectionChanged connected => m.callsOnConnection connected
  | .hear (.connection connected) => m.callsOnConnection connected
  | .signal _ | .settle _ _ | .reconcile _ | .invoke _ _ | .hear _ | .relink _ => []

/-- A device makes one call at most in a step. -/
theorem Memory.calls_cases (m : Memory) (step : Step) :
    m.calls step = [] ∨ ∃ c, m.calls step = [c] := by
  have hconnection : ∀ connected, m.callsOnConnection connected = [] ∨
      ∃ c, m.callsOnConnection connected = [c] := by
    intro connected
    rw [Memory.callsOnConnection]
    split
    · rw [introduction]
      cases m.settings.serial with
      | none => exact Or.inl rfl
      | some serialNumber => exact Or.inr ⟨_, rfl⟩
    · exact Or.inl rfl
  cases step with
  | tick =>
      rw [Memory.calls]
      cases m.pending.next? with
      | none => exact Or.inl rfl
      | some e => exact Or.inr ⟨_, rfl⟩
  | connectionChanged connected => exact hconnection connected
  | hear n =>
      cases n with
      | connection connected => exact hconnection connected
      | _ => exact Or.inl rfl
  | startLink => exact Or.inr ⟨_, rfl⟩
  | sendTelemetry t => exact Or.inr ⟨_, rfl⟩
  | sendMoved => exact Or.inr ⟨_, rfl⟩
  | reportDetails serialNumber => exact Or.inr ⟨_, rfl⟩
  | reportUpload enabled => exact Or.inr ⟨_, rfl⟩
  | _ => exact Or.inl rfl

/-- No step closes the link. -/
theorem Memory.close_not_mem_calls (m : Memory) (step : Step) : .close ∉ m.calls step := by
  have hconnection : ∀ connected, Link.Call.close ∉ m.callsOnConnection connected := by
    intro connected hclose
    rw [Memory.callsOnConnection] at hclose
    split at hclose
    · simp [introduction] at hclose
    · contradiction
  cases step with
  | connectionChanged connected => exact hconnection connected
  | hear n =>
      cases n with
      | connection connected => exact hconnection connected
      | _ => exact List.not_mem_nil
  | _ => simp [Memory.calls, uploadCall]

/-- Whether a step is a change of the link from outside. -/
def Step.isRelink : Step → Bool
  | .relink _ => true
  | _ => false

/-- Every step of the device makes the calls that it is to make, and no other. -/
theorem makes_act (d : Device) (step : Step) (hown : step.isRelink = false) :
    d.Makes (d.act step) (d.memory.calls step) := by
  cases step with
  | startLink => exact makes_startLink d
  | signal e => exact makes_nothing rfl rfl rfl rfl rfl
  | sendTelemetry t => exact makes_call d _
  | sendMoved => exact makes_call d _
  | reportDetails serialNumber => exact makes_call d _
  | reportUpload enabled =>
      have hset : d.Makes { d with version := d.version.advance } [] :=
        makes_nothing rfl rfl rfl rfl rfl
      exact hset.trans (makes_call _ _)
  | tick => exact makes_tick d
  | settle success tag => exact makes_settle success tag d
  | reconcile document => exact makes_reconcile document d
  | invoke method payload => exact makes_invoke method payload d
  | connectionChanged connected => exact makes_connectionChanged connected d
  | relink link => cases hown
  | hear n =>
      cases n with
      | delivery success tag => exact makes_settle success tag d
      | desired document => exact makes_reconcile document d
      | connection connected => exact makes_connectionChanged connected d
      | invocation method payload reply =>
          have hinvoked := makes_invoke method payload d
          change d.Makes (d.hear (.invocation method payload reply)) []
          simp only [hear]
          rcases hinvoke : d.invoke method payload with ⟨response, after⟩
          rw [hinvoke] at hinvoked
          cases response with
          | none => exact hinvoked
          | some response => exact hinvoked.respond method reply response

/-- To hear a notification makes no call but reports. -/
theorem Memory.isTelemetry_of_mem_calls_hear {m : Memory} {n : Notification} {c : Link.Call}
    (hcall : c ∈ m.calls (.hear n)) : c.isTelemetry = false := by
  cases n with
  | connection connected =>
      change c ∈ m.callsOnConnection connected at hcall
      rw [callsOnConnection] at hcall
      split at hcall
      · obtain ⟨serialNumber, -, rfl⟩ := List.mem_map.mp hcall
        rfl
      · contradiction
  | _ => contradiction

/-- After a step in which a hook fails no call on the link was made. -/
theorem Memory.calls_eq_nil_of_broken {m : Memory} {n : Notification}
    (hbroken : (m.act (.hear n)).broken = true) : m.calls (.hear n) = [] := by
  cases n with
  | connection connected =>
      have hbroken : (m.connectionChanged connected).broken = true := hbroken
      rw [calls, callsOnConnection, hbroken, Bool.not_true, Bool.and_false]
      rfl
  | _ => rfl

end Device

end DeviceTwin
