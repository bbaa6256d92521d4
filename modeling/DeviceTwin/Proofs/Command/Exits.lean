/-
How a run exits, and what it puts out.  If its sources do not lead to settings, or no timer has
their interval, the process refuses to run.  Otherwise it puts the status out and returns zero,
in whatever order its service and its main task take their steps.  The log comes before all of
this: a selection of records that would cut a character in two breaks the process off.
-/
import DeviceTwin.Command.Program
import DeviceTwin.Proofs.Command.Process
import DeviceTwin.Proofs.Device.Inbound
import DeviceTwin.Proofs.Settings

namespace DeviceTwin

theorem Settings.validate_of_gather {read : String → Except FileError Bytes}
    {path : Option String} {lookup : String → Option String} {serial : Option String}
    {s : Settings} (hgather : gather read path lookup serial = .ok s) : s.validate = .ok () := by
  obtain ⟨file, -, -, hsound⟩ := gather_eq_ok_iff.mp hgather
  exact validate_eq_ok_iff.mpr hsound

namespace Service

/-- What a link that starts leads to: a service with nothing on its way to it. -/
theorem exists_underway_of_accepting {d : Device} (haccepting : d.link.kind.Accepting)
    (hcapacity : d.settings.capacity.toNat ≤ Mailbox.maxCapacity) {clock : Nat}
    (hinterval : clock + d.settings.interval.toNat ≤ clockLimit)
    (hempty : d.link.inbox.toList = []) (hopen : d.link.inbox.isOpen = true)
    (hsound : d.memory.Sound) :
    ∃ s, start clock d = .started s ∧ s.Underway [] [] [] d.memory ∧ s.now = 0 ∧
      s.due = 1000 * d.settings.interval.toNat ∧ s.period = 1000 * d.settings.interval.toNat := by
  obtain ⟨s, hstarted, hcase⟩ := start_of_accepting haccepting hcapacity hempty clock
  rw [if_neg (Nat.not_lt_of_le hinterval)] at hcase
  obtain ⟨requests, records, hrequests, heq⟩ := start_eq_started hstarted hcase.1
  have hnew := Mailbox.eq_of_ofCapacity?_eq_some hrequests
  have hearly : 0 < 1000 * d.settings.interval.toNat := Nat.mul_pos (by decide) d.interval_pos
  have hinbox : (d.startLink.2.log records).link.inbox = d.link.inbox := d.inbox_startLink
  have hmemory : (d.startLink.2.log records).memory = d.memory := d.memory_startLink
  generalize d.startLink.2.log records = device at heq hinbox hmemory
  rw [settle_of_turn?_eq_none (turn?_of_new rfl rfl hearly (hinbox ▸ hempty) hnew.1)] at heq
  subst heq
  refine ⟨_, hstarted, ?_, rfl, rfl, ?_⟩
  · rw [← hmemory]
    exact underway_of_new rfl rfl rfl hearly ⟨hinbox ▸ hempty, hinbox ▸ hopen⟩ hnew rfl
      (hmemory ▸ hsound)
  · exact congrArg (fun m : Device.Memory => 1000 * m.settings.interval.toNat) hmemory

/-- Settings with which a service runs set one up that has nothing on its way to it. -/
theorem exists_underway_setUp {kind : Link.Kind} (haccepting : kind.Accepting)
    {settings : Settings} (hvalid : settings.validate = .ok ())
    (hcapacity : settings.capacity.toNat ≤ Mailbox.maxCapacity)
    (hpositive : settings.interval ≠ 0) {clock : Nat}
    (hinterval : clock + settings.interval.toNat ≤ clockLimit)
    {hooks : Hooks} (hpresent : ∀ c : Hooks.Call, hooks.hookOf c = .present) (name : String) :
    ∃ s, setUp clock settings hooks name kind = .started s ∧
      s.Underway [] [] [] (.ofSettings settings hooks) ∧ s.now = 0 ∧
      s.due = 1000 * settings.interval.toNat ∧ s.period = 1000 * settings.interval.toNat := by
  let inbox : Mailbox Link.Letter :=
    { capacity := max settings.capacity.toNat 1, capacity_pos := by omega }
  let d : Device := { settings, interval_ne_zero := hpositive, hooks, link := ⟨name, kind, inbox⟩ }
  have hcreated : Device.ofSettings settings hooks ⟨name, kind, inbox⟩ = .ok d := by
    rw [Device.ofSettings, hvalid]
    exact dif_neg hpositive
  obtain ⟨s, hstarted, hunderway⟩ := exists_underway_of_accepting (d := d) haccepting hcapacity
    hinterval rfl rfl (Device.Memory.sound_ofSettings hpresent)
  refine ⟨s, ?_, hunderway⟩
  rw [setUp, Mailbox.ofCapacity?, if_pos hcapacity]
  dsimp only
  rw [hcreated]
  dsimp only
  rw [hstarted]

/-- Time that passes before the first tick brings nothing but rest. -/
theorem pass_of_lt {s : Service} {ms : Nat} (hearly : s.now + ms < s.due) :
    s.pass ms = settle { s with now := s.now + ms } := by
  have hnone : ¬(s.phase = .running ∧ s.due ≤ s.now + ms) :=
    fun ⟨_, hdue⟩ => Nat.not_le_of_lt hearly hdue
  unfold pass
  rw [passTo, if_neg hnone]

end Service

namespace Command

/-- The status that a run puts out. -/
def lastStatus (offline : Bool) : Status := ⟨[.noUpdateAvailable, .appRestart], 1, !offline⟩

theorem status_goal (terms : Terms) (settings : Settings) :
    (goal terms (.ofSettings settings Run.hooks)).status = lastStatus terms.offline := by
  rw [goal, introduced]
  cases terms.offline <;> rfl

example : statusText (lastStatus true) =
    "\x7b\n  \"pending\": [\n    \"NoUpdateAvailable\",\n    \"AppRestart\"\n  ],\n" ++
      "  \"desired_version\": 1,\n  \"connected\": false\n\x7d\n" := by
  decide

/-- No reading is sent in less than a period. -/
theorem Run.pass_of_lt {r : Run} {ms : Nat} (hearly : r.service.now + ms < r.service.due)
    (hperiod : ms < r.service.period) :
    r.pass ms = { r with
      service := Service.settle { r.service with now := r.service.now + ms } } := by
  rw [pass, Nat.div_eq_of_lt hperiod, passPeriods, Nat.mod_eq_of_lt hperiod,
    Service.pass_of_lt hearly]

variable {s : Service} {start : Device.Memory}

/-- A service that has been greeted has come to what it is to keep in mind. -/
theorem underway_greet (terms : Terms) (hunderway : s.Underway [] [] [] start) :
    s.SameClock (Run.greet terms.offline s) ∧
      ∃ answers, (Run.greet terms.offline s).Underway [] [] answers (goal terms start) := by
  have htold : ∃ letters answers told, told = (if terms.offline then s else
      s.deliver 0 (.connection true)) ∧ s.SameClock told ∧
        told.Underway letters [] answers (introduced terms start) := by
    rw [introduced]
    cases terms.offline with
    | true => exact ⟨_, _, _, rfl, ⟨rfl, rfl, rfl⟩, hunderway⟩
    | false =>
        obtain ⟨hafter, hclock⟩ := hunderway.deliver 0 (n := .connection true) rfl
        exact ⟨_, _, _, rfl, hclock, hafter⟩
  obtain ⟨letters, answers, told, heq, hclock, hbefore⟩ := htold
  have hlocal : Service.Request.isLocal (.signal .noUpdateAvailable) = true := rfl
  obtain ⟨hasked, hasking⟩ := hbefore.ask nofun 1 hlocal fun _ => rfl
  obtain ⟨hsettling, later, hsettled, -⟩ := hasked.settle
  unfold Run.greet
  rw [← heq]
  exact ⟨hclock.trans (hasking.trans hsettling), later, hsettled⟩

/-- A run that is over before the first tick puts out what its device has come to. -/
theorem outcome_of_early (terms : Terms) (hunderway : s.Underway [] [] [] start)
    (hdue : s.now + terms.duration < s.due) (hperiod : terms.duration < s.period) :
    (Run.finish (Run.pass terms.duration ⟨Run.greet terms.offline s, 0⟩)).code =
        Exit.success.code ∧
      (Run.finish (Run.pass terms.duration ⟨Run.greet terms.offline s, 0⟩)).output =
        statusText (goal terms start).status := by
  obtain ⟨hclock, answers, hgreeted⟩ := underway_greet terms hunderway
  generalize Run.greet terms.offline s = greeted at hclock hgreeted
  have hearly : greeted.now + terms.duration < greeted.due := by
    rw [hclock.now, hclock.due]
    exact hdue
  have hperiod : terms.duration < greeted.period := by
    rw [hclock.period]
    exact hperiod
  obtain ⟨-, later, -, hmemory⟩ := (hgreeted.withNow hearly).settle
  rw [Run.pass_of_lt hearly hperiod, ← hmemory]
  exact ⟨rfl, rfl⟩

/-- In every order of the steps it puts out the same, also if the first tick is late. -/
theorem ends_of_early (terms : Terms) (hunderway : s.Underway [] [] [] start) (hnow : s.now = 0)
    (hduration : terms.duration ≤ terms.limit) (hdue : terms.limit < s.due)
    (hperiod : terms.limit < s.period) (late : Nat) :
    Process.Ends terms Exit.success.code (statusText (goal terms start).status)
      ⟨{ s with due := s.due + late }, .greeting⟩ := by
  have hlate : terms.limit < s.due + late := Nat.lt_of_lt_of_le hdue (Nat.le_add_right _ _)
  have hlatest : s.now + terms.duration ≤ terms.limit := by
    rw [hnow, Nat.zero_add]
    exact hduration
  have hearly : s.now < s.due + late := by
    rw [hnow]
    exact Nat.lt_of_le_of_lt (Nat.zero_le _) hlate
  exact Kept.ends (.going (.greeting { hunderway with early := hearly }) ⟨hlatest, hlate, hperiod⟩)

/-- Settings with which a run of some seconds, if there is one, is over before the first tick,
and the clock can show when that is due. -/
structure Fits (clock : Nat) (settings : Settings) (seconds : UInt64) : Prop where
  capacity : settings.capacity.toNat ≤ Mailbox.maxCapacity
  interval : settings.interval ≠ 0 →
    clock + settings.interval.toNat ≤ Service.clockLimit ∧
      seconds.toNat < settings.interval.toNat

/-- How a run for some seconds exits, and what it puts out, by the settings to which its sources
lead. -/
structure Exits (gathered : Except SettingsError Settings) (clock : Nat) (offline : Bool)
    (seconds : UInt64) (o : Outcome) : Prop where
  settings : o.code = Exit.settings.code ↔ ∃ cause, gathered = .error cause
  timer : o.code = Exit.timer.code ↔ ∃ settings, gathered = .ok settings ∧ settings.interval = 0
  success : o.code = Exit.success.code ↔
    ∃ settings, gathered = .ok settings ∧ settings.interval ≠ 0
  output : o.output = if o.code = Exit.success.code then statusText (lastStatus offline) else ""
  /-- Without an interval there is no service. -/
  untimed : ∀ settings, gathered = .ok settings → settings.interval = 0 →
    Service.setUp clock settings Run.hooks "loopback" (.loopback { online := !offline }) =
      .refused (.timer .zeroPeriod)
  /-- With one there is a service, and the process comes to the same end in every order of its
  steps, whatever is delayed, as long as all of it is over within a period. -/
  timed : ∀ settings, gathered = .ok settings → settings.interval ≠ 0 → ∃ service,
    Service.setUp clock settings Run.hooks "loopback" (.loopback { online := !offline }) =
        .started service ∧
      ∀ late limit, 1000 * seconds.toNat ≤ limit → limit < 1000 * settings.interval.toNat →
        Process.Ends ⟨offline, 1000 * seconds.toNat, limit⟩ o.code o.output
          ⟨{ service with due := service.due + late }, .greeting⟩

variable {settings : Settings} {clock : Nat} {offline : Bool} {seconds : UInt64}

theorem exits_of_error (cause : SettingsError) (clock : Nat) (offline : Bool) (seconds : UInt64) :
    Exits (.error cause) clock offline seconds (Run.refused (.settings cause) []) where
  settings := iff_of_true rfl ⟨cause, rfl⟩
  timer := iff_of_false nofun nofun
  success := iff_of_false nofun nofun
  output := rfl
  untimed := nofun
  timed := nofun

/-- Settings without an interval are refused, when all else about them is as it should be. -/
theorem setUp_of_untimed (hvalid : settings.validate = .ok ())
    (hfits : Fits clock settings seconds) (hinterval : settings.interval = 0) (hooks : Hooks)
    (name : String) (kind : Link.Kind) :
    Service.setUp clock settings hooks name kind = .refused (.timer .zeroPeriod) := by
  rw [Service.setUp, Mailbox.ofCapacity?, if_pos hfits.capacity]
  dsimp only
  rw [Device.ofSettings, hvalid]
  dsimp only
  rw [dif_pos hinterval]

theorem exits_of_untimed (hvalid : settings.validate = .ok ())
    (hfits : Fits clock settings seconds) (hinterval : settings.interval = 0) :
    Exits (.ok settings) clock offline seconds (Run.refused (.timer .zeroPeriod) []) where
  settings := iff_of_false nofun nofun
  timer := iff_of_true rfl ⟨settings, rfl, hinterval⟩
  success := by
    refine iff_of_false nofun ?_
    rintro ⟨_, ⟨⟩, hpositive⟩
    exact hpositive hinterval
  output := rfl
  untimed := by
    rintro _ ⟨⟩ -
    exact setUp_of_untimed hvalid hfits hinterval _ _ _
  timed := by
    rintro _ ⟨⟩ hpositive
    exact absurd hinterval hpositive

/-- With an interval that is longer than the run, the run returns zero and puts its status out. -/
theorem exits_of_timed (hfits : Fits clock settings seconds) (hpositive : settings.interval ≠ 0)
    {service : Service}
    (hservice : Service.setUp clock settings Run.hooks "loopback"
      (.loopback { online := !offline }) = .started service)
    (hunderway : service.Underway [] [] [] (.ofSettings settings Run.hooks))
    (hnow : service.now = 0) (hdue : service.due = 1000 * settings.interval.toNat)
    (hperiod : service.period = 1000 * settings.interval.toNat) :
    Exits (.ok settings) clock offline seconds
      (Run.finish (Run.pass (1000 * seconds.toNat) ⟨Run.greet offline service, 0⟩)) := by
  have hlong : 1000 * seconds.toNat < 1000 * settings.interval.toNat :=
    Nat.mul_lt_mul_of_pos_left (hfits.interval hpositive).2 (by decide)
  have hearly : service.now + 1000 * seconds.toNat < service.due := by
    rw [hnow, hdue, Nat.zero_add]
    exact hlong
  obtain ⟨hcode, houtput⟩ :=
    outcome_of_early ⟨offline, 1000 * seconds.toNat, 1000 * seconds.toNat⟩ hunderway hearly
      (hperiod ▸ hlong)
  rw [status_goal] at houtput
  dsimp only at hcode houtput
  generalize Run.finish (Run.pass (1000 * seconds.toNat) ⟨Run.greet offline service, 0⟩) = o
    at hcode houtput
  exact {
    settings := by
      rw [hcode]
      exact iff_of_false nofun nofun
    timer := by
      rw [hcode]
      refine iff_of_false nofun ?_
      rintro ⟨_, ⟨⟩, hinterval⟩
      exact hpositive hinterval
    success := iff_of_true hcode ⟨settings, rfl, hpositive⟩
    output := by
      rw [if_pos hcode]
      exact houtput
    untimed := by
      rintro _ ⟨⟩ hinterval
      exact absurd hinterval hpositive
    timed := by
      rintro _ ⟨⟩ -
      refine ⟨service, hservice, fun late limit hduration hlimit => ?_⟩
      have hends := ends_of_early ⟨offline, 1000 * seconds.toNat, limit⟩ hunderway hnow hduration
        (hdue ▸ hlimit) (hperiod ▸ hlimit) late
      rw [status_goal] at hends
      rw [hcode, houtput]
      exact hends }

theorem hooks_present (c : Hooks.Call) : Run.hooks.hookOf c = .present := by
  cases c <;> rfl

/-- A run exits as it should by the settings to which its sources lead. -/
theorem exits_runFor {around : Surroundings} {config serial : Option String} (offline : Bool)
    (hfits : ∀ settings, Settings.gather around.read config around.lookup serial = .ok settings →
      Fits around.clock settings seconds) :
    Exits (Settings.gather around.read config around.lookup serial) around.clock offline seconds
      (runFor around config serial offline seconds) := by
  rw [runFor, runSettings]
  cases hgather : Settings.gather around.read config around.lookup serial with
  | error cause => exact exits_of_error cause around.clock offline seconds
  | ok settings =>
      have hvalid := Settings.validate_of_gather hgather
      have hsettings := hfits settings hgather
      dsimp only [Except.bind]
      rw [Run.start_eq]
      by_cases hinterval : settings.interval = 0
      · rw [setUp_of_untimed hvalid hsettings hinterval]
        exact exits_of_untimed hvalid hsettings hinterval
      · have haccepting : Link.Kind.Accepting (.loopback { online := !offline }) := rfl
        obtain ⟨service, hservice, hunderway, hnow, hdue, hperiod⟩ :=
          Service.exists_underway_setUp haccepting hvalid hsettings.capacity hinterval
            (hsettings.interval hinterval).1 hooks_present "loopback"
        rw [hservice]
        dsimp only
        rw [if_pos hunderway.running]
        exact exits_of_timed hsettings hinterval hservice hunderway hnow hdue hperiod

/-- Whether the environment selects log records in a way that would cut a character in two. -/
def CutsCharacter (lookup : String → Option String) : Prop :=
  ∃ text, lookup selectionVariable = some text ∧
    Log.Selection.ofText text = .error .insideCharacter

/-- Nothing else in the environment keeps the log from being written. -/
theorem ofEnvironment?_eq_none_iff {lookup : String → Option String} {verbose : Bool} :
    LogFormat.ofEnvironment? lookup verbose = none ↔ CutsCharacter lookup := by
  unfold LogFormat.ofEnvironment? CutsCharacter
  cases lookup selectionVariable with
  | none => exact iff_of_false nofun nofun
  | some text =>
      simp only [Option.map_some, Option.some.injEq, exists_eq_left']
      cases Log.Selection.ofText text with
      | ok selection => exact iff_of_false nofun nofun
      | error cause => cases cause <;> simp

theorem execute_of_cutsCharacter {around : Surroundings} {words : List String} {i : Invocation}
    (hread : read words = .ok i) (hcuts : CutsCharacter around.lookup) :
    (execute around words).1 = { code := brokenCode } := by
  rw [execute, hread]
  dsimp only
  rw [ofEnvironment?_eq_none_iff.mpr hcuts]

/-- The exit of a run for some seconds that is over before the first tick: its code, its output
and that of every order of its steps are decided by the settings, unless the process breaks off
before it looks for them. -/
theorem exits_of_read {around : Surroundings} {words : List String} {verbose : Bool}
    {config serial : Option String}
    (hread : read words = .ok ⟨verbose, .run config serial offline (some seconds)⟩)
    (hfits : ∀ settings, Settings.gather around.read config around.lookup serial = .ok settings →
      Fits around.clock settings seconds) :
    (¬CutsCharacter around.lookup →
      Exits (Settings.gather around.read config around.lookup serial) around.clock offline seconds
        (execute around words).1) ∧
    (CutsCharacter around.lookup →
      (execute around words).1.code = brokenCode ∧ (execute around words).1.output = "") := by
  constructor
  · intro hwhole
    rw [execute, hread]
    dsimp only
    cases hformat : LogFormat.ofEnvironment? around.lookup verbose with
    | none => exact absurd (ofEnvironment?_eq_none_iff.mp hformat) hwhole
    | some format => exact exits_runFor offline hfits
  · intro hcuts
    rw [execute_of_cutsCharacter hread hcuts]
    exact ⟨rfl, rfl⟩

/-- A directory with a file in which the interval is zero, in an environment that has another. -/
def overridden : Surroundings where
  lookup name := if name = intervalVariable then some " 90 " else none
  read path :=
    if path = "config.toml" then
      .ok (Utf8.ofString "serial_number = 'SN-1'\nevent_check_interval_secs = 0\n")
    else .error .notFound
  clock := 60

/-- A run of half a minute with a serial number of its own. -/
def briefRun : List String :=
  ["run", "--config", "config.toml", "--serial", "SN-7", "--duration", "30"]

/-- It takes the interval from the environment and its serial number from the command line, and is
over before the first tick. -/
theorem exits_of_overridden :
    read briefRun = .ok ⟨false, .run (some "config.toml") (some "SN-7") false (some 30)⟩ ∧
      ¬CutsCharacter overridden.lookup ∧
      Settings.gather overridden.read (some "config.toml") overridden.lookup (some "SN-7") =
        .ok { interval := 90, serial := some "SN-7" } ∧
      Exits (.ok { interval := 90, serial := some "SN-7" }) 60 false 30
        (execute overridden briefRun).1 := by
  have hread : read briefRun =
      .ok ⟨false, .run (some "config.toml") (some "SN-7") false (some 30)⟩ := rfl
  have hwhole : ¬CutsCharacter overridden.lookup := by
    rintro ⟨_, ⟨⟩, -⟩
  have hgather : Settings.gather overridden.read (some "config.toml") overridden.lookup
      (some "SN-7") = .ok { interval := 90, serial := some "SN-7" } := by decide +kernel
  have hfits : ∀ settings, Settings.gather overridden.read (some "config.toml") overridden.lookup
      (some "SN-7") = .ok settings → Fits overridden.clock settings 30 := by
    intro settings hsettings
    rw [hgather, Except.ok.injEq] at hsettings
    subst hsettings
    exact ⟨by decide, fun _ => by decide⟩
  have hexits := (exits_of_read hread hfits).1 hwhole
  rw [hgather] at hexits
  exact ⟨hread, hwhole, hgather, hexits⟩

/-- An empty directory. -/
def emptyDirectory (lookup : String → Option String) : Surroundings where
  lookup
  read _ := .error .notFound
  clock := 60

/-- An environment whose selection begins with a blank of two bytes. -/
def blankBefore (name : String) : Option String :=
  if name = selectionVariable then some "\u00a0[run]=debug" else none

theorem cutsCharacter_blankBefore : CutsCharacter blankBefore := by
  refine ⟨_, rfl, ?_⟩
  have hsplit : "\u00a0[run]=debug".splitOn "," = ["\u00a0[run]=debug"] := by
    rw [String.splitOn, if_neg (by decide)]
    iterate 12 rw [String.splitOnAux, if_neg (by decide), if_neg (by decide)]
    rw [String.splitOnAux, if_pos (by decide)]
    decide
  rw [Log.Selection.ofText, hsplit]
  rfl

/-- With it a run of no time breaks off, though there is nothing wrong with its settings. -/
theorem not_exits_blankBefore :
    Settings.gather (emptyDirectory blankBefore).read none blankBefore none = .ok {} ∧
      Fits 60 {} 0 ∧
      ¬Exits (.ok {}) 60 false 0
        (execute (emptyDirectory blankBefore) ["run", "--duration", "0"]).1 := by
  refine ⟨rfl, ⟨by decide, fun _ => by decide⟩, fun hexits => ?_⟩
  have hcode : (execute (emptyDirectory blankBefore) ["run", "--duration", "0"]).1.code =
      Exit.success.code := hexits.success.mpr ⟨{}, rfl, by decide⟩
  have hread : read ["run", "--duration", "0"] = .ok ⟨false, .run none none false (some 0)⟩ := rfl
  rw [execute_of_cutsCharacter hread cutsCharacter_blankBefore] at hcode
  contradiction

end Command

end DeviceTwin
