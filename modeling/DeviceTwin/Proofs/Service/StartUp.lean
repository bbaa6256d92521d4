/-
Setting a service up from its settings.  The mailbox of the link is made with the capacity
of the settings, then the device, and then the service is started.  For all settings it is
told what comes of that, also for those that are valid and still too large.
-/
import DeviceTwin.Command.Run
import DeviceTwin.Proofs.Link.Result
import DeviceTwin.Proofs.Service.Settling

namespace DeviceTwin

namespace Link

/-- Whether a link of this kind starts when it is told to. -/
def Kind.Accepting : Kind → Prop
  | .loopback l => l.refusing = false
  | .scripted s => s.take.1 = .ok ()

theorem result_start_of_accepting {l : Link} (haccepting : l.kind.Accepting) (model : String) :
    (l.start model).result = .ok () := by
  obtain ⟨name, kind, inbox⟩ := l
  cases kind with
  | scripted script => exact haccepting
  | loopback loopback =>
      have hwilling : loopback.refusing = false := haccepting
      unfold start Loopback.start
      dsimp only
      rw [hwilling]
      rfl

end Link

namespace Device

theorem startLink_of_accepting {d : Device} (haccepting : d.link.kind.Accepting) :
    d.startLink.1 = .ok () := by
  have hresult : (d.call (.start d.settings.model)).1 = .ok () :=
    Link.result_start_of_accepting haccepting d.settings.model
  unfold startLink
  rcases hcall : d.call (.start d.settings.model) with ⟨result, after⟩
  rw [hcall] at hresult
  dsimp only at hresult
  rw [hresult]

theorem interval_pos (d : Device) : 0 < d.settings.interval.toNat :=
  Nat.pos_of_ne_zero fun h => d.interval_ne_zero (UInt64.toNat_inj.mp h)

theorem inbox_startLink (d : Device) : d.startLink.2.link.inbox = d.link.inbox := by
  rw [link_startLink]
  exact Link.inbox_perform d.link (.start d.settings.model)

end Device

namespace Service

/-- What comes of setting a service up. -/
inductive SetUp
  | started (s : Service)
  | refused (cause : Fault)
  /-- The process breaks off before there is a service. -/
  | brokenOff

/-- Sets a service up for a link of the given kind, which begins to work when the clock shows
the given second. -/
def setUp (clock : Nat) (settings : Settings) (hooks : Hooks) (name : String) (kind : Link.Kind) :
    SetUp :=
  match Mailbox.ofCapacity? settings.capacity.toNat with
  | none => .brokenOff
  | some inbox =>
      match Device.ofSettings settings hooks { name, kind, inbox } with
      | .error cause => .refused cause
      | .ok d =>
          match start clock d with
          | .impossible => .brokenOff
          | .refused cause _ => .refused cause
          | .started s => .started s

/-- Either it is told what is wrong with the settings, or the service runs. -/
def SetUp.IsSafe : SetUp → Prop
  | .started s => s.phase = .running
  | .refused (.settings _) | .refused (.timer _) => True
  | .refused _ | .brokenOff => False

/-- What comes of settings at a time, one rule for each kind of them. -/
inductive Consequence (clock : Nat) (settings : Settings) : SetUp → Prop
  /-- No mailbox can have the capacity. -/
  | oversized (hcapacity : Mailbox.maxCapacity < settings.capacity.toNat) :
      Consequence clock settings .brokenOff
  | invalid {cause : SettingsError} (hcapacity : settings.capacity.toNat ≤ Mailbox.maxCapacity)
      (hinvalid : settings.validate = .error cause) :
      Consequence clock settings (.refused (.settings cause))
  | untimed (hcapacity : settings.capacity.toNat ≤ Mailbox.maxCapacity)
      (hvalid : settings.validate = .ok ()) (hinterval : settings.interval = 0) :
      Consequence clock settings (.refused (.timer .zeroPeriod))
  /-- The clock cannot show when the first tick is due. -/
  | distant {s : Service} (hcapacity : settings.capacity.toNat ≤ Mailbox.maxCapacity)
      (hvalid : settings.validate = .ok ()) (hpositive : settings.interval ≠ 0)
      (hinterval : clockLimit < clock + settings.interval.toNat)
      (hphase : s.phase = .crashed) : Consequence clock settings (.started s)
  | running {s : Service} (hcapacity : settings.capacity.toNat ≤ Mailbox.maxCapacity)
      (hvalid : settings.validate = .ok ()) (hpositive : settings.interval ≠ 0)
      (hinterval : clock + settings.interval.toNat ≤ clockLimit) (hphase : s.phase = .running)
      (hrest : s.turn? = none) (hnow : s.now = 0) (hdue : s.due = s.period) :
      Consequence clock settings (.started s)

/-- A service to which nothing has happened yet has nothing to do. -/
theorem turn?_of_new {s : Service} (hasked : s.stopAsked = false) (hattached : s.attached = true)
    (hearly : s.now < s.due) (hinbox : s.device.link.inbox.toList = [])
    (hrequests : s.requests.toList = []) : s.turn? = none := by
  obtain ⟨hheard, hletters⟩ := Mailbox.toList_eq_nil_iff.mp hinbox
  obtain ⟨hserved, hjobs⟩ := Mailbox.toList_eq_nil_iff.mp hrequests
  have hdeserted : s.isDeserted = false := by
    rw [isDeserted, hattached, Bool.not_true, Bool.and_false, Bool.false_and]
  have hwaiting : s.hasWaiting = false := by
    rw [hasWaiting, hletters, hjobs]
    rfl
  exact turn?_eq_none_iff.mpr (.idle hasked hheard hdeserted hearly hserved hwaiting)

/-- What is started for a link that accepts it: a service at rest whose first tick is a
period ahead, unless the clock cannot show when that is. -/
theorem start_of_accepting {d : Device} (haccepting : d.link.kind.Accepting)
    (hcapacity : d.settings.capacity.toNat ≤ Mailbox.maxCapacity)
    (hinbox : d.link.inbox.toList = []) (clock : Nat) :
    ∃ s, start clock d = .started s ∧
      if clockLimit < clock + d.settings.interval.toNat then s.phase = .crashed
      else s.phase = .running ∧ s.turn? = none ∧ s.now = 0 ∧ s.due = s.period := by
  have hresult := Device.startLink_of_accepting haccepting
  have hsettings : d.startLink.2.settings = d.settings :=
    congrArg Device.Memory.settings d.memory_startLink
  have hempty : d.startLink.2.link.inbox.toList = [] := by
    rw [Device.inbox_startLink]
    exact hinbox
  unfold start
  rcases hlink : d.startLink with ⟨result, after⟩
  rw [hlink] at hresult hsettings hempty
  dsimp only at hresult hsettings hempty ⊢
  subst hresult
  dsimp only
  rw [hsettings, Mailbox.ofCapacity?, if_pos hcapacity]
  refine ⟨_, rfl, ?_⟩
  split
  · rfl
  · have hearly : 0 < 1000 * d.settings.interval.toNat :=
      Nat.mul_pos (by decide) d.interval_pos
    rw [settle_of_turn?_eq_none (turn?_of_new rfl rfl hearly hempty rfl)]
    refine ⟨rfl, turn?_of_new rfl rfl hearly hempty rfl, rfl, ?_⟩
    change 1000 * d.settings.interval.toNat = 1000 * after.settings.interval.toNat
    rw [hsettings]

theorem consequence_setUp {kind : Link.Kind} (haccepting : kind.Accepting) (clock : Nat)
    (settings : Settings) (hooks : Hooks) (name : String) :
    Consequence clock settings (setUp clock settings hooks name kind) := by
  unfold setUp Mailbox.ofCapacity? Device.ofSettings
  by_cases hcapacity : settings.capacity.toNat ≤ Mailbox.maxCapacity
  case neg =>
    rw [if_neg hcapacity]
    exact .oversized (Nat.lt_of_not_le hcapacity)
  rw [if_pos hcapacity]
  dsimp only
  cases hvalid : settings.validate with
  | error cause => exact .invalid hcapacity hvalid
  | ok _ =>
      dsimp only
      by_cases hinterval : settings.interval = 0
      · rw [dif_pos hinterval]
        exact .untimed hcapacity hvalid hinterval
      · rw [dif_neg hinterval]
        dsimp only
        let inbox : Mailbox Link.Letter :=
          { capacity := max settings.capacity.toNat 1, capacity_pos := by omega }
        obtain ⟨s, hstart, hcase⟩ := start_of_accepting
          (d := ⟨settings, hinterval, hooks, ⟨name, kind, inbox⟩, .atStart, .initial, false,
            false, [], {}⟩) haccepting hcapacity rfl clock
        rw [hstart]
        split at hcase
        · next hclock => exact .distant hcapacity hvalid hinterval hclock hcase
        · next hclock =>
            obtain ⟨hphase, hrest, hnow, hdue⟩ := hcase
            exact .running hcapacity hvalid hinterval (Nat.le_of_not_lt hclock) hphase hrest
              hnow hdue

variable {clock : Nat} {settings : Settings} {outcome : SetUp}

/-- Settings are safe if a mailbox can have their capacity and, if there is nothing wrong
with them otherwise, the clock can show when the first tick is due. -/
theorem Consequence.isSafe_iff (hconsequence : Consequence clock settings outcome) :
    outcome.IsSafe ↔ settings.capacity.toNat ≤ Mailbox.maxCapacity ∧
      (settings.validate = .ok () → settings.interval ≠ 0 →
        clock + settings.interval.toNat ≤ clockLimit) := by
  cases hconsequence with
  | oversized hcapacity =>
      exact iff_of_false id fun ⟨hsmall, _⟩ => Nat.not_le_of_lt hcapacity hsmall
  | invalid hcapacity hinvalid =>
      refine iff_of_true trivial ⟨hcapacity, fun hvalid _ => ?_⟩
      rw [hinvalid] at hvalid
      contradiction
  | untimed hcapacity hvalid hinterval =>
      exact iff_of_true trivial ⟨hcapacity, fun _ hpositive => absurd hinterval hpositive⟩
  | distant hcapacity hvalid hpositive hinterval hphase =>
      refine iff_of_false ?_ fun ⟨_, hclock⟩ =>
        Nat.not_le_of_lt hinterval (hclock hvalid hpositive)
      change ¬_ = Phase.running
      rw [hphase]
      nofun
  | running hcapacity hvalid hpositive hinterval hphase =>
      exact iff_of_true hphase ⟨hcapacity, fun _ _ => hinterval⟩

/-- What comes of settings is decided by their capacity, by what is wrong with them and by
their interval, and some of those that are valid break the process or the service off. -/
theorem exact_setUp {kind : Link.Kind} (haccepting : kind.Accepting) (clock : Nat)
    (settings : Settings) (hooks : Hooks) (name : String) :
    Consequence clock settings (setUp clock settings hooks name kind) ∧
      ((setUp clock settings hooks name kind).IsSafe ↔
        settings.capacity.toNat ≤ Mailbox.maxCapacity ∧
          (settings.validate = .ok () → settings.interval ≠ 0 →
            clock + settings.interval.toNat ≤ clockLimit)) :=
  ⟨consequence_setUp haccepting clock settings hooks name,
    (consequence_setUp haccepting clock settings hooks name).isSafe_iff⟩

/-- The greatest interval with which a service runs that begins to work at second 100, and the
greatest capacity; a second later the interval is too great. -/
theorem exact_setUp_greatest :
    (setUp 100 { interval := 0x7FFFFFFFFFFFFF9B, capacity := 0x1FFFFFFFFFFFFFFF } {} "loopback"
        (.loopback {})).IsSafe ∧
      ¬(setUp 101 { interval := 0x7FFFFFFFFFFFFF9B, capacity := 0x1FFFFFFFFFFFFFFF } {}
        "loopback" (.loopback {})).IsSafe := by
  have hexact := fun clock => (exact_setUp (show Link.Kind.Accepting (.loopback {}) from rfl) clock
    { interval := 0x7FFFFFFFFFFFFF9B, capacity := 0x1FFFFFFFFFFFFFFF } {} "loopback").2
  refine ⟨(hexact 100).mpr ⟨by decide, fun _ _ => by decide⟩, fun hsafe => ?_⟩
  exact absurd (((hexact 101).mp hsafe).2 rfl (by decide)) (by decide)

/-- Settings beyond the greatest are valid as well, whether no mailbox can have the capacity or
the clock, here at second 100, cannot show when the first tick is due. -/
theorem not_isSafe_setUp :
    Settings.validate { capacity := 0x2000000000000000 } = .ok () ∧
      setUp 100 { capacity := 0x2000000000000000 } {} "loopback" (.loopback {}) = .brokenOff ∧
      Settings.validate { interval := 0x7FFFFFFFFFFFFFFF } = .ok () ∧
      ∃ s, setUp 100 { interval := 0x7FFFFFFFFFFFFFFF } {} "loopback" (.loopback {}) =
          .started s ∧ s.phase = .crashed :=
  ⟨rfl, rfl, rfl, _, rfl, rfl⟩

end Service

/-- A link that accepts it is no cause to refuse the service. -/
theorem Service.start_ne_refused {d : Device} (haccepting : d.link.kind.Accepting) (clock : Nat)
    (cause : Fault) (after : Device) : start clock d ≠ .refused cause after := by
  have hresult := Device.startLink_of_accepting haccepting
  unfold start
  rcases hlink : d.startLink with ⟨result, started⟩
  rw [hlink] at hresult
  dsimp only at hresult ⊢
  subst hresult
  dsimp only
  split <;> nofun

/-- The command that runs a device sets it up in this way. -/
theorem Command.Run.start_eq (clock : Nat) (settings : Settings) (offline : Bool) :
    start clock settings offline =
      match Service.setUp clock settings hooks "loopback" (.loopback { online := !offline }) with
      | .brokenOff => .error { code := brokenCode }
      | .refused fault => .error (refused fault [])
      | .started service =>
          if service.phase = .running then .ok { service := greet offline service }
          else .error { code := brokenCode, log := log service.device.journal.toList } := by
  unfold start Service.setUp
  cases hinbox : Mailbox.ofCapacity? settings.capacity.toNat with
  | none => rfl
  | some inbox =>
      dsimp only
      cases hcreated : Device.ofSettings settings hooks
          { name := "loopback", kind := .loopback { online := !offline }, inbox } with
      | error fault => rfl
      | ok d =>
          have haccepting : d.link.kind.Accepting := by
            rw [(Device.eq_of_ofSettings hcreated).2.1]
            rfl
          dsimp only
          cases hstart : Service.start clock d with
          | impossible => rfl
          | started service => rfl
          | refused cause after =>
              exact absurd hstart (Service.start_ne_refused haccepting clock _ _)

end DeviceTwin
