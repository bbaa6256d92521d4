/-
The turns of the service, one rule for each thing that it may do, with all that must
hold for it to be done.
-/
import DeviceTwin.Proofs.Device.LinkUse
import DeviceTwin.Service

namespace DeviceTwin

/-- A device whose link has another mailbox. -/
def Device.withInbox (d : Device) (inbox : Mailbox Link.Letter) : Device :=
  { d with link := { d.link with inbox } }

/-- The device after it was asked for something. -/
def Device.grant (d : Device) : Service.Request → Device
  | .signal e => d.signal e
  | .telemetry t => (d.sendTelemetry t).2
  | .moved => d.sendMoved.2
  | .details serialNumber => (d.reportDetails serialNumber).2
  | .report enabled => (d.reportUpload enabled).2
  | .status => d

/-- Whatever is asked for, nothing is sent with a tag. -/
theorem Device.link_grant (request : Service.Request) (d : Device) :
    d.link.UntaggedUse (d.grant request).link := by
  cases request with
  | signal e => exact .reporting .unused
  | telemetry t => exact .telemetry _
  | moved => exact .telemetry _
  | details serialNumber => exact .reporting (.report _)
  | report enabled => exact .reporting (.report _)
  | status => exact .reporting .unused

namespace Service

/-- Whether nobody can send a notification any more and the service has not taken note
of it. -/
def isDeserted (s : Service) : Bool :=
  s.listening && !s.attached && s.device.link.inbox.waiting.isEmpty

/-- The turns that a service can take, with their order of precedence in the
conditions. -/
inductive Turn (s : Service) : Service → Prop
  | stop (hrunning : s.phase = .running) (hasked : s.stopAsked = true) : Turn s s.stop
  | hear {letter : Link.Letter} {inbox : Mailbox Link.Letter} (hrunning : s.phase = .running)
      (hasked : s.stopAsked = false)
      (hpop : s.device.link.inbox.pop? = some (letter, inbox)) :
      Turn s (Service.hear letter.content { s with device := s.device.withInbox inbox })
  | hangUp (hrunning : s.phase = .running) (hasked : s.stopAsked = false)
      (hheard : s.device.link.inbox.pop? = none) (hdeserted : s.isDeserted = true) :
      Turn s s.hangUp
  | tick (hrunning : s.phase = .running) (hasked : s.stopAsked = false)
      (hheard : s.device.link.inbox.pop? = none) (hdeserted : s.isDeserted = false)
      (hdue : s.due ≤ s.now) : Turn s s.tick
  | serve {job : Job} {requests : Mailbox Job} (hrunning : s.phase = .running)
      (hasked : s.stopAsked = false) (hheard : s.device.link.inbox.pop? = none)
      (hdeserted : s.isDeserted = false) (hearly : s.now < s.due)
      (hpop : s.requests.pop? = some (job, requests)) :
      Turn s (Service.serve job { s with requests })
  | refill (hrunning : s.phase = .running) (hasked : s.stopAsked = false)
      (hheard : s.device.link.inbox.pop? = none) (hdeserted : s.isDeserted = false)
      (hearly : s.now < s.due) (hserved : s.requests.pop? = none)
      (hwaiting : s.hasWaiting = true) : Turn s s.refill

/-- A service at rest: it has ended, or there is nothing to be done. -/
inductive AtRest (s : Service) : Prop
  | ended (hphase : s.phase ≠ .running)
  | idle (hasked : s.stopAsked = false) (hheard : s.device.link.inbox.pop? = none)
      (hdeserted : s.isDeserted = false) (hearly : s.now < s.due)
      (hserved : s.requests.pop? = none) (hwaiting : s.hasWaiting = false)

/-- The next turn is by one of the rules, and there is none only at rest. -/
theorem turn?_spec (s : Service) :
    match s.turn? with
    | some after => s.Turn after
    | none => s.AtRest := by
  unfold turn?
  by_cases hrunning : s.phase = .running
  case neg =>
    rw [if_pos hrunning]
    exact .ended hrunning
  rw [if_neg (not_not_intro hrunning)]
  by_cases hasked : s.stopAsked = true
  case pos =>
    rw [if_pos hasked]
    exact .stop hrunning hasked
  rw [if_neg hasked]
  have hasked : s.stopAsked = false := eq_false_of_ne_true hasked
  unfold Device.popNotification?
  rcases hheard : s.device.link.inbox.pop? with _ | ⟨letter, inbox⟩
  case some => exact .hear hrunning hasked hheard
  dsimp only
  by_cases hdeserted : s.isDeserted = true
  case pos =>
    rw [isDeserted] at hdeserted
    rw [if_pos hdeserted]
    exact .hangUp hrunning hasked hheard hdeserted
  rw [isDeserted] at hdeserted
  rw [if_neg hdeserted]
  have hdeserted : s.isDeserted = false := eq_false_of_ne_true hdeserted
  by_cases hdue : s.due ≤ s.now
  case pos =>
    rw [if_pos hdue]
    exact .tick hrunning hasked hheard hdeserted hdue
  rw [if_neg hdue]
  have hearly : s.now < s.due := Nat.lt_of_not_le hdue
  rcases hserved : s.requests.pop? with _ | ⟨job, requests⟩
  case some => exact .serve hrunning hasked hheard hdeserted hearly hserved
  dsimp only
  by_cases hwaiting : s.hasWaiting = true
  case pos =>
    rw [if_pos hwaiting]
    exact .refill hrunning hasked hheard hdeserted hearly hserved hwaiting
  rw [if_neg hwaiting]
  exact .idle hasked hheard hdeserted hearly hserved (eq_false_of_ne_true hwaiting)

theorem turn_of_turn?_eq_some {s after : Service} (h : s.turn? = some after) :
    s.Turn after := by
  have hspec := turn?_spec s
  rw [h] at hspec
  exact hspec

/-- The rules are all there is to the next turn. -/
theorem turn?_eq_some_iff {s after : Service} : s.turn? = some after ↔ s.Turn after := by
  constructor
  · exact turn_of_turn?_eq_some
  intro hturn
  unfold turn? Device.popNotification?
  cases hturn with
  | stop hrunning hasked => rw [if_neg (not_not_intro hrunning), if_pos hasked]
  | hear hrunning hasked hpop =>
      rw [if_neg (not_not_intro hrunning), if_neg (ne_true_of_eq_false hasked), hpop]
      rfl
  | hangUp hrunning hasked hheard hdeserted =>
      rw [if_neg (not_not_intro hrunning), if_neg (ne_true_of_eq_false hasked), hheard]
      exact if_pos hdeserted
  | tick hrunning hasked hheard hdeserted hdue =>
      rw [if_neg (not_not_intro hrunning), if_neg (ne_true_of_eq_false hasked), hheard]
      exact (if_neg (ne_true_of_eq_false hdeserted)).trans (if_pos hdue)
  | serve hrunning hasked hheard hdeserted hearly hpop =>
      rw [if_neg (not_not_intro hrunning), if_neg (ne_true_of_eq_false hasked), hheard, hpop]
      exact (if_neg (ne_true_of_eq_false hdeserted)).trans (if_neg (Nat.not_le_of_lt hearly))
  | refill hrunning hasked hheard hdeserted hearly hserved hwaiting =>
      rw [if_neg (not_not_intro hrunning), if_neg (ne_true_of_eq_false hasked), hheard,
        hserved]
      exact (if_neg (ne_true_of_eq_false hdeserted)).trans
        ((if_neg (Nat.not_le_of_lt hearly)).trans (if_pos hwaiting))

theorem atRest_of_turn?_eq_none {s : Service} (h : s.turn? = none) : s.AtRest := by
  have hspec := turn?_spec s
  rw [h] at hspec
  exact hspec

theorem turn?_eq_none_iff {s : Service} : s.turn? = none ↔ s.AtRest := by
  constructor
  · exact atRest_of_turn?_eq_none
  intro hrest
  unfold turn? Device.popNotification?
  cases hrest with
  | ended hphase => rw [if_pos hphase]
  | idle hasked hheard hdeserted hearly hserved hwaiting =>
      rw [if_neg (ne_true_of_eq_false hasked), hheard, hserved]
      split
      · rfl
      · exact (if_neg (ne_true_of_eq_false hdeserted)).trans
          ((if_neg (Nat.not_le_of_lt hearly)).trans (if_neg (ne_true_of_eq_false hwaiting)))

/-- To serve a request is to have the device grant it. -/
theorem serve_eq (job : Job) (s : Service) :
    ∃ answers history,
      s.serve job = { s with device := s.device.grant job.request, answers, history } := by
  unfold serve
  cases job.request with
  | _ => exact ⟨_, _, rfl⟩

/-- To hear a notification is to have the device hear it, and to break off if a hook
fails. -/
theorem hear_eq (n : Notification) (s : Service) :
    ∃ answers history,
      s.hear n = checked { s with device := s.device.hear n, answers, history } := by
  unfold hear
  dsimp only
  cases awaited? n with
  | none => exact ⟨_, _, rfl⟩
  | some ticket =>
      dsimp only
      cases Journal.responseTo? ticket (s.device.hear n).journal.toList with
      | none => exact ⟨_, _, rfl⟩
      | some response => exact ⟨_, _, rfl⟩

/-- The service breaks off exactly if a hook has failed. -/
theorem checked_of_intact {s : Service} (hintact : s.device.broken = false) : s.checked = s :=
  if_neg (ne_true_of_eq_false hintact)

theorem checked_of_broken {s : Service} (hbroken : s.device.broken = true) :
    s.checked = s.finish .crashed :=
  if_pos hbroken

/-- A tick of the service is one of the device, after which the next one is due. -/
theorem tick_eq (s : Service) :
    ∃ records history,
      s.tick = { s with device := s.device.tick.2.log records, due := s.dueAfter, history } := by
  unfold tick
  rcases s.device.tick with ⟨t, after⟩
  cases t with
  | idle => exact ⟨[], _, rfl⟩
  | sent e => exact ⟨[], _, rfl⟩
  | refused e cause => exact ⟨_, _, rfl⟩

end Service

end DeviceTwin
