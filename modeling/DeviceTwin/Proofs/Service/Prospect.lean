/-
What a service has in store.  As long as nothing is on its way to it but notifications to
which nobody waits for a response, and requests that do not concern the link, it is known
beforehand what its device will keep in mind when all of it is done, and each turn brings the
device nearer to that.
-/
import DeviceTwin.Proofs.Device.Sound
import DeviceTwin.Proofs.Service.Settling
import DeviceTwin.Proofs.Service.Stimulus

namespace DeviceTwin

namespace Device

/-- What a device keeps in mind, as others may see it. -/
def Memory.status (m : Memory) : Status := ⟨m.pending.toList, m.version.current, m.connected⟩

/-- The memory after a request was granted. -/
def Memory.grant (m : Memory) : Service.Request → Memory
  | .signal e => { m with pending := m.pending.insert e }
  | .report _ => { m with version := m.version.advance }
  | .telemetry _ | .moved | .details _ | .status => m

end Device

namespace Service

/-- Whether a request is granted without the link. -/
def Request.isLocal : Request → Bool
  | .signal _ | .status => true
  | .telemetry _ | .moved | .details _ | .report _ => false

/-- What a job without the link is answered when it is done. -/
def Job.replies (job : Job) (m : Device.Memory) : List (Nat × Answer) :=
  match job.request with
  | .status => [(job.ticket, .status m.status)]
  | _ => []

/-- The memory of a device when it has heard all letters and done all jobs. -/
def prospect (letters : List Notification) (jobs : List Job) (m : Device.Memory) :
    Device.Memory :=
  jobs.foldl (fun m job => m.grant job.request) (letters.foldl (fun m n => m.hear n) m)

/-- A service that runs, with all that is on its way to it, all that was answered, and what is
to become of the memory. -/
structure Underway (s : Service) (letters : List Notification) (jobs : List Job)
    (answers : List (Nat × Answer)) (goal : Device.Memory) : Prop where
  running : s.phase = .running
  unasked : s.stopAsked = false
  attached : s.attached = true
  /-- No tick is due. -/
  early : s.now < s.due
  inbox_open : s.device.link.inbox.isOpen = true
  requests_open : s.requests.isOpen = true
  letters_eq : s.device.link.inbox.queue.map (·.content) = letters
  inside : s.device.link.inbox.waiting = []
  jobs_eq : s.requests.toList = jobs
  /-- A signal that has to wait is not answered yet, and there is none. -/
  entered : ∀ job ∈ s.requests.waiting, job.request.isSignal = false
  answers_eq : s.answers.toList = answers
  unawaited : ∀ n ∈ letters, awaited? n = none
  isLocal : ∀ job ∈ jobs, job.request.isLocal = true
  sound : s.device.memory.Sound
  goal_eq : prospect letters jobs s.device.memory = goal

/-- Between two times no time has passed, and the ticks are due when they were. -/
structure SameClock (s next : Service) : Prop where
  now : next.now = s.now
  due : next.due = s.due
  period : next.period = s.period

variable {s next : Service} {letters : List Notification} {jobs : List Job}
  {answers : List (Nat × Answer)} {goal : Device.Memory}

theorem SameClock.trans {mid : Service} (hfirst : s.SameClock mid) (hsecond : mid.SameClock next) :
    s.SameClock next :=
  ⟨hsecond.now.trans hfirst.now, hsecond.due.trans hfirst.due, hsecond.period.trans hfirst.period⟩

theorem admissible_eq_nil {α : Type} {m : Mailbox α} (hwaiting : m.waiting = []) :
    m.admissible = [] := by
  rw [Mailbox.admissible, hwaiting, List.take_nil]

theorem arrived_eq_nil {jobs : List Job} (hnone : ∀ job ∈ jobs, job.request.isSignal = false) :
    arrived jobs = [] := by
  rw [arrived, List.filterMap_eq_nil_iff]
  intro job hjob
  rw [hnone job hjob]
  rfl

/-- Nothing is on its way to a service to which nothing has happened yet. -/
theorem underway_of_new (hrunning : s.phase = .running) (hunasked : s.stopAsked = false)
    (hattached : s.attached = true) (hearly : s.now < s.due)
    (hinbox : s.device.link.inbox.toList = [] ∧ s.device.link.inbox.isOpen = true)
    (hrequests : s.requests.toList = [] ∧ s.requests.isOpen = true)
    (hanswers : s.answers.toList = []) (hsound : s.device.memory.Sound) :
    s.Underway [] [] [] s.device.memory := by
  obtain ⟨hqueue, hinside⟩ := List.append_eq_nil_iff.mp hinbox.1
  have hentered := (List.append_eq_nil_iff.mp hrequests.1).2
  refine ⟨hrunning, hunasked, hattached, hearly, hinbox.2, hrequests.2, ?_, hinside, hrequests.1,
    ?_, hanswers, nofun, nofun, hsound, rfl⟩
  · rw [hqueue]
    rfl
  · rw [hentered]
    exact nofun

theorem Underway.refill (hunderway : s.Underway letters jobs answers goal) :
    s.refill.Underway letters jobs answers goal ∧ s.SameClock s.refill := by
  have hinbox := admissible_eq_nil hunderway.inside
  have harrived : arrived s.requests.admissible = [] :=
    arrived_eq_nil fun job hjob => hunderway.entered job (List.mem_of_mem_take hjob)
  refine ⟨⟨hunderway.running, hunderway.unasked, hunderway.attached, hunderway.early,
    hunderway.inbox_open, hunderway.requests_open, ?_, ?_, ?_, ?_, ?_, hunderway.unawaited,
    hunderway.isLocal, hunderway.sound, hunderway.goal_eq⟩, rfl, rfl, rfl⟩
  · change (s.device.link.inbox.queue ++ s.device.link.inbox.admissible).map _ = _
    rw [hinbox, List.append_nil]
    exact hunderway.letters_eq
  · change s.device.link.inbox.waiting.drop _ = []
    rw [hunderway.inside, List.drop_nil]
  · exact (Mailbox.toList_refill s.requests).trans hunderway.jobs_eq
  · intro job hjob
    exact hunderway.entered job (List.mem_of_mem_drop hjob)
  · change (s.answers ++ delivered s.device.link.inbox.admissible ++
      arrived s.requests.admissible).toList = _
    rw [hinbox, harrived, Trace.toList_append, Trace.toList_append, List.append_nil,
      hunderway.answers_eq]
    exact List.append_nil answers

theorem Underway.hear (hunderway : s.Underway letters jobs answers goal) {letter : Link.Letter}
    {inbox : Mailbox Link.Letter} (hpop : s.device.link.inbox.pop? = some (letter, inbox))
    (hnext : next = Service.hear letter.content { s with device := s.device.withInbox inbox }) :
    ∃ later, letters = letter.content :: later ∧ next.Underway later jobs answers goal ∧
      s.SameClock next := by
  obtain ⟨hqueue, hrest⟩ := Mailbox.eq_of_pop?_eq_some hpop
  have hletters : letters = letter.content :: inbox.queue.map (·.content) := by
    rw [← hunderway.letters_eq, hqueue, List.map_cons]
  have hawaited := hunderway.unawaited letter.content (hletters ▸ List.mem_cons_self)
  have hsound : (s.device.memory.hear letter.content).Sound := hunderway.sound.hear letter.content
  have hsettings := s.device.memory.settings_hear letter.content
  have hinbox : ((s.device.withInbox inbox).hear letter.content).link.inbox = inbox :=
    Device.inbox_hear _ _
  have hmemory : ((s.device.withInbox inbox).hear letter.content).memory =
      s.device.memory.hear letter.content := Device.memory_hear _ _
  rw [Service.hear, hawaited] at hnext
  -- From here on it matters only what the device keeps in mind and what is in the mailbox.
  generalize (s.device.withInbox inbox).hear letter.content = device at hnext hinbox hmemory
  rw [← hmemory] at hsound hsettings
  have heq : next = { s with device }.record (.heard letter.content) :=
    hnext.trans (checked_of_intact hsound.intact)
  subst heq
  refine ⟨inbox.queue.map (·.content), hletters, ⟨hunderway.running, hunderway.unasked,
    hunderway.attached, hunderway.early, ?_, hunderway.requests_open, ?_, ?_, hunderway.jobs_eq,
    hunderway.entered, hunderway.answers_eq, ?_, hunderway.isLocal, hsound, ?_⟩, rfl, rfl, ?_⟩
  · change device.link.inbox.isOpen = true
    rw [hinbox, hrest]
    exact hunderway.inbox_open
  · exact congrArg (fun m => m.queue.map Link.Letter.content) hinbox
  · change device.link.inbox.waiting = []
    rw [hinbox, hrest]
    exact hunderway.inside
  · intro n hn
    exact hunderway.unawaited n (hletters ▸ List.mem_cons_of_mem _ hn)
  · change prospect _ jobs device.memory = goal
    rw [hmemory, ← hunderway.goal_eq, hletters]
    rfl
  · exact congrArg (fun settings : Settings => 1000 * settings.interval.toNat) hsettings

theorem Underway.serve (hunderway : s.Underway letters jobs answers goal) {job : Job}
    {requests : Mailbox Job} (hheard : s.device.link.inbox.pop? = none)
    (hpop : s.requests.pop? = some (job, requests))
    (hnext : next = Service.serve job { s with requests }) :
    ∃ later, letters = [] ∧ jobs = job :: later ∧
      next.Underway letters later (answers ++ job.replies s.device.memory) goal ∧
        s.SameClock next := by
  obtain ⟨-, hrest⟩ := Mailbox.eq_of_pop?_eq_some hpop
  have hjobs : jobs = job :: requests.toList := by
    rw [← hunderway.jobs_eq, Mailbox.toList_of_pop? hpop]
  have hletters : letters = [] := by
    rw [← hunderway.letters_eq, Mailbox.pop?_eq_none_iff.mp hheard]
    rfl
  have hlocal := hunderway.isLocal job (hjobs ▸ List.mem_cons_self)
  have hopen : requests.isOpen = true := by
    rw [hrest]
    exact hunderway.requests_open
  have hentered : ∀ job ∈ requests.waiting, job.request.isSignal = false := by
    rw [hrest]
    exact hunderway.entered
  have hlater : ∀ job ∈ requests.toList, job.request.isLocal = true := fun job hjob =>
    hunderway.isLocal job (hjobs ▸ List.mem_cons_of_mem _ hjob)
  have hgoal : prospect letters requests.toList (s.device.memory.grant job.request) = goal := by
    rw [← hunderway.goal_eq, hjobs, hletters]
    rfl
  refine ⟨requests.toList, hletters, hjobs, ?_⟩
  rw [Service.serve] at hnext
  rw [Job.replies]
  cases hrequest : job.request with
  | signal e =>
      rw [hrequest] at hnext hgoal
      subst hnext
      refine ⟨⟨hunderway.running, hunderway.unasked, hunderway.attached, hunderway.early,
        hunderway.inbox_open, hopen, hunderway.letters_eq, hunderway.inside, rfl, hentered, ?_,
        hunderway.unawaited, hlater, ⟨hunderway.sound.intact, hunderway.sound.steadfast⟩, hgoal⟩,
        rfl, rfl, rfl⟩
      exact hunderway.answers_eq.trans (List.append_nil _).symm
  | status =>
      rw [hrequest] at hnext hgoal
      subst hnext
      refine ⟨⟨hunderway.running, hunderway.unasked, hunderway.attached, hunderway.early,
        hunderway.inbox_open, hopen, hunderway.letters_eq, hunderway.inside, rfl, hentered, ?_,
        hunderway.unawaited, hlater, hunderway.sound, hgoal⟩, rfl, rfl, rfl⟩
      exact (Trace.toList_add _ _).trans (congrArg (· ++ _) hunderway.answers_eq)
  | _ =>
      rw [hrequest] at hlocal
      contradiction

/-- A turn hears the first letter, does the first job when all letters are heard, or lets in
what waits. -/
theorem Underway.turn (hunderway : s.Underway letters jobs answers goal) (hturn : s.Turn next) :
    s.SameClock next ∧
      ((∃ n later, letters = n :: later ∧ next.Underway later jobs answers goal) ∨
      (∃ job later, letters = [] ∧ jobs = job :: later ∧
        next.Underway letters later (answers ++ job.replies s.device.memory) goal) ∨
      next.Underway letters jobs answers goal) := by
  have hundeserted : s.isDeserted = false := by
    rw [isDeserted, hunderway.attached, Bool.not_true, Bool.and_false, Bool.false_and]
  cases hturn with
  | stop hrunning hasked =>
      rw [hunderway.unasked] at hasked
      contradiction
  | hear hrunning hasked hpop =>
      obtain ⟨later, hletters, hlater, hclock⟩ := hunderway.hear hpop rfl
      exact ⟨hclock, Or.inl ⟨_, later, hletters, hlater⟩⟩
  | hangUp hrunning hasked hheard hdeserted =>
      rw [hundeserted] at hdeserted
      contradiction
  | tick hrunning hasked hheard hdeserted hdue =>
      exact absurd hdue (Nat.not_le_of_lt hunderway.early)
  | serve hrunning hasked hheard hdeserted hearly hpop =>
      obtain ⟨later, hletters, hjobs, hlater, hclock⟩ := hunderway.serve hheard hpop rfl
      exact ⟨hclock, Or.inr (Or.inl ⟨_, later, hletters, hjobs, hlater⟩)⟩
  | refill hrunning hasked hheard hdeserted hearly hserved hwaiting =>
      obtain ⟨hrefilled, hclock⟩ := hunderway.refill
      exact ⟨hclock, Or.inr (Or.inr hrefilled)⟩

theorem replies_of_isSignal {job : Job} (hsignal : job.request.isSignal = true)
    (m : Device.Memory) : job.replies m = [] := by
  rw [Job.replies]
  cases hrequest : job.request with
  | status =>
      rw [hrequest] at hsignal
      contradiction
  | _ => rfl

/-- While only signals are on their way a turn answers nothing. -/
theorem Underway.turn_of_signals (hunderway : s.Underway letters jobs answers goal)
    (hsignals : ∀ job ∈ jobs, job.request.isSignal = true) (hturn : s.Turn next) :
    s.SameClock next ∧ ∃ letters jobs, (∀ job ∈ jobs, job.request.isSignal = true) ∧
      next.Underway letters jobs answers goal := by
  obtain ⟨hclock, hcases⟩ := hunderway.turn hturn
  refine ⟨hclock, ?_⟩
  rcases hcases with ⟨n, later, -, hnext⟩ | ⟨job, later, -, rfl, hnext⟩ | hnext
  · exact ⟨later, jobs, hsignals, hnext⟩
  · rw [List.forall_mem_cons] at hsignals
    rw [replies_of_isSignal hsignals.1, List.append_nil] at hnext
    exact ⟨letters, later, hsignals.2, hnext⟩
  · exact ⟨letters, jobs, hsignals, hnext⟩

/-- While nothing is on its way a turn changes nothing. -/
theorem Underway.turn_of_idle (hunderway : s.Underway [] [] answers goal) (hturn : s.Turn next) :
    s.SameClock next ∧ next.Underway [] [] answers goal := by
  obtain ⟨hclock, hcases⟩ := hunderway.turn hturn
  refine ⟨hclock, ?_⟩
  rcases hcases with ⟨n, later, hletters, -⟩ | ⟨job, later, -, hjobs, -⟩ | hnext
  · contradiction
  · contradiction
  · exact hnext

theorem Underway.answer?_eq (hunderway : s.Underway letters jobs answers goal) (ticket : Nat) :
    s.answer? ticket = answers.lookup ticket := by
  rw [Service.answer?, hunderway.answers_eq]

/-- At rest everything is done, and the memory has become what it was to become. -/
theorem Underway.at_rest (hunderway : s.Underway letters jobs answers goal)
    (hrest : s.turn? = none) : letters = [] ∧ jobs = [] ∧ s.device.memory = goal := by
  cases atRest_of_turn?_eq_none hrest with
  | ended hphase => exact absurd hunderway.running hphase
  | idle hasked hheard hdeserted hearly hserved hwaiting =>
      have hletters : letters = [] := by
        rw [← hunderway.letters_eq, Mailbox.pop?_eq_none_iff.mp hheard]
        rfl
      have hjobs : jobs = [] := by
        rw [hasWaiting, Bool.or_eq_false_iff] at hwaiting
        rw [← hunderway.jobs_eq, Mailbox.toList_eq_nil_iff]
        refine ⟨hserved, ?_⟩
        rw [← List.isEmpty_iff, ← Bool.not_eq_false', hwaiting.2]
      refine ⟨hletters, hjobs, ?_⟩
      rw [← hunderway.goal_eq, hletters, hjobs]
      rfl

/-- Nobody waits outside if all jobs are signals. -/
theorem Underway.waiting_eq_nil (hunderway : s.Underway letters jobs answers goal)
    (hsignals : ∀ job ∈ jobs, job.request.isSignal = true) : s.requests.waiting = [] := by
  rw [List.eq_nil_iff_forall_not_mem]
  intro job hjob
  have hmem : job ∈ jobs := hunderway.jobs_eq ▸ List.mem_append_right _ hjob
  have hsignal := hsignals job hmem
  rw [hunderway.entered job hjob] at hsignal
  contradiction

/-- A signal that finds nothing before it, or another request, comes behind the signals that
are on their way.  A signal is answered at once. -/
theorem Underway.ask (hunderway : s.Underway letters jobs answers goal)
    (hsignals : ∀ job ∈ jobs, job.request.isSignal = true) (ticket : Nat) {request : Request}
    (hlocal : request.isLocal = true) (hfirst : request.isSignal = true → jobs = []) :
    (s.ask ticket request).Underway letters (jobs ++ [⟨ticket, request⟩])
      (answers ++ arrived [⟨ticket, request⟩]) (goal.grant request) ∧
        s.SameClock (s.ask ticket request) := by
  have hwaiting := hunderway.waiting_eq_nil hsignals
  have hfull : s.requests.isFull = true → request.isSignal = false := by
    intro hfull
    cases hsignal : request.isSignal with
    | false => rfl
    | true =>
        have hempty : s.requests.toList = [] := hunderway.jobs_eq.trans (hfirst hsignal)
        rw [Mailbox.isFull_of_toList_eq_nil hempty] at hfull
        contradiction
  rw [ask_eq hunderway.requests_open]
  refine ⟨⟨hunderway.running, hunderway.unasked, hunderway.attached, hunderway.early,
    hunderway.inbox_open, (Mailbox.isOpen_push _ _).trans hunderway.requests_open,
    hunderway.letters_eq, hunderway.inside, ?_, ?_, ?_, hunderway.unawaited, ?_,
    hunderway.sound, ?_⟩, rfl, rfl, rfl⟩
  · exact (Mailbox.toList_push_of_waiting_nil hwaiting _).trans
      (congrArg (· ++ _) hunderway.jobs_eq)
  · intro job hjob
    change job ∈ (s.requests.push ⟨ticket, request⟩).waiting at hjob
    rw [Mailbox.push] at hjob
    split at hjob
    · next hisFull =>
        rw [hwaiting, List.nil_append, List.mem_singleton] at hjob
        rw [hjob]
        exact hfull hisFull
    · rw [hwaiting] at hjob
      contradiction
  · change (if s.requests.isFull then s.answers else s.answers ++ _).toList = _
    split
    · next hisFull =>
        have hnothing : arrived [⟨ticket, request⟩] = [] :=
          arrived_eq_nil fun job hjob => by
            rw [List.mem_singleton.mp hjob]
            exact hfull hisFull
        rw [hnothing, List.append_nil]
        exact hunderway.answers_eq
    · rw [Trace.toList_append, hunderway.answers_eq]
  · intro job hjob
    rcases List.mem_append.mp hjob with hearlier | hnew
    · exact hunderway.isLocal job hearlier
    · rw [List.mem_singleton.mp hnew]
      exact hlocal
  · rw [prospect, List.foldl_append, ← hunderway.goal_eq]
    rfl

/-- A notification that finds nothing before it is answered at once, if it is no invocation. -/
theorem Underway.deliver (hunderway : s.Underway [] [] answers goal) (ticket : Nat)
    {n : Notification} (hunawaited : awaited? n = none) :
    (s.deliver ticket n).Underway [n] [] (answers ++ [(ticket, .done)]) (goal.hear n) ∧
      s.SameClock (s.deliver ticket n) := by
  have hqueue : s.device.link.inbox.queue = [] := List.map_eq_nil_iff.mp hunderway.letters_eq
  have hempty : s.device.link.inbox.toList = [] := by
    rw [Mailbox.toList, hqueue, hunderway.inside]
    rfl
  have hfull := Mailbox.isFull_of_toList_eq_nil hempty
  have hanswers : delivered [⟨.outside ticket, n⟩] = [(ticket, .done)] := by
    rw [delivered, List.filterMap_cons, hunawaited]
    rfl
  have heq : s.deliver ticket n =
      { s with
        device := { s.device with link := s.device.link.deliver (.outside ticket) n }
        answers := s.answers ++ [(ticket, Answer.done)] } := by
    rw [← hanswers, Service.deliver, hunderway.attached, hunderway.inbox_open, hfull]
    rfl
  have hinbox : (s.device.link.deliver (.outside ticket) n).inbox =
      { s.device.link.inbox with queue := [⟨.outside ticket, n⟩] } := by
    rw [Link.deliver, Mailbox.push, hfull, hqueue]
    rfl
  rw [heq]
  refine ⟨⟨hunderway.running, hunderway.unasked, hunderway.attached, hunderway.early, ?_,
    hunderway.requests_open, ?_, ?_, hunderway.jobs_eq, hunderway.entered, ?_, ?_,
    hunderway.isLocal, hunderway.sound, ?_⟩, rfl, rfl, rfl⟩
  · exact (congrArg Mailbox.isOpen hinbox).trans hunderway.inbox_open
  · exact congrArg (fun m => m.queue.map Link.Letter.content) hinbox
  · exact (congrArg Mailbox.waiting hinbox).trans hunderway.inside
  · rw [Trace.toList_append, hunderway.answers_eq]
  · intro m hm
    rw [List.mem_singleton.mp hm]
    exact hunawaited
  · have hgoal := hunderway.goal_eq
    rw [← hgoal]
    rfl

/-- Time passes before the next tick. -/
theorem Underway.withNow (hunderway : s.Underway letters jobs answers goal) {now : Nat}
    (hearly : now < s.due) : ({ s with now } : Service).Underway letters jobs answers goal :=
  { hunderway with early := hearly }

/-- A service that settles does all that is on its way, in no time. -/
theorem Underway.settle (hunderway : s.Underway letters jobs answers goal) :
    s.SameClock s.settle ∧ ∃ answers, s.settle.Underway [] [] answers goal ∧
      s.settle.device.memory = goal := by
  have hsettled : s.SameClock s.settle ∧
      ∃ letters jobs answers, s.settle.Underway letters jobs answers goal := by
    refine settle_induction (P := fun after => s.SameClock after ∧
      ∃ letters jobs answers, after.Underway letters jobs answers goal) ?_ s
        ⟨⟨rfl, rfl, rfl⟩, letters, jobs, answers, hunderway⟩
    rintro mid next ⟨hclock, letters, jobs, answers, hmid⟩ hturn
    obtain ⟨hstep, hcases⟩ := hmid.turn hturn
    refine ⟨hclock.trans hstep, ?_⟩
    rcases hcases with ⟨n, later, -, hnext⟩ | ⟨job, later, -, -, hnext⟩ | hnext
    · exact ⟨_, _, _, hnext⟩
    · exact ⟨_, _, _, hnext⟩
    · exact ⟨_, _, _, hnext⟩
  obtain ⟨hclock, letters, jobs, answers, hafter⟩ := hsettled
  obtain ⟨rfl, rfl, hmemory⟩ := hafter.at_rest (turn?_settle s)
  exact ⟨hclock, answers, hafter, hmemory⟩

end Service

end DeviceTwin
