/-
What passes through a service.  Whatever the order in which things happen, what came into
a mailbox is what was taken out of it and what is still there, in one order; and what the
device keeps in mind is what the steps in the log have made of it.
-/
import DeviceTwin.Proofs.Service.Course
import DeviceTwin.Proofs.Service.Stimulus

namespace DeviceTwin

namespace Service

variable {s next : Service}

theorem activities_map_arrived {α : Type} (f : α → Notification) (l : List α) :
    activities (l.map fun a => .arrived (f a)) = [] := by
  simp [activities]

theorem arrivals_map_arrived {α : Type} (f : α → Notification) (l : List α) :
    arrivals (l.map fun a => .arrived (f a)) = l.map f := by
  rw [arrivals, List.filterMap_map]
  exact congrFun List.filterMap_eq_map l

theorem enrolments_map_arrived {α : Type} (f : α → Notification) (l : List α) :
    enrolments (l.map fun a => .arrived (f a)) = [] := by
  simp [enrolments]

theorem activities_map_enrolled (l : List Job) : activities (l.map .enrolled) = [] := by
  simp [activities]

theorem arrivals_map_enrolled (l : List Job) : arrivals (l.map .enrolled) = [] := by
  simp [arrivals]

theorem enrolments_map_enrolled (l : List Job) : enrolments (l.map .enrolled) = l := by
  rw [enrolments, List.filterMap_map]
  exact List.filterMap_some

theorem activities_map_did (l : List Activity) : activities (l.map .did) = l := by
  rw [activities, List.filterMap_map]
  exact List.filterMap_some

theorem activities_admitted (s : Service) : activities s.admitted = [] := by
  rw [admitted, activities_append, activities_map_arrived, activities_map_enrolled,
    List.nil_append]

theorem activities_turned (s next : Service) : activities (s.turned next) = s.deeds next := by
  unfold turned
  split
  · next hdeeds => rw [activities_admitted, hdeeds]
  · rw [activities_append, activities_map_did, activities_map_arrived, List.append_nil]

/-- What happens outside is no activity of the service. -/
theorem activities_occurrences_of_ne_turn {m : Move} (hm : m ≠ .turn) (s : Service) :
    activities (s.occurrences m) = [] := by
  cases m with
  | turn => contradiction
  | ask ticket request =>
      rw [occurrences]
      split
      · exact activities_map_enrolled _
      · rfl
  | deliver ticket n =>
      rw [occurrences]
      split
      · exact activities_map_arrived _ _
      · rfl
  | use c => exact activities_map_arrived _ _
  | letIn => exact activities_admitted s
  | _ => rfl

/-- Nobody serves a request to a service that has ended. -/
theorem ask_of_shut (hshut : s.requests.isOpen = false) (ticket : Nat) (request : Request) :
    s.ask ticket request = s.answer ticket (.failed .stopped) := by
  rw [ask, hshut]
  rfl

theorem deliver_of_shut (hshut : ¬(s.attached && s.device.link.inbox.isOpen) = true)
    (ticket : Nat) (n : Notification) :
    s.deliver ticket n = s.answer ticket (.undelivered .closed) := by
  rw [deliver, if_pos]
  rw [← Bool.not_and, Bool.not_eq_true', ← Bool.not_eq_true]
  exact hshut

theorem exists_ask_eq (s : Service) (ticket : Nat) (request : Request) :
    ∃ requests answers, s.ask ticket request = { s with requests, answers } := by
  unfold ask
  dsimp only
  split
  · exact ⟨_, _, rfl⟩
  · split <;> exact ⟨_, _, rfl⟩

theorem exists_deliver_eq (s : Service) (ticket : Nat) (n : Notification) :
    ∃ inbox answers,
      s.deliver ticket n = { s with device := s.device.withInbox inbox, answers } := by
  unfold deliver
  dsimp only
  split
  · exact ⟨_, _, rfl⟩
  · split <;> exact ⟨_, _, rfl⟩

/-- What happens outside changes neither what the device keeps in mind nor what it has
noted, and it does not end the service. -/
theorem frame_of_ne_turn {m : Move} (hm : m ≠ .turn) (s : Service) :
    (s.move m).device.memory = s.device.memory ∧
      (s.move m).device.journal = s.device.journal ∧ (s.move m).phase = s.phase := by
  cases m with
  | turn => contradiction
  | ask ticket request =>
      obtain ⟨requests, answers, heq⟩ := s.exists_ask_eq ticket request
      rw [move, heq]
      exact ⟨rfl, rfl, rfl⟩
  | deliver ticket n =>
      obtain ⟨inbox, answers, heq⟩ := s.exists_deliver_eq ticket n
      rw [move, heq]
      exact ⟨rfl, rfl, rfl⟩
  | _ => exact ⟨rfl, rfl, rfl⟩

theorem move_turn_of_eq_none (hrest : s.turn? = none) :
    s.move .turn = s ∧ s.occurrences .turn = [] := by
  rw [move, occurrences, hrest]
  exact ⟨rfl, rfl⟩

theorem move_turn_of_eq_some (hturn : s.turn? = some next) :
    s.move .turn = next ∧ s.occurrences .turn = s.turned next := by
  rw [move, occurrences, hturn]
  exact ⟨rfl, rfl⟩

/-- The mailboxes account for what came in: it was taken out, or it is left. -/
structure Accounts (s : Service) (log : List Occurrence) (letters : List Notification)
    (jobs : List Job) : Prop where
  letters : s.letters ++ arrivals log = heard log ++ letters
  jobs : s.jobs ++ enrolments log = served log ++ jobs

theorem Accounts.append {log later : List Occurrence} {letters : List Notification}
    {jobs : List Job} (haccounts : s.Accounts log next.letters next.jobs)
    (hlater : next.Accounts later letters jobs) : s.Accounts (log ++ later) letters jobs := by
  refine ⟨?_, ?_⟩
  · rw [arrivals_append, heard_append, ← List.append_assoc, haccounts.letters,
      List.append_assoc, hlater.letters, List.append_assoc]
  · rw [enrolments_append, served_append, ← List.append_assoc, haccounts.jobs,
      List.append_assoc, hlater.jobs, List.append_assoc]

theorem heard_eq_nil {log : List Occurrence} (hactivities : activities log = []) :
    heard log = [] := by
  rw [heard, hactivities]
  rfl

theorem served_eq_nil {log : List Occurrence} (hactivities : activities log = []) :
    served log = [] := by
  rw [served, hactivities]
  rfl

theorem accounts_admitted (s : Service) :
    s.Accounts s.admitted s.refill.letters s.refill.jobs := by
  have hactivities := activities_admitted s
  refine ⟨?_, ?_⟩
  · rw [heard_eq_nil hactivities, admitted, arrivals_append, arrivals_map_arrived,
      arrivals_map_enrolled, List.append_nil, List.nil_append]
    exact List.map_append.symm
  · rw [served_eq_nil hactivities, admitted, enrolments_append, enrolments_map_arrived,
      enrolments_map_enrolled, List.nil_append, List.nil_append]
    rfl

/-- What happens outside is accounted for. -/
theorem accounts_of_ne_turn {m : Move} (hm : m ≠ .turn) (s : Service) :
    s.Accounts (s.occurrences m) (s.move m).letters (s.move m).jobs := by
  have hactivities := activities_occurrences_of_ne_turn hm s
  have hnothing : ∀ next : Service, next.letters = s.letters → next.jobs = s.jobs →
      s.Accounts [] next.letters next.jobs := by
    intro next hletters hjobs
    rw [hletters, hjobs]
    exact ⟨List.append_nil _, List.append_nil _⟩
  cases m with
  | turn => contradiction
  | adapt kind => exact hnothing _ rfl rfl
  | wait ms => exact hnothing _ rfl rfl
  | tellStop => exact hnothing _ rfl rfl
  | detach => exact hnothing _ rfl rfl
  | letIn => exact accounts_admitted s
  | use c =>
      refine ⟨?_, ?_⟩
      · rw [heard_eq_nil hactivities, occurrences, arrivals_map_arrived, List.nil_append]
        change _ = ((s.device.link.perform c).link.inbox.queue.map (·.content))
        rw [Link.queue_perform, List.map_append]
        rfl
      · rw [served_eq_nil hactivities, occurrences, enrolments_map_arrived, List.append_nil]
        rfl
  | ask ticket request =>
      change s.Accounts _ (s.ask ticket request).letters (s.ask ticket request).jobs
      rw [occurrences]
      by_cases hopen : s.requests.isOpen = true
      · rw [if_pos hopen, ask_eq hopen]
        refine ⟨?_, ?_⟩
        · rw [arrivals_map_enrolled, heard_eq_nil (activities_map_enrolled _),
            List.append_nil]
          rfl
        · rw [enrolments_map_enrolled, served_eq_nil (activities_map_enrolled _)]
          exact (Mailbox.queue_push _ _).symm
      · rw [if_neg hopen, ask_of_shut (eq_false_of_ne_true hopen)]
        exact hnothing _ rfl rfl
  | deliver ticket n =>
      change s.Accounts _ (s.deliver ticket n).letters (s.deliver ticket n).jobs
      rw [occurrences]
      by_cases hopen : (s.attached && s.device.link.inbox.isOpen) = true
      · obtain ⟨hattached, hinbox⟩ := Bool.and_eq_true_iff.mp hopen
        obtain ⟨answers, heq⟩ := deliver_eq hattached hinbox ticket n
        rw [if_pos hopen, heq]
        refine ⟨?_, ?_⟩
        · rw [arrivals_map_arrived, heard_eq_nil (activities_map_arrived _ _)]
          change _ = (s.device.link.inbox.push _).queue.map (·.content)
          rw [Mailbox.queue_push, List.map_append]
          rfl
        · rw [enrolments_map_arrived, served_eq_nil (activities_map_arrived _ _),
            List.append_nil]
          rfl
      · rw [if_neg hopen, deliver_of_shut hopen]
        exact hnothing _ rfl rfl

/-- A move in which the service does nothing. -/
structure Idles (s : Service) (m : Move) : Prop where
  activities : activities (s.occurrences m) = []
  memory : (s.move m).device.memory = s.device.memory
  journal : (s.move m).device.journal = s.device.journal
  phase : (s.move m).phase = s.phase
  accounts : s.Accounts (s.occurrences m) (s.move m).letters (s.move m).jobs

/-- Either a service takes a turn in a move, or it does nothing. -/
theorem move_cases (s : Service) (m : Move) :
    s.Idles m ∨ ∃ next, m = .turn ∧ s.turn? = some next ∧ s.move m = next ∧
      s.occurrences m = s.turned next := by
  by_cases hm : m = .turn
  · subst hm
    cases hturn : s.turn? with
    | none =>
        obtain ⟨hmove, hlog⟩ := move_turn_of_eq_none hturn
        refine Or.inl ⟨?_, ?_, ?_, ?_, ?_⟩
        · rw [hlog]
          rfl
        · rw [hmove]
        · rw [hmove]
        · rw [hmove]
        · rw [hmove, hlog]
          exact ⟨List.append_nil _, List.append_nil _⟩
    | some next => exact Or.inr ⟨next, rfl, rfl, move_turn_of_eq_some hturn⟩
  · obtain ⟨hmemory, hjournal, hphase⟩ := frame_of_ne_turn hm s
    exact Or.inl ⟨activities_occurrences_of_ne_turn hm s, hmemory, hjournal, hphase,
      accounts_of_ne_turn hm s⟩

/-- The steps of the device in a log. -/
def steps (log : List Occurrence) : List Device.Step :=
  (activities log).filterMap Activity.step?

theorem steps_append (earlier later : List Occurrence) :
    steps (earlier ++ later) = steps earlier ++ steps later := by
  rw [steps, activities_append, List.filterMap_append]
  rfl

theorem memory_move (s : Service) (m : Move) :
    (s.move m).device.memory =
      (steps (s.occurrences m)).foldl Device.Memory.act s.device.memory := by
  rcases s.move_cases m with hidles | ⟨next, rfl, hturn, hmove, hlog⟩
  · rw [hidles.memory, steps, hidles.activities]
    rfl
  · rw [hmove, hlog, steps, activities_turned]
    exact (turn_of_turn?_eq_some hturn).memory_eq

/-- The device keeps in mind what a run of it through the steps in the log would leave. -/
theorem memory_after (s : Service) (moves : List Move) :
    (s.after moves).device.memory = (s.device.run (steps (s.log moves))).memory := by
  rw [Device.memory_run]
  induction moves generalizing s with
  | nil => rfl
  | cons m later ih =>
      rw [log, steps_append, List.foldl_append, ← memory_move]
      exact ih (s.move m)

theorem Idles.called {m : Move} (hidles : s.Idles m) : s.device.Called (s.move m).device [] :=
  Device.called_nothing hidles.journal (congrArg Device.Memory.hooks hidles.memory)
    (congrArg Device.Memory.raised hidles.memory) (congrArg Device.Memory.broken hidles.memory)

/-- The calls on the link in activities, where each may depend on what the device keeps in
mind of those before it. -/
def callsAlong (m : Device.Memory) : List Activity → List Link.Call
  | [] => []
  | a :: later => a.calls m ++ callsAlong (a.step?.toList.foldl Device.Memory.act m) later

theorem callsAlong_append (m : Device.Memory) (earlier later : List Activity) :
    callsAlong m (earlier ++ later) =
      callsAlong m earlier ++
        callsAlong ((earlier.filterMap Activity.step?).foldl Device.Memory.act m) later := by
  induction earlier generalizing m with
  | nil => rfl
  | cons a rest ih =>
      rw [List.cons_append, callsAlong, ih, callsAlong, List.append_assoc]
      cases hstep : a.step? with
      | none => rw [List.filterMap_cons_none hstep]; rfl
      | some step => rw [List.filterMap_cons_some hstep]; rfl

theorem called_move (s : Service) (m : Move) :
    s.device.Called (s.move m).device
      (callsAlong s.device.memory (activities (s.occurrences m))) := by
  rcases s.move_cases m with hidles | ⟨next, rfl, hturn, hmove, hlog⟩
  · rw [hidles.activities]
    exact hidles.called
  · have hturn := turn_of_turn?_eq_some hturn
    have hcalled := hturn.called
    rw [hmove, hlog, activities_turned]
    rcases hturn.deeds_cases with hdeeds | ⟨a, hdeeds⟩
    · rw [hdeeds] at hcalled ⊢
      exact hcalled
    · rw [hdeeds] at hcalled ⊢
      exact hcalled

/-- The calls that the device makes are those of what the service does. -/
theorem called_after (s : Service) (moves : List Move) :
    s.device.Called (s.after moves).device
      (callsAlong s.device.memory (activities (s.log moves))) := by
  induction moves generalizing s with
  | nil => exact Device.called_nothing rfl rfl rfl rfl
  | cons m later ih =>
      rw [log, activities_append, callsAlong_append]
      have hmemory := memory_move s m
      rw [steps] at hmemory
      rw [← hmemory]
      exact (called_move s m).trans (ih (s.move m))

/-- A service that has ended: its mailboxes are shut and nothing is in them. -/
structure Shut (s : Service) : Prop where
  ended : s.phase ≠ .running
  inbox_closed : s.device.link.inbox.isOpen = false
  inbox_empty : s.device.link.inbox.toList = []
  requests_closed : s.requests.isOpen = false
  requests_empty : s.requests.toList = []

theorem shut_finish {phase : Phase} (hphase : phase ≠ .running) (s : Service) :
    (s.finish phase).Shut :=
  ⟨hphase, rfl, rfl, rfl, rfl⟩

theorem Shut.admissible_eq_nil {α : Type} {m : Mailbox α} (hempty : m.toList = []) :
    m.admissible = [] := by
  rw [Mailbox.admissible, (List.append_eq_nil_iff.mp hempty).2, List.take_nil]

theorem Shut.turn?_eq_none (hshut : s.Shut) : s.turn? = none :=
  turn?_eq_none_iff.mpr (.ended hshut.ended)

/-- After the end nothing comes in and nothing is done. -/
theorem Shut.occurrences_eq_nil (hshut : s.Shut) (m : Move) : s.occurrences m = [] := by
  cases m with
  | turn => exact (move_turn_of_eq_none hshut.turn?_eq_none).2
  | ask ticket request => rw [occurrences, hshut.requests_closed, if_neg (by nofun)]
  | deliver ticket n =>
      rw [occurrences, hshut.inbox_closed, Bool.and_false, if_neg (by nofun)]
  | use c =>
      have hentering : s.device.link.entering c = [] := by
        rw [Link.entering, hshut.inbox_closed]
        cases s.device.link.result? c <;> rfl
      rw [occurrences, hentering, List.map_nil]
  | letIn =>
      rw [occurrences, admitted, Shut.admissible_eq_nil hshut.inbox_empty,
        Shut.admissible_eq_nil hshut.requests_empty]
      rfl
  | _ => rfl

theorem Shut.move (hshut : s.Shut) (m : Move) : (s.move m).Shut := by
  cases m with
  | turn =>
      rw [(move_turn_of_eq_none hshut.turn?_eq_none).1]
      exact hshut
  | ask ticket request =>
      rw [Service.move, ask_of_shut hshut.requests_closed]
      exact ⟨hshut.1, hshut.2, hshut.3, hshut.4, hshut.5⟩
  | deliver ticket n =>
      rw [Service.move, deliver_of_shut (by rw [hshut.inbox_closed, Bool.and_false]; nofun)]
      exact ⟨hshut.1, hshut.2, hshut.3, hshut.4, hshut.5⟩
  | use c =>
      have hinbox : (s.device.link.perform c).link.inbox = s.device.link.inbox := by
        rw [Link.inbox_perform, hshut.inbox_closed]
        cases s.device.link.result? c <;> rfl
      refine ⟨hshut.ended, ?_, ?_, hshut.requests_closed, hshut.requests_empty⟩
      · exact (congrArg Mailbox.isOpen hinbox).trans hshut.inbox_closed
      · exact (congrArg Mailbox.toList hinbox).trans hshut.inbox_empty
  | letIn =>
      exact ⟨hshut.ended, hshut.inbox_closed,
        (Mailbox.toList_refill _).trans hshut.inbox_empty, hshut.requests_closed,
        (Mailbox.toList_refill _).trans hshut.requests_empty⟩
  | _ => exact ⟨hshut.1, hshut.2, hshut.3, hshut.4, hshut.5⟩

theorem Shut.after (hshut : s.Shut) (moves : List Move) :
    (s.after moves).Shut ∧ s.log moves = [] := by
  induction moves generalizing s with
  | nil => exact ⟨hshut, rfl⟩
  | cons m later ih =>
      obtain ⟨hlater, hlog⟩ := ih (hshut.move m)
      refine ⟨hlater, ?_⟩
      rw [log, hshut.occurrences_eq_nil, hlog, List.nil_append]

theorem Shut.idles (hshut : s.Shut) (m : Move) : s.Idles m := by
  rcases s.move_cases m with hidles | ⟨next, -, hturn, -⟩
  · exact hidles
  · rw [hshut.turn?_eq_none] at hturn
    contradiction

/-- After the end the service stays as it ended, and no call is made. -/
theorem Shut.silent (hshut : s.Shut) (moves : List Move) :
    (s.after moves).phase = s.phase ∧ s.device.Called (s.after moves).device [] := by
  induction moves generalizing s with
  | nil => exact ⟨rfl, Device.called_nothing rfl rfl rfl rfl⟩
  | cons m later ih =>
      have hidles := hshut.idles m
      obtain ⟨hphase, hcalled⟩ := ih (hshut.move m)
      exact ⟨hphase.trans hidles.phase, hidles.called.then_nothing hcalled⟩

theorem turned_eq (hturn : s.Turn next) {a : Activity} (hdeeds : s.deeds next = [a]) :
    s.turned next = .did a ::
      (s.device.link.enteringAll (a.calls s.device.memory)).map
        fun letter => .arrived letter.content := by
  have hcalled := hturn.called.callsUntil_eq
  rw [hdeeds, List.flatMap_singleton] at hcalled
  rw [turned, hdeeds, hcalled]
  rfl

theorem letters_eq_of_link {d : Device} {calls : List Link.Call}
    (hlink : d.link = s.device.link.performAll calls) :
    d.link.inbox.queue.map (·.content) =
      s.letters ++ (s.device.link.enteringAll calls).map (·.content) := by
  rw [hlink, Link.queue_performAll, List.map_append]
  rfl

theorem accounts_did {a : Activity} {entering : List Link.Letter}
    {letters : List Notification} {jobs : List Job}
    (hletters : s.letters ++ entering.map (·.content) = heard [.did a] ++ letters)
    (hjobs : s.jobs = served [.did a] ++ jobs) :
    s.Accounts (.did a :: entering.map fun letter => .arrived letter.content) letters jobs := by
  have hactivities := activities_map_arrived (·.content) entering
  refine ⟨?_, ?_⟩
  · rw [← List.singleton_append, arrivals_append, heard_append, arrivals_map_arrived,
      heard_eq_nil hactivities, List.append_nil, ← hletters]
    rfl
  · rw [← List.singleton_append, enrolments_append, served_append, enrolments_map_arrived,
      served_eq_nil hactivities, hjobs, List.append_nil, List.append_nil]
    exact List.append_nil _

theorem phase_checked (s : Service) :
    s.checked.phase = s.phase ∧ s.checked = s ∨ s.checked.Shut := by
  unfold checked
  split
  · exact Or.inr (shut_finish (by simp) s)
  · exact Or.inl ⟨rfl, rfl⟩

/-- A turn is accounted for.  If it is the last one, what is left is given up. -/
theorem Turn.accounts (hturn : s.Turn next) :
    next.phase = .running ∧ s.Accounts (s.turned next) next.letters next.jobs ∨
      next.Shut ∧ ∃ letters jobs, s.Accounts (s.turned next) letters jobs := by
  cases hturn with
  | stop hrunning hasked =>
      refine Or.inr ⟨shut_finish (by simp) _, s.letters, s.jobs, ?_⟩
      rw [turned_eq (.stop hrunning hasked) (deeds_stop s)]
      refine accounts_did (List.append_nil _) rfl
  | @hear letter inbox hrunning hasked hpop =>
      obtain ⟨answers, history, heq⟩ :=
        hear_eq letter.content { s with device := s.device.withInbox inbox }
      have hqueue : s.letters = letter.content :: inbox.queue.map (·.content) := by
        rw [letters, (Mailbox.eq_of_pop?_eq_some hpop).1, List.map_cons]
      have haccounts : s.Accounts (s.turned (Service.hear letter.content
          { s with device := s.device.withInbox inbox })) (inbox.queue.map (·.content)) s.jobs := by
        rw [turned_eq (.hear hrunning hasked hpop) (deeds_hear s _ _)]
        refine accounts_did ?_ rfl
        -- To hear brings reports at most, and a report brings no letter.
        rw [Activity.calls, Link.enteringAll_eq_nil
          fun c hcall => Device.Memory.isTelemetry_of_mem_calls_hear hcall, hqueue]
        exact List.append_nil _
      rcases phase_checked { s with
        device := (s.device.withInbox inbox).hear letter.content, answers, history } with
        ⟨-, hsame⟩ | hshut
      · refine Or.inl ⟨?_, ?_⟩
        · rw [heq, hsame]
          exact hrunning
        · have hletters : (Service.hear letter.content
              { s with device := s.device.withInbox inbox }).letters =
                inbox.queue.map (·.content) := by
            rw [heq, hsame, letters, Device.inbox_hear]
            rfl
          have hjobs : (Service.hear letter.content
              { s with device := s.device.withInbox inbox }).jobs = s.jobs := by
            rw [heq, hsame]
            rfl
          rw [hletters, hjobs]
          exact haccounts
      · exact Or.inr ⟨heq ▸ hshut, _, _, haccounts⟩
  | hangUp hrunning hasked hheard hdeserted =>
      refine Or.inl ⟨hrunning, ?_⟩
      rw [turned_eq (.hangUp hrunning hasked hheard hdeserted) (deeds_hangUp s)]
      exact accounts_did (List.append_nil _) rfl
  | tick hrunning hasked hheard hdeserted hdue =>
      obtain ⟨records, history, heq⟩ := tick_eq s
      have hlink := (Device.makes_act s.device .tick rfl).link
      refine Or.inl ⟨by rw [heq]; exact hrunning, ?_⟩
      rw [turned_eq (.tick hrunning hasked hheard hdeserted hdue) (deeds_tick s)]
      refine accounts_did ?_ (by rw [heq]; rfl)
      rw [heq]
      exact (letters_eq_of_link hlink).symm
  | @serve job requests hrunning hasked hheard hdeserted hearly hpop =>
      obtain ⟨answers, history, heq⟩ := serve_eq job { s with requests }
      have hlink := (makes_grant s.device job).link
      refine Or.inl ⟨by rw [heq]; exact hrunning, ?_⟩
      rw [turned_eq (.serve hrunning hasked hheard hdeserted hearly hpop)
        (deeds_serve s job requests)]
      refine accounts_did ?_ ?_
      · rw [heq]
        exact (letters_eq_of_link hlink).symm
      · rw [heq]
        exact (Mailbox.eq_of_pop?_eq_some hpop).1
  | refill hrunning hasked hheard hdeserted hearly hserved hwaiting =>
      refine Or.inl ⟨hrunning, ?_⟩
      rw [turned, deeds_refill]
      exact accounts_admitted s

/-- A course is accounted for, whether or not the service still runs. -/
theorem accounts_after (hrunning : s.phase = .running) (moves : List Move) :
    (s.after moves).phase = .running ∧
        s.Accounts (s.log moves) (s.after moves).letters (s.after moves).jobs ∨
      (s.after moves).Shut ∧ ∃ letters jobs, s.Accounts (s.log moves) letters jobs := by
  induction moves generalizing s with
  | nil => exact Or.inl ⟨hrunning, List.append_nil _, List.append_nil _⟩
  | cons m later ih =>
      have hmove : (s.move m).phase = .running ∧
            s.Accounts (s.occurrences m) (s.move m).letters (s.move m).jobs ∨
          (s.move m).Shut ∧ ∃ letters jobs, s.Accounts (s.occurrences m) letters jobs := by
        rcases s.move_cases m with hidles | ⟨next, -, hturn, hmove, hlog⟩
        · exact Or.inl ⟨hidles.phase.trans hrunning, hidles.accounts⟩
        · rw [hmove, hlog]
          exact (turn_of_turn?_eq_some hturn).accounts
      rw [log]
      rcases hmove with ⟨hstill, haccounts⟩ | ⟨hshut, letters, jobs, haccounts⟩
      · rcases ih hstill with ⟨hlater, hrest⟩ | ⟨hlater, letters, jobs, hrest⟩
        · exact Or.inl ⟨hlater, haccounts.append hrest⟩
        · exact Or.inr ⟨hlater, letters, jobs, haccounts.append hrest⟩
      · obtain ⟨hlater, hlog⟩ := hshut.after later
        rw [hlog, List.append_nil]
        exact Or.inr ⟨hlater, letters, jobs, haccounts⟩

end Service

end DeviceTwin
