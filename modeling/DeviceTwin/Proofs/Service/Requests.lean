/-
What becomes of a request.  Whoever asks holds a number, under which one answer is given:
the result of the one time the request is served, or, if the service ends before that, that
it has stopped.  So whoever is told that it has stopped knows that nothing was done.
-/
import DeviceTwin.Proofs.Service.Answers

namespace DeviceTwin

namespace Service

variable {ticket : Nat} {s next : Service}

/-- After the end nothing is left. -/
theorem Shut.holds (hshut : s.Shut) : Holds ticket [] s := by
  refine ⟨?_, fun _ hjob => absurd hjob List.not_mem_nil, spares_of_empty hshut.inbox_empty⟩
  rw [hshut.requests_empty, List.filter_nil]

theorem servedTo_append (ticket : Nat) (earlier later : List Occurrence) :
    servedTo ticket (earlier ++ later) = servedTo ticket earlier ++ servedTo ticket later := by
  rw [servedTo, served_append, List.filter_append]
  rfl

/-- If nothing is asked for under a number nothing is answered under it. -/
theorem Holds.after_of_nil (hholds : Holds ticket [] s) {moves : List Move}
    (hunused : ∀ m ∈ moves, ¬m.Uses ticket) :
    Holds ticket [] (s.after moves) ∧ (s.after moves).answersTo ticket = s.answersTo ticket ∧
      servedTo ticket (s.log moves) = [] := by
  induction moves generalizing s with
  | nil => exact ⟨hholds, rfl, rfl⟩
  | cons m later ih =>
      rw [List.forall_mem_cons] at hunused
      rw [log, servedTo_append]
      change Holds ticket [] ((s.move m).after later) ∧
        ((s.move m).after later).answersTo ticket = _ ∧ _
      cases hholds.move hunused.1 with
      | keeps hphase hnext hanswers hserved =>
          obtain ⟨hlast, hsame, hnone⟩ := ih hnext hunused.2
          exact ⟨hlast, hsame.trans hanswers, by rw [hserved, hnone, List.append_nil]⟩
      | givesUp hshut hanswers hserved =>
          obtain ⟨hlast, hsame, hnone⟩ := ih hshut.holds hunused.2
          refine ⟨hlast, ?_, by rw [hserved, hnone, List.append_nil]⟩
          rw [hsame, hanswers]
          exact List.append_nil _
      | serves hasked => contradiction

/-- What has become of a request. -/
inductive Fate (job : Job) (s : Service) (moves : List Move) : Prop
  | waits (hphase : (s.after moves).phase = s.phase)
      (hholds : Holds job.ticket [job] (s.after moves))
      (hanswers : (s.after moves).answersTo job.ticket = s.answersTo job.ticket)
      (hserved : servedTo job.ticket (s.log moves) = [])
  | refused (hshut : (s.after moves).Shut)
      (hanswers : (s.after moves).answersTo job.ticket =
        s.answersTo job.ticket ++ [.failed .stopped])
      (hserved : servedTo job.ticket (s.log moves) = [])
  | served (first second : List Move) (hmoves : moves = first ++ .turn :: second)
      (hdoes : (s.after first).Does (.served job))
      (hanswers : (s.after moves).answersTo job.ticket =
        s.answersTo job.ticket ++ [answerFrom (s.after first).device job.request])
      (hserved : servedTo job.ticket (s.log moves) = [job])

/-- Moves in which nothing is answered under its number do not change what becomes of it. -/
theorem Fate.prepend {job : Job} (earlier : List Move) {later : List Move}
    (hfate : Fate job (s.after earlier) later) (hphase : (s.after earlier).phase = s.phase)
    (hanswers : (s.after earlier).answersTo job.ticket = s.answersTo job.ticket)
    (hserved : servedTo job.ticket (s.log earlier) = []) : Fate job s (earlier ++ later) := by
  have hafter := fun moves => after_append s earlier moves
  have hlog : servedTo job.ticket (s.log (earlier ++ later)) =
      servedTo job.ticket ((s.after earlier).log later) := by
    rw [log_append, servedTo_append, hserved, List.nil_append]
  cases hfate with
  | waits hlast hholds hsame hnone =>
      refine .waits ?_ ?_ ?_ (hlog.trans hnone)
      · rw [hafter, hlast, hphase]
      · rw [hafter]
        exact hholds
      · rw [hafter, hsame, hanswers]
  | refused hshut hsame hnone =>
      refine .refused ?_ ?_ (hlog.trans hnone)
      · rw [hafter]
        exact hshut
      · rw [hafter, hsame, hanswers]
  | served first second hmoves hdoes hsame honce =>
      refine .served (earlier ++ first) second ?_ ?_ ?_ (hlog.trans honce)
      · rw [hmoves, List.append_assoc]
      · rw [hafter]
        exact hdoes
      · rw [hafter, hafter, hsame, hanswers]

theorem Holds.fate {job : Job} (hholds : Holds job.ticket [job] s) {moves : List Move}
    (hunused : ∀ m ∈ moves, ¬m.Uses job.ticket) : Fate job s moves := by
  induction moves generalizing s with
  | nil => exact .waits rfl hholds rfl rfl
  | cons m later ih =>
      rw [List.forall_mem_cons] at hunused
      have hlog : servedTo job.ticket (s.log (m :: later)) =
          servedTo job.ticket (s.occurrences m) ++ servedTo job.ticket ((s.move m).log later) :=
        servedTo_append _ _ _
      cases hholds.move hunused.1 with
      | keeps hphase hnext hanswers hserved =>
          refine .prepend [m] (ih hnext hunused.2) hphase hanswers ?_
          rw [log, log, List.append_nil, hserved]
      | givesUp hshut hanswers hserved =>
          obtain ⟨-, hsame, hnone⟩ := hshut.holds.after_of_nil hunused.2
          rw [hserved, hnone] at hlog
          exact .refused (hshut.after later).1 (hsame.trans hanswers) hlog
      | @serves served rest hasked hdoes hphase hnext hanswers hserved =>
          obtain ⟨rfl, rfl⟩ := List.cons.inj hasked
          obtain ⟨-, hsame, hnone⟩ := hnext.after_of_nil hunused.2
          rw [hserved, hnone] at hlog
          rcases served_occurrences_cases s m with hnothing | ⟨rfl, -⟩
          · rw [servedTo, hnothing] at hserved
            contradiction
          · exact .served [] later rfl hdoes (hsame.trans hanswers) hlog

/-- Requests come in as long as the service runs. -/
theorem Turn.isOpen_eq (hturn : s.Turn next) (hrunning : next.phase = .running) :
    next.requests.isOpen = s.requests.isOpen := by
  cases hturn with
  | stop => contradiction
  | @hear letter inbox =>
      obtain ⟨answers, history, heq⟩ :=
        hear_eq letter.content { s with device := s.device.withInbox inbox }
      rw [heq] at hrunning ⊢
      rcases phase_checked { s with
        device := (s.device.withInbox inbox).hear letter.content, answers, history } with
        ⟨-, hsame⟩ | hshut
      · exact congrArg (·.requests.isOpen) hsame
      · exact absurd hrunning hshut.ended
  | hangUp => rfl
  | tick =>
      obtain ⟨records, history, heq⟩ := tick_eq s
      rw [heq]
  | @serve job requests hsame hasked hheard hdeserted hearly hpop =>
      obtain ⟨answers, history, heq⟩ := serve_eq job { s with requests }
      rw [heq]
      have hopen := congrArg Mailbox.isOpen (Mailbox.eq_of_pop?_eq_some hpop).2
      exact hopen
  | refill => rfl

theorem isOpen_move {m : Move} (hrunning : (s.move m).phase = .running) :
    (s.move m).requests.isOpen = s.requests.isOpen := by
  cases m with
  | turn =>
      cases hturn : s.turn? with
      | none => rw [(move_turn_of_eq_none hturn).1]
      | some next =>
          rw [(move_turn_of_eq_some hturn).1] at hrunning ⊢
          exact (turn_of_turn?_eq_some hturn).isOpen_eq hrunning
  | ask t request =>
      by_cases hopen : s.requests.isOpen = true
      · rw [move, ask_eq hopen]
        exact Mailbox.isOpen_push _ _
      · rw [move, ask_of_shut (eq_false_of_ne_true hopen)]
        rfl
  | deliver t n =>
      obtain ⟨inbox, answers, heq⟩ := s.exists_deliver_eq t n
      rw [move, heq]
  | _ => rfl

/-- As long as the service runs, requests come in. -/
theorem isOpen_after (hopen : s.requests.isOpen = true) (hrunning : s.phase = .running)
    {moves : List Move} (hafter : (s.after moves).phase = .running) :
    (s.after moves).requests.isOpen = true := by
  induction moves generalizing s with
  | nil => exact hopen
  | cons m later ih =>
      rcases accounts_after hrunning [m] with ⟨hmove, -⟩ | ⟨hshut, -⟩
      · have hmove : (s.move m).phase = .running := hmove
        exact ih ((isOpen_move hmove).trans hopen) hmove hafter
      · exact absurd hafter (hshut.after later).1.ended

/-- A request that is no signal is not answered when it comes in. -/
theorem Holds.ask (hholds : Holds ticket [] s) (hopen : s.requests.isOpen = true)
    {request : Request} (hproper : request.isSignal = false) :
    Holds ticket [⟨ticket, request⟩] (s.ask ticket request) ∧
      (s.ask ticket request).answersTo ticket = s.answersTo ticket := by
  refine ⟨?_, answersTo_ask hopen fun _ => hproper⟩
  rw [ask_eq hopen]
  refine ⟨?_, ?_, hholds.letters⟩
  · have hperm := (Mailbox.perm_toList_push s.requests ⟨ticket, request⟩).filter
      (·.ticket = ticket)
    rw [List.filter_cons, if_pos (decide_eq_true rfl), hholds.jobs] at hperm
    exact List.perm_singleton.mp hperm
  · intro job hjob
    rw [List.mem_singleton.mp hjob]
    exact hproper

/-- What becomes of a request whose number nobody else uses. -/
theorem fate_of_asked (hrunning : s.phase = .running) (hopen : s.requests.isOpen = true)
    (hholds : Holds ticket [] s) {request : Request} (hproper : request.isSignal = false)
    {before later : List Move} (hunused : ∀ m ∈ before ++ later, ¬m.Uses ticket) :
    Fate ⟨ticket, request⟩ s (before ++ .ask ticket request :: later) := by
  rw [List.forall_mem_append] at hunused
  obtain ⟨hbefore, hsame, hnone⟩ := hholds.after_of_nil hunused.1
  have hunserved : servedTo ticket ((s.after before).occurrences (.ask ticket request)) = [] := by
    rw [servedTo, served_eq_nil (activities_occurrences_of_ne_turn (by simp) _)]
    rfl
  rcases accounts_after hrunning before with ⟨hphase, -⟩ | ⟨hshut, -⟩
  · obtain ⟨hasked, hquiet⟩ := hbefore.ask (isOpen_after hopen hrunning hphase) hproper
    have hstill : ((s.after before).ask ticket request).phase = (s.after before).phase := by
      obtain ⟨requests, answers, heq⟩ := (s.after before).exists_ask_eq ticket request
      rw [heq]
    have hfate : Fate ⟨ticket, request⟩ (s.after before) (.ask ticket request :: later) := by
      refine .prepend [.ask ticket request] (Holds.fate hasked hunused.2) hstill hquiet ?_
      rw [log, log, List.append_nil, hunserved]
    exact .prepend before hfate (hphase.trans hrunning.symm) hsame hnone
  · -- The service has ended before the request, so it is turned away at once.
    have hstill := hshut.move (.ask ticket request)
    obtain ⟨-, hquiet, hserved⟩ := hstill.holds.after_of_nil hunused.2
    refine .refused ?_ ?_ ?_
    · rw [after_append]
      exact (hstill.after later).1
    · rw [after_append]
      refine hquiet.trans ?_
      rw [move, ask_of_shut hshut.requests_closed, ← hsame]
      exact answersIn_add_self (s.after before).answers _
    · rw [log_append, servedTo_append, hnone, log, servedTo_append, hunserved, hserved]
      rfl

/-- The link may refuse what is asked for, but it cannot say that the service has stopped. -/
theorem answerFrom_ne_stopped (d : Device) (request : Request) :
    answerFrom d request ≠ .failed .stopped := by
  have hresult : ∀ result : Link.Result, ofResult result ≠ .failed .stopped := by
    intro result
    cases result <;> nofun
  cases request with
  | signal e => nofun
  | status => nofun
  | telemetry t => exact hresult _
  | moved => exact hresult _
  | details serialNumber => exact hresult _
  | report enabled => exact hresult _

/-- A service that holds a request has something to do. -/
theorem Holds.turn?_ne_none {job : Job} (hholds : Holds ticket [job] s)
    (hrunning : s.phase = .running) : s.turn? ≠ none := by
  intro hrest
  cases turn?_eq_none_iff.mp hrest with
  | ended hphase => contradiction
  | idle hasked hheard hdeserted hearly hserved hwaiting =>
      rw [hasWaiting, Bool.or_eq_false_iff, Bool.not_eq_false', Bool.not_eq_false',
        List.isEmpty_iff, List.isEmpty_iff] at hwaiting
      have hempty := Mailbox.toList_eq_nil_iff.mpr ⟨hserved, hwaiting.2⟩
      have hjobs := hholds.jobs
      rw [hempty] at hjobs
      contradiction

/-- What the answer to a request tells, at a time of the course in which it is asked for. -/
structure Settled (s : Service) (moves : List Move) (job : Job) : Prop where
  /-- No more than one answer is given. -/
  single : ((s.after moves).answersTo job.ticket).length ≤ 1
  /-- If there is none yet, the request has not been served and the service is not at rest. -/
  waiting : (s.after moves).answer? job.ticket = none →
    (s.after moves).phase = .running ∧ (s.after moves).turn? ≠ none ∧
      servedTo job.ticket (s.log moves) = []
  stopped : (s.after moves).answer? job.ticket = some (.failed .stopped) →
    (s.after moves).phase ≠ .running ∧ servedTo job.ticket (s.log moves) = []
  /-- Any other answer is what came of the one time the request was served, when all that
  had come in before it had been served. -/
  executed : ∀ a, (s.after moves).answer? job.ticket = some a → a ≠ .failed .stopped →
    servedTo job.ticket (s.log moves) = [job] ∧
      ∃ first second, moves = first ++ .turn :: second ∧ (s.after first).Does (.served job) ∧
        (s.requested first)[(served (s.log first)).length]? = some job ∧
        (s.after (first ++ [.turn])).device = (s.after first).device.grant job.request ∧
        a = answerFrom (s.after first).device job.request
  genuine : ∀ d : Device, answerFrom d job.request ≠ .failed .stopped
  order : ∃ left, s.requested moves = served (s.log moves) ++ left
  /-- What the device keeps in mind and the calls that it has made come of what was done. -/
  memory : (s.after moves).device.memory = (s.device.run (steps (s.log moves))).memory
  calls : s.device.callsUntil (s.after moves).device =
    callsAlong s.device.memory (activities (s.log moves))

theorem settled_of_fate {job : Job} {moves : List Move} (hrunning : s.phase = .running)
    (hunanswered : s.answersTo job.ticket = []) (hfate : Fate job s moves) :
    Settled s moves job := by
  have hanswer := answer?_eq job.ticket (s.after moves)
  obtain ⟨left, hrequested, -⟩ := requested_eq hrunning moves
  have hcommon : ∀ hsingle hwaiting hstopped hexecuted, Settled s moves job :=
    fun hsingle hwaiting hstopped hexecuted =>
      ⟨hsingle, hwaiting, hstopped, hexecuted, fun d => answerFrom_ne_stopped d job.request,
        ⟨left, hrequested⟩, memory_after s moves, (called_after s moves).callsUntil_eq⟩
  cases hfate with
  | waits hphase hholds hanswers hserved =>
      rw [hanswers, hunanswered] at hanswer
      have hstill := hphase.trans hrunning
      refine hcommon ?_ ?_ ?_ ?_
      · rw [hanswers, hunanswered]
        exact Nat.zero_le 1
      · exact fun _ => ⟨hstill, hholds.turn?_ne_none hstill, hserved⟩
      · intro hstopped
        rw [hanswer] at hstopped
        contradiction
      · intro a ha
        rw [hanswer] at ha
        contradiction
  | refused hshut hanswers hserved =>
      rw [hanswers, hunanswered] at hanswer
      refine hcommon ?_ ?_ ?_ ?_
      · rw [hanswers, hunanswered]
        exact Nat.le_refl 1
      · intro hnone
        rw [hanswer] at hnone
        contradiction
      · exact fun _ => ⟨hshut.ended, hserved⟩
      · intro a ha hother
        rw [hanswer] at ha
        exact absurd (Option.some.inj ha).symm hother
  | served first second hmoves hdoes hanswers hserved =>
      rw [hanswers, hunanswered] at hanswer
      have hanswer : (s.after moves).answer? job.ticket =
          some (answerFrom (s.after first).device job.request) := hanswer
      refine hcommon ?_ ?_ ?_ ?_
      · rw [hanswers, hunanswered]
        exact Nat.le_refl 1
      · intro hnone
        rw [hanswer] at hnone
        contradiction
      · intro hstopped
        rw [hanswer] at hstopped
        exact absurd (Option.some.inj hstopped) (answerFrom_ne_stopped _ _)
      · intro a ha _
        obtain ⟨-, -, requests, -, hturn⟩ := serves_of_does hdoes
        obtain ⟨answers, history, heq⟩ := serve_eq job { s.after first with requests }
        refine ⟨hserved, first, second, hmoves, hdoes, requested_getElem? hrunning hdoes, ?_, ?_⟩
        · rw [after_append]
          change ((s.after first).move .turn).device = _
          rw [(move_turn_of_eq_some hturn).1, heq]
        · rw [hanswer] at ha
          exact (Option.some.inj ha).symm

/-- Whoever asks a service for something under a number of their own is told what came of
it, or that the service has stopped and nothing was done. -/
theorem settled_of_launch {clock : Nat} {d : Device} (hlaunched : launch? clock d = some s)
    {request : Request}
    (hproper : request.isSignal = false) (hspares : Spares ticket d.link.inbox)
    {before later : List Move} (hunused : ∀ m ∈ before ++ later, ¬m.Uses ticket) :
    start clock d = .started (s.after (List.replicate s.work .turn)) ∧
      Settled s (before ++ .ask ticket request :: later) ⟨ticket, request⟩ := by
  refine ⟨?_, ?_⟩
  · rw [← settle_eq_after]
    exact start_of_launch?_eq_some hlaunched
  obtain ⟨requests, records, hrequests, rfl⟩ := eq_of_launch?_eq_some hlaunched
  obtain ⟨hempty, hopen⟩ := Mailbox.eq_of_ofCapacity?_eq_some hrequests
  have hletters : Spares ticket d.startLink.2.link.inbox := by
    rw [Device.link_startLink]
    exact hspares.perform (.start d.settings.model)
  refine settled_of_fate rfl rfl (fate_of_asked rfl hopen ⟨?_, ?_, hletters⟩ hproper hunused)
  · rw [hempty]
    rfl
  · exact fun _ hjob => absurd hjob List.not_mem_nil

/-- A device whose loopback works and whose hook for the connection fails at its second call. -/
def wired : Device :=
  { Device.plain (.automatic "loopback" true true { capacity := 1, capacity_pos := Nat.one_pos })
    with hooks := { connection := .registered fun earlier _ => !earlier.isEmpty } }

/-- A message is asked for and sent, and then a report for which it is too late. -/
def tooLate : List Move := [.ask 0 .moved, .turn, .ask 1 (.report true), .tellStop, .turn]

/-- The connection comes, and while a report is asked for it goes. -/
def struck : List Move :=
  [.deliver 2 (.connection true), .turn, .deliver 3 (.connection false), .ask 1 (.report true),
    .turn]

/-- The message has been sent once, and the report never, whether the service was told to stop
before or a hook has failed. -/
theorem settled_too_late :
    ∃ s : Service, launch? 60 wired = some s ∧
      servedTo 0 (s.log tooLate) = [⟨0, .moved⟩] ∧ servedTo 1 (s.log tooLate) = [] ∧
      (s.after struck).phase = .crashed ∧
      (s.after struck).answer? 1 = some (.failed .stopped) ∧ servedTo 1 (s.log struck) = [] := by
  have hinbox : ∀ ticket, Spares ticket wired.link.inbox := fun _ => spares_of_empty rfl
  have hmessage := @settled_of_launch 0 _ 60 wired rfl .moved rfl (hinbox 0) []
    [.turn, .ask 1 (.report true), .tellStop, .turn] (by simp [Move.Uses])
  have hreport := @settled_of_launch 1 _ 60 wired rfl (.report true) rfl (hinbox 1)
    [.ask 0 .moved, .turn] [.tellStop, .turn] (by simp [Move.Uses])
  have hstruck := @settled_of_launch 1 _ 60 wired rfl (.report true) rfl (hinbox 1)
    [.deliver 2 (.connection true), .turn, .deliver 3 (.connection false)] [.turn]
    (by simp [Move.Uses, awaited?])
  exact ⟨_, rfl, (hmessage.2.executed .done rfl (by simp)).1, (hreport.2.stopped rfl).2, rfl, rfl,
    (hstruck.2.stopped rfl).2⟩

end Service

end DeviceTwin
