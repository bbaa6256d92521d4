/-
The answers under a number.  Those that a service owes are to the requests under the number
that are in its mailbox or wait outside of it; and whatever it does, it serves the oldest of
them, or it gives all of them up, or it leaves them alone.
-/
import DeviceTwin.Proofs.Service.Order

namespace DeviceTwin

namespace Service

/-- The answer that a request has when it is served. -/
def answerFrom (d : Device) : Request → Answer
  | .signal _ => .done
  | .telemetry t => ofResult (d.sendTelemetry t).1
  | .moved => ofResult d.sendMoved.1
  | .details serialNumber => ofResult (d.reportDetails serialNumber).1
  | .report enabled => ofResult (d.reportUpload enabled).1
  | .status => .status d.status

/-- The answers under a number. -/
def answersIn (ticket : Nat) (answers : List (Nat × Answer)) : List Answer :=
  answers.filterMap fun answer => if answer.1 = ticket then some answer.2 else none

def answersTo (ticket : Nat) (s : Service) : List Answer := answersIn ticket s.answers.toList

/-- Whether an answer under a number is to be expected because of a letter. -/
def Concerns (ticket : Nat) (letter : Link.Letter) : Prop :=
  letter.sender = .outside ticket ∨ awaited? letter.content = some ticket

/-- Whether a move makes use of a number. -/
def Move.Uses (ticket : Nat) : Move → Prop
  | .ask t _ => t = ticket
  | .deliver t n => t = ticket ∨ awaited? n = some ticket
  | _ => False

/-- The requests under a number that were served. -/
def servedTo (ticket : Nat) (log : List Occurrence) : List Job :=
  (served log).filter (·.ticket = ticket)

/-- No letter on its way concerns a number. -/
def Spares (ticket : Nat) (inbox : Mailbox Link.Letter) : Prop :=
  ∀ letter ∈ inbox.toList, ¬Concerns ticket letter

/-- The requests under a number that are in the mailbox or wait outside of it.  None of them
is a signal, and no letter concerns the number. -/
structure Holds (ticket : Nat) (asked : List Job) (s : Service) : Prop where
  jobs : s.requests.toList.filter (·.ticket = ticket) = asked
  proper : ∀ job ∈ asked, job.request.isSignal = false
  letters : Spares ticket s.device.link.inbox

section Answers

variable {ticket : Nat}

@[simp] theorem answersIn_append (earlier later : List (Nat × Answer)) :
    answersIn ticket (earlier ++ later) = answersIn ticket earlier ++ answersIn ticket later :=
  List.filterMap_append

theorem answersIn_eq_nil {answers : List (Nat × Answer)} (hother : ∀ a ∈ answers, a.1 ≠ ticket) :
    answersIn ticket answers = [] := by
  rw [answersIn, List.filterMap_eq_nil_iff]
  exact fun a ha => if_neg (hother a ha)

theorem answersIn_add_self (answers : Trace (Nat × Answer)) (a : Answer) :
    answersIn ticket (answers.add (ticket, a)).toList = answersIn ticket answers.toList ++ [a] := by
  rw [Trace.toList_add, answersIn_append]
  simp [answersIn]

theorem answersIn_add_of_ne {t : Nat} (hother : t ≠ ticket) (answers : Trace (Nat × Answer))
    (a : Answer) :
    answersIn ticket (answers.add (t, a)).toList = answersIn ticket answers.toList := by
  rw [Trace.toList_add, answersIn_append,
    answersIn_eq_nil (List.forall_mem_singleton.mpr hother), List.append_nil]

theorem answersIn_append_of_eq_nil {more : List (Nat × Answer)}
    (hnone : answersIn ticket more = []) (answers : Trace (Nat × Answer)) :
    answersIn ticket (answers ++ more).toList = answersIn ticket answers.toList := by
  rw [Trace.toList_append, answersIn_append, hnone, List.append_nil]

/-- The answer that the asker finds is the first under the number. -/
theorem answer?_eq (ticket : Nat) (s : Service) :
    s.answer? ticket = (s.answersTo ticket).head? := by
  unfold answer? answersTo answersIn
  induction s.answers.toList with
  | nil => rfl
  | cons a rest ih =>
      obtain ⟨t, answer⟩ := a
      by_cases ht : t = ticket
      · simp [ht]
      · have hne : (ticket == t) = false := beq_false_of_ne (Ne.symm ht)
        simp [List.lookup_cons, hne, ih, ht]

/-- Letters that come in are answered to their senders. -/
theorem sender_of_mem_delivered {letters : List Link.Letter} {a : Nat × Answer}
    (ha : a ∈ delivered letters) : ∃ letter ∈ letters, letter.sender = .outside a.1 := by
  rw [delivered, List.mem_filterMap] at ha
  obtain ⟨letter, hletter, ha⟩ := ha
  split at ha
  · next t hsender hawaited =>
      obtain rfl := Option.some.inj ha
      exact ⟨letter, hletter, hsender⟩
  · contradiction

theorem concerns_of_mem_abandonedLetters {inbox : Mailbox Link.Letter} {a : Nat × Answer}
    (ha : a ∈ abandonedLetters inbox) : ∃ letter ∈ inbox.toList, Concerns a.1 letter := by
  rw [abandonedLetters, List.mem_append, List.mem_filterMap, List.mem_filterMap] at ha
  rcases ha with ⟨letter, hletter, ha⟩ | ⟨letter, hletter, ha⟩
  · obtain ⟨t, ht, rfl⟩ := Option.map_eq_some_iff.mp ha
    exact ⟨letter, List.mem_append_left _ hletter, Or.inr ht⟩
  · split at ha
    · next t hsender =>
        obtain rfl := Option.some.inj ha
        exact ⟨letter, List.mem_append_right _ hletter, Or.inl hsender⟩
    · contradiction

/-- Of the requests that come in only signals are answered. -/
theorem answersIn_arrived {jobs : List Job}
    (hjobs : ∀ job ∈ jobs, job.ticket = ticket → job.request.isSignal = false) :
    answersIn ticket (arrived jobs) = [] := by
  refine answersIn_eq_nil fun a ha hticket => ?_
  rw [arrived, List.mem_filterMap] at ha
  obtain ⟨job, hjob, ha⟩ := ha
  split at ha
  · next hsignal =>
      obtain rfl := Option.some.inj ha
      rw [hjobs job hjob hticket] at hsignal
      contradiction
  · contradiction

variable {inbox : Mailbox Link.Letter}

theorem spares_of_empty (hempty : inbox.toList = []) : Spares ticket inbox := by
  intro letter hletter
  rw [hempty] at hletter
  contradiction

theorem Spares.answersIn_delivered (hspares : Spares ticket inbox) {letters : List Link.Letter}
    (hletters : ∀ letter ∈ letters, letter ∈ inbox.toList) :
    answersIn ticket (delivered letters) = [] := by
  refine answersIn_eq_nil fun a ha hticket => ?_
  obtain ⟨letter, hletter, hsender⟩ := sender_of_mem_delivered ha
  exact hspares letter (hletters letter hletter) (Or.inl (hticket ▸ hsender))

theorem Spares.answersIn_abandoned (hspares : Spares ticket inbox) :
    answersIn ticket (abandonedLetters inbox) = [] := by
  refine answersIn_eq_nil fun a ha hticket => ?_
  obtain ⟨letter, hletter, hconcerns⟩ := concerns_of_mem_abandonedLetters ha
  exact hspares letter hletter (hticket ▸ hconcerns)

/-- Requests that are given up are told that the service has stopped. -/
theorem answersIn_abandonedJobs {requests : Mailbox Job}
    (hsignal : ∀ job ∈ requests.toList, job.ticket = ticket → job.request.isSignal = false) :
    answersIn ticket (abandonedJobs requests) =
      (requests.toList.filter (·.ticket = ticket)).map fun _ => .failed .stopped := by
  have hall : ∀ jobs : List Job,
      answersIn ticket (jobs.map fun job => (job.ticket, .failed .stopped)) =
        (jobs.filter (·.ticket = ticket)).map fun _ => .failed .stopped := by
    intro jobs
    induction jobs with
    | nil => rfl
    | cons job rest ih =>
        rw [List.map_cons, ← List.singleton_append, answersIn_append, ih, List.filter_cons]
        by_cases hticket : job.ticket = ticket
        · simp [answersIn, hticket]
        · simp [answersIn, hticket]
  -- No signal has the number, so those that are left out are not missed.
  have hqueue : (requests.queue.filter (!·.request.isSignal)).filter (·.ticket = ticket) =
      requests.queue.filter (·.ticket = ticket) := by
    rw [List.filter_filter]
    refine List.filter_congr fun job hjob => ?_
    by_cases hticket : job.ticket = ticket
    · rw [hsignal job (List.mem_append_left _ hjob) hticket]
      simp
    · simp [hticket]
  rw [abandonedJobs, hall, List.filter_append, hqueue, ← List.filter_append]
  rfl

theorem Spares.push (hspares : Spares ticket inbox) {letter : Link.Letter}
    (hletter : ¬Concerns ticket letter) : Spares ticket (inbox.push letter) := by
  intro other hother
  rcases Mailbox.mem_toList_push.mp hother with hold | rfl
  · exact hspares other hold
  · exact hletter

theorem Spares.refill (hspares : Spares ticket inbox) : Spares ticket inbox.refill := by
  intro letter hletter
  rw [Mailbox.toList_refill] at hletter
  exact hspares letter hletter

theorem Spares.of_pop? (hspares : Spares ticket inbox) {letter : Link.Letter}
    {rest : Mailbox Link.Letter} (hpop : inbox.pop? = some (letter, rest)) :
    ¬Concerns ticket letter ∧ Spares ticket rest := by
  have hlist := Mailbox.toList_of_pop? hpop
  refine ⟨hspares letter (hlist ▸ List.mem_cons_self), fun other hother => ?_⟩
  exact hspares other (hlist ▸ List.mem_cons_of_mem _ hother)

/-- A call on the link brings delivery results at most, and they concern no number. -/
theorem Spares.perform {l : Link} (hspares : Spares ticket l.inbox) (c : Link.Call) :
    Spares ticket (l.perform c).link.inbox := by
  rw [Link.inbox_perform]
  cases hresult : l.result? c with
  | none => exact hspares
  | some n =>
      obtain ⟨success, tag, rfl⟩ := Link.exists_delivery_of_result? hresult
      dsimp only
      split
      · exact hspares.push (by simp [Concerns, awaited?])
      · exact hspares

theorem Spares.performAll {l : Link} (hspares : Spares ticket l.inbox) (calls : List Link.Call) :
    Spares ticket (l.performAll calls).inbox := by
  induction calls generalizing l with
  | nil => exact hspares
  | cons c later ih => exact ih (hspares.perform c)

end Answers

section Handling

variable {ticket : Nat} {asked : List Job} {s next : Service}

theorem Holds.isSignal_eq_false (hholds : Holds ticket asked s) {job : Job}
    (hjob : job ∈ s.requests.toList) (hticket : job.ticket = ticket) :
    job.request.isSignal = false := by
  apply hholds.proper
  rw [← hholds.jobs, List.mem_filter]
  exact ⟨hjob, decide_eq_true hticket⟩

/-- At the end all requests under the number are given up. -/
theorem Holds.answersTo_finish (hholds : Holds ticket asked s) (phase : Phase) :
    (s.finish phase).answersTo ticket =
      s.answersTo ticket ++ asked.map fun _ => .failed .stopped := by
  change answersIn ticket
    (s.answers ++ abandonedLetters s.device.link.inbox ++ abandonedJobs s.requests).toList = _
  rw [Trace.toList_append, Trace.toList_append, answersIn_append, answersIn_append,
    hholds.letters.answersIn_abandoned, List.append_nil,
    answersIn_abandonedJobs fun _ hjob => hholds.isSignal_eq_false hjob, hholds.jobs]
  rfl

theorem Holds.refill (hholds : Holds ticket asked s) :
    Holds ticket asked s.refill ∧ s.refill.answersTo ticket = s.answersTo ticket := by
  refine ⟨⟨?_, hholds.proper, hholds.letters.refill⟩, ?_⟩
  · exact (congrArg (List.filter _) (Mailbox.toList_refill s.requests)).trans hholds.jobs
  · have hletters : ∀ letter ∈ s.device.link.inbox.admissible,
        letter ∈ s.device.link.inbox.toList :=
      fun letter hletter => List.mem_append_right _ (List.mem_of_mem_take hletter)
    have hjobs : ∀ job ∈ s.requests.admissible, job.ticket = ticket →
        job.request.isSignal = false :=
      fun job hjob =>
        hholds.isSignal_eq_false (List.mem_append_right _ (List.mem_of_mem_take hjob))
    exact (answersIn_append_of_eq_nil (answersIn_arrived hjobs) _).trans
      (answersIn_append_of_eq_nil (hholds.letters.answersIn_delivered hletters) s.answers)

/-- What hearing a notification answers goes to whoever awaits a response. -/
theorem exists_hear_eq {n : Notification} (hawaited : awaited? n ≠ some ticket) (s : Service) :
    ∃ answers history,
      s.hear n = checked { s with device := s.device.hear n, answers, history } ∧
      answersIn ticket answers.toList = s.answersTo ticket := by
  have hother : ∀ (t : Nat) (a : Answer), awaited? n = some t →
      answersIn ticket (s.answers.add (t, a)).toList = s.answersTo ticket :=
    fun t a ht => answersIn_add_of_ne (fun h => hawaited (ht.trans (congrArg some h))) s.answers a
  unfold hear
  dsimp only
  cases ht : awaited? n with
  | none => exact ⟨_, _, rfl, rfl⟩
  | some t =>
      dsimp only
      cases Journal.responseTo? t (s.device.hear n).journal.toList with
      | none => exact ⟨_, _, rfl, hother t _ ht⟩
      | some response => exact ⟨_, _, rfl, hother t _ ht⟩

/-- To serve a request is to give the answer that it has from the device. -/
theorem exists_serve_eq {job : Job} (hsignal : job.request.isSignal = false) (s : Service) :
    ∃ history, s.serve job =
      { s with
        device := s.device.grant job.request
        answers := s.answers.add (job.ticket, answerFrom s.device job.request)
        history } := by
  unfold serve
  cases hrequest : job.request with
  | signal e =>
      rw [hrequest] at hsignal
      contradiction
  | _ => exact ⟨_, rfl⟩

theorem answersTo_serve_of_ne {job : Job} (hother : job.ticket ≠ ticket) (s : Service) :
    (s.serve job).answersTo ticket = s.answersTo ticket := by
  by_cases hsignal : job.request.isSignal = true
  · unfold serve
    cases hrequest : job.request with
    | signal e => rfl
    | _ =>
        rw [hrequest] at hsignal
        contradiction
  · obtain ⟨history, heq⟩ := exists_serve_eq (eq_false_of_ne_true hsignal) s
    rw [heq]
    exact answersIn_add_of_ne hother s.answers _

/-- Of what is asked for only a signal is answered when it comes in. -/
theorem answersTo_ask (hopen : s.requests.isOpen = true) {t : Nat} {request : Request}
    (hquiet : t = ticket → request.isSignal = false) :
    (s.ask t request).answersTo ticket = s.answersTo ticket := by
  have hnone : answersIn ticket (arrived [⟨t, request⟩]) = [] := by
    apply answersIn_arrived
    intro job hjob hticket
    obtain rfl := List.mem_singleton.mp hjob
    exact hquiet hticket
  rw [ask_eq hopen]
  change answersIn ticket (if s.requests.isFull = true then s.answers
    else s.answers ++ arrived [⟨t, request⟩]).toList = _
  split
  · rfl
  · exact answersIn_append_of_eq_nil hnone s.answers

theorem Holds.deliver (hholds : Holds ticket asked s)
    (hopen : (s.attached && s.device.link.inbox.isOpen) = true) {t : Nat} {n : Notification}
    (hletter : ¬Concerns ticket ⟨.outside t, n⟩) :
    Holds ticket asked (s.deliver t n) ∧
      (s.deliver t n).answersTo ticket = s.answersTo ticket := by
  have hshut : ¬(!s.attached || !s.device.link.inbox.isOpen) = true := by
    rw [← Bool.not_and, hopen]
    nofun
  have hletters := hholds.letters.push hletter
  unfold Service.deliver
  rw [if_neg hshut]
  dsimp only
  split
  · exact ⟨⟨hholds.jobs, hholds.proper, hletters⟩, rfl⟩
  · refine ⟨⟨hholds.jobs, hholds.proper, hletters⟩, ?_⟩
    have hnone : answersIn ticket (delivered [⟨.outside t, n⟩]) = [] := by
      refine answersIn_eq_nil fun a ha hticket => ?_
      obtain ⟨letter, hmem, hsender⟩ := sender_of_mem_delivered ha
      rw [List.mem_singleton.mp hmem] at hsender
      exact hletter (Or.inl (hticket ▸ hsender))
    exact answersIn_append_of_eq_nil hnone s.answers

/-- What happens to the requests under a number when the service goes on. -/
inductive Handles (ticket : Nat) (asked : List Job) (s next : Service) (log : List Occurrence) :
    Prop
  | keeps (hphase : next.phase = s.phase) (hholds : Holds ticket asked next)
      (hanswers : next.answersTo ticket = s.answersTo ticket) (hserved : servedTo ticket log = [])
  | givesUp (hshut : next.Shut)
      (hanswers : next.answersTo ticket =
        s.answersTo ticket ++ asked.map fun _ => .failed .stopped)
      (hserved : servedTo ticket log = [])
  | serves {job : Job} {rest : List Job} (hasked : asked = job :: rest)
      (hdoes : s.Does (.served job)) (hphase : next.phase = s.phase)
      (hholds : Holds ticket rest next)
      (hanswers : next.answersTo ticket =
        s.answersTo ticket ++ [answerFrom s.device job.request])
      (hserved : servedTo ticket log = [job])

theorem servedTo_turned (ticket : Nat) (s next : Service) :
    servedTo ticket (s.turned next) =
      ((s.deeds next).filterMap fun
        | .served job => some job
        | _ => none).filter (·.ticket = ticket) := by
  rw [← activities_turned]
  rfl

/-- A notification leaves them alone, unless the service breaks off over it. -/
theorem Holds.hear (hholds : Holds ticket asked s) {letter : Link.Letter}
    {inbox : Mailbox Link.Letter} (hpop : s.device.link.inbox.pop? = some (letter, inbox)) :
    Handles ticket asked s
      (Service.hear letter.content { s with device := s.device.withInbox inbox })
      (s.turned (Service.hear letter.content { s with device := s.device.withInbox inbox })) := by
  obtain ⟨hletter, hinbox⟩ := hholds.letters.of_pop? hpop
  obtain ⟨answers, history, heq, hanswers⟩ := exists_hear_eq (fun h => hletter (Or.inr h))
    { s with device := s.device.withInbox inbox }
  have hserved : servedTo ticket (s.turned (Service.hear letter.content
      { s with device := s.device.withInbox inbox })) = [] := by
    rw [servedTo_turned, deeds_hear]
    rfl
  have hheard : Holds ticket asked
      { s with device := (s.device.withInbox inbox).hear letter.content, answers, history } := by
    refine ⟨hholds.jobs, hholds.proper, ?_⟩
    change Spares ticket ((s.device.withInbox inbox).hear letter.content).link.inbox
    rw [Device.inbox_hear]
    exact hinbox
  cases hbroken : ((s.device.withInbox inbox).hear letter.content).broken with
  | false =>
      rw [checked_of_intact hbroken] at heq
      refine .keeps ?_ ?_ ?_ hserved
      · rw [heq]
      · rw [heq]
        exact hheard
      · rw [heq]
        exact hanswers
  | true =>
      rw [checked_of_broken hbroken] at heq
      refine .givesUp ?_ ?_ hserved
      · rw [heq]
        exact shut_finish (by simp) _
      · rw [heq, hheard.answersTo_finish]
        exact congrArg (· ++ _) hanswers

/-- A request that is served is the oldest of them, or it has another number. -/
theorem Holds.serve (hholds : Holds ticket asked s) {job : Job} {requests : Mailbox Job}
    (hpop : s.requests.pop? = some (job, requests)) (hdoes : s.Does (.served job)) :
    Handles ticket asked s (Service.serve job { s with requests })
      (s.turned (Service.serve job { s with requests })) := by
  have hletters : Spares ticket (s.device.grant job.request).link.inbox := by
    rw [(makes_grant s.device job).link]
    exact hholds.letters.performAll _
  have hserved := servedTo_turned ticket s (Service.serve job { s with requests })
  rw [deeds_serve] at hserved
  have hlist := Mailbox.toList_of_pop? hpop
  have hjobs := hholds.jobs
  rw [hlist, List.filter_cons] at hjobs
  by_cases hticket : job.ticket = ticket
  · rw [if_pos (decide_eq_true hticket)] at hjobs
    have hsignal := hholds.isSignal_eq_false (hlist ▸ List.mem_cons_self) hticket
    obtain ⟨history, heq⟩ := exists_serve_eq hsignal { s with requests }
    refine .serves hjobs.symm hdoes ?_ ?_ ?_ ?_
    · rw [heq]
    · rw [heq]
      refine ⟨rfl, fun other hother => ?_, hletters⟩
      exact hholds.proper other (hjobs ▸ List.mem_cons_of_mem _ hother)
    · rw [heq, ← hticket]
      exact answersIn_add_self s.answers _
    · rw [hserved]
      exact List.filter_cons_of_pos (decide_eq_true hticket)
  · rw [if_neg (by simpa using hticket)] at hjobs
    obtain ⟨answers, history, heq⟩ := serve_eq job { s with requests }
    refine .keeps ?_ ?_ (answersTo_serve_of_ne hticket _) ?_
    · rw [heq]
    · rw [heq]
      exact ⟨hjobs, hholds.proper, hletters⟩
    · rw [hserved]
      exact List.filter_cons_of_neg (by simpa using hticket)

/-- In a turn they are kept, or the oldest one is served, or all are given up. -/
theorem Holds.turn (hholds : Holds ticket asked s) (hturn : s.Turn next) :
    Handles ticket asked s next (s.turned next) := by
  cases hturn with
  | stop hrunning hasked =>
      have hclosed : Holds ticket asked
          ({ s with device := s.device.closeLink.log [Log.info "Cloud adapter stopped"] }.record
            .finished) :=
        ⟨hholds.jobs, hholds.proper, hholds.letters.perform .close⟩
      refine .givesUp (shut_finish (by simp) _) (hclosed.answersTo_finish .stopped) ?_
      rw [servedTo_turned, deeds_stop]
      rfl
  | hear hrunning hasked hpop => exact hholds.hear hpop
  | hangUp hrunning hasked hheard hdeserted =>
      refine .keeps rfl ⟨hholds.jobs, hholds.proper, hholds.letters⟩ rfl ?_
      rw [servedTo_turned, deeds_hangUp]
      rfl
  | tick hrunning hasked hheard hdeserted hdue =>
      obtain ⟨records, history, heq⟩ := tick_eq s
      have hlink := (Device.makes_act s.device .tick rfl).link
      have hletters : Spares ticket s.device.tick.2.link.inbox :=
        hlink ▸ hholds.letters.performAll _
      refine .keeps ?_ ?_ ?_ ?_
      · rw [heq]
      · rw [heq]
        exact ⟨hholds.jobs, hholds.proper, hletters⟩
      · rw [heq]
        rfl
      · rw [servedTo_turned, deeds_tick]
        rfl
  | @serve job requests hrunning hasked hheard hdeserted hearly hpop =>
      refine hholds.serve hpop ⟨_, ?_, deeds_serve s job requests⟩
      exact turn?_eq_some_iff.mpr (.serve hrunning hasked hheard hdeserted hearly hpop)
  | refill hrunning hasked hheard hdeserted hearly hserved hwaiting =>
      obtain ⟨hrefilled, hanswers⟩ := hholds.refill
      refine .keeps rfl hrefilled hanswers ?_
      rw [servedTo_turned, deeds_refill]
      rfl

/-- What happens outside leaves them alone. -/
theorem Holds.move_of_ne_turn (hholds : Holds ticket asked s) {m : Move} (hm : m ≠ .turn)
    (hunused : ¬m.Uses ticket) : Handles ticket asked s (s.move m) (s.occurrences m) := by
  have hserved : servedTo ticket (s.occurrences m) = [] := by
    rw [servedTo, served_eq_nil (activities_occurrences_of_ne_turn hm s)]
    rfl
  have hphase := (frame_of_ne_turn hm s).2.2
  cases m with
  | turn => contradiction
  | ask t request =>
      have hother : t ≠ ticket := hunused
      rw [move] at hphase ⊢
      by_cases hopen : s.requests.isOpen = true
      · have heq := ask_eq hopen t request
        refine .keeps hphase ⟨?_, hholds.proper, ?_⟩ ?_ hserved
        · rw [heq, ← hholds.jobs]
          exact Mailbox.filter_toList_push_of_neg
            (p := fun job : Job => decide (job.ticket = ticket)) (decide_eq_false hother) _
        · rw [heq]
          exact hholds.letters
        · exact answersTo_ask hopen fun hticket => absurd hticket hother
      · rw [ask_of_shut (eq_false_of_ne_true hopen)] at hphase ⊢
        exact .keeps hphase ⟨hholds.jobs, hholds.proper, hholds.letters⟩
          (answersIn_add_of_ne hother s.answers _) hserved
  | deliver t n =>
      rw [Move.Uses, not_or] at hunused
      obtain ⟨hother, hawaited⟩ := hunused
      rw [move] at hphase ⊢
      have hletter : ¬Concerns ticket ⟨.outside t, n⟩ := by
        rintro (hsender | hresponse)
        · exact hother (Link.Sender.outside.inj hsender)
        · exact hawaited hresponse
      by_cases hopen : (s.attached && s.device.link.inbox.isOpen) = true
      · obtain ⟨hletters, hanswers⟩ := hholds.deliver hopen hletter
        exact .keeps hphase hletters hanswers hserved
      · rw [deliver_of_shut hopen] at hphase ⊢
        exact .keeps hphase ⟨hholds.jobs, hholds.proper, hholds.letters⟩
          (answersIn_add_of_ne hother s.answers _) hserved
  | use c =>
      exact .keeps hphase ⟨hholds.jobs, hholds.proper, hholds.letters.perform c⟩ rfl hserved
  | letIn => exact .keeps hphase hholds.refill.1 hholds.refill.2 hserved
  | adapt kind => exact .keeps hphase ⟨hholds.jobs, hholds.proper, hholds.letters⟩ rfl hserved
  | wait ms => exact .keeps hphase ⟨hholds.jobs, hholds.proper, hholds.letters⟩ rfl hserved
  | tellStop => exact .keeps hphase ⟨hholds.jobs, hholds.proper, hholds.letters⟩ rfl hserved
  | detach => exact .keeps hphase ⟨hholds.jobs, hholds.proper, hholds.letters⟩ rfl hserved

theorem Holds.move (hholds : Holds ticket asked s) {m : Move} (hunused : ¬m.Uses ticket) :
    Handles ticket asked s (s.move m) (s.occurrences m) := by
  by_cases hm : m = .turn
  · subst hm
    cases hturn : s.turn? with
    | none =>
        obtain ⟨hmove, hlog⟩ := move_turn_of_eq_none hturn
        rw [hmove, hlog]
        exact .keeps rfl hholds rfl rfl
    | some next =>
        obtain ⟨hmove, hlog⟩ := move_turn_of_eq_some hturn
        rw [hmove, hlog]
        exact hholds.turn (turn_of_turn?_eq_some hturn)
  · exact hholds.move_of_ne_turn hm hunused

end Handling

end Service

end DeviceTwin
