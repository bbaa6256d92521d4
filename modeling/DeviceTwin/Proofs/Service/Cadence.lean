/-
The cadence of the ticks.  If the clock stops at each time when a tick is due until the tick
is done, the ticks are a period apart, whatever comes in between and however many attempts
have failed; and each tick attempts the most urgent of the events that are pending.
-/
import DeviceTwin.Proofs.Service.Order

namespace DeviceTwin

/-- The event for which a call sends a message. -/
def Link.Call.event? : Link.Call → Option Event
  | .telemetry _ tag => tag
  | _ => none

namespace Service

/-- The time that passes in a move. -/
def Move.ms : Move → Nat
  | .wait ms => ms
  | _ => 0

/-- The time that passes in moves. -/
def elapsed : List Move → Nat
  | [] => 0
  | m :: later => m.ms + elapsed later

/-- Whether the clock, as long as the service runs, does not pass the time when the next
tick is due before the tick is done. -/
def Timely (s : Service) : List Move → Prop
  | [] => True
  | m :: later => (s.phase = .running → m.ms = 0 ∨ s.now + m.ms ≤ s.due) ∧ (s.move m).Timely later

instance decidableTimely : (moves : List Move) → (s : Service) → Decidable (s.Timely moves)
  | [], _ => isTrue trivial
  | m :: later, s =>
      have := decidableTimely later (s.move m)
      inferInstanceAs (Decidable ((_ → _) ∧ _))

/-- The tick that is done in a move, if there is one: its time and what is pending then. -/
def tickOf (s : Service) (m : Move) : List (Nat × Pending) :=
  (activities (s.occurrences m)).filterMap fun
    | .ticked _ => some (s.now, s.device.pending)
    | _ => none

def ticks (s : Service) : List Move → List (Nat × Pending)
  | [] => []
  | m :: later => s.tickOf m ++ (s.move m).ticks later

/-- The times of the ticks in the history of a service. -/
def tickTimes (s : Service) : List Nat :=
  s.history.toList.filterMap fun
    | (t, .ticked _) => some t
    | _ => none

/-- The events for which messages are sent in calls. -/
def attempts (calls : List Link.Call) : List Event := calls.filterMap Link.Call.event?

/-- A service whose next tick is due within a period. -/
structure Punctual (s : Service) : Prop where
  early : s.now ≤ s.due
  near : s.due ≤ s.now + s.period

variable {s next : Service}

/-- The history of a turn bears the time of the turn. -/
theorem Turn.history_eq (hturn : s.Turn next) :
    next.history.toList = s.history.toList ++ (s.deeds next).map fun a => (s.now, a) := by
  cases hturn with
  | stop =>
      rw [deeds_stop]
      exact Trace.toList_add _ _
  | @hear letter inbox =>
      rw [deeds_hear, history_hear]
      exact Trace.toList_add _ _
  | hangUp =>
      rw [deeds_hangUp]
      exact Trace.toList_add _ _
  | tick =>
      rw [deeds_tick, history_tick]
      exact Trace.toList_add _ _
  | @serve job requests =>
      rw [deeds_serve, history_serve]
      exact Trace.toList_add _ _
  | refill =>
      rw [deeds_refill]
      exact (List.append_nil _).symm

/-- What happens outside is not in the history, and the clock shows the time that passes. -/
theorem clock_of_ne_turn {m : Move} (hm : m ≠ .turn) (s : Service) :
    (s.move m).history = s.history ∧ (s.move m).due = s.due ∧
      (s.move m).now = s.now + m.ms := by
  cases m with
  | turn => contradiction
  | ask ticket request =>
      obtain ⟨requests, answers, heq⟩ := s.exists_ask_eq ticket request
      rw [move, heq]
      exact ⟨rfl, rfl, rfl⟩
  | deliver ticket n =>
      obtain ⟨inbox, answers, heq⟩ := s.exists_deliver_eq ticket n
      rw [move, heq]
      exact ⟨rfl, rfl, rfl⟩
  | _ => exact ⟨rfl, rfl, rfl⟩

/-- A turn takes no time.  If it is a tick the next one is due after it, and otherwise when
it was due before. -/
theorem Turn.clock (hturn : s.Turn next) :
    next.now = s.now ∧
      (next.due = s.due ∧ (∀ t, .ticked t ∉ s.deeds next) ∨
        next.due = s.dueAfter ∧ s.due ≤ s.now ∧ ∃ t, s.deeds next = [.ticked t]) := by
  cases hturn with
  | stop =>
      refine ⟨rfl, Or.inl ⟨rfl, ?_⟩⟩
      rw [deeds_stop]
      simp
  | @hear letter inbox =>
      obtain ⟨answers, history, heq⟩ :=
        hear_eq letter.content { s with device := s.device.withInbox inbox }
      have hclock : ∀ s : Service, s.checked.now = s.now ∧ s.checked.due = s.due := by
        intro s
        unfold checked
        split <;> exact ⟨rfl, rfl⟩
      rw [deeds_hear, heq]
      refine ⟨(hclock _).1, Or.inl ⟨(hclock _).2, ?_⟩⟩
      simp
  | hangUp =>
      refine ⟨rfl, Or.inl ⟨rfl, ?_⟩⟩
      rw [deeds_hangUp]
      simp
  | tick hrunning hasked hheard hdeserted hdue =>
      obtain ⟨records, history, heq⟩ := tick_eq s
      rw [deeds_tick, heq]
      exact ⟨rfl, Or.inr ⟨rfl, hdue, _, rfl⟩⟩
  | @serve job requests =>
      obtain ⟨answers, history, heq⟩ := serve_eq job { s with requests }
      rw [deeds_serve, heq]
      exact ⟨rfl, Or.inl ⟨rfl, by simp⟩⟩
  | refill =>
      refine ⟨rfl, Or.inl ⟨rfl, ?_⟩⟩
      rw [deeds_refill]
      simp

/-- Either the service takes a turn in a move, or all that may change is the time. -/
theorem clock_cases (s : Service) (m : Move) :
    ((s.move m).now = s.now + m.ms ∧ (s.move m).due = s.due ∧
        (s.move m).history = s.history ∧ activities (s.occurrences m) = []) ∨
      ∃ next, m = .turn ∧ s.Turn next ∧ s.move m = next ∧
        activities (s.occurrences m) = s.deeds next := by
  by_cases hm : m = .turn
  · subst hm
    cases hturn : s.turn? with
    | none =>
        obtain ⟨hmove, hlog⟩ := move_turn_of_eq_none hturn
        rw [hmove, hlog]
        exact Or.inl ⟨rfl, rfl, rfl, rfl⟩
    | some next =>
        obtain ⟨hmove, hlog⟩ := move_turn_of_eq_some hturn
        refine Or.inr ⟨next, rfl, turn_of_turn?_eq_some hturn, hmove, ?_⟩
        rw [hlog, activities_turned]
  · obtain ⟨hhistory, hdue, hnow⟩ := clock_of_ne_turn hm s
    exact Or.inl ⟨hnow, hdue, hhistory, activities_occurrences_of_ne_turn hm s⟩

/-- The period stays as it is. -/
theorem period_after (s : Service) (moves : List Move) : (s.after moves).period = s.period :=
  congrArg (fun settings : Settings => 1000 * settings.interval.toNat) (settings_after s moves)

theorem now_move (s : Service) (m : Move) : (s.move m).now = s.now + m.ms := by
  rcases s.clock_cases m with ⟨hnow, -⟩ | ⟨next, rfl, hturn, hmove, -⟩
  · exact hnow
  · rw [hmove]
    exact hturn.clock.1

theorem now_after (s : Service) (moves : List Move) :
    (s.after moves).now = s.now + elapsed moves := by
  induction moves generalizing s with
  | nil => rfl
  | cons m later ih =>
      rw [elapsed, ← Nat.add_assoc, ← now_move]
      exact ih (s.move m)

/-- The history of a move has what is done in it, with the time. -/
theorem history_move (s : Service) (m : Move) :
    (s.move m).history.toList =
      s.history.toList ++ (activities (s.occurrences m)).map fun a => (s.now, a) := by
  rcases s.clock_cases m with ⟨-, -, hhistory, hnothing⟩ | ⟨next, rfl, hturn, hmove, hdeeds⟩
  · rw [hhistory, hnothing]
    exact (List.append_nil _).symm
  · rw [hmove, hdeeds]
    exact hturn.history_eq

theorem tickTimes_move (s : Service) (m : Move) :
    (s.move m).tickTimes = s.tickTimes ++ (s.tickOf m).map Prod.fst := by
  rw [tickTimes, history_move, List.filterMap_append, List.filterMap_map, tickOf,
    List.map_filterMap]
  refine congrArg (fun f => s.tickTimes ++ List.filterMap f _) (funext fun a => ?_)
  cases a <;> rfl

theorem tickTimes_after (s : Service) (moves : List Move) :
    (s.after moves).tickTimes = s.tickTimes ++ (s.ticks moves).map Prod.fst := by
  induction moves generalizing s with
  | nil => exact (List.append_nil _).symm
  | cons m later ih =>
      rw [ticks, List.map_append, ← List.append_assoc, ← tickTimes_move]
      exact ih (s.move m)

/-- A punctual service does its tick when it is due, and is punctual again. -/
theorem Punctual.move (hpunctual : s.Punctual) {m : Move}
    (htimely : m.ms = 0 ∨ s.now + m.ms ≤ s.due) :
    (s.move m).Punctual ∧
      (s.tickOf m = [] ∧ (s.move m).due = s.due ∨
        s.tickOf m = [(s.due, s.device.pending)] ∧ (s.move m).due = s.due + s.period) := by
  have hperiod : (s.move m).period = s.period := period_after s [m]
  obtain ⟨hearly, hnear⟩ := hpunctual
  rcases s.clock_cases m with ⟨hnow, hdue, -, hnothing⟩ | ⟨next, rfl, hturn, hmove, hdeeds⟩
  · refine ⟨⟨by omega, by omega⟩, Or.inl ⟨?_, hdue⟩⟩
    rw [tickOf, hnothing]
    rfl
  rw [tickOf, hdeeds]
  rw [hmove] at hperiod ⊢
  obtain ⟨hnow, ⟨hdue, hnone⟩ | ⟨hdue, hlate, t, htick⟩⟩ := hturn.clock
  · refine ⟨⟨by omega, by omega⟩, Or.inl ⟨?_, hdue⟩⟩
    rw [List.filterMap_eq_nil_iff]
    intro a ha
    cases a with
    | ticked t => exact absurd ha (hnone t)
    | _ => rfl
  · -- The tick comes at the very time it is due, so the next one keeps its place in the row.
    have hnext : next.due = s.due + s.period := by
      rw [hdue, dueAfter, if_neg (by omega)]
    have hsame : s.now = s.due := Nat.le_antisymm hearly hlate
    refine ⟨⟨by omega, by omega⟩, Or.inr ⟨?_, hnext⟩⟩
    rw [htick, ← hsame]
    rfl

/-- A service that runs now has run before. -/
theorem running_of_after (hrunning : s.phase = .running) {m : Move} {later : List Move}
    (hafter : (s.after (m :: later)).phase = .running) : (s.move m).phase = .running := by
  rcases accounts_after hrunning [m] with ⟨hmove, -⟩ | ⟨hshut, -⟩
  · exact hmove
  · exact absurd hafter (hshut.after later).1.ended

/-- The times of a row that begins with a tick. -/
theorem times_succ (due period n : Nat) :
    due :: (List.range n).map (fun k => due + period + k * period) =
      (List.range (n + 1)).map fun k => due + k * period := by
  rw [List.range_succ_eq_map, List.map_cons, List.map_map, Nat.zero_mul, Nat.add_zero]
  refine congrArg (due :: ·) (List.map_congr_left fun k _ => ?_)
  change due + period + k * period = due + (k + 1) * period
  rw [Nat.succ_mul]
  omega

theorem Punctual.after (hpunctual : s.Punctual) (hrunning : s.phase = .running)
    {moves : List Move} (htimely : s.Timely moves)
    (hafter : (s.after moves).phase = .running) :
    (s.after moves).Punctual ∧
      (s.after moves).due = s.due + (s.ticks moves).length * s.period ∧
      (s.ticks moves).map Prod.fst =
        (List.range (s.ticks moves).length).map fun k => s.due + k * s.period := by
  induction moves generalizing s with
  | nil => exact ⟨hpunctual, (by simp [ticks]; rfl), rfl⟩
  | cons m later ih =>
      obtain ⟨hnow, hlater⟩ := htimely
      obtain ⟨hmove, hcases⟩ := hpunctual.move (hnow hrunning)
      obtain ⟨hlast, hdue, htimes⟩ := ih hmove (running_of_after hrunning hafter) hlater hafter
      have hperiod : (s.move m).period = s.period := period_after s [m]
      rw [hperiod] at hdue htimes
      refine ⟨hlast, ?_⟩
      change ((s.move m).after later).due = _ ∧ _
      rw [hdue, ticks, List.map_append, htimes]
      rcases hcases with ⟨hnone, hsame⟩ | ⟨htick, hnext⟩
      · rw [hnone, hsame]
        exact ⟨rfl, rfl⟩
      · rw [htick, hnext, List.singleton_append, List.length_cons, Nat.succ_mul]
        exact ⟨by omega, times_succ s.due s.period _⟩

/-- Only a tick attempts anything, and only the most urgent pending event. -/
theorem attempts_calls (m : Device.Memory) (a : Activity) :
    attempts (a.calls m) =
      match a with
      | .ticked _ => m.pending.next?.toList
      | _ => [] := by
  have hconnection : ∀ connected, attempts (m.callsOnConnection connected) = [] := by
    intro connected
    rw [Device.Memory.callsOnConnection]
    split
    · simp [attempts, Device.introduction, Link.Call.event?]
    · rfl
  cases a with
  | heard n =>
      cases n with
      | connection connected => exact hconnection connected
      | _ => rfl
  | ticked t =>
      change attempts (m.pending.next?.toList.map _) = _
      cases m.pending.next? <;> rfl
  | served job =>
      rw [Activity.calls]
      cases job.request <;> rfl
  | _ => rfl

theorem attempts_move (s : Service) (m : Move) :
    attempts (callsAlong s.device.memory (activities (s.occurrences m))) =
      (s.tickOf m).filterMap fun tick => tick.2.next? := by
  rw [tickOf]
  rcases s.clock_cases m with ⟨-, -, -, hnothing⟩ | ⟨next, rfl, hturn, -, hactivities⟩
  · rw [hnothing]
    rfl
  rw [hactivities]
  rcases hturn.deeds_cases with hdeeds | ⟨a, hdeeds⟩
  · rw [hdeeds]
    rfl
  · rw [hdeeds, callsAlong, callsAlong, List.append_nil, attempts_calls]
    cases a with
    | ticked t =>
        change s.device.pending.next?.toList =
          [(s.now, s.device.pending)].filterMap fun tick => tick.2.next?
        cases hpending : s.device.pending.next? <;> simp [hpending]
    | _ => rfl

/-- What was attempted in a course is what was most urgent at its ticks. -/
theorem attempts_after (s : Service) (moves : List Move) :
    attempts (s.device.callsUntil (s.after moves).device) =
      (s.ticks moves).filterMap fun tick => tick.2.next? := by
  have hcalled : ∃ calls, s.device.Called (s.after moves).device calls ∧
      attempts calls = (s.ticks moves).filterMap fun tick => tick.2.next? := by
    induction moves generalizing s with
    | nil => exact ⟨[], Device.called_nothing rfl rfl rfl rfl, rfl⟩
    | cons m later ih =>
        obtain ⟨calls, hcalled, hattempts⟩ := ih (s.move m)
        refine ⟨_, (called_move s m).trans hcalled, ?_⟩
        rw [ticks, List.filterMap_append, ← hattempts, ← attempts_move]
        exact List.filterMap_append
  obtain ⟨calls, hcalled, hattempts⟩ := hcalled
  rw [hcalled.callsUntil_eq, hattempts]

/-- No event is the most urgent one only if none is pending. -/
theorem isSome_next?_iff (p : Pending) : p.next?.isSome = decide (p ≠ .empty) := by
  obtain ⟨a, b, c⟩ := p
  cases a <;> cases b <;> cases c <;> rfl

theorem timely_append {earlier later : List Move} (hearlier : s.Timely earlier)
    (hlater : (s.after earlier).Timely later) : s.Timely (earlier ++ later) := by
  induction earlier generalizing s with
  | nil => exact hlater
  | cons m rest ih => exact ⟨hearlier.1, ih hearlier.2 hlater⟩

theorem elapsed_append (earlier later : List Move) :
    elapsed (earlier ++ later) = elapsed earlier + elapsed later := by
  induction earlier with
  | nil => exact (Nat.zero_add _).symm
  | cons m rest ih => rw [List.cons_append, elapsed, elapsed, ih, Nat.add_assoc]

/-- Turns take no time. -/
theorem elapsed_turns (n : Nat) : elapsed (List.replicate n .turn) = 0 := by
  induction n with
  | zero => rfl
  | succ n ih => exact (Nat.zero_add _).trans ih

theorem timely_turns (n : Nat) (s : Service) : s.Timely (List.replicate n .turn) := by
  induction n generalizing s with
  | zero => trivial
  | succ n ih => exact ⟨fun _ => Or.inl rfl, ih _⟩

/-- To let the clock run to a point and then to settle is a course. -/
theorem exists_settle {target : Nat} (hnow : s.now ≤ target)
    (hdue : s.phase = .running → target ≤ s.due) :
    ∃ moves, settle { s with now := target } = s.after moves ∧ s.Timely moves ∧
      s.now + elapsed moves = target := by
  have htarget := Nat.add_sub_cancel' hnow
  have hwait : s.move (.wait (target - s.now)) = { s with now := target } :=
    congrArg (fun now => ({ s with now } : Service)) htarget
  refine ⟨.wait (target - s.now) :: List.replicate (s.move (.wait (target - s.now))).work .turn,
    ?_, ⟨fun hrunning => Or.inr ?_, timely_turns _ _⟩, ?_⟩
  · rw [← hwait]
    exact settle_eq_after _
  · exact Nat.le_trans (Nat.le_of_eq htarget) (hdue hrunning)
  · rw [elapsed, elapsed_turns, Nat.add_zero]
    exact htarget

/-- When the time passes that leads to a tick, the service does this tick and no other. -/
theorem due_of_settled (hpunctual : s.Punctual) (hrunning : s.phase = .running)
    {moves : List Move} (htimely : s.Timely moves)
    (hafter : (s.after moves).phase = .running) (hrest : (s.after moves).turn? = none)
    (hnow : (s.after moves).now = s.due) : (s.after moves).due = s.due + s.period := by
  obtain ⟨⟨-, hnear⟩, hdue, -⟩ := hpunctual.after hrunning htimely hafter
  rw [period_after] at hnear
  cases turn?_eq_none_iff.mp hrest with
  | ended hphase => contradiction
  | idle hasked hheard hdeserted hearly =>
      have hperiod := s.period_pos
      rcases hcount : (s.ticks moves).length with _ | _ | n
      · rw [hcount, Nat.zero_mul] at hdue
        omega
      · rw [hdue, hcount, Nat.one_mul]
      · rw [hcount, Nat.add_mul] at hdue
        omega

/-- To let time pass up to a point is a course with a stop at each tick, if there are stops
enough. -/
theorem exists_passTo {target stops : Nat} (hnow : s.now ≤ target)
    (hstops : s.phase = .running → s.Punctual ∧ target < s.due + stops * s.period) :
    ∃ moves, s.passTo target stops = s.after moves ∧ s.Timely moves ∧
      s.now + elapsed moves = target := by
  induction stops generalizing s with
  | zero =>
      refine exists_settle hnow fun hrunning => ?_
      have hlt := (hstops hrunning).2
      omega
  | succ stops ih =>
      unfold passTo
      split
      · next hstop =>
          obtain ⟨hrunning, hdue⟩ := hstop
          obtain ⟨hpunctual, hlt⟩ := hstops hrunning
          obtain ⟨first, heq, htimely, hat⟩ :=
            exists_settle hpunctual.early fun _ => Nat.le_refl s.due
          rw [← now_after] at hat
          have hrest : (s.after first).turn? = none := heq ▸ turn?_settle _
          obtain ⟨second, hsecond, hlater, htarget⟩ := ih (s := s.after first) (hat ▸ hdue)
            (by
              intro hstill
              refine ⟨(hpunctual.after hrunning htimely hstill).1, ?_⟩
              rw [due_of_settled hpunctual hrunning htimely hstill hrest hat, period_after]
              rw [Nat.succ_mul] at hlt
              omega)
          refine ⟨first ++ second, ?_, timely_append htimely hlater, ?_⟩
          · rw [Nat.max_eq_right hpunctual.early, heq, hsecond, after_append]
          · rw [elapsed_append, ← Nat.add_assoc, ← now_after]
            exact htarget
      · next hstop =>
          exact exists_settle hnow fun hrunning =>
            Nat.le_of_not_le fun hdue => hstop ⟨hrunning, hdue⟩

/-- To let time pass is a course in which the clock stops at each tick. -/
theorem exists_pass (hpunctual : s.phase = .running → s.Punctual) (ms : Nat) :
    ∃ moves, s.pass ms = s.after moves ∧ s.Timely moves ∧ elapsed moves = ms := by
  have hstops : s.now + ms < s.due + ((s.now + ms - s.due) / s.period + 1) * s.period := by
    have hperiod := s.period_pos
    have hdivided := Nat.div_add_mod (s.now + ms - s.due) s.period
    have hrest := Nat.mod_lt (s.now + ms - s.due) (Nat.lt_of_lt_of_le (by decide) hperiod)
    rw [Nat.succ_mul, Nat.mul_comm]
    omega
  obtain ⟨moves, heq, htimely, htarget⟩ := exists_passTo (Nat.le_add_right s.now ms)
    fun hrunning => ⟨hpunctual hrunning, hstops⟩
  exact ⟨moves, heq, htimely, Nat.add_left_cancel htarget⟩

/-- The cadence of a service up to a time of its course. -/
structure Cadence (s : Service) (moves : List Move) : Prop where
  times : (s.after moves).tickTimes =
    (List.range (s.ticks moves).length).map fun k => (k + 1) * s.period
  ticks : (s.ticks moves).map Prod.fst = (s.after moves).tickTimes
  /-- The clock shows the time that has passed, and the next tick keeps its place. -/
  now : (s.after moves).now = elapsed moves
  due : (s.after moves).due = ((s.ticks moves).length + 1) * s.period
  within : (s.ticks moves).length * s.period ≤ elapsed moves ∧
    elapsed moves ≤ ((s.ticks moves).length + 1) * s.period
  /-- When the service is at rest it has done all the ticks that were due. -/
  count : (s.after moves).turn? = none →
    (s.after moves).tickTimes.length = elapsed moves / s.period
  attempted : attempts (s.device.callsUntil (s.after moves).device) =
    (s.ticks moves).filterMap fun tick => tick.2.next?
  /-- There is an attempt at each tick at which some event is pending. -/
  number : (attempts (s.device.callsUntil (s.after moves).device)).length =
    (s.ticks moves).countP fun tick => tick.2 ≠ .empty
  early : elapsed moves < s.period →
    attempts (s.device.callsUntil (s.after moves).device) = []
  /-- As long as the same events are pending at the ticks, each attempts the most urgent. -/
  steady : ∀ earlier between, moves = earlier ++ between → ∀ pending e,
    pending.toList.head? = some e →
    (∀ tick ∈ (s.after earlier).ticks between, tick.2 = pending) →
    attempts ((s.after earlier).device.callsUntil (s.after moves).device) =
      List.replicate ((s.after earlier).ticks between).length e
  /-- It does not matter in which portions the time passes. -/
  pass : ∀ ms, ∃ passing, (s.after moves).pass ms = s.after (moves ++ passing) ∧
    s.Timely (moves ++ passing) ∧ elapsed (moves ++ passing) = elapsed moves + ms

theorem cadence_of_timely (hnow : s.now = 0) (hdue : s.due = s.period) (hnew : s.tickTimes = [])
    (hrunning : s.phase = .running) {moves : List Move} (htimely : s.Timely moves)
    (hafter : (s.after moves).phase = .running) : Cadence s moves := by
  have hpunctual : s.Punctual := ⟨by omega, by omega⟩
  obtain ⟨hlast, hnext, hmap⟩ := hpunctual.after hrunning htimely hafter
  have hclock := now_after s moves
  have htimes := tickTimes_after s moves
  rw [hnew, List.nil_append] at htimes
  rw [hnow, Nat.zero_add] at hclock
  have hplace : (s.after moves).due = ((s.ticks moves).length + 1) * s.period := by
    rw [hnext, hdue, Nat.succ_mul, Nat.add_comm]
  have hwithin : (s.ticks moves).length * s.period ≤ elapsed moves ∧
      elapsed moves ≤ ((s.ticks moves).length + 1) * s.period := by
    have hearly := hlast.early
    have hnear := hlast.near
    rw [period_after, hplace, hclock, Nat.succ_mul] at hnear
    rw [hplace, hclock] at hearly
    exact ⟨by omega, hearly⟩
  have hattempts := attempts_after s moves
  constructor
  case times =>
    rw [htimes, hmap]
    refine List.map_congr_left fun k _ => ?_
    rw [hdue, Nat.succ_mul, Nat.add_comm]
  case ticks => exact htimes.symm
  case now => exact hclock
  case due => exact hplace
  case within => exact hwithin
  case count =>
    intro hrest
    rw [htimes, List.length_map]
    cases turn?_eq_none_iff.mp hrest with
    | ended hphase => contradiction
    | idle hasked hheard hdeserted hearly =>
        rw [hclock, hplace] at hearly
        exact (Nat.div_eq_of_lt_le hwithin.1 hearly).symm
  case attempted => exact hattempts
  case number =>
    rw [hattempts, List.length_filterMap_eq_countP]
    exact congrArg (List.countP · _) (funext fun tick => isSome_next?_iff tick.2)
  case early =>
    intro hshort
    have hnone : (s.ticks moves).length = 0 := by
      rcases hcount : (s.ticks moves).length with _ | n
      · rfl
      · rw [hcount, Nat.succ_mul] at hwithin
        omega
    rw [hattempts, List.length_eq_zero_iff.mp hnone]
    rfl
  case steady =>
    rintro earlier between rfl pending e hurgent hsame
    rw [Pending.head?_toList] at hurgent
    rw [after_append, attempts_after, List.eq_replicate_iff, List.length_filterMap_eq_countP,
      List.countP_eq_length]
    refine ⟨fun tick htick => ?_, fun f hattempted => ?_⟩
    · rw [hsame tick htick, hurgent]
      rfl
    · obtain ⟨tick, htick, hnext⟩ := List.mem_filterMap.mp hattempted
      rw [hsame tick htick, hurgent] at hnext
      exact (Option.some.inj hnext).symm
  case pass =>
    intro ms
    obtain ⟨passing, heq, hlater, helapsed⟩ := exists_pass (fun _ => hlast) ms
    refine ⟨passing, heq.trans (after_append s _ _).symm, timely_append htimely hlater, ?_⟩
    rw [elapsed_append, helapsed]

/-- A service that is started does its ticks in one cadence, whatever happens to it. -/
theorem cadence_of_launch {clock : Nat} {d : Device} (hlaunched : launch? clock d = some s) :
    start clock d = .started (s.after (List.replicate s.work .turn)) ∧
      s.period = 1000 * d.settings.interval.toNat ∧
      ∀ moves : List Move, s.Timely moves → (s.after moves).phase = .running →
        Cadence s moves := by
  refine ⟨?_, ?_⟩
  · rw [← settle_eq_after]
    exact start_of_launch?_eq_some hlaunched
  obtain ⟨requests, records, -, rfl⟩ := eq_of_launch?_eq_some hlaunched
  have hsettings : d.startLink.2.settings = d.settings :=
    congrArg Device.Memory.settings d.memory_startLink
  have hperiod : 1000 * d.startLink.2.settings.interval.toNat =
      1000 * d.settings.interval.toNat := by rw [hsettings]
  exact ⟨hperiod, fun moves htimely hafter =>
    cadence_of_timely rfl hperiod.symm rfl rfl htimely hafter⟩

/-- Twelve seconds without a network, in which two ticks are due and a message is asked for. -/
def silence : List Move :=
  [.wait 3000, .ask 0 .moved, .turn, .wait 2000, .turn, .wait 5000, .turn, .wait 2000]

/-- The restart is attempted after five seconds and after ten. -/
theorem cadence_of_silence :
    ∃ s : Service, launch? 60 (.plain (.automatic "loopback" false true
        { capacity := 1, capacity_pos := Nat.one_pos })) = some s ∧
      s.Timely silence ∧ (s.after silence).phase = .running ∧
      (s.after silence).tickTimes = [5000, 10000] ∧
      attempts (s.device.callsUntil (s.after silence).device) = [.appRestart, .appRestart] := by
  have hcadence := (cadence_of_launch (d := .plain (.automatic "loopback" false true
    { capacity := 1, capacity_pos := Nat.one_pos })) (rfl : launch? 60 _ = _)).2.2 silence
      (by decide) rfl
  exact ⟨_, rfl, by decide, rfl, hcadence.times, hcadence.attempted⟩

end Service

end DeviceTwin
