/-
The life of a service and its end.  It ends when it was told to or when a hook has
failed, and in no other way; to stop is to close the link as the last call on it, and
after a failed hook there is no call at all.
-/
import DeviceTwin.Proofs.Service.Order

namespace DeviceTwin

namespace Service

variable {clock : Nat} {d : Device} {s next : Service}

/-- No turn tells the service to stop. -/
theorem Turn.stopAsked_eq (hturn : s.Turn next) : next.stopAsked = s.stopAsked := by
  cases hturn with
  | stop => rfl
  | @hear letter inbox =>
      obtain ⟨answers, history, heq⟩ :=
        hear_eq letter.content { s with device := s.device.withInbox inbox }
      rw [heq]
      unfold checked
      split <;> rfl
  | hangUp => rfl
  | tick =>
      obtain ⟨records, history, heq⟩ := tick_eq s
      rw [heq]
  | @serve job requests =>
      obtain ⟨answers, history, heq⟩ := serve_eq job { s with requests }
      rw [heq]
  | refill => rfl

theorem stopAsked_move {m : Move} (hm : m ≠ .tellStop) (s : Service) :
    (s.move m).stopAsked = s.stopAsked := by
  cases m with
  | tellStop => contradiction
  | turn =>
      rw [move]
      cases hturn : s.turn? with
      | none => rfl
      | some next => exact (turn_of_turn?_eq_some hturn).stopAsked_eq
  | ask ticket request =>
      obtain ⟨requests, answers, heq⟩ := s.exists_ask_eq ticket request
      rw [move, heq]
  | deliver ticket n =>
      obtain ⟨inbox, answers, heq⟩ := s.exists_deliver_eq ticket n
      rw [move, heq]
  | _ => rfl

/-- Whoever was told to stop stays told. -/
theorem stopAsked_move_of_stopAsked (hasked : s.stopAsked = true) (m : Move) :
    (s.move m).stopAsked = true := by
  by_cases hm : m = .tellStop
  · rw [hm]
    rfl
  · rw [stopAsked_move hm, hasked]

theorem stopAsked_after_iff {moves : List Move} :
    (s.after moves).stopAsked = true ↔ s.stopAsked = true ∨ .tellStop ∈ moves := by
  induction moves generalizing s with
  | nil => simp [after]
  | cons m later ih =>
      change ((s.move m).after later).stopAsked = true ↔ _
      rw [ih]
      by_cases hm : m = .tellStop
      · subst hm
        exact iff_of_true (Or.inl rfl) (Or.inr List.mem_cons_self)
      · rw [stopAsked_move hm, List.mem_cons, or_iff_right (Ne.symm hm)]

/-- A service that was told to stop does nothing else. -/
theorem Turn.eq_stop (hturn : s.Turn next) (hasked : s.stopAsked = true) : next = s.stop := by
  cases hturn with
  | stop => rfl
  | _ => simp_all

/-- All that is done after a service was told to stop is to finish, and the only call is the
one that closes the link. -/
theorem finished_of_stopAsked (hasked : s.stopAsked = true) (moves : List Move) :
    activities (s.log moves) = [] ∧ s.device.Called (s.after moves).device [] ∨
      activities (s.log moves) = [.finished] ∧
        s.device.Called (s.after moves).device [.close] := by
  induction moves generalizing s with
  | nil => exact Or.inl ⟨rfl, Device.called_nothing rfl rfl rfl rfl⟩
  | cons m later ih =>
      rw [log, activities_append]
      change _ ∧ s.device.Called ((s.move m).after later).device _ ∨
        _ ∧ s.device.Called ((s.move m).after later).device _
      rcases s.move_cases m with hidles | ⟨next, rfl, hturn, hmove, hlog⟩
      · rw [hidles.activities, List.nil_append]
        exact (ih (stopAsked_move_of_stopAsked hasked m)).imp
          (And.imp_right hidles.called.trans) (And.imp_right hidles.called.trans)
      · -- The first turn of such a service is its last, and later moves find it shut.
        obtain rfl := (turn_of_turn?_eq_some hturn).eq_stop hasked
        have hshut : s.stop.Shut := shut_finish (by simp) _
        have hcalled := (turn_of_turn?_eq_some hturn).called
        rw [deeds_stop] at hcalled
        rw [hmove, hlog, activities_turned, deeds_stop, (hshut.after later).2]
        exact Or.inr ⟨rfl, hcalled.then_nothing (hshut.silent later).2⟩

/-- What has become of a service that was made of a device. -/
inductive Life (d : Device) (s : Service) : Prop
  | running {calls : List Link.Call} (hphase : s.phase = .running)
      (hsound : s.device.broken = false) (hcalled : d.Called s.device calls)
      (hopen : .close ∉ calls)
  | stopped {calls : List Link.Call} (hphase : s.phase = .stopped) (hshut : s.Shut)
      (hasked : s.stopAsked = true) (hsound : s.device.broken = false)
      (hcalled : d.Called s.device (calls ++ [.close])) (hopen : .close ∉ calls)
  /-- When the hook failed, the last call had been made. -/
  | crashed {between : Device} {calls : List Link.Call} (hphase : s.phase = .crashed)
      (hshut : s.Shut) (hsound : between.broken = false) (hcalled : d.Called between calls)
      (hopen : .close ∉ calls) (hlast : between.Called s.device [])
      (hbroken : s.device.broken = true)

theorem life_of_launch (hsound : d.broken = false) (hlaunched : launch? clock d = some s) :
    Life d s := by
  obtain ⟨requests, records, -, rfl⟩ := eq_of_launch?_eq_some hlaunched
  have hbroken : d.startLink.2.broken = d.broken :=
    congrArg Device.Memory.broken d.memory_startLink
  exact .running rfl (hbroken.trans hsound) ((Device.makes_startLink d).log records).called
    (by simp)

/-- A service closes its link only when it finishes. -/
theorem close_not_mem_calls {a : Activity} (ha : a ≠ .finished) (m : Device.Memory) :
    .close ∉ a.calls m := by
  cases a with
  | finished => contradiction
  | hungUp => exact List.not_mem_nil
  | ticked t => exact m.close_not_mem_calls .tick
  | heard n => exact m.close_not_mem_calls (.hear n)
  | served job =>
      rw [Activity.calls]
      cases job.request.step? with
      | none => exact List.not_mem_nil
      | some step => exact m.close_not_mem_calls step

/-- To serve a request calls no hook. -/
theorem broken_grant (d : Device) (request : Request) : (d.grant request).broken = d.broken := by
  cases request <;> rfl

/-- What becomes of a service in a turn. -/
theorem Life.turn (hsound : s.device.broken = false) {calls : List Link.Call}
    (hcalled : d.Called s.device calls) (hopen : .close ∉ calls) (hturn : s.Turn next) :
    Life d next := by
  have hall := hcalled.trans hturn.called
  have hmore : ∀ a : Activity, a ≠ .finished → .close ∉ calls ++ a.calls s.device.memory := by
    intro a ha
    rw [List.mem_append, not_or]
    exact ⟨hopen, close_not_mem_calls ha _⟩
  cases hturn with
  | stop hrunning hasked =>
      rw [deeds_stop] at hall
      exact .stopped rfl (shut_finish (by simp) _) hasked hsound hall hopen
  | @hear letter inbox hrunning hasked hpop =>
      rw [deeds_hear, List.flatMap_singleton] at hall
      obtain ⟨answers, history, heq⟩ :=
        hear_eq letter.content { s with device := s.device.withInbox inbox }
      have hlast := (Turn.hear hrunning hasked hpop).called
      rw [deeds_hear, List.flatMap_singleton] at hlast
      rw [heq] at hall hlast ⊢
      cases hbroken : ((s.device.withInbox inbox).hear letter.content).broken with
      | false =>
          rw [checked_of_intact hbroken] at hall ⊢
          exact .running hrunning hbroken hall (hmore (.heard letter.content) (by simp))
      | true =>
          -- A connection whose hook fails is not answered by a report, so that the turn in
          -- which the service breaks off makes no call.
          rw [checked_of_broken hbroken] at hlast ⊢
          have hact : (s.device.memory.act (.hear letter.content)).broken = true := by
            rw [← hbroken]
            exact (congrArg Device.Memory.broken
              (Device.memory_hear letter.content (s.device.withInbox inbox))).symm
          rw [Activity.calls, Device.Memory.calls_eq_nil_of_broken hact] at hlast
          exact .crashed rfl (shut_finish (by simp) _) hsound hcalled hopen hlast hbroken
  | hangUp hrunning hasked hheard hdeserted =>
      rw [deeds_hangUp, List.flatMap_singleton] at hall
      exact .running hrunning hsound hall (hmore .hungUp (by simp))
  | tick hrunning hasked hheard hdeserted hdue =>
      rw [deeds_tick, List.flatMap_singleton] at hall
      obtain ⟨records, history, heq⟩ := tick_eq s
      have hbroken : s.device.tick.2.broken = s.device.broken :=
        congrArg Device.Memory.broken s.device.memory_tick
      rw [heq] at hall ⊢
      exact .running hrunning (hbroken.trans hsound) hall
        (hmore (.ticked s.device.tick.1) (by simp))
  | @serve job requests hrunning hasked hheard hdeserted hearly hpop =>
      rw [deeds_serve, List.flatMap_singleton] at hall
      obtain ⟨answers, history, heq⟩ := serve_eq job { s with requests }
      rw [heq] at hall ⊢
      exact .running hrunning ((broken_grant s.device job.request).trans hsound) hall
        (hmore (.served job) (by simp))
  | refill hrunning hasked hheard hdeserted hearly hserved hwaiting =>
      rw [deeds_refill, List.flatMap_nil, List.append_nil] at hall
      exact .running hrunning hsound hall hopen

theorem Life.move (hlife : Life d s) (m : Move) : Life d (s.move m) := by
  rcases s.move_cases m with hidles | ⟨next, -, hturn, hmove, -⟩
  · have hbroken : (s.move m).device.broken = s.device.broken :=
      congrArg Device.Memory.broken hidles.memory
    cases hlife with
    | running hphase hsound hcalled hopen =>
        exact .running (hidles.phase.trans hphase) (hbroken.trans hsound)
          (hcalled.then_nothing hidles.called) hopen
    | stopped hphase hshut hasked hsound hcalled hopen =>
        exact .stopped (hidles.phase.trans hphase) (hshut.move m)
          (stopAsked_move_of_stopAsked hasked m) (hbroken.trans hsound)
          (hcalled.then_nothing hidles.called) hopen
    | crashed hphase hshut hsound hcalled hopen hlast hfailed =>
        exact .crashed (hidles.phase.trans hphase) (hshut.move m) hsound hcalled hopen
          (hlast.then_nothing hidles.called) (hbroken.trans hfailed)
  · rw [hmove]
    cases hlife with
    | running hphase hsound hcalled hopen =>
        exact Life.turn hsound hcalled hopen (turn_of_turn?_eq_some hturn)
    | stopped hphase hshut =>
        rw [hshut.turn?_eq_none] at hturn
        contradiction
    | crashed hphase hshut =>
        rw [hshut.turn?_eq_none] at hturn
        contradiction

theorem Life.after (hlife : Life d s) (moves : List Move) : Life d (s.after moves) := by
  induction moves generalizing s with
  | nil => exact hlife
  | cons m later ih => exact ih (hlife.move m)

/-- Whether a hook has failed since an earlier time: one of the calls that were made fails after
those before it. -/
def HookFailed (d : Device) (s : Service) : Prop :=
  ∃ before c later,
    Journal.hookCalls (s.device.journal.since d.journal.length) = before ++ c :: later ∧
      d.hooks.fails (before.reverse ++ d.raised) c = true

theorem Life.called (hlife : Life d s) : ∃ calls, d.Called s.device calls := by
  cases hlife with
  | running hphase hsound hcalled => exact ⟨_, hcalled⟩
  | stopped hphase hshut hasked hsound hcalled => exact ⟨_, hcalled⟩
  | crashed hphase hshut hsound hcalled hopen hlast => exact ⟨_, hcalled.then_nothing hlast⟩

theorem Life.shut (hlife : Life d s) (hended : s.phase ≠ .running) : s.Shut := by
  cases hlife with
  | running hphase => contradiction
  | stopped hphase hshut => exact hshut
  | crashed hphase hshut => exact hshut

theorem Life.crashed_iff (hlife : Life d s) (hsound : d.broken = false) :
    s.phase = .crashed ↔ HookFailed d s := by
  obtain ⟨calls, hcalled⟩ := hlife.called
  rw [HookFailed, ← hcalled.broken_iff hsound]
  cases hlife with
  | running hphase hintact => simp [hphase, hintact]
  | stopped hphase hshut hasked hintact => simp [hphase, hintact]
  | crashed hphase hshut hintact hcalled hopen hlast hbroken => simp [hphase, hbroken]

/-- A link is closed by a service that stops and by no other. -/
theorem Life.callsUntil (hlife : Life d s) :
    ∃ calls, .close ∉ calls ∧
      d.callsUntil s.device = if s.phase = .stopped then calls ++ [.close] else calls := by
  cases hlife with
  | running hphase hsound hcalled hopen =>
      exact ⟨_, hopen, by simp [hcalled.callsUntil_eq, hphase]⟩
  | stopped hphase hshut hasked hsound hcalled hopen =>
      exact ⟨_, hopen, by simp [hcalled.callsUntil_eq, hphase]⟩
  | crashed hphase hshut hsound hcalled hopen hlast =>
      exact ⟨_, hopen, by simp [(hcalled.then_nothing hlast).callsUntil_eq, hphase]⟩

/-- What comes after the call of a failing hook has no call on the link, if that is so
from some time on before which no hook failed. -/
theorem linkCalls_of_failing {hooks : Hooks} {raised : List Hooks.Call}
    {earlier last before rest : List Journal.Entry} {c : Hooks.Call}
    (hearlier : hooks.failsAmong raised (Journal.hookCalls earlier) = false)
    (hlast : Journal.linkCalls last = []) (hsplit : earlier ++ last = before ++ .hook c :: rest)
    (hfailing : hooks.fails ((Journal.hookCalls before).reverse ++ raised) c = true) :
    Journal.linkCalls rest = [] := by
  have hrest : ∀ first, last = first ++ .hook c :: rest → Journal.linkCalls rest = [] := by
    rintro first rfl
    rw [Journal.linkCalls_append, List.append_eq_nil_iff] at hlast
    exact hlast.2
  -- No hook failed earlier, so the failing call is among the last entries.
  rw [List.append_eq_append_iff] at hsplit
  rcases hsplit with ⟨first, -, hlater⟩ | ⟨first, rfl, hlater⟩
  · exact hrest first hlater
  · cases first with
    | nil => exact hrest [] hlater.symm
    | cons entry more =>
        rw [List.cons_append, List.cons.injEq] at hlater
        obtain ⟨rfl, -⟩ := hlater
        have hamong : hooks.failsAmong raised
            (Journal.hookCalls (before ++ .hook c :: more)) = true :=
          Hooks.failsAmong_iff.mpr ⟨_, c, _, Journal.hookCalls_append _ _, hfailing⟩
        rw [hearlier] at hamong
        contradiction

/-- After the call of a hook that fails there is no call on the link. -/
theorem Life.linkCalls_of_failing (hlife : Life d s) (hsound : d.broken = false)
    {before rest : List Journal.Entry} {c : Hooks.Call}
    (hsplit : s.device.journal.since d.journal.length = before ++ .hook c :: rest)
    (hfailing : d.hooks.fails ((Journal.hookCalls before).reverse ++ d.raised) c = true) :
    Journal.linkCalls rest = [] := by
  have hcrashed : s.phase = .crashed := by
    refine (hlife.crashed_iff hsound).mpr ⟨_, c, Journal.hookCalls rest, ?_, hfailing⟩
    rw [hsplit]
    exact Journal.hookCalls_append _ _
  cases hlife with
  | running hphase => rw [hphase] at hcrashed; contradiction
  | stopped hphase => rw [hphase] at hcrashed; contradiction
  | @crashed between calls hphase hshut hintact hcalled hopen hlast hbroken =>
      obtain ⟨earlier, hearlier, -⟩ := hcalled
      obtain ⟨last, hnoted, hnothing⟩ := hlast
      rw [hearlier.broken, hsound, Bool.false_or] at hintact
      rw [(hearlier.trans hnoted).since_eq] at hsplit
      exact Service.linkCalls_of_failing hintact hnothing hsplit hfailing

theorem close_of_running (hrunning : s.phase = .running) :
    s.close = stop { s with stopAsked := true } := by
  have hturn : turn? { s with stopAsked := true } = some (stop { s with stopAsked := true }) :=
    turn?_eq_some_iff.mpr (.stop hrunning rfl)
  have hended : (stop { s with stopAsked := true }).turn? = none :=
    turn?_eq_none_iff.mpr (.ended nofun)
  rw [close, settle_of_turn?_eq_some hturn, settle_of_turn?_eq_none hended]

theorem close_of_ended (hended : s.phase ≠ .running) :
    s.close = { s with stopAsked := true } :=
  settle_of_turn?_eq_none (turn?_eq_none_iff.mpr (.ended hended))

theorem Life.close (hlife : Life d s) : Life d s.close := by
  rw [Service.close, settle_eq_after]
  exact (hlife.move .tellStop).after _

theorem Life.phase_close (hlife : Life d s) (hphase : s.phase ≠ .crashed) :
    s.close.phase = .stopped := by
  cases hlife with
  | running hrunning =>
      rw [close_of_running hrunning]
      rfl
  | stopped hstopped hshut =>
      rw [close_of_ended hshut.ended]
      exact hstopped
  | crashed hcrashed => contradiction

/-- The life of a service that was made of a device, up to a time of its course. -/
structure Lifetime (d : Device) (s : Service) (moves : List Move) : Prop where
  /-- It ends only if it was told to or a hook has failed. -/
  ended : (s.after moves).phase ≠ .running → .tellStop ∈ moves ∨ HookFailed d (s.after moves)
  crashed : (s.after moves).phase = .crashed ↔ HookFailed d (s.after moves)
  /-- All that is done after it was told to stop is to finish, which is to close the link, -/
  told : ∀ earlier later, moves = earlier ++ .tellStop :: later →
    activities ((s.after earlier).log (.tellStop :: later)) = [] ∧
        (s.after earlier).device.callsUntil (s.after moves).device = [] ∨
      activities ((s.after earlier).log (.tellStop :: later)) = [.finished] ∧
        (s.after earlier).device.callsUntil (s.after moves).device = [.close]
  /-- in the next turn, if it still runs. -/
  finishes : .tellStop ∈ moves → (s.after moves).phase = .running →
    (s.after moves).turn? = some (s.after moves).stop
  /-- The link is closed once, after all other calls. -/
  stopped : (s.after moves).phase = .stopped →
    ∃ calls, d.callsUntil (s.after moves).device = calls ++ [.close] ∧ .close ∉ calls
  unclosed : (s.after moves).phase ≠ .stopped → .close ∉ d.callsUntil (s.after moves).device
  /-- After the call of a hook that fails, at its first call or at a later one, there is no call
  on the link. -/
  broken : ∀ before c rest,
    (s.after moves).device.journal.since d.journal.length = before ++ .hook c :: rest →
    d.hooks.fails ((Journal.hookCalls before).reverse ++ d.raised) c = true →
    Journal.linkCalls rest = []
  shutdown : (s.after moves).phase ≠ .crashed →
    (s.after moves).shutdown.1 = .ok () ∧ (s.after moves).shutdown.2.phase = .stopped ∧
      ∃ calls, d.callsUntil (s.after moves).shutdown.2.device = calls ++ [.close] ∧
        .close ∉ calls
  /-- Whoever waits for the end of a service that broke off learns of it. -/
  shutdown_crashed : (s.after moves).phase = .crashed →
    (s.after moves).shutdown.1 = .error .stopped ∧
      d.callsUntil (s.after moves).shutdown.2.device = d.callsUntil (s.after moves).device
  /-- After the end there are no more calls, and no request is served. -/
  silent : (s.after moves).phase ≠ .running → ∀ later,
    (s.after (moves ++ later)).phase = (s.after moves).phase ∧
      d.callsUntil (s.after (moves ++ later)).device = d.callsUntil (s.after moves).device ∧
      activities ((s.after moves).log later) = [] ∧
      ∀ ticket request, (s.after (moves ++ later)).ask ticket request =
        (s.after (moves ++ later)).answer ticket (.failed .stopped)

/-- A service that is started has a lifetime that ends in one of two ways, whatever
happens to it and when. -/
theorem lifetime_of_launch (hsound : d.broken = false) (hlaunched : launch? clock d = some s) :
    start clock d = .started (s.after (List.replicate s.work .turn)) ∧
      ∀ moves : List Move, Lifetime d s moves := by
  refine ⟨?_, fun moves => ?_⟩
  · rw [← settle_eq_after]
    exact start_of_launch?_eq_some hlaunched
  have hlife := (life_of_launch hsound hlaunched).after moves
  have hunasked : s.stopAsked = false := by
    obtain ⟨requests, records, -, rfl⟩ := eq_of_launch?_eq_some hlaunched
    rfl
  constructor
  case ended =>
    intro hended
    have hcrashed := hlife.crashed_iff hsound
    cases hlife with
    | running hphase => contradiction
    | stopped hphase hshut hasked =>
        rw [stopAsked_after_iff, hunasked] at hasked
        exact Or.inl (hasked.resolve_left nofun)
    | crashed hphase => exact Or.inr (hcrashed.mp hphase)
  case crashed => exact hlife.crashed_iff hsound
  case told =>
    rintro earlier later rfl
    rw [after_append]
    exact (finished_of_stopAsked (s := (s.after earlier).move .tellStop) rfl later).imp
      (And.imp_right Device.Called.callsUntil_eq) (And.imp_right Device.Called.callsUntil_eq)
  case finishes =>
    intro hstop hrunning
    exact turn?_eq_some_iff.mpr (.stop hrunning (stopAsked_after_iff.mpr (Or.inr hstop)))
  case stopped =>
    intro hstopped
    obtain ⟨calls, hopen, hcalls⟩ := hlife.callsUntil
    rw [if_pos hstopped] at hcalls
    exact ⟨calls, hcalls, hopen⟩
  case unclosed =>
    intro hunstopped
    obtain ⟨calls, hopen, hcalls⟩ := hlife.callsUntil
    rw [if_neg hunstopped] at hcalls
    exact hcalls ▸ hopen
  case broken =>
    intro before c rest hsplit hfailing
    exact hlife.linkCalls_of_failing hsound hsplit hfailing
  case shutdown =>
    intro hsafe
    have hstopped := hlife.phase_close hsafe
    obtain ⟨calls, hopen, hcalls⟩ := hlife.close.callsUntil
    rw [if_pos hstopped] at hcalls
    have hresult : (s.after moves).shutdown = (.ok (), (s.after moves).close) := by
      rw [Service.shutdown, hstopped]
      rfl
    rw [hresult]
    exact ⟨rfl, hstopped, calls, hcalls, hopen⟩
  case shutdown_crashed =>
    intro hcrashed
    have hclose : (s.after moves).close = { s.after moves with stopAsked := true } :=
      close_of_ended (by rw [hcrashed]; nofun)
    obtain ⟨calls, hcalled⟩ := hlife.called
    rw [Service.shutdown, hclose]
    dsimp only
    rw [if_pos hcrashed, hcalled.callsUntil_eq]
    exact ⟨rfl, (hcalled.then_nothing (Device.called_log _ _)).callsUntil_eq⟩
  case silent =>
    intro hended later
    have hshut := hlife.shut hended
    obtain ⟨hlater, hlog⟩ := hshut.after later
    obtain ⟨calls, hcalled⟩ := hlife.called
    rw [after_append, hlog, hcalled.callsUntil_eq]
    obtain ⟨hphase, hnothing⟩ := hshut.silent later
    exact ⟨hphase, (hcalled.then_nothing hnothing).callsUntil_eq, rfl,
      ask_of_shut hlater.requests_closed⟩

/-- A device whose hook for the connection fails when a connection is lost that was there. -/
def frail : Device :=
  { Device.plain (.automatic "loopback" true true { capacity := 1, capacity_pos := Nat.one_pos })
    with
    hooks :=
      { connection := .registered fun earlier c =>
          earlier.contains (.connection true) && c == .connection false } }

/-- It is told of a connection and answers a question. -/
def connected : List Move := [.deliver 0 (.connection true), .turn, .ask 1 .status, .turn]

/-- Then the connection is lost. -/
def lost : List Move := connected ++ [.deliver 2 (.connection false), .ask 3 .moved, .turn]

/-- The service breaks off at the second call of the hook and not at the first, and if it is told
to stop before that it stops. -/
theorem lifetime_of_frail :
    ∃ s : Service, launch? 60 frail = some s ∧
      (s.after connected).phase = .running ∧ ¬HookFailed frail (s.after connected) ∧
      HookFailed frail (s.after lost) ∧ (s.after lost).shutdown.1 = .error .stopped ∧
      .close ∉ frail.callsUntil (s.after lost).device ∧
      (s.after (connected ++ [.deliver 2 (.connection false), .tellStop])).shutdown.1 = .ok () := by
  have hlifetime := (lifetime_of_launch (d := frail) rfl (rfl : launch? 60 frail = _)).2
  have hbroken := hlifetime lost
  exact ⟨_, rfl, rfl, mt (hlifetime connected).crashed.mpr nofun, hbroken.crashed.mp rfl,
    (hbroken.shutdown_crashed rfl).1, hbroken.unclosed nofun,
    ((hlifetime (connected ++ [.deliver 2 (.connection false), .tellStop])).shutdown nofun).1⟩

end Service

end DeviceTwin
