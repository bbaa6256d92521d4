/-
The exchange between a device and the cloud when delivery results take their time:
each one answers a message that was accepted before, no message is answered twice,
and between message and answer anything may happen.  A tag names an event and not
a message, so the answer to an old message can take back the flag of a new signal.
Main statements: that this happens, and that nothing else takes a flag back than the
answer to a message that was under way when the signal came or was sent later.
-/
import DeviceTwin.Proofs.Device.Flags

namespace DeviceTwin

namespace Device

/-- An entry in the log of an exchange.  Its place in the log is its name. -/
inductive Exchange
  | signaled (e : Event)
  | ticked (t : Tick)
  /-- The result of delivering the message that was sent at a place of the log. -/
  | answered (message : Nat) (success : Bool)
  deriving DecidableEq

/-- The logs of a new device with the states that they lead to.  The creation is the
first signal, and the link changes as it likes. -/
inductive Exchanged (new : Device) : List Exchange → Device → Prop
  | created : Exchanged new [.signaled .appRestart] new
  | signal {log : List Exchange} {d : Device} (e : Event) (hbefore : Exchanged new log d) :
      Exchanged new (log ++ [.signaled e]) (d.signal e)
  | tick {log : List Exchange} {d : Device} (hbefore : Exchanged new log d) :
      Exchanged new (log ++ [.ticked d.tick.1]) d.tick.2
  | answer {log : List Exchange} {d : Device} {message : Nat} {e : Event} (success : Bool)
      (hbefore : Exchanged new log d) (hsent : log[message]? = some (.ticked (.sent e)))
      (hopen : ∀ earlier, .answered message earlier ∉ log) :
      Exchanged new (log ++ [.answered message success]) (d.settle success (some e)).2
  | relink {log : List Exchange} {d : Device} (link : Link) (hbefore : Exchanged new log d) :
      Exchanged new log { d with link }

/-- An entry of a log that was extended by one is old, or it is the new one. -/
theorem getElem?_append_singleton_eq_some {α : Type} {log : List α} {a b : α} {i : Nat}
    (h : (log ++ [a])[i]? = some b) : log[i]? = some b ∨ i = log.length ∧ a = b := by
  rcases Nat.lt_trichotomy i log.length with hlt | heq | hgt
  · rw [List.getElem?_append_left hlt] at h
    exact Or.inl h
  · subst heq
    rw [List.getElem?_concat_length, Option.some.injEq] at h
    exact Or.inr ⟨rfl, h⟩
  · have hlength : (log ++ [a]).length ≤ i := by
      rw [List.length_append, List.length_singleton]
      exact hgt
    rw [List.getElem?_eq_none hlength] at h
    contradiction

theorem getElem?_append_of_some {α : Type} {log : List α} {a b : α} {i : Nat}
    (h : log[i]? = some b) : (log ++ [a])[i]? = some b := by
  obtain ⟨hlt, _⟩ := List.getElem?_eq_some_iff.mp h
  rw [List.getElem?_append_left hlt]
  exact h

/-- Where the last entry is no answer, all answers are old. -/
theorem answered_of_append {log : List Exchange} {entry : Exchange} {message i : Nat}
    {success : Bool} (h : (log ++ [entry])[i]? = some (.answered message success))
    (hentry : entry ≠ .answered message success) :
    log[i]? = some (.answered message success) := by
  rcases getElem?_append_singleton_eq_some h with hold | ⟨_, hnew⟩
  · exact hold
  · exact absurd hnew hentry

/-- No message is answered at two places. -/
theorem Exchanged.answered_once {new d : Device} {log : List Exchange}
    (hrun : Exchanged new log d) {message first second : Nat} {a b : Bool}
    (hfirst : log[first]? = some (.answered message a))
    (hsecond : log[second]? = some (.answered message b)) : first = second := by
  induction hrun with
  | created =>
      rcases first with _ | first <;> simp at hfirst
  | signal e hbefore ih =>
      exact ih (answered_of_append hfirst nofun) (answered_of_append hsecond nofun)
  | tick hbefore ih =>
      exact ih (answered_of_append hfirst nofun) (answered_of_append hsecond nofun)
  | answer success hbefore hsent hopen ih =>
      rcases getElem?_append_singleton_eq_some hfirst with hold | ⟨hplace, hnew⟩
      · rcases getElem?_append_singleton_eq_some hsecond with hold' | ⟨_, hnew'⟩
        · exact ih hold hold'
        · rw [Exchange.answered.injEq] at hnew'
          rw [← hnew'.1] at hold
          exact absurd (List.mem_of_getElem? hold) (hopen a)
      · rcases getElem?_append_singleton_eq_some hsecond with hold' | ⟨hplace', _⟩
        · rw [Exchange.answered.injEq] at hnew
          rw [← hnew.1] at hold'
          exact absurd (List.mem_of_getElem? hold') (hopen b)
        · rw [hplace, hplace']
  | relink link hbefore ih => exact ih hfirst hsecond

/-- After a place in the log, a message of an event was answered with success.  The
message itself may be older. -/
def AnsweredSince (log : List Exchange) (e : Event) (i : Nat) : Prop :=
  ∃ message j, i < j ∧ log[message]? = some (.ticked (.sent e)) ∧
    log[j]? = some (.answered message true)

theorem AnsweredSince.append {log : List Exchange} {e : Event} {i : Nat}
    (hanswered : AnsweredSince log e i) (entry : Exchange) :
    AnsweredSince (log ++ [entry]) e i := by
  obtain ⟨message, j, hlt, hsent, hanswer⟩ := hanswered
  exact ⟨message, j, hlt, getElem?_append_of_some hsent, getElem?_append_of_some hanswer⟩

/-- When the flag of an event is clear, every signal of the event was followed by the
successful answer to one of its messages. -/
theorem Exchanged.answeredSince {new d : Device} {log : List Exchange}
    (hnew : new.pending = .atStart) (hrun : Exchanged new log d) {e : Event}
    (hclear : d.pending.contains e = false) {i : Nat}
    (hsignal : log[i]? = some (.signaled e)) : AnsweredSince log e i := by
  induction hrun with
  | created =>
      rcases i with _ | i
      · simp only [List.getElem?_cons_zero, Option.some.injEq, Exchange.signaled.injEq] at hsignal
        rw [hnew, ← hsignal] at hclear
        contradiction
      · simp at hsignal
  | signal f hbefore ih =>
      simp only [Device.signal, Pending.contains_insert, Bool.or_eq_false_iff,
        decide_eq_false_iff_not] at hclear
      rcases getElem?_append_singleton_eq_some hsignal with hold | ⟨_, heq⟩
      · exact (ih hclear.2 hold).append _
      · rw [Exchange.signaled.injEq] at heq
        exact absurd heq.symm hclear.1
  | @tick log d hbefore ih =>
      have hpending : d.tick.2.pending = d.pending := pending_act d .tick
      rw [hpending] at hclear
      rcases getElem?_append_singleton_eq_some hsignal with hold | ⟨_, heq⟩
      · exact (ih hclear hold).append _
      · contradiction
  | @answer log d message f success hbefore hsent hopen ih =>
      rcases getElem?_append_singleton_eq_some hsignal with hold | ⟨_, heq⟩
      · rcases hflag : d.pending.contains e with _ | _
        · exact (ih hflag hold).append _
        · -- The flag was set until now, so this answer is the one that took it back.
          have hcleared : success = true ∧ f = e := by
            change (d.pending.settle success (some f)).2.contains e = false at hclear
            rw [contains_settle, hflag] at hclear
            simpa using hclear
          obtain ⟨rfl, rfl⟩ := hcleared
          obtain ⟨hlt, _⟩ := List.getElem?_eq_some_iff.mp hold
          exact ⟨message, log.length, hlt, getElem?_append_of_some hsent,
            List.getElem?_concat_length⟩
      · contradiction
  | relink link hbefore ih => exact ih hclear hsignal

/-- Two messages of an event are under way when the first is answered, and then the event is
signaled again. -/
def resignaled : List Exchange :=
  [.signaled .appRestart, .signaled .noUpdateAvailable, .ticked (.sent .noUpdateAvailable),
    .ticked (.sent .noUpdateAvailable), .answered 2 true, .signaled .noUpdateAvailable]

/-- The device that has been signaled again. -/
def resignaledDevice : Device :=
  (((plain (.scripted [])).signal .noUpdateAvailable).tick.2.tick.2.settle true
    (some .noUpdateAvailable)).2.signal .noUpdateAvailable

theorem exchanged_resignaled :
    Exchanged (plain (.scripted [])) resignaled resignaledDevice := by
  have hpending :=
    @Exchanged.signal (plain (.scripted [])) (resignaled.take 1) _ .noUpdateAvailable .created
  have hsent := @Exchanged.tick _ (resignaled.take 2) _ hpending
  have hresent := @Exchanged.tick _ (resignaled.take 3) _ hsent
  have hanswered := @Exchanged.answer _ (resignaled.take 4) _ 2 .noUpdateAvailable true hresent rfl
    (by decide)
  exact @Exchanged.signal _ (resignaled.take 5) _ .noUpdateAvailable hanswered

/-- After the new signal the second message is answered, which is older, and this answer clears
the flag: no message was sent for the new signal. -/
theorem not_forall_answered_afresh :
    ¬ ∀ (log : List Exchange) (d : Device) (e : Event),
      Exchanged (plain (.scripted [])) log d → d.pending.contains e = false →
      ∀ i, log[i]? = some (.signaled e) →
      ∃ message, i < message ∧ log[message]? = some (.ticked (.sent e)) ∧
        .answered message true ∈ log := by
  intro hclaim
  have hlate : Exchanged (plain (.scripted [])) (resignaled ++ [.answered 3 true])
      (resignaledDevice.settle true (some .noUpdateAvailable)).2 :=
    .answer true exchanged_resignaled rfl (by decide)
  obtain ⟨message, hlt, hmessage, _⟩ := hclaim _ _ .noUpdateAvailable hlate rfl 5 rfl
  rcases Nat.eq_or_lt_of_le (show 6 ≤ message from hlt) with rfl | hbeyond
  · simp [resignaled] at hmessage
  · rw [List.getElem?_eq_none (show (resignaled ++ [_]).length ≤ message from hbeyond)] at hmessage
    contradiction

/-- When the flag of an event is clear, every signal of the event, the creation of the
device included, was followed by the successful answer to a message with its tag;
and that message was sent after the signal, unless a message of the event that was
under way when the signal came has been answered with success since. -/
theorem answered_since_signal {settings : Settings} {hooks : Hooks} {link : Link}
    {new d : Device} (hcreated : ofSettings settings hooks link = .ok new)
    {log : List Exchange} (hrun : Exchanged new log d) {e : Event}
    (hclear : d.pending.contains e = false) {i : Nat}
    (hsignal : log[i]? = some (.signaled e)) :
    ∃ message j, i < j ∧ log[message]? = some (.ticked (.sent e)) ∧
      log[j]? = some (.answered message true) ∧
      ((∀ older < i, log[older]? = some (.ticked (.sent e)) →
        .answered older true ∈ log → .answered older true ∈ log.take i) → i < message) := by
  have hpending : new.pending = .atStart :=
    congrArg Memory.pending (eq_of_ofSettings hcreated).1
  obtain ⟨message, j, hlt, hsent, hanswer⟩ := hrun.answeredSince hpending hclear hsignal
  refine ⟨message, j, hlt, hsent, hanswer, ?_⟩
  intro hsettled
  rcases Nat.lt_trichotomy message i with holder | heq | hnewer
  · have hmem := hsettled message holder hsent (List.mem_of_getElem? hanswer)
    obtain ⟨k, hk⟩ := List.mem_iff_getElem?.mp hmem
    have hki : k < i := by
      obtain ⟨hlength, _⟩ := List.getElem?_eq_some_iff.mp hk
      exact Nat.lt_of_lt_of_le hlength (List.length_take_le i log)
    rw [List.getElem?_take_of_lt hki] at hk
    have hsame := hrun.answered_once hk hanswer
    omega
  · rw [heq, hsignal] at hsent
    simp at hsent
  · exact hnewer

/-- The event is sent for the new signal too, the older message that is still under way fails,
and the new one is answered with success. -/
def resent : List Exchange :=
  resignaled ++ [.ticked (.sent .noUpdateAvailable), .answered 3 false, .answered 6 true]

/-- The device that has sent the event for the new signal. -/
def resentDevice : Device :=
  ((resignaledDevice.tick.2.settle false (some .noUpdateAvailable)).2.settle true
    (some .noUpdateAvailable)).2

theorem exchanged_resent : Exchanged (plain (.scripted [])) resent resentDevice := by
  have hsent := @Exchanged.tick _ resignaled _ exchanged_resignaled
  have hfailed := @Exchanged.answer _ (resent.take 7) _ 3 .noUpdateAvailable false hsent rfl
    (by decide)
  exact @Exchanged.answer _ (resent.take 8) _ 6 .noUpdateAvailable true hfailed rfl (by decide)

/-- Of the two older messages one was answered before the new signal and the other failed after
it, so it is a message sent after the signal that was answered. -/
theorem answered_since_resignal :
    Exchanged (plain (.scripted [])) resent resentDevice ∧
      ∃ message j, 5 < j ∧ resent[message]? = some (.ticked (.sent .noUpdateAvailable)) ∧
        resent[j]? = some (.answered message true) ∧ 5 < message := by
  obtain ⟨message, j, hlt, hmessage, hanswer, hafter⟩ :=
    answered_since_signal (ofSettings_plain _) exchanged_resent (e := .noUpdateAvailable) rfl
      (i := 5) rfl
  exact ⟨exchanged_resent, message, j, hlt, hmessage, hanswer, hafter (by decide)⟩

end Device

end DeviceTwin
