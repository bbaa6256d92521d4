/-
Devices whose links answer differently.  The answers show in what the entry points give
back and nowhere else: two devices with the same settings that are used in the same way
stay in the same state and have the same effects, whatever their links answer.
-/
import DeviceTwin.Proofs.Bench.Basic
import DeviceTwin.Proofs.Device.Effects
import DeviceTwin.Service

namespace DeviceTwin

namespace Link

/-- The answer that is laid down for a call, where the calls are counted from zero.  When
the answers are used up every call succeeds. -/
def answerAt (results : List Result) (n : Nat) : Result := results[n]?.getD (.ok ())

theorem Scripted.take_drop (results : List Result) (n : Nat) :
    Scripted.take ⟨results.drop n⟩ = (answerAt results n, ⟨results.drop (n + 1)⟩) := by
  unfold take answerAt
  by_cases hlength : n < results.length
  · rw [List.drop_eq_getElem_cons hlength, List.getElem?_eq_getElem hlength]
    rfl
  · have hlength : results.length ≤ n := Nat.le_of_not_lt hlength
    rw [List.drop_eq_nil_of_le hlength, List.drop_eq_nil_of_le (Nat.le_succ_of_le hlength),
      List.getElem?_eq_none hlength]
    rfl

variable {results : List Result} {n : Nat} {l : Link}

/-- Every call but the last takes the next answer. -/
theorem perform_of_scripted (hkind : l.kind = .scripted ⟨results.drop n⟩) {c : Call}
    (hopen : c ≠ .close) :
    (l.perform c).result = answerAt results n ∧
      (l.perform c).link.kind = .scripted ⟨results.drop (n + 1)⟩ := by
  obtain ⟨name, kind, inbox⟩ := l
  dsimp only at hkind
  subst hkind
  cases c with
  | close => contradiction
  | start model =>
      simp only [perform, start, Scripted.take_drop, and_self]
  | telemetry payload tag =>
      simp only [perform, telemetry, Scripted.take_drop, and_self]
  | report payload =>
      simp only [perform, report, Scripted.take_drop, and_self]

theorem kind_performAll_of_scripted (hkind : l.kind = .scripted ⟨results.drop n⟩)
    {calls : List Call} (hopen : .close ∉ calls) :
    (l.performAll calls).kind = .scripted ⟨results.drop (n + calls.length)⟩ := by
  induction calls generalizing l n with
  | nil => exact hkind
  | cons c later ih =>
      rw [List.mem_cons, not_or] at hopen
      rw [List.length_cons, Nat.add_comm later.length, ← Nat.add_assoc]
      exact ih (perform_of_scripted hkind (Ne.symm hopen.1)).2 hopen.2

end Link

namespace Bench

/-- The fault in what an entry point gives back: a refusal to start, or an error of the link
as the service would answer it. -/
def Reply.fault? : Reply → Option Fault
  | .started (.error cause) => some cause
  | .sent result =>
      match Service.ofResult result with
      | .failed cause => some cause
      | _ => none
  | _ => none

end Bench

namespace Device

open Bench (Reply replyOf)

/-- What a tick does if the link gives an answer to the message. -/
def Memory.tickOn (m : Memory) (answer : Link.Result) : Tick :=
  match m.pending.next?, answer with
  | none, _ => .idle
  | some e, .ok () => .sent e
  | some e, .error cause => .refused e cause

/-- What an entry point gives back if the link gives an answer to the call that the entry
point makes.  If it makes none the answer does not matter. -/
def Memory.replyTo (m : Memory) (answer : Link.Result) : Step → Reply
  | .startLink => .started (answer.mapError .linkStart)
  | .sendTelemetry _ | .sendMoved | .reportDetails _ | .reportUpload _ => .sent answer
  | .tick => .ticked (m.tickOn answer)
  | .settle success tag => .settled (m.pending.settle success tag).1
  | .reconcile document =>
      .reconciled
        ((Desired.Reading.ofDocument m.settings.property document).reconciliation? m.version)
  | .invoke method payload => .responded (Method.dispatch m.hooks m.raised method payload).response
  | .signal _ | .connectionChanged _ | .hear _ | .relink _ => .done

/-- The fault as which an entry point gives an answer of the link back. -/
def Step.faultFor? (answer : Link.Result) : Step → Option Fault
  | .startLink =>
      match answer with
      | .ok () => none
      | .error cause => some (.linkStart cause)
  | .sendTelemetry _ | .sendMoved | .reportDetails _ | .reportUpload _ =>
      match answer with
      | .ok () => none
      | .error cause => some (.link cause)
  | _ => none

theorem Memory.fault?_replyTo (m : Memory) (answer : Link.Result) (step : Step) :
    (m.replyTo answer step).fault? = step.faultFor? answer := by
  cases step with
  | _ => cases answer <;> rfl

/-- The calls on the link that a device has made. -/
def made (d : Device) : List Link.Call := Journal.linkCalls d.journal.toList

/-- A device whose link answers by a list, of which each call so far has taken an answer. -/
def Reads (results : List Link.Result) (d : Device) : Prop :=
  d.link.kind = .scripted ⟨results.drop d.made.length⟩

/-- The answer to the next call of such a device. -/
def nextAnswer (results : List Link.Result) (d : Device) : Link.Result :=
  Link.answerAt results d.made.length

variable {results : List Link.Result} {d : Device}

theorem Called.made_eq {after : Device} {calls : List Link.Call} (hcalled : d.Called after calls) :
    after.made = d.made ++ calls := by
  obtain ⟨entries, hnoted, rfl⟩ := hcalled
  rw [made, hnoted.journal, Journal.linkCalls_append]
  rfl

theorem Reads.act (hreads : d.Reads results) {step : Step} (hown : step.isRelink = false) :
    (d.act step).Reads results := by
  have hmakes := makes_act d step hown
  rw [Reads, hmakes.link, hmakes.called.made_eq, List.length_append]
  exact Link.kind_performAll_of_scripted hreads (d.memory.close_not_mem_calls step)

theorem Reads.run (hreads : d.Reads results) {steps : List Step}
    (hown : ∀ step ∈ steps, step.isRelink = false) : (d.run steps).Reads results := by
  induction steps generalizing d with
  | nil => exact hreads
  | cons step later ih =>
      rw [List.forall_mem_cons] at hown
      exact ih (hreads.act hown.1) hown.2

/-- A call gives back the next answer. -/
theorem Reads.call (hreads : d.Reads results) {c : Link.Call} (hopen : c ≠ .close) :
    (d.call c).1 = d.nextAnswer results :=
  (Link.perform_of_scripted hreads hopen).1

theorem Reads.startLink (hreads : d.Reads results) :
    d.startLink.1 = (d.nextAnswer results).mapError .linkStart := by
  have hresult := hreads.call (c := .start d.settings.model) (by simp)
  unfold Device.startLink
  rcases hcall : d.call (.start d.settings.model) with ⟨result, after⟩
  rw [hcall] at hresult
  rw [← hresult]
  cases result <;> rfl

theorem Reads.tick (hreads : d.Reads results) :
    d.tick.1 = d.memory.tickOn (d.nextAnswer results) := by
  unfold Device.tick Memory.tickOn
  change _ = match d.pending.next?, d.nextAnswer results with
    | none, _ => Tick.idle
    | some e, .ok () => .sent e
    | some e, .error cause => .refused e cause
  cases d.pending.next? with
  | none => rfl
  | some e =>
      dsimp only
      have hresult : ((d.log [Log.debug s!"Trying to send {e.name} event"]).send e.announcement
          (some e)).1 = d.nextAnswer results := (Link.perform_of_scripted hreads (by simp)).1
      rcases hsend : (d.log [Log.debug s!"Trying to send {e.name} event"]).send e.announcement
        (some e) with ⟨result, after⟩
      rw [hsend] at hresult
      rw [← hresult]
      cases result <;> rfl

/-- What an entry point gives back follows from what the device keeps in mind and from the
next answer of the link. -/
theorem Reads.replyOf_eq (hreads : d.Reads results) {step : Step} (hown : step.isRelink = false) :
    replyOf d step = d.memory.replyTo (d.nextAnswer results) step := by
  cases step with
  | startLink => exact congrArg Reply.started hreads.startLink
  | tick => exact congrArg Reply.ticked hreads.tick
  | sendTelemetry t => exact congrArg Reply.sent (hreads.call (by simp))
  | sendMoved => exact congrArg Reply.sent (hreads.call (by simp))
  | reportDetails serialNumber => exact congrArg Reply.sent (hreads.call (by simp))
  | reportUpload enabled =>
      exact congrArg Reply.sent
        (Reads.call (d := { d with version := d.version.advance }) hreads (by simp))
  | _ => rfl

/-- Two devices that agree in all but the answers of their links. -/
structure Agree (results results' : List Link.Result) (d d' : Device) : Prop where
  status : d'.status = d.status
  /-- They have raised the same hooks and made the same calls, in one order. -/
  effects : Journal.effects d'.journal.toList = Journal.effects d.journal.toList
  hooks : Journal.hookCalls d'.journal.toList = Journal.hookCalls d.journal.toList
  calls : d'.made = d.made
  /-- What they give back differs by the answers to the next call, if it makes one. -/
  replies : ∀ step, step.isRelink = false →
    replyOf d step = d.memory.replyTo (d.nextAnswer results) step ∧
      replyOf d' step = d.memory.replyTo (d.nextAnswer results') step
  faults : ∀ step, step.isRelink = false →
    (replyOf d step).fault? = step.faultFor? (d.nextAnswer results) ∧
      (replyOf d' step).fault? = step.faultFor? (d.nextAnswer results')

variable {results' : List Link.Result} {d' : Device}

theorem agree_of_reads (hmemory : d'.memory = d.memory)
    (heffects : Journal.effects d'.journal.toList = Journal.effects d.journal.toList)
    (hreads : d.Reads results) (hreads' : d'.Reads results') : Agree results results' d d' := by
  have hcalls : d'.made = d.made := by
    rw [made, made, Journal.linkCalls_eq_filterMap_effects, heffects,
      Journal.linkCalls_eq_filterMap_effects]
  have hanswer : d'.nextAnswer results' = d.nextAnswer results' := by
    rw [nextAnswer, nextAnswer, hcalls]
  have hreplies : ∀ step : Step, step.isRelink = false →
      replyOf d step = d.memory.replyTo (d.nextAnswer results) step ∧
        replyOf d' step = d.memory.replyTo (d.nextAnswer results') step := by
    intro step hown
    refine ⟨hreads.replyOf_eq hown, ?_⟩
    rw [hreads'.replyOf_eq hown, hmemory, hanswer]
  refine ⟨?_, heffects, ?_, hcalls, hreplies, fun step hown => ?_⟩
  · exact congrArg (fun m : Memory => Status.mk m.pending.toList m.version.current m.connected)
      hmemory
  · rw [Journal.hookCalls_eq_filterMap_effects, heffects, Journal.hookCalls_eq_filterMap_effects]
  · rw [(hreplies step hown).1, (hreplies step hown).2, Memory.fault?_replyTo,
      Memory.fault?_replyTo]
    exact ⟨rfl, rfl⟩

theorem reads_of_ofSettings {settings : Settings} {hooks : Hooks} {link : Link}
    (hcreated : ofSettings settings hooks link = .ok d)
    (hscripted : link.kind = .scripted ⟨results⟩) : d.Reads results := by
  obtain ⟨-, hlink, hjournal⟩ := eq_of_ofSettings hcreated
  rw [Reads, made, hlink, hjournal, hscripted]
  rfl

/-- Devices with the same settings and hooks that are used in the same way agree after every
step, whatever their links answer. -/
theorem agree_of_scripted {settings : Settings} {hooks : Hooks} {link link' : Link}
    (hcreated : ofSettings settings hooks link = .ok d)
    (hcreated' : ofSettings settings hooks link' = .ok d')
    (hscripted : link.kind = .scripted ⟨results⟩) (hscripted' : link'.kind = .scripted ⟨results'⟩)
    (steps : List Step) (hown : ∀ step ∈ steps, step.isRelink = false) :
    Agree results results' (d.run steps) (d'.run steps) := by
  obtain ⟨hmemory, -, hjournal⟩ := eq_of_ofSettings hcreated
  obtain ⟨hmemory', -, hjournal'⟩ := eq_of_ofSettings hcreated'
  have hsame : d'.memory = d.memory := hmemory'.trans hmemory.symm
  apply agree_of_reads
  · rw [memory_run, memory_run, hsame]
  · rw [leaves_run d' steps, leaves_run d steps, hsame, hjournal, hjournal']
  · exact (reads_of_ofSettings hcreated hscripted).run hown
  · exact (reads_of_ofSettings hcreated' hscripted').run hown

/-- A link that starts, then has no network and then fails. -/
def outage : List Link.Result := [.ok (), .error .noNetwork, .error (.failure "broker gone")]

/-- The start, a tick, a report that is refused and the news of a connection. -/
def troubled : List Step := [.startLink, .tick, .reportUpload true, .connectionChanged true]

/-- A device with such a link and one whose link works, of which only the first is told of
the trouble. -/
theorem agree_of_outage :
    ((plain (.scripted outage)).run troubled).status =
        ((plain (.scripted [])).run troubled).status ∧
      ((plain (.scripted outage)).run troubled).made =
        ((plain (.scripted [])).run troubled).made ∧
      replyOf ((plain (.scripted outage)).act .startLink) .tick =
        .ticked (.refused .appRestart .noNetwork) ∧
      replyOf ((plain (.scripted [])).act .startLink) .tick = .ticked (.sent .appRestart) := by
  have hagree := agree_of_scripted (ofSettings_plain (.scripted []))
    (ofSettings_plain (.scripted outage)) rfl rfl troubled (by simp [troubled, Step.isRelink])
  obtain ⟨hworking, htroubled⟩ := (agree_of_scripted (ofSettings_plain (.scripted []))
    (ofSettings_plain (.scripted outage)) rfl rfl [.startLink] (by simp [Step.isRelink])).replies
      .tick rfl
  exact ⟨hagree.status, hagree.calls, htroubled, hworking⟩

end Device

end DeviceTwin
