/-
Draining the mailbox of a device.  To hear a notification puts no other into the mailbox, so
a device has heard all after as many steps as there were notifications, those that wait
outside included.  In which batches it hears them, and when those outside come in, makes no
difference, nor does it whether they pass through the mailbox at all.
-/
import DeviceTwin.Proofs.Device.Inbound

namespace DeviceTwin

theorem Link.report_withInbox (l : Link) (inbox : Mailbox Letter) (payload : String) :
    ({ l with inbox } : Link).report payload =
      { l.report payload with link := { (l.report payload).link with inbox } } := by
  unfold report
  cases l.kind with
  | scripted script => rfl
  | loopback loopback =>
      dsimp only
      rcases loopback.report payload with ⟨result, after⟩
      cases result <;> rfl

namespace Device

variable {d after : Device} {heard : List Notification}

/-! ## The mailbox does not matter to what is heard -/

theorem call_report_withInbox (payload : String) (d : Device) (inbox : Mailbox Link.Letter) :
    (d.withInbox inbox).call (.report payload) =
      ((d.call (.report payload)).1, (d.call (.report payload)).2.withInbox inbox) := by
  have hreport : (d.withInbox inbox).link.perform (.report payload) =
      { d.link.perform (.report payload) with
        link := { (d.link.perform (.report payload)).link with inbox } } :=
    d.link.report_withInbox inbox payload
  unfold call
  rw [hreport]
  rfl

theorem introduce_withInbox (d : Device) (inbox : Mailbox Link.Letter) :
    (d.withInbox inbox).introduce = d.introduce.withInbox inbox := by
  have hserial : (d.withInbox inbox).settings.serial = d.settings.serial := rfl
  unfold introduce
  rw [hserial]
  cases d.settings.serial with
  | none => rfl
  | some serialNumber =>
      have hreport : (d.withInbox inbox).reportDetails serialNumber =
          ((d.reportDetails serialNumber).1, (d.reportDetails serialNumber).2.withInbox inbox) :=
        d.call_report_withInbox _ inbox
      dsimp only
      rw [hreport]
      rcases d.reportDetails serialNumber with ⟨result, after⟩
      cases result <;> rfl

theorem applyReading_withInbox (reading : Desired.Reading) (d : Device)
    (inbox : Mailbox Link.Letter) :
    (d.withInbox inbox).applyReading reading = (d.applyReading reading).withInbox inbox := by
  cases reading <;> rfl

theorem connectionChanged_withInbox (connected : Bool) (d : Device)
    (inbox : Mailbox Link.Letter) :
    (d.withInbox inbox).connectionChanged connected =
      (d.connectionChanged connected).withInbox inbox := by
  have hraised : ∀ raised : Device,
      (if connected && !raised.broken then (raised.withInbox inbox).introduce
        else raised.withInbox inbox) =
      (if connected && !raised.broken then raised.introduce else raised).withInbox inbox := by
    intro raised
    split
    · exact raised.introduce_withInbox inbox
    · rfl
  exact hraised (Device.raise (.connection connected)
    { d.log [Log.info s!"Cloud connection changed: connected={connected}"] with connected })

theorem hear_withInbox (n : Notification) (d : Device) (inbox : Mailbox Link.Letter) :
    (d.withInbox inbox).hear n = (d.hear n).withInbox inbox := by
  cases n with
  | delivery success tag => rfl
  | desired document =>
      let reading := Desired.Reading.ofDocument d.settings.property document
      exact applyReading_withInbox reading
        ({ d with version := reading.versionAfter d.version }.log
          (reading.records d.settings.property d.version)) inbox
  | invocation method payload reply =>
      have hinvoke : (d.withInbox inbox).invoke method payload =
          ((d.invoke method payload).1, (d.invoke method payload).2.withInbox inbox) := rfl
      simp only [hear, hinvoke]
      rcases d.invoke method payload with ⟨response, after⟩
      cases response with
      | none => rfl
      | some response => cases reply <;> rfl
  | connection connected => exact connectionChanged_withInbox connected d inbox

/-! ## Every way of draining -/

/-- The ways to drain a device: it hears the oldest notification in its mailbox, and those that
wait outside may come in at any time when there is room. -/
inductive Drains (d : Device) : List Notification → Device → Prop
  | start : Drains d [] d
  | hear {heard : List Notification} {mid rest : Device} {n : Notification}
      (hearlier : Drains d heard mid) (hpop : mid.popNotification? = some (n, rest)) :
      Drains d (heard ++ [n]) (rest.hear n)
  | letIn {heard : List Notification} {mid : Device} (hearlier : Drains d heard mid) :
      Drains d heard mid.refill

/-- A device after it has heard notifications that did not pass through its mailbox. -/
def hearAll (d : Device) (heard : List Notification) : Device := d.run (heard.map .hear)

theorem hearAll_append_singleton (d : Device) (heard : List Notification) (n : Notification) :
    d.hearAll (heard ++ [n]) = (d.hearAll heard).hear n := by
  rw [hearAll, List.map_append, run_append]
  rfl

/-- What a notification that is taken out of the mailbox leaves there. -/
theorem eq_of_popNotification? {rest : Device} {n : Notification}
    (hpop : d.popNotification? = some (n, rest)) :
    ∃ letter inbox, d.link.inbox.pop? = some (letter, inbox) ∧ n = letter.content ∧
      rest = d.withInbox inbox := by
  unfold popNotification? at hpop
  split at hpop
  · next letter inbox hinbox =>
      cases hpop
      exact ⟨letter, inbox, hinbox, rfl, rfl⟩
  · contradiction

/-- What is heard was on its way before, in this order, and what is left still is.  But for
the mailbox the device is as if it had heard the same without it. -/
structure Drained (d : Device) (heard : List Notification) (after : Device) : Prop where
  order : d.link.onTheWay = heard ++ after.link.onTheWay
  device : after = (d.hearAll heard).withInbox after.link.inbox
  capacity : after.link.inbox.capacity = d.link.inbox.capacity
  isOpen : after.link.inbox.isOpen = d.link.inbox.isOpen

theorem Drained.hear {mid rest : Device} {n : Notification} (hdrained : d.Drained heard mid)
    (hpop : mid.popNotification? = some (n, rest)) : d.Drained (heard ++ [n]) (rest.hear n) := by
  obtain ⟨letter, inbox, hinbox, rfl, rfl⟩ := eq_of_popNotification? hpop
  have hempty : ((mid.withInbox inbox).hear letter.content).link.inbox = inbox :=
    inbox_hear letter.content (mid.withInbox inbox)
  have hrest := (Mailbox.eq_of_pop?_eq_some hinbox).2
  refine ⟨?_, ?_, ?_, ?_⟩
  · rw [hdrained.order, List.append_assoc, Link.onTheWay, Link.onTheWay, hempty,
      Mailbox.toList_of_pop? hinbox]
    rfl
  · rw [hempty, hearAll_append_singleton, ← hear_withInbox]
    have hmid := congrArg (withInbox · inbox) hdrained.device
    exact congrArg (Device.hear letter.content) hmid
  · rw [hempty, hrest]
    exact hdrained.capacity
  · rw [hempty, hrest]
    exact hdrained.isOpen

theorem Drained.letIn {mid : Device} (hdrained : d.Drained heard mid) :
    d.Drained heard mid.refill := by
  refine ⟨?_, ?_, hdrained.capacity, hdrained.isOpen⟩
  · rw [hdrained.order]
    exact congrArg (fun letters => heard ++ letters.map Link.Letter.content)
      (Mailbox.toList_refill mid.link.inbox).symm
  · have hmid := congrArg (withInbox · mid.link.inbox.refill) hdrained.device
    exact hmid

theorem Drains.drained (hdrains : d.Drains heard after) : d.Drained heard after := by
  induction hdrains with
  | start => exact ⟨rfl, rfl, rfl, rfl⟩
  | hear _ hpop ih => exact ih.hear hpop
  | letIn _ ih => exact ih.letIn

/-- As long as something is on its way, the oldest notification can be heard, if need be after
those outside have come in. -/
theorem Drains.exists_next (hdrains : d.Drains heard after) (hsome : after.link.onTheWay ≠ []) :
    ∃ n further, d.Drains (heard ++ [n]) further := by
  cases hpop : after.link.inbox.pop? with
  | some popped =>
      have hnext : after.popNotification? =
          some (popped.1.content, after.withInbox popped.2) := by
        rw [popNotification?, hpop]
        rfl
      exact ⟨_, _, hdrains.hear hnext⟩
  | none =>
      have hfits : after.link.inbox.queue.length ≤ after.link.inbox.capacity := by
        rw [Mailbox.pop?_eq_none_iff.mp hpop]
        exact Nat.zero_le _
      have hpacked := Mailbox.packed_refill hfits
      cases hagain : after.link.inbox.refill.pop? with
      | some popped =>
          have hinbox : after.refill.link.inbox.pop? = some popped := hagain
          have hnext : after.refill.popNotification? =
              some (popped.1.content, after.refill.withInbox popped.2) := by
            rw [popNotification?, hinbox]
            rfl
          exact ⟨_, _, hdrains.letIn.hear hnext⟩
      | none =>
          have hempty := hpacked.toList_of_pop?_eq_none hagain
          rw [Mailbox.toList_refill] at hempty
          exact absurd (congrArg (List.map Link.Letter.content) hempty) hsome

/-! ## Hearing without the mailbox -/

theorem Memory.calls_of_notification {m : Memory} {step : Step} {n : Notification}
    (hheard : step.notification? = some n) : m.calls step = m.calls (.hear n) := by
  cases step <;> cases hheard <;> rfl

theorem isRelink_of_notification {step : Step} {n : Notification}
    (hheard : step.notification? = some n) : step.isRelink = false := by
  cases step <;> first | rfl | contradiction

/-- To have the device do what a notification asks for leads to the same as the notification. -/
theorem run_of_notifications {steps : List Step} {heard : List Notification}
    (hsame : steps.map Step.notification? = heard.map some) {d d' : Device}
    (hmemory : d'.memory = d.memory) (hlink : d'.link = d.link) :
    (d.run steps).memory = (d'.hearAll heard).memory ∧
      (d.run steps).link = (d'.hearAll heard).link ∧
        d.memory.effectsAlong steps = d'.memory.effectsAlong (heard.map .hear) := by
  induction steps generalizing heard d d' with
  | nil =>
      obtain rfl := List.map_eq_nil_iff.mp hsame.symm
      exact ⟨hmemory.symm, hlink.symm, rfl⟩
  | cons step later ih =>
      cases heard with
      | nil => contradiction
      | cons n rest =>
          obtain ⟨hheard, hrest⟩ := List.cons.inj hsame
          have hafter : (d'.act (.hear n)).memory = (d.act step).memory := by
            rw [memory_act, memory_act, hmemory, Memory.act_of_notification hheard]
            rfl
          have hlinked : (d'.act (.hear n)).link = (d.act step).link := by
            rw [(makes_act d step (isRelink_of_notification hheard)).link,
              (makes_act d' (.hear n) rfl).link, hmemory, hlink,
              Memory.calls_of_notification hheard]
          obtain ⟨hlast, hkind, heffects⟩ := ih hrest hafter hlinked
          refine ⟨hlast, hkind, ?_⟩
          rw [List.map_cons, Memory.effectsAlong, Memory.effectsAlong, ← memory_act, ← memory_act,
            heffects, hmemory, Memory.effects_of_notification hheard]

/-! ## Batches -/

/-- The notifications that are heard at most in batches of given sizes. -/
def total (sizes : List Nat) : Nat := sizes.foldr (· + ·) 0

/-- Drains a device in batches of given sizes. -/
def drainBatches : List Nat → Device → List Notification × Device
  | [], d => ([], d)
  | size :: later, d =>
      let (heard, d) := d.drain size
      let (more, d) := drainBatches later d
      (heard ++ more, d)

theorem drain_of_empty (hpop : d.popNotification? = none) (limit : Nat) :
    d.drain limit = ([], d) := by
  cases limit with
  | zero => rfl
  | succ limit => rw [drain, hpop]

/-- A draining goes on after each notification if no hook fails. -/
theorem drain_succ (hsound : d.memory.Sound) {n : Notification} {rest : Device}
    (hpop : d.popNotification? = some (n, rest)) (limit : Nat) :
    (rest.hear n).refill.memory.Sound ∧
      d.drain (limit + 1) =
        (n :: ((rest.hear n).refill.drain limit).1, ((rest.hear n).refill.drain limit).2) := by
  obtain ⟨letter, inbox, -, rfl, rfl⟩ := eq_of_popNotification? hpop
  have hafter : ((d.withInbox inbox).hear letter.content).refill.memory.Sound := by
    change ((d.withInbox inbox).hear letter.content).memory.Sound
    rw [memory_hear]
    exact hsound.hear letter.content
  refine ⟨hafter, ?_⟩
  have hintact : ((d.withInbox inbox).hear letter.content).refill.broken = false := hafter.intact
  rw [drain, hpop]
  dsimp only
  rw [hintact]
  rfl

theorem drain_add (hsound : d.memory.Sound) (first second : Nat) :
    d.drain (first + second) =
      ((d.drain first).1 ++ ((d.drain first).2.drain second).1,
        ((d.drain first).2.drain second).2) := by
  induction first generalizing d with
  | zero =>
      rw [Nat.zero_add]
      rfl
  | succ first ih =>
      rw [Nat.succ_add]
      cases hpop : d.popNotification? with
      | none =>
          rw [drain_of_empty hpop, drain_of_empty hpop]
          dsimp only
          rw [drain_of_empty hpop]
          rfl
      | some popped =>
          obtain ⟨hafter, hdrain⟩ := drain_succ hsound hpop (first + second)
          rw [hdrain, (drain_succ hsound hpop first).2, ih hafter]
          rfl

/-- A limited draining is one of the ways to drain. -/
theorem Drains.drain {mid : Device} (hdrains : d.Drains heard mid) (hsound : mid.memory.Sound)
    (limit : Nat) : d.Drains (heard ++ (mid.drain limit).1) (mid.drain limit).2 := by
  induction limit generalizing heard mid with
  | zero =>
      rw [Device.drain, List.append_nil]
      exact hdrains
  | succ limit ih =>
      cases hpop : mid.popNotification? with
      | none =>
          rw [drain_of_empty hpop, List.append_nil]
          exact hdrains
      | some popped =>
          obtain ⟨hafter, hdrain⟩ := drain_succ hsound hpop limit
          have hlater := ih (hdrains.hear hpop).letIn hafter
          rw [hdrain, List.append_cons]
          exact hlater

theorem Drained.sound (hdrained : d.Drained heard after) (hsound : d.memory.Sound) :
    after.memory.Sound := by
  have hmemory := congrArg memory hdrained.device
  rw [hmemory]
  exact (sound_run hsound _).1

theorem drainBatches_eq (hsound : d.memory.Sound) (sizes : List Nat) :
    d.drainBatches sizes = d.drain (total sizes) := by
  induction sizes generalizing d with
  | nil => rfl
  | cons size later ih =>
      have hafter := (Drains.start.drain hsound size).drained.sound hsound
      rw [total, List.foldr_cons, drain_add hsound]
      exact congrArg (fun more => ((d.drain size).1 ++ more.1, more.2)) (ih hafter)

/-- If nobody waits without need, a limited draining hears as much as it may. -/
theorem heard_drain (hsound : d.memory.Sound) (hpacked : d.link.inbox.Packed) (limit : Nat) :
    (d.drain limit).1 = d.link.onTheWay.take limit := by
  induction limit generalizing d with
  | zero => rfl
  | succ limit ih =>
      cases hpop : d.popNotification? with
      | none =>
          have hinbox : d.link.inbox.pop? = none := by
            unfold popNotification? at hpop
            split at hpop
            · contradiction
            · assumption
          rw [drain_of_empty hpop, Link.onTheWay, hpacked.toList_of_pop?_eq_none hinbox]
          rfl
      | some popped =>
          obtain ⟨n, rest⟩ := popped
          obtain ⟨hafter, hdrain⟩ := drain_succ hsound hpop limit
          obtain ⟨letter, inbox, hinbox, rfl, rfl⟩ := eq_of_popNotification? hpop
          have hrefilled : ((d.withInbox inbox).hear letter.content).refill.link.inbox =
              inbox.refill := congrArg Mailbox.refill (inbox_hear letter.content _)
          have hheard := ih hafter (hrefilled ▸ hpacked.refill_of_pop? hinbox)
          rw [hdrain, hheard, Link.onTheWay, Link.onTheWay, hrefilled, Mailbox.toList_refill,
            Mailbox.toList_of_pop? hinbox]
          rfl

/-! ## What draining comes to -/

/-- A device that has heard all that was on its way. -/
def emptied (d : Device) : Device :=
  (d.hearAll d.link.onTheWay).withInbox { d.link.inbox with queue := [], waiting := [] }

theorem Drained.eq_emptied (hdrained : d.Drained heard after)
    (hnothing : after.link.onTheWay = []) : heard = d.link.onTheWay ∧ after = d.emptied := by
  have hheard : heard = d.link.onTheWay := by
    rw [hdrained.order, hnothing, List.append_nil]
  have hmailbox : after.link.inbox = { d.link.inbox with queue := [], waiting := [] } := by
    obtain ⟨hqueue, hwaiting⟩ := List.append_eq_nil_iff.mp (List.map_eq_nil_iff.mp hnothing)
    have hcapacity := hdrained.capacity
    have hopen := hdrained.isOpen
    rcases hinbox : after.link.inbox with ⟨capacity, capacity_pos, queue, waiting, isOpen⟩
    rw [hinbox] at hqueue hwaiting hcapacity hopen
    dsimp only at hqueue hwaiting hcapacity hopen
    subst hqueue hwaiting hcapacity hopen
    rfl
  refine ⟨hheard, ?_⟩
  rw [emptied, ← hheard, ← hmailbox]
  exact hdrained.device

/-- What draining a device comes to, however it is done. -/
structure Drainage (d : Device) : Prop where
  /-- To hear a notification puts no other into the mailbox. -/
  silent {heard : List Notification} {after : Device} (n : Notification) :
    d.Drains heard after → (after.hear n).link.inbox = after.link.inbox
  /-- The notifications are heard in their order, and nothing comes to them. -/
  order {heard : List Notification} {after : Device} : d.Drains heard after →
    d.link.onTheWay = heard ++ after.link.onTheWay
  /-- No hook fails. -/
  intact {heard : List Notification} {after : Device} : d.Drains heard after →
    after.broken = false
  /-- It goes on as long as anything is left. -/
  progress {heard : List Notification} {after : Device} : d.Drains heard after →
    after.link.onTheWay ≠ [] → ∃ n further, d.Drains (heard ++ [n]) further
  /-- It is over after as many steps as there were notifications at the start. -/
  steps {heard : List Notification} {after : Device} : d.Drains heard after →
    (after.link.onTheWay = [] ↔ heard.length = d.link.onTheWay.length)
  /-- Then the device is the same, however it was drained. -/
  same {heard : List Notification} {after : Device} : d.Drains heard after →
    after.link.onTheWay = [] → after = d.emptied
  /-- Whatever was heard, the device could as well have been told directly. -/
  directly {heard : List Notification} {after : Device} {steps : List Step} :
    d.Drains heard after → steps.map Step.notification? = heard.map some →
      after.memory = (d.run steps).memory ∧
      (after.link.name, after.link.kind) = ((d.run steps).link.name, (d.run steps).link.kind) ∧
      ∃ effects, d.Leaves after effects ∧ d.Leaves (d.run steps) effects
  batches (sizes : List Nat) : d.drainBatches sizes = d.drain (total sizes) ∧
    d.Drains (d.drainBatches sizes).1 (d.drainBatches sizes).2
  /-- If nobody waits without need, batches that are large enough leave nothing over. -/
  whole {sizes : List Nat} : d.link.inbox.Packed → d.link.onTheWay.length ≤ total sizes →
    d.drainBatches sizes = (d.link.onTheWay, d.emptied) ∧ d.drainAll = (d.link.onTheWay, d.emptied)

theorem drain_eq_emptied (hsound : d.memory.Sound) (hpacked : d.link.inbox.Packed) {limit : Nat}
    (hlimit : d.link.onTheWay.length ≤ limit) : d.drain limit = (d.link.onTheWay, d.emptied) := by
  have hheard := heard_drain hsound hpacked limit
  rw [List.take_of_length_le hlimit] at hheard
  have hdrained := (Drains.start.drain hsound limit).drained
  rw [List.nil_append] at hdrained
  have hnothing : (d.drain limit).2.link.onTheWay = [] := by
    have horder := hdrained.order
    rw [hheard] at horder
    exact List.self_eq_append_right.mp horder
  exact Prod.ext hheard (hdrained.eq_emptied hnothing).2

/-- Draining a device on which no hook fails comes to an end by itself, and neither batches nor
the mailbox make a difference. -/
theorem drainage_of_sound (hsound : d.memory.Sound) : d.Drainage := by
  refine ⟨fun n _ => inbox_hear n _, ?_, ?_, ?_, ?_, ?_, ?_, ?_, ?_⟩
  · intro heard after hdrains
    exact hdrains.drained.order
  · intro heard after hdrains
    exact (hdrains.drained.sound hsound).intact
  · intro heard after hdrains hsome
    exact hdrains.exists_next hsome
  · intro heard after hdrains
    have hlength := congrArg List.length hdrains.drained.order
    rw [List.length_append] at hlength
    rw [← List.length_eq_zero_iff]
    omega
  · intro heard after hdrains hnothing
    exact (hdrains.drained.eq_emptied hnothing).2
  · intro heard after steps hdrains hsame
    obtain ⟨hmemory, hlink, heffects⟩ := run_of_notifications hsame (d := d) rfl rfl
    have hafter := hdrains.drained.device
    refine ⟨?_, ?_, d.memory.effectsAlong steps, ?_, leaves_run d steps⟩
    · rw [hmemory, hafter]
      rfl
    · rw [hlink, hafter]
      rfl
    · rw [heffects, hafter]
      exact leaves_run d _
  · intro sizes
    have hbatches := drainBatches_eq hsound sizes
    refine ⟨hbatches, ?_⟩
    rw [hbatches]
    exact Drains.start.drain hsound (total sizes)
  · intro sizes hpacked hlimit
    rw [drainBatches_eq hsound]
    refine ⟨drain_eq_emptied hsound hpacked hlimit, drain_eq_emptied hsound hpacked ?_⟩
    rw [Link.onTheWay, List.length_map]

/-- A device with a mailbox for one notification, before which two more wait. -/
def crowded : Device :=
  { attended with
    link :=
      { name := "loopback", kind := .loopback {}
        inbox :=
          { capacity := 1, capacity_pos := Nat.one_pos
            queue := [⟨.link, .delivery true (some .appRestart)⟩]
            waiting := [⟨.outside 0, .connection true⟩, ⟨.outside 1, .desired ""⟩] } } }

/-- Two batches take all three notifications out. -/
theorem drainBatches_crowded :
    crowded.memory.Sound ∧ crowded.link.inbox.Packed ∧
      crowded.drainBatches [1, 2] = (crowded.link.onTheWay, crowded.emptied) := by
  have hsound : crowded.memory.Sound := ⟨rfl, fun _ c => by cases c <;> rfl⟩
  have hlarge : crowded.link.onTheWay.length ≤ total [1, 2] := Nat.le_refl 3
  exact ⟨hsound, rfl, ((drainage_of_sound hsound).whole rfl hlarge).1⟩

end Device

end DeviceTwin
