/-
Two devices whose mailboxes have different capacities.  Whatever is done with both of them,
both give back the same and stay in the same state; all that tells them apart is which
notifications wait outside, and the log where it says that a delivery result has to wait.
-/
import DeviceTwin.Proofs.Bench.Inbound

namespace DeviceTwin

/-- What the log says of a delivery result that has to wait. -/
def Log.deferral (name : String) : Record :=
  debug s!"{name} inbound channel full, deferring acknowledgement"

namespace Journal

def Entry.isDeferral (name : String) : Entry → Bool
  | .record r => r == Log.deferral name
  | _ => false

/-- A journal without the entries that say of delivery results that they have to wait. -/
def undeferred (name : String) (journal : List Entry) : List Entry :=
  journal.filter (!·.isDeferral name)

theorem undeferred_append (name : String) (earlier later : List Entry) :
    undeferred name (earlier ++ later) = undeferred name earlier ++ undeferred name later :=
  List.filter_append earlier later

theorem undeferred_cons (name : String) (entry : Entry) (later : List Entry) :
    undeferred name (entry :: later) = undeferred name [entry] ++ undeferred name later :=
  undeferred_append name [entry] later

theorem undeferred_grow {name : String} {t t' : Trace Entry} {entries entries' : List Entry}
    (hsame : undeferred name t'.toList = undeferred name t.toList)
    (hentries : undeferred name entries' = undeferred name entries) :
    undeferred name (t' ++ entries').toList = undeferred name (t ++ entries).toList := by
  rw [Trace.toList_append, Trace.toList_append, undeferred_append, undeferred_append, hsame,
    hentries]

end Journal

namespace Link

/-- Two links that are the same but for the room in their mailboxes. -/
structure Alike (l l' : Link) : Prop where
  name : l'.name = l.name
  kind : l'.kind = l.kind
  letters : l'.inbox.toList = l.inbox.toList
  listening : l.Listening
  listening' : l'.Listening

theorem result?_withInbox (l : Link) (inbox : Mailbox Letter) (c : Call) :
    ({ l with inbox } : Link).result? c = l.result? c := by
  cases c with
  | telemetry payload tag =>
      rw [result?_telemetry, result?_telemetry]
      rfl
  | _ => rfl

theorem undeferred_acknowledge {l : Link} (hopen : l.inbox.isOpen = true) (success : Bool)
    (tag : Tag) : Journal.undeferred l.name ((l.acknowledge success tag).2.map .record) = [] := by
  rw [acknowledge, if_pos hopen]
  dsimp only
  split
  · exact List.filter_cons_of_neg (by simp [Journal.Entry.isDeferral, Log.deferral])
  · rfl

/-- What a call gives back does not depend on the mailbox, and what the log says of it only
where a delivery result has to wait. -/
theorem perform_withInbox (l : Link) {inbox : Mailbox Letter} (hopen : l.inbox.isOpen = true)
    (hopen' : inbox.isOpen = true) (c : Call) :
    (perform { l with inbox } c).result = (l.perform c).result ∧
      Journal.undeferred l.name ((perform { l with inbox } c).records.map .record) =
        Journal.undeferred l.name ((l.perform c).records.map .record) := by
  obtain ⟨name, kind, old⟩ := l
  cases kind with
  | scripted script => cases c <;> exact ⟨rfl, rfl⟩
  | loopback loopback =>
      cases c with
      | start model => exact ⟨rfl, rfl⟩
      | close => exact ⟨rfl, rfl⟩
      | report payload =>
          unfold perform report
          dsimp only
          rcases loopback.report payload with ⟨result, after⟩
          cases result <;> exact ⟨rfl, rfl⟩
      | telemetry payload tag =>
          unfold perform telemetry
          dsimp only
          rcases loopback.telemetry payload tag with ⟨result, after⟩
          cases result with
          | error cause => exact ⟨rfl, rfl⟩
          | ok _ =>
              cases loopback.acks.verdict? with
              | none => exact ⟨rfl, rfl⟩
              | some success =>
                  -- The records differ where the result has to wait for one link only.
                  have hnone := undeferred_acknowledge
                    (l := ⟨name, .loopback after, old⟩) hopen success tag
                  have hnone' := undeferred_acknowledge
                    (l := ⟨name, .loopback after, inbox⟩) hopen' success tag
                  refine ⟨rfl, (Journal.undeferred_cons _ _ _).trans ?_⟩
                  exact (congrArg _ (hnone'.trans hnone.symm)).trans
                    (Journal.undeferred_cons _ _ _).symm

theorem name_perform (l : Link) (c : Call) : (l.perform c).link.name = l.name := by
  rw [perform_eq]

variable {l l' : Link}

theorem Alike.eq (halike : l.Alike l') : l' = { l with inbox := l'.inbox } := by
  obtain ⟨name, kind, inbox⟩ := l
  obtain ⟨name', kind', inbox'⟩ := l'
  obtain ⟨rfl, rfl, -, -, -⟩ := halike
  rfl

/-- The letters of a link after a call, if nobody has stopped taking them. -/
theorem Listening.toList_perform (hlistening : l.Listening) (c : Call) :
    (l.perform c).link.inbox.toList =
      l.inbox.toList ++ (l.result? c).toList.map fun n => ⟨.link, n⟩ := by
  rw [inbox_perform, hlistening.isOpen]
  cases l.result? c with
  | none => exact (List.append_nil _).symm
  | some n => exact (hlistening.packed.push _).2

theorem Alike.perform (halike : l.Alike l') (c : Call) :
    (l'.perform c).result = (l.perform c).result ∧ (l.perform c).link.Alike (l'.perform c).link ∧
      Journal.undeferred l.name ((l'.perform c).records.map .record) =
        Journal.undeferred l.name ((l.perform c).records.map .record) := by
  obtain ⟨hresult, hrecords⟩ :=
    perform_withInbox l halike.listening.isOpen halike.listening'.isOpen c
  have hsame : l'.result? c = l.result? c := by
    rw [halike.eq]
    exact result?_withInbox l l'.inbox c
  have hname : (l'.perform c).link.name = (l.perform c).link.name := by
    rw [name_perform, name_perform, halike.name]
  have hkind : (l'.perform c).link.kind = (l.perform c).link.kind := by
    rw [perform_eq l' c, perform_eq l c, halike.name, halike.kind]
  rw [← halike.eq] at hresult hrecords
  refine ⟨hresult, ⟨hname, hkind, ?_, (halike.listening.perform c).1,
    (halike.listening'.perform c).1⟩, hrecords⟩
  rw [halike.listening'.toList_perform, halike.listening.toList_perform, halike.letters, hsame]

theorem Alike.deliver (halike : l.Alike l') (sender : Sender) (n : Notification) :
    (l.deliver sender n).Alike (l'.deliver sender n) := by
  refine ⟨halike.name, halike.kind, ?_, (halike.listening.deliver sender n).1,
    (halike.listening'.deliver sender n).1⟩
  exact ((halike.listening'.packed.push _).2.trans
    (congrArg (· ++ [⟨sender, n⟩]) halike.letters)).trans (halike.listening.packed.push _).2.symm

theorem Alike.refill (halike : l.Alike l') : l.refill.Alike l'.refill := by
  refine ⟨halike.name, halike.kind, ?_, halike.listening.refill.1, halike.listening'.refill.1⟩
  exact ((Mailbox.toList_refill _).trans halike.letters).trans (Mailbox.toList_refill _).symm

theorem Alike.modifyLoopback (halike : l.Alike l') (f : Loopback → Loopback) :
    (l.modifyLoopback f).Alike (l'.modifyLoopback f) := by
  obtain ⟨name, kind, inbox⟩ := l
  obtain ⟨name', kind', inbox'⟩ := l'
  obtain ⟨rfl, rfl, hletters, hlistening, hlistening'⟩ := halike
  cases kind' <;>
    exact ⟨rfl, rfl, hletters, ⟨hlistening.isOpen, hlistening.packed⟩,
      ⟨hlistening'.isOpen, hlistening'.packed⟩⟩

end Link

namespace Device

/-- Two devices that are the same but for the room in their mailboxes and what the log says
of that. -/
inductive Alike (d : Device) : Device → Prop
  | mk {link : Link} {journal : Trace Journal.Entry} (hlink : d.link.Alike link)
      (hjournal : Journal.undeferred d.link.name journal.toList =
        Journal.undeferred d.link.name d.journal.toList) :
      Alike d { d with link, journal }

variable {d d' : Device}

theorem Alike.memory_eq (halike : d.Alike d') : d'.memory = d.memory := by
  cases halike
  rfl

theorem Alike.settings_eq (halike : d.Alike d') : d'.settings = d.settings := by
  cases halike
  rfl

theorem Alike.link_alike (halike : d.Alike d') : d.link.Alike d'.link := by
  obtain ⟨hlink, -⟩ := halike
  exact hlink

theorem Alike.note (halike : d.Alike d') (entries : List Journal.Entry) :
    (d.note entries).Alike (d'.note entries) := by
  obtain ⟨hlink, hjournal⟩ := halike
  exact .mk hlink (Journal.undeferred_grow hjournal rfl)

theorem Alike.log (halike : d.Alike d') (records : List Log.Record) :
    (d.log records).Alike (d'.log records) := halike.note _

theorem Alike.raise (halike : d.Alike d') (c : Hooks.Call) : (d.raise c).Alike (d'.raise c) := by
  obtain ⟨hlink, hjournal⟩ := halike
  exact .mk hlink (Journal.undeferred_grow hjournal rfl)

theorem Alike.call (halike : d.Alike d') (c : Link.Call) :
    (d'.call c).1 = (d.call c).1 ∧ (d.call c).2.Alike (d'.call c).2 := by
  obtain ⟨hlink, hjournal⟩ := halike
  obtain ⟨hresult, hafter, hrecords⟩ := hlink.perform c
  rw [← Link.name_perform d.link c] at hjournal hrecords
  exact ⟨hresult, .mk hafter (Journal.undeferred_grow (Journal.undeferred_grow hjournal rfl)
    hrecords)⟩

theorem Alike.startLink (halike : d.Alike d') :
    d'.startLink.1 = d.startLink.1 ∧ d.startLink.2.Alike d'.startLink.2 := by
  unfold Device.startLink
  rw [halike.settings_eq]
  have hcall := halike.call (.start d.settings.model)
  revert hcall
  rcases d.call (.start d.settings.model) with ⟨result, after⟩
  rcases d'.call (.start d.settings.model) with ⟨result', after'⟩
  rintro ⟨hresult, hafter⟩
  obtain rfl : result' = result := hresult
  cases result' with
  | error cause => exact ⟨rfl, hafter⟩
  | ok _ =>
      dsimp only
      rw [hafter.settings_eq, hafter.link_alike.name]
      exact ⟨rfl, hafter.log _⟩

/-- A tick of both devices attempts the same and has the same outcome. -/
theorem Alike.tick (halike : d.Alike d') :
    d'.tick.1 = d.tick.1 ∧ d.tick.2.Alike d'.tick.2 := by
  have hpending : d'.pending = d.pending := congrArg Memory.pending halike.memory_eq
  unfold Device.tick
  rw [hpending]
  cases d.pending.next? with
  | none => exact ⟨rfl, halike⟩
  | some e =>
      dsimp only
      have hcall := (halike.log [Log.debug s!"Trying to send {e.name} event"]).call
        (.telemetry e.announcement.write (some e))
      rw [← send, ← send] at hcall
      revert hcall
      rcases (d.log [Log.debug s!"Trying to send {e.name} event"]).send e.announcement (some e) with
        ⟨result, after⟩
      rcases (d'.log [Log.debug s!"Trying to send {e.name} event"]).send e.announcement
        (some e) with ⟨result', after'⟩
      rintro ⟨hresult, hafter⟩
      obtain rfl : result' = result := hresult
      cases result' with
      | error cause => exact ⟨rfl, hafter.log _⟩
      | ok _ => exact ⟨rfl, hafter⟩

theorem Alike.settle (halike : d.Alike d') (success : Bool) (tag : Tag) :
    (d'.settle success tag).1 = (d.settle success tag).1 ∧
      (d.settle success tag).2.Alike (d'.settle success tag).2 := by
  obtain ⟨hlink, hjournal⟩ := halike
  have hset : Alike { d with pending := (d.pending.settle success tag).2 }
      { d with pending := (d.pending.settle success tag).2, link := _, journal := _ } :=
    .mk hlink hjournal
  exact ⟨rfl, hset.log _⟩

theorem Alike.reconcile (halike : d.Alike d') (document : String) :
    (d'.reconcile document).1 = (d.reconcile document).1 ∧
      (d.reconcile document).2.Alike (d'.reconcile document).2 := by
  obtain ⟨hlink, hjournal⟩ := halike
  have hset : ∀ version, Alike { d with version } { d with version, link := _, journal := _ } :=
    fun version => .mk hlink hjournal
  refine ⟨rfl, ?_⟩
  unfold Device.reconcile applyReading
  dsimp only
  split
  · exact ((hset _).log _).raise _
  · exact (hset _).log _

theorem Alike.invoke (halike : d.Alike d') (name : String) (payload : Bytes) :
    (d'.invoke name payload).1 = (d.invoke name payload).1 ∧
      (d.invoke name payload).2.Alike (d'.invoke name payload).2 := by
  obtain ⟨hlink, hjournal⟩ := halike
  exact ⟨rfl, .mk hlink (Journal.undeferred_grow hjournal rfl)⟩

theorem Alike.introduce (halike : d.Alike d') : d.introduce.Alike d'.introduce := by
  unfold Device.introduce
  rw [halike.settings_eq]
  cases d.settings.serial with
  | none => exact halike
  | some serialNumber =>
      dsimp only
      have hcall : (d'.reportDetails serialNumber).1 = (d.reportDetails serialNumber).1 ∧
          (d.reportDetails serialNumber).2.Alike (d'.reportDetails serialNumber).2 :=
        halike.call _
      revert hcall
      rcases d.reportDetails serialNumber with ⟨result, after⟩
      rcases d'.reportDetails serialNumber with ⟨result', after'⟩
      rintro ⟨hresult, hafter⟩
      obtain rfl : result' = result := hresult
      cases result' with
      | error cause => exact hafter.log _
      | ok _ => exact hafter

/-- Both devices raise the same hook, and it fails for both or for none. -/
theorem Alike.connectionChanged (halike : d.Alike d') (connected : Bool) :
    (d.connectionChanged connected).Alike (d'.connectionChanged connected) := by
  obtain ⟨hlink, hjournal⟩ := halike
  have hset : Alike
      { d.log [Log.info s!"Cloud connection changed: connected={connected}"] with connected }
      { d.log [Log.info s!"Cloud connection changed: connected={connected}"] with
        connected, link := _, journal := _ } :=
    .mk hlink (Journal.undeferred_grow hjournal rfl)
  have hraised := hset.raise (.connection connected)
  unfold Device.connectionChanged
  dsimp only
  split
  · next hsound => exact (if_pos hsound).symm ▸ hraised.introduce
  · next hbroken => exact (if_neg hbroken).symm ▸ hraised

theorem Alike.respond (halike : d.Alike d') (method : String) (reply : Option Nat)
    (response : Method.Response) :
    (d.respond method reply response).Alike (d'.respond method reply response) := by
  cases reply with
  | none => exact halike.log _
  | some ticket => exact halike.note _

theorem Alike.hear (halike : d.Alike d') (n : Notification) : (d.hear n).Alike (d'.hear n) := by
  cases n with
  | delivery success tag => exact (halike.settle success tag).2
  | desired document => exact (halike.reconcile document).2
  | connection connected => exact halike.connectionChanged connected
  | invocation method payload reply =>
      have hinvoke := halike.invoke method payload
      simp only [Device.hear]
      revert hinvoke
      rcases d.invoke method payload with ⟨response, after⟩
      rcases d'.invoke method payload with ⟨response', after'⟩
      rintro ⟨hresponse, hafter⟩
      obtain rfl : response' = response := hresponse
      cases response' with
      | none => exact hafter
      | some response => exact hafter.respond method reply response

theorem Alike.reportUpload (halike : d.Alike d') (enabled : Bool) :
    (d'.reportUpload enabled).1 = (d.reportUpload enabled).1 ∧
      (d.reportUpload enabled).2.Alike (d'.reportUpload enabled).2 := by
  obtain ⟨hlink, hjournal⟩ := halike
  have hset : Alike { d with version := d.version.advance }
      { d with version := d.version.advance, link := _, journal := _ } := .mk hlink hjournal
  exact hset.call _

/-- Every entry point gives back the same on both devices, and leaves them alike. -/
theorem Alike.act (halike : d.Alike d') {step : Step} (hown : step.isRelink = false) :
    Bench.replyOf d' step = Bench.replyOf d step ∧ (d.act step).Alike (d'.act step) := by
  cases step with
  | startLink => exact halike.startLink.imp_left (congrArg _)
  | signal e =>
      obtain ⟨hlink, hjournal⟩ := halike
      exact ⟨rfl, .mk hlink hjournal⟩
  | sendTelemetry t => exact (halike.call _).imp_left (congrArg Bench.Reply.sent)
  | sendMoved => exact (halike.call _).imp_left (congrArg Bench.Reply.sent)
  | reportDetails serialNumber => exact (halike.call _).imp_left (congrArg Bench.Reply.sent)
  | reportUpload enabled => exact (halike.reportUpload enabled).imp_left (congrArg Bench.Reply.sent)
  | tick => exact halike.tick.imp_left (congrArg Bench.Reply.ticked)
  | settle success tag => exact (halike.settle success tag).imp_left (congrArg Bench.Reply.settled)
  | reconcile document =>
      exact (halike.reconcile document).imp_left (congrArg Bench.Reply.reconciled)
  | invoke method payload =>
      exact (halike.invoke method payload).imp_left (congrArg Bench.Reply.responded)
  | connectionChanged connected => exact ⟨rfl, halike.connectionChanged connected⟩
  | hear n => exact ⟨rfl, halike.hear n⟩
  | relink link => contradiction

theorem Alike.onLink (halike : d.Alike d') {f : Link → Link}
    (hf : ∀ {l l' : Link}, l.Alike l' → (f l).Alike (f l') ∧ (f l).name = l.name) :
    Alike { d with link := f d.link } { d' with link := f d'.link } := by
  obtain ⟨hlink, hjournal⟩ := halike
  obtain ⟨hafter, hname⟩ := hf hlink
  rw [← hname] at hjournal
  exact .mk hafter hjournal

theorem Alike.refill (halike : d.Alike d') : d.refill.Alike d'.refill :=
  halike.onLink fun hlink => ⟨hlink.refill, rfl⟩

end Device

end DeviceTwin
