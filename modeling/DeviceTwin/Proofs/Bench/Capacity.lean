/-
Nobody sees how much room there is in the mailbox of a device on the bench.  The way in is
a queue without bound, and two benches with mailboxes of different capacities give back the
same, whatever is done with both.
-/
import DeviceTwin.Proofs.Bench.Alike

namespace DeviceTwin

/-- From two devices that are alike the same notification is taken. -/
theorem Device.Alike.popNotification? {d d' : Device} (halike : d.Alike d') :
    d.popNotification? = none ∧ d'.popNotification? = none ∨
      ∃ n after after', d.popNotification? = some (n, after) ∧
        d'.popNotification? = some (n, after') ∧ after.refill.Alike after'.refill := by
  obtain ⟨hlink, hjournal⟩ := halike
  have hletters := hlink.letters
  unfold Device.popNotification?
  rcases hlink.listening.pop?_cases with ⟨hpop, hlist⟩ | ⟨letter, rest, hpop, hlist, hafter⟩
  · rcases hlink.listening'.pop?_cases with ⟨hpop', -⟩ | ⟨letter', rest', -, hlist', -⟩
    · rw [hpop, hpop']
      exact Or.inl ⟨rfl, rfl⟩
    · rw [hlist, hlist'] at hletters
      contradiction
  · rcases hlink.listening'.pop?_cases with ⟨-, hlist'⟩ | ⟨letter', rest', hpop', hlist', hafter'⟩
    · rw [hlist, hlist'] at hletters
      contradiction
    · rw [hlist, hlist', List.cons.injEq] at hletters
      obtain ⟨rfl, hrest⟩ := hletters
      rw [hpop, hpop']
      refine Or.inr ⟨_, _, _, rfl, rfl, .mk ⟨hlink.name, hlink.kind, ?_, hafter, hafter'⟩ hjournal⟩
      exact ((Mailbox.toList_refill _).trans hrest).trans (Mailbox.toList_refill _).symm

namespace Bench

/-- Two benches that are the same but for the room in the mailboxes of their devices. -/
structure Alike (b b' : Bench) : Prop where
  device : b.device.Alike b'.device
  taken : b'.taken = b.taken
  hand : b'.hand = b.hand

variable {b b' : Bench}

theorem Alike.onLink (halike : b.Alike b') {f : Link → Link}
    (hf : ∀ {l l' : Link}, l.Alike l' → (f l).Alike (f l') ∧ (f l).name = l.name) :
    (b.onLink f).Alike (b'.onLink f) :=
  ⟨halike.device.onLink hf, halike.taken, halike.hand⟩

theorem name_modifyLoopback (f : Link.Loopback → Link.Loopback) (l : Link) :
    (l.modifyLoopback f).name = l.name := by
  unfold Link.modifyLoopback
  cases l.kind <;> rfl

/-- One action: both benches give back the same and stay alike. -/
theorem Alike.work (halike : b.Alike b') {a : Action} (ha : a ≠ .deafen) :
    b'.reply a = b.reply a ∧ (b.work a).Alike (b'.work a) := by
  have hswitch : ∀ f : Link.Loopback → Link.Loopback,
      (b.onLink (·.modifyLoopback f)).Alike (b'.onLink (·.modifyLoopback f)) :=
    fun f => halike.onLink fun hlink => ⟨hlink.modifyLoopback f, name_modifyLoopback f _⟩
  cases a with
  | deafen => contradiction
  | network online => exact ⟨rfl, hswitch _⟩
  | acks acks => exact ⟨rfl, hswitch _⟩
  | refuse refusing => exact ⟨rfl, hswitch _⟩
  | act step hown =>
      obtain ⟨hreply, hafter⟩ := halike.device.act hown
      exact ⟨hreply, hafter.refill, halike.taken, halike.hand⟩
  | hear i =>
      refine ⟨rfl, ?_⟩
      rw [Bench.work, Bench.work, halike.hand]
      cases b.hand[i]? with
      | none => exact halike
      | some n => exact ⟨(halike.device.hear n).refill, halike.taken, rfl⟩
  | take =>
      rw [reply, reply, Bench.work, Bench.work, halike.taken, halike.hand]
      rcases halike.device.popNotification? with
        ⟨hpop, hpop'⟩ | ⟨n, after, after', hpop, hpop', hafter⟩
      · rw [hpop, hpop']
        exact ⟨rfl, halike⟩
      · rw [hpop, hpop']
        exact ⟨rfl, hafter, rfl, rfl⟩
  | push ticket n =>
      refine ⟨rfl, ?_⟩
      rw [Bench.work, Bench.work, if_pos halike.device.link_alike.listening.isOpen,
        if_pos halike.device.link_alike.listening'.isOpen]
      exact halike.onLink fun hlink => ⟨(hlink.deliver _ n).refill, rfl⟩
  | use c =>
      refine ⟨congrArg Reply.sent (halike.device.link_alike.perform c).1, ?_⟩
      exact halike.onLink fun hlink => ⟨(hlink.perform c).2.1.refill, Link.name_perform _ c⟩

theorem Alike.run (halike : b.Alike b') {actions : List Action} (hactions : .deafen ∉ actions) :
    b'.replies actions = b.replies actions ∧ (b.run actions).Alike (b'.run actions) := by
  induction actions generalizing b b' with
  | nil => exact ⟨rfl, halike⟩
  | cons a later ih =>
      rw [List.mem_cons, not_or] at hactions
      obtain ⟨hreply, hafter⟩ := halike.work (Ne.symm hactions.1)
      obtain ⟨hreplies, hlater⟩ := ih hafter hactions.2
      refine ⟨?_, hlater⟩
      rw [replies, replies, hreply, hreplies]

theorem listening_of_ofCapacity? {name : String} {kind : Link.Kind} {capacity : Nat}
    {inbox : Mailbox Link.Letter} (hinbox : Mailbox.ofCapacity? capacity = some inbox) :
    Link.Listening ⟨name, kind, inbox⟩ :=
  ⟨(Mailbox.eq_of_ofCapacity?_eq_some hinbox).2, (Mailbox.packed_of_ofCapacity? hinbox).1⟩

/-- The settings and not the link decide whether a device can be made. -/
theorem exists_ofSettings {settings : Settings} {hooks : Hooks} {link : Link} {d : Device}
    (hcreated : Device.ofSettings settings hooks link = .ok d) (link' : Link) :
    Device.ofSettings settings hooks link' = .ok { d with link := link' } := by
  unfold Device.ofSettings at hcreated ⊢
  split at hcreated
  · contradiction
  · split at hcreated
    · contradiction
    · next hvalid hinterval =>
        rw [Except.ok.injEq] at hcreated
        subst hcreated
        rw [dif_neg hinterval]

/-- The way into a device is a queue without bound, whatever the capacity of its mailbox.
The notifications that were taken and those on their way are, in this order, all that were
pushed and all the delivery results of accepted messages, each when it was made; and the
oldest one on its way is the next that is taken.  So two devices that differ in this
capacity give back the same and stay alike in all but the room for what is on its way. -/
theorem inbound_unbounded {settings : Settings} {hooks : Hooks} {name : String}
    {loopback : Link.Loopback} {capacity : Nat} {inbox : Mailbox Link.Letter} {d : Device}
    (hinbox : Mailbox.ofCapacity? capacity = some inbox)
    (hcreated : Device.ofSettings settings hooks ⟨name, .loopback loopback, inbox⟩ = .ok d)
    {actions : List Action} (hactions : .deafen ∉ actions) :
    let b : Bench := { device := d }
    inbox.capacity = max capacity 1 ∧
      (b.run actions).taken ++ (b.run actions).device.link.onTheWay = b.allNotices actions ∧
      (b.run actions).reply .take = .took (b.run actions).device.link.onTheWay.head? ∧
      ∀ (capacity' : Nat) (inbox' : Mailbox Link.Letter),
        Mailbox.ofCapacity? capacity' = some inbox' →
        ∃ d', Device.ofSettings settings hooks ⟨name, .loopback loopback, inbox'⟩ = .ok d' ∧
          Bench.replies { device := d' } actions = b.replies actions ∧
          (b.run actions).Alike (Bench.run { device := d' } actions) := by
  intro b
  obtain ⟨-, hlink, -⟩ := Device.eq_of_ofSettings hcreated
  have hlistening : b.device.link.Listening := hlink ▸ listening_of_ofCapacity? hinbox
  have hempty : b.device.link.onTheWay = [] := by
    rw [Link.onTheWay]
    change d.link.inbox.toList.map _ = []
    rw [hlink, (Mailbox.eq_of_ofCapacity?_eq_some hinbox).1]
    rfl
  obtain ⟨hafter, hkept⟩ := keeps_run hlistening hactions
  refine ⟨(Mailbox.packed_of_ofCapacity? hinbox).2, ?_, reply_take hafter, ?_⟩
  · rw [hkept, hempty]
    rfl
  · intro capacity' inbox' hinbox'
    have hsame : d.link.Alike ⟨name, .loopback loopback, inbox'⟩ := by
      rw [hlink]
      refine ⟨rfl, rfl, ?_, listening_of_ofCapacity? hinbox, listening_of_ofCapacity? hinbox'⟩
      rw [(Mailbox.eq_of_ofCapacity?_eq_some hinbox).1,
        (Mailbox.eq_of_ofCapacity?_eq_some hinbox').1]
    have halike : b.Alike { device := { d with link := ⟨name, .loopback loopback, inbox'⟩ } } :=
      ⟨.mk hsame rfl, rfl, rfl⟩
    exact ⟨_, exists_ofSettings hcreated _, halike.run hactions⟩

/-- Three messages, the last of which is refused, and a notification between them. -/
def crowd : List Action :=
  [.tick, .acks .fail, .use (.telemetry "" (some .updateInstalling)), .act .sendMoved rfl,
    .push 0 (.connection true), .network false, .tick, .take, .take]

/-- A capacity of zero is enough for all of them. -/
theorem inbound_unbounded_crowd :
    ∃ (inbox : Mailbox Link.Letter) (d : Device), Mailbox.ofCapacity? 0 = some inbox ∧
      Device.ofSettings {} {} ⟨"loopback", .loopback {}, inbox⟩ = .ok d ∧
      (Bench.run { device := d } crowd).taken ++
          (Bench.run { device := d } crowd).device.link.onTheWay =
        [.delivery true (some .appRestart), .delivery false (some .updateInstalling),
          .delivery false none, .connection true] ∧
      (Bench.run { device := d } crowd).reply .take = .took (some (.delivery false none)) := by
  have hinbox : Mailbox.ofCapacity? 0 =
      some { capacity := 1, capacity_pos := Nat.one_pos : Mailbox Link.Letter } := rfl
  have hactions : Action.deafen ∉ crowd := by simp [crowd, Action.tick]
  obtain ⟨-, hall, hnext, -⟩ := inbound_unbounded hinbox (Device.ofSettings_plain _) hactions
  exact ⟨_, _, hinbox, Device.ofSettings_plain _, hall, hnext⟩

end Bench

end DeviceTwin
