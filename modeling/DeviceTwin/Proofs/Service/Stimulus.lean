/-
What may happen to a service from outside while its loopback gives the results by
itself: requests and notifications come in, the network is switched, time passes.
-/
import DeviceTwin.Service

namespace DeviceTwin

/-- The loopback gives each result by itself, and always the same one. -/
def Link.Acks.automatic (success : Bool) : Link.Acks := if success then .succeed else .fail

/-- A new loopback that gives the results by itself. -/
def Link.automatic (name : String) (online succeeding : Bool) (inbox : Mailbox Link.Letter) :
    Link :=
  { name, kind := .loopback { online, acks := .automatic succeeding }, inbox }

namespace Service

/-- What happens to a service from outside. -/
inductive Stimulus
  | ask (ticket : Nat) (request : Request)
  | desired (ticket : Nat) (document : String)
  | invocation (ticket : Nat) (method : String) (payload : Bytes) (reply : Option Nat)
  | connection (ticket : Nat) (connected : Bool)
  /-- The network is switched on or off. -/
  | network (online : Bool)
  /-- From now on all deliveries succeed or all fail. -/
  | verdict (success : Bool)

/-- A stretch of time at whose end the service is at rest. -/
inductive Stretch
  /-- All this happens before the service gets to do anything. -/
  | together (stimuli : List Stimulus)
  | pass (ms : Nat)
  | jump (ms : Nat)

/-- Changes the loopback of the link. -/
def modifyLoopback (f : Link.Loopback → Link.Loopback) (s : Service) : Service :=
  { s with device := { s.device with link := s.device.link.modifyLoopback f } }

def receive (s : Service) : Stimulus → Service
  | .ask ticket request => s.ask ticket request
  | .desired ticket document => s.deliver ticket (.desired document)
  | .invocation ticket method payload reply =>
      s.deliver ticket (.invocation method payload reply)
  | .connection ticket connected => s.deliver ticket (.connection connected)
  | .network online => s.modifyLoopback fun l => { l with online }
  | .verdict success => s.modifyLoopback fun l => { l with acks := .automatic success }

def undergo (s : Service) : Stretch → Service
  | .together stimuli => (stimuli.foldl receive s).settle
  | .pass ms => s.pass ms
  | .jump ms => s.jump ms

def run (s : Service) (stretches : List Stretch) : Service := stretches.foldl undergo s

variable {s : Service}

theorem ask_eq (hopen : s.requests.isOpen = true) (ticket : Nat) (request : Request) :
    s.ask ticket request =
      { s with
        requests := s.requests.push ⟨ticket, request⟩
        answers :=
          if s.requests.isFull then s.answers
          else s.answers ++ arrived [⟨ticket, request⟩] } := by
  rw [ask, hopen, if_neg (by nofun)]
  dsimp only
  split
  · rfl
  · rfl

theorem deliver_eq (hattached : s.attached = true)
    (hopen : s.device.link.inbox.isOpen = true) (ticket : Nat) (n : Notification) :
    ∃ answers, s.deliver ticket n =
      { s with
        device := { s.device with link := s.device.link.deliver (.outside ticket) n }
        answers } := by
  rw [deliver, hattached, hopen, if_neg (by nofun)]
  dsimp only
  split
  · exact ⟨_, rfl⟩
  · exact ⟨_, rfl⟩

end Service

end DeviceTwin
