/-
The three one-time notifications that a device owes the cloud, and the order in
which they are delivered.
-/
import DeviceTwin.Json.Record

namespace DeviceTwin

/-- A notification that is owed once and kept until its delivery is confirmed. -/
inductive Event
  /-- An update check found nothing new. -/
  | noUpdateAvailable
  /-- An update is being installed. -/
  | updateInstalling
  | appRestart
  deriving DecidableEq, Repr

/-- What a message is sent for: an event, or nothing that needs a confirmation. -/
abbrev Tag := Option Event

namespace Event

/-- The name of an event in messages. -/
def name : Event → String
  | .noUpdateAvailable => "NoUpdateAvailable"
  | .updateInstalling => "UpdateInstalling"
  | .appRestart => "AppRestart"

/-- The events, the most urgent first. -/
def byPriority : List Event := [.noUpdateAvailable, .updateInstalling, .appRestart]

/-- The place of an event in the order of urgency. -/
def rank : Event → Nat
  | .noUpdateAvailable => 0
  | .updateInstalling => 1
  | .appRestart => 2

theorem mem_byPriority (e : Event) : e ∈ byPriority := by cases e <;> decide

/-- The order of urgency is the order of ranks. -/
theorem byPriority_getElem?_rank (e : Event) : byPriority[e.rank]? = some e := by
  cases e <;> rfl

def ofName? (name : String) : Option Event := byPriority.find? (·.name = name)

theorem ofName?_name (e : Event) : ofName? e.name = some e := by cases e <;> decide

/-- Reads an event from a JSON tree: its name, or an object with its name as the
only key and nothing under it. -/
def ofTree? : Json.Tree → Option Event
  | .text pieces => (Json.stringOf? pieces).bind ofName?
  | .object [(key, .null)] => (Json.stringOf? key).bind ofName?
  | _ => none

/-- Reads an event from a JSON text. -/
def read? (s : String) : Option Event := (Json.Tree.read? s).bind ofTree?

def toJson (e : Event) : Json.Value := .string e.name

def announcement (e : Event) : Json.Value := .object [(e.name, .boolean true)]

end Event

end DeviceTwin
