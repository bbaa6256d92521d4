/-
The journal of a device: what it told its operator, which hooks and which calls
on its link it made and which responses it gave, in the order in which that
happened.
-/
import DeviceTwin.Hooks
import DeviceTwin.Link.Basic
import DeviceTwin.Method.Response

namespace DeviceTwin.Journal

/-- One thing that happened. -/
inductive Entry
  | record (r : Log.Record)
  | hook (c : Hooks.Call)
  | link (c : Link.Call)
  /-- The response to the invocation with a number. -/
  | response (ticket : Nat) (r : Method.Response)

def Entry.record? : Entry → Option Log.Record
  | .record r => some r
  | _ => none

def Entry.hook? : Entry → Option Hooks.Call
  | .hook c => some c
  | _ => none

/-- The call on the link of an entry. -/
def Entry.link? : Entry → Option Link.Call
  | .link c => some c
  | _ => none

/-- The response of an entry to the invocation with a number. -/
def Entry.responseTo? (ticket : Nat) : Entry → Option Method.Response
  | .response t r => if t = ticket then some r else none
  | _ => none

def records (journal : List Entry) : List Log.Record := journal.filterMap (·.record?)

def hookCalls (journal : List Entry) : List Hooks.Call := journal.filterMap (·.hook?)

def linkCalls (journal : List Entry) : List Link.Call := journal.filterMap (·.link?)

def responseTo? (ticket : Nat) (journal : List Entry) : Option Method.Response :=
  journal.findSome? (·.responseTo? ticket)

/-- The entry that raising a hook leaves: its call, or a warning that it is absent. -/
def ofCall (hooks : Hooks) (c : Hooks.Call) : Entry :=
  match hooks.hookOf c with
  | .absent => .record c.unheard
  | .registered _ => .hook c

end DeviceTwin.Journal
