/-
Methods that the cloud invokes by name. The device knows one of them, which
displays an alert; all others are answered as unhandled.
-/
import DeviceTwin.Method.Copy
import DeviceTwin.Journal

namespace DeviceTwin

/-- A method that the device knows. -/
inductive Method
  | displayAlert
  deriving DecidableEq

namespace Method

/-- The name by which a method is invoked. -/
def name : Method → String
  | .displayAlert => "displayAlert"

def ofName? (name : String) : Option Method :=
  if name = Method.displayAlert.name then some .displayAlert else none

/-- The hook call that carries a method out. -/
def call (payload : Payload) : Method → Hooks.Call
  | .displayAlert => .alert payload.content

/-- The hook call that carries a method out, with what a hook gets of a copy. -/
def callOn? (copy : Copy) : Method → Option Hooks.Call
  | .displayAlert => copy.handed?.map .alert

/-- The response to a method that was carried out. -/
def response : Method → Response
  | .displayAlert => .alertDisplayed

/-- What the log says of a payload that is too long. -/
def truncation (name : String) (payload : Bytes) : List Log.Record :=
  if maxPayload < payload.length then
    [Log.debug
      s!"Method {name} payload truncated from {payload.length} to {maxPayload} bytes"]
  else []

/-- What an invocation leads to. -/
structure Dispatch where
  entries : List Journal.Entry
  /-- The response, unless the hook failed or the payload could not be handed over. -/
  response : Option Response

/-- Dispatches an invocation to a hook, which may fail. The hook knows the calls made
earlier, the latest first. -/
def dispatch (hooks : Hooks) (earlier : List Hooks.Call) (name : String) (payload : Bytes) :
    Dispatch :=
  match Copy.ofBytes? payload with
  | none => { entries := [], response := none }
  | some copy =>
      let truncated := (truncation name payload).map Journal.Entry.record
      match ofName? name with
      | some method =>
          match method.callOn? copy with
          | none => { entries := truncated, response := none }
          | some call =>
              { entries := truncated ++ [Journal.ofCall hooks call]
                response := if hooks.fails earlier call then none else some method.response }
      | none =>
          let unknown := Log.warn s!"Ignoring unknown device method: {name}"
          { entries := truncated ++ [.record unknown]
            response := some .unhandled }

end Method

end DeviceTwin
