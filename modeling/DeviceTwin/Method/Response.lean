/-
Responses to the methods that the cloud invokes.
-/
import DeviceTwin.Text.Utf8

namespace DeviceTwin.Method

/-- A status and a body. -/
structure Response where
  /-- The status, of 32 bits. -/
  status : Int32
  /-- The body, most often a JSON text. -/
  body : Bytes
  deriving DecidableEq

namespace Response

/-- The status of a method that was carried out. -/
def statusDone : Int32 := 200

/-- The status of a method that nobody knows. -/
def statusUnhandled : Int32 := -1

/-- The response to a method that was carried out. -/
def alertDisplayed : Response :=
  ⟨statusDone, Utf8.ofString "\"Alert message displayed successfully.\""⟩

/-- The response to a method that nobody knows. -/
def unhandled : Response := ⟨statusUnhandled, Utf8.ofString "\x7b\x7d"⟩

def isHandled (r : Response) : Bool := r.status != statusUnhandled

def text (r : Response) : String := Utf8.lossyString r.body

end Response

end DeviceTwin.Method
