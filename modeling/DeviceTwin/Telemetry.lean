/-
Messages of the device that need no confirmation.
-/
import DeviceTwin.Json.Record
import DeviceTwin.Json.Printer

namespace DeviceTwin

/-- A reading of the thermometer. -/
structure Telemetry where
  /-- In degrees Celsius. -/
  temperature : Binary64
  deriving DecidableEq

namespace Telemetry

def toJson (t : Telemetry) : Json.Value := .object [("temperature", .number (.real t.temperature))]

/-- Reads a reading from a JSON text. -/
def read? (s : String) : Option Telemetry := do
  match ← (← Json.Tree.read? s).fields? ["temperature"] with
  | [some temperature] => some ⟨← temperature.real?⟩
  | _ => none

/-- The message that the device was moved. -/
def moved : Json.Value := .object [("thermometerMoved", .boolean true)]

end Telemetry

end DeviceTwin
