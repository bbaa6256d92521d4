/-
The reports of the device on its own state, as JSON values whose keys are in order.
-/
import DeviceTwin.Json.Printer
import DeviceTwin.DesiredVersion

namespace DeviceTwin.Report

/-- The status of a property that was applied. -/
def statusApplied : Int := 200

/-- The report that a property has taken a value, with the stamp of its version. -/
def uploadEnabled (property : String) (enabled : Bool) (stamp : UInt32) : Json.Value :=
  .object [(property, .object [
    ("ac", .number (.whole statusApplied)),
    ("ad", .string s!"Successfully updated {property}"),
    ("av", .number (.whole stamp.toNat)),
    ("value", .boolean enabled)])]

/-- The report of who the device is. -/
def deviceDetails (serialNumber : String) : Json.Value :=
  .object [("serialNumber", .string serialNumber)]

end DeviceTwin.Report
