import DeviceTwin.Files
import DeviceTwin.Main
import DeviceTwin.Proofs.Bench.Capacity
import DeviceTwin.Proofs.Bench.Genuine
import DeviceTwin.Proofs.Command.Exits
import DeviceTwin.Proofs.Delivery.Refinement
import DeviceTwin.Proofs.Desired.FullTwin
import DeviceTwin.Proofs.Desired.Requested
import DeviceTwin.Proofs.Device.Drain
import DeviceTwin.Proofs.Device.Exchange
import DeviceTwin.Proofs.Device.Flags
import DeviceTwin.Proofs.Device.Indifference
import DeviceTwin.Proofs.Device.Reconcile
import DeviceTwin.Proofs.Device.Reports
import DeviceTwin.Proofs.Device.Stamps
import DeviceTwin.Proofs.Json.Magnitude
import DeviceTwin.Proofs.Link.Bookkeeping
import DeviceTwin.Proofs.Method.Alert
import DeviceTwin.Proofs.Service.Cadence
import DeviceTwin.Proofs.Service.Lifetime
import DeviceTwin.Proofs.Service.Requests
import DeviceTwin.Proofs.Service.StartUp
import DeviceTwin.Proofs.Settings
