/-
The settings of a device and where they come from: a TOML file, the environment,
the command line, each over the one before. Every setting has a default, so an
empty file is a file of settings.
-/
import DeviceTwin.Fault
import DeviceTwin.Json.Record
import DeviceTwin.Text.Blank
import DeviceTwin.Text.Utf8
import DeviceTwin.Toml.Reader

namespace DeviceTwin

/-- The settings of a device. -/
structure Settings where
  /-- The seconds between two attempts to deliver pending events. -/
  interval : UInt64 := 5
  /-- The model that the device announces itself as. -/
  model : String := "dtmi:com:example:azuresphere:thermometer;1"
  /-- The desired property that switches the upload. -/
  property : String := "telemetryUploadEnabled"
  /-- The serial number to report whenever a connection is there. -/
  serial : Option String := none
  /-- How many requests may wait for the service. -/
  capacity : UInt64 := 64
  deriving DecidableEq

namespace Settings

/-- The names of the settings, in their order. -/
def names : List String :=
  ["event_check_interval_secs", "model_id", "upload_enabled_property", "serial_number",
    "channel_capacity"]

/-- A setting that is given is read, one that is missing has its default. -/
def given {α β : Type} (read : α → Option β) (default : β) : Option α → Option β
  | some value => read value
  | none => some default

/-- The settings of the five values in their order, of any kind that can be read
as numbers and strings. -/
def ofValues? {α : Type} (natural : α → Option UInt64) (text : α → Option String)
    (serialText : α → Option (Option String)) : List (Option α) → Option Settings
  | [interval, model, property, serial, capacity] => do
      let standard : Settings := {}
      some
        { interval := ← given natural standard.interval interval
          model := ← given text standard.model model
          property := ← given text standard.property property
          serial := ← given serialText standard.serial serial
          capacity := ← given natural standard.capacity capacity }
  | _ => none

/-- A whole number that is not negative and fits into 64 bits. -/
def tomlNatural? : Toml.Value → Option UInt64
  | .integer (.ofNat n) => if n < UInt64.size then some (UInt64.ofNat n) else none
  | _ => none

def tomlString? : Toml.Value → Option String
  | .string s => some s
  | _ => none

/-- The settings of a TOML document. What it says of anything else is ignored. -/
def ofToml? (d : Toml.Document) : Option Settings :=
  ofValues? tomlNatural? tomlString? (fun v => (tomlString? v).map some) (names.map d.get?)

def jsonSerial? : Json.Tree → Option (Option String)
  | .null => some none
  | tree => tree.string?.map some

def ofTree? (tree : Json.Tree) : Option Settings := do
  ofValues? Json.Tree.natural? Json.Tree.string? jsonSerial? (← tree.fields? names)

def readJson? (s : String) : Option Settings := (Json.Tree.read? s).bind ofTree?

def ofText (s : String) : Except SettingsError Settings :=
  match (Toml.Document.read? s).bind ofToml? with
  | some settings => .ok settings
  | none => .error .malformed

def load (read : String → Except FileError Bytes) (path : String) :
    Except SettingsError Settings :=
  match read path with
  | .error cause => .error (.unreadable path cause)
  | .ok content =>
      match Utf8.string? content with
      | some text => ofText text
      | none => .error (.unreadable path .notText)

/-- The variable of the environment that sets the model. -/
def modelVariable : String := "TWINSYNC_MODEL_ID"

/-- The variable of the environment that sets the serial number. -/
def serialVariable : String := "TWINSYNC_SERIAL_NUMBER"

/-- A whole number of 64 bits in decimal digits, perhaps with a plus in front. -/
def wholeNumber? (cs : List Char) : Option UInt64 :=
  ((Text.unsigned? cs).filter (· < UInt64.size)).map UInt64.ofNat

/-- The interval after the environment, in which blanks around it do not count. -/
def overriddenInterval (lookup : String → Option String) (interval : UInt64) :
    Except SettingsError UInt64 :=
  match lookup intervalVariable with
  | none => .ok interval
  | some text =>
      match wholeNumber? (Text.trimmed text.toList) with
      | some n => .ok n
      | none => .error (.badInterval text)

/-- The settings after the environment. -/
def override (lookup : String → Option String) (s : Settings) :
    Except SettingsError Settings := do
  let interval ← overriddenInterval lookup s.interval
  return { s with
    interval
    model := (lookup modelVariable).getD s.model
    serial := (lookup serialVariable).or s.serial }

/-- Whether a string has blanks at most. -/
def isBlank (s : String) : Bool := (Text.trimmed s.toList).isEmpty

/-- Checks what the device relies on. The interval is left to the timer. -/
def validate (s : Settings) : Except SettingsError Unit :=
  if isBlank s.model then .error .blankModel
  else if isBlank s.property then .error .blankProperty
  else if s.capacity = 0 then .error .noCapacity
  else .ok ()

/-- The settings before the environment: those of a file, or the defaults. -/
def start (read : String → Except FileError Bytes) :
    Option String → Except SettingsError Settings
  | some path => load read path
  | none => .ok {}

/-- The settings from all their sources: the defaults or a file, over them the
environment, over both a serial number of its own. They are checked at the end. -/
def gather (read : String → Except FileError Bytes) (path : Option String)
    (lookup : String → Option String) (serial : Option String) :
    Except SettingsError Settings := do
  let settings ← start read path
  let settings ← settings.override lookup
  let settings := { settings with serial := serial.or settings.serial }
  settings.validate
  return settings

end Settings

end DeviceTwin
