/-
What can go wrong, as causes, each with its wording and with the exit code of a
process that cannot go on because of it.
-/
import DeviceTwin.Text.Quoted

namespace DeviceTwin

/-- Why a link refuses an operation. -/
inductive LinkError
  | noNetwork
  | failure (text : String)
  | closed
  deriving DecidableEq

def LinkError.message : LinkError → String
  | .noNetwork => "No network connection"
  | .failure text => s!"Transport failure: {text}"
  | .closed => "Transport is closed"

/-- A link's error with its kind in front. -/
def LinkError.shown : LinkError → String
  | .noNetwork => "NoNetwork"
  | .failure text =>
      let text := Text.quoted text
      s!"Failure({text})"
  | .closed => "Closed"

/-- Why a file cannot be read as text. -/
inductive FileError
  | notFound
  | notDirectory
  | isDirectory
  | nameTooLong
  /-- The path holds a zero byte, which no file system takes. -/
  | zeroByte
  | notText
  /-- A cause that the system describes. -/
  | described (text : String)
  deriving DecidableEq

/-- The wording of a file error, with the system's number where it has one. -/
def FileError.message : FileError → String
  | .notFound => "No such file or directory (os error 2)"
  | .notDirectory => "Not a directory (os error 20)"
  | .isDirectory => "Is a directory (os error 21)"
  | .nameTooLong => "File name too long (os error 36)"
  | .zeroByte => "file name contained an unexpected NUL byte"
  | .notText => "stream did not contain valid UTF-8"
  | .described text => text

/-- The variable of the environment that sets the interval. -/
def intervalVariable : String := "TWINSYNC_EVENT_INTERVAL_SECS"

/-- Why settings cannot be used. -/
inductive SettingsError
  | unreadable (path : String) (cause : FileError)
  /-- Their text is no TOML, or a value in it is of the wrong kind. -/
  | malformed
  /-- The interval in the environment is no whole number of 64 bits. -/
  | badInterval (text : String)
  | blankModel
  | blankProperty
  | noCapacity
  | described (text : String)
  deriving DecidableEq

/-- The wording of an error in the settings. Of a malformed text the place and
the cause are left out. -/
def SettingsError.message : SettingsError → String
  | .unreadable path cause => s!"cannot read {path}: {cause.message}"
  | .malformed => "TOML parse error"
  | .badInterval text =>
      let text := Text.quoted text
      s!"{intervalVariable} must be a whole number of seconds, got {text}"
  | .blankModel => "model_id must not be empty"
  | .blankProperty => "upload_enabled_property must not be empty"
  | .noCapacity => "channel_capacity must be at least 1"
  | .described text => text

/-- Why there can be no timer. -/
inductive TimerError
  | zeroPeriod
  | described (text : String)
  deriving DecidableEq

/-- The wording of an error of the timer. -/
def TimerError.message : TimerError → String
  | .zeroPeriod => "event check period must be greater than zero"
  | .described text => text

/-- What went wrong. -/
inductive Fault
  | settings (cause : SettingsError)
  | timer (cause : TimerError)
  | linkStart (cause : LinkError)
  | link (cause : LinkError)
  /-- A JSON text could not be read or written. -/
  | json (text : String)
  | stopped
  deriving DecidableEq

/-- How a process ends. -/
inductive Exit
  | success
  | timer
  | linkStart
  | settings
  | service
  deriving DecidableEq

namespace Exit

def code : Exit → Nat
  | .success => 0
  | .timer => 1
  | .linkStart => 2
  | .settings => 3
  | .service => 4

def name : Exit → String
  | .success => "success"
  | .timer => "init_event_timer"
  | .linkStart => "init_transport"
  | .settings => "init_config"
  | .service => "runtime"

/-- All ways to end, in the order of their numbers. -/
def all : List Exit := [.success, .timer, .linkStart, .settings, .service]

def shown (e : Exit) : String := s!"{e.name} ({e.code})"

theorem all_getElem?_code (e : Exit) : all[e.code]? = some e := by cases e <;> rfl

end Exit

namespace Fault

def message : Fault → String
  | .settings cause => s!"Configuration error: {cause.message}"
  | .timer cause => s!"Event timer error: {cause.message}"
  | .linkStart cause => s!"Transport initialization failed: {cause.message}"
  | .link cause => cause.message
  | .json text => s!"Serialization error: {text}"
  | .stopped => "Cloud adapter is stopped"

/-- A fault with its kind in front and its text in quotation marks. -/
def shown : Fault → String
  | .settings cause =>
      let text := Text.quoted cause.message
      s!"Config({text})"
  | .timer cause =>
      let text := Text.quoted cause.message
      s!"Timer({text})"
  | .linkStart cause => s!"TransportInit({cause.shown})"
  | .link cause => s!"Transport({cause.shown})"
  | .json text =>
      let text := Text.quoted text
      s!"Serialization({text})"
  | .stopped => "Stopped"

/-- Whether the fault is that there is no network now. -/
def isNoNetwork (f : Fault) : Bool := f == .link .noNetwork

/-- How a process ends that cannot go on because of a fault. -/
def exit : Fault → Exit
  | .settings _ => .settings
  | .timer _ => .timer
  | .linkStart _ => .linkStart
  | .link _ | .json _ | .stopped => .service

end Fault

end DeviceTwin
