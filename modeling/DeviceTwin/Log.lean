/-
Log records: what the device tells its operator, each with a level.
-/
namespace DeviceTwin.Log

/-- How much a record matters, the most important first. -/
inductive Level
  | error
  | warn
  | info
  | debug
  deriving DecidableEq

/-- The name of a level as it stands in the log. -/
def Level.name : Level → String
  | .error => "ERROR"
  | .warn => "WARN"
  | .info => "INFO"
  | .debug => "DEBUG"

/-- One record. -/
structure Record where
  level : Level
  /-- What it says to the operator. -/
  message : String
  deriving DecidableEq

def Record.fields : List String := ["message"]

def error (message : String) : Record := ⟨.error, message⟩

def warn (message : String) : Record := ⟨.warn, message⟩

def info (message : String) : Record := ⟨.info, message⟩

def debug (message : String) : Record := ⟨.debug, message⟩

end DeviceTwin.Log
