/-
Documents of desired properties. A document is a full twin, with the properties
under `desired`, or those properties alone. What it says of the one property that
the device knows is read first; the version counter follows from the reading.
-/
import DeviceTwin.Json.Value
import DeviceTwin.DesiredVersion
import DeviceTwin.Log

namespace DeviceTwin.Desired

/-- What a document says of a property that is true or false. -/
inductive Reading
  | malformed
  | notObject
  /-- The property is missing, or neither true nor false. -/
  | silent
  /-- The property is to have a value, in a version of the document. -/
  | asks (enabled : Bool) (version : UInt32)
  deriving DecidableEq

/-- What became of a document that is JSON. -/
structure Reconciliation where
  /-- The value that the property is to have. -/
  uploadEnabled : Option Bool
  requestedVersion : Option UInt32
  versionAdvanced : Bool
  deriving DecidableEq

/-- What became of a document that asks for nothing. -/
def Reconciliation.nothing : Reconciliation := ⟨none, none, false⟩

def versionKey : String := "$version"

/-- The object with the desired properties: the one under `desired` if there is
one, or else the whole document. -/
def properties (root : Json.Value) : Json.Value :=
  ((root.get? "desired").bind Json.Value.object?).getD root

/-- The version of the desired properties. A number is cut and clamped to 32
bits, anything else counts as zero. -/
def version (properties : Json.Value) : UInt32 :=
  match (properties.get? versionKey).bind Json.Value.number? with
  | some n => n.toBinary64.clampedUInt32
  | none => 0

/-- What the desired properties say of one of them. -/
def Reading.ofProperties (property : String) (properties : Json.Value) : Reading :=
  match (properties.get? property).bind Json.Value.boolean? with
  | some enabled => .asks enabled (version properties)
  | none => .silent

/-- What a JSON value says of a property. -/
def Reading.ofValue (property : String) (root : Json.Value) : Reading :=
  match root.object? with
  | some root => .ofProperties property (properties root)
  | none => .notObject

/-- What a text says of a property. -/
def Reading.ofDocument (property : String) (document : String) : Reading :=
  match Json.Value.read? document with
  | some root => .ofValue property root
  | none => .malformed

namespace Reading

def versionAfter (v : DesiredVersion) : Reading → DesiredVersion
  | .asks _ requested => v.observe requested
  | _ => v

/-- What becomes of a document, the version counter before it given. -/
def reconciliation? (v : DesiredVersion) : Reading → Option Reconciliation
  | .malformed => none
  | .notObject => some .nothing
  | .silent => some .nothing
  | .asks enabled requested => some ⟨some enabled, some requested, v.isBelow requested⟩

/-- What the log says of a document. Of a malformed one the cause is left out. -/
def records (property : String) (v : DesiredVersion) (reading : Reading) :
    List Log.Record :=
  match reading with
  | .malformed => [Log.warn "Cannot parse the desired properties as JSON content: "]
  | .notObject => [Log.debug "Desired properties document is not an object, ignoring"]
  | .silent => [Log.debug s!"Desired properties carry no boolean {property}"]
  | .asks enabled requested =>
      let stored := (v.observe requested).current
      let advanced := v.isBelow requested
      [Log.debug
        (s!"Desired {property}={enabled} at version {requested.toNat} " ++
          s!"(stored {stored.toNat}, advanced: {advanced})")]

end Reading

end DeviceTwin.Desired
