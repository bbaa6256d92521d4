/-
What a document of desired properties says, read off the tree that its text spells: which
of its members are the desired properties, what the last member with the name of the
property is, and which version the last member `$version` asks for.
-/
import DeviceTwin.Desired
import DeviceTwin.Proofs.Json.Strict

namespace DeviceTwin.Desired

open DeviceTwin.Json

/-- The object with the desired properties: the last member `desired` if it is an object, and
the whole document otherwise. -/
def propertiesOf (tree : Tree) : Tree :=
  match tree.last? "desired" with
  | some (.object members) => .object members
  | _ => tree

/-- The version that the last member `$version` asks for. -/
def versionOf (properties : Tree) : UInt32 :=
  match (properties.last? versionKey).bind Tree.number? with
  | some n => n.toBinary64.clampedUInt32
  | none => 0

/-- What the tree of a document says of a property. -/
def Reading.ofTree (property : String) (tree : Tree) : Reading :=
  match tree with
  | .object _ =>
      match (propertiesOf tree).last? property with
      | some (.boolean enabled) => .asks enabled (versionOf (propertiesOf tree))
      | _ => .silent
  | _ => .notObject

/-- A document that is strict JSON and has a truth value for a property. -/
def Carries (property document : String) (enabled : Bool) : Prop :=
  ∃ tree, StrictText maxLevels tree document ∧
    (propertiesOf tree).last? property = some (.boolean enabled)

variable {levels : Nat} {tree : Tree} {value : Value} {property document : String}

/-- The desired properties of a value are the value of the desired properties of its tree. -/
theorem exists_value?_propertiesOf (hvalue : tree.value? levels = some value) :
    ∃ levels, (propertiesOf tree).value? levels = some (properties value) := by
  unfold propertiesOf properties
  rw [get?_of_value? hvalue]
  cases hlast : tree.last? "desired" with
  | none => exact ⟨levels, hvalue⟩
  | some member =>
      obtain ⟨inner, hinner⟩ := exists_value?_of_last? hvalue hlast
      rw [Option.bind_some, hinner, Option.bind_some]
      cases member with
      | object members =>
          refine ⟨levels - 1, ?_⟩
          rw [hinner, object?_of_value? hinner]
          rfl
      | _ =>
          rw [object?_of_value? hinner]
          exact ⟨levels, hvalue⟩

theorem exists_text_propertiesOf {cs : List Char} (htree : SpellsText tree cs) :
    ∃ text, SpellsText (propertiesOf tree) text := by
  unfold propertiesOf
  split
  · next hlast => exact htree.exists_text_of_last? hlast
  · exact ⟨cs, htree⟩

theorem version_eq_versionOf (hvalue : tree.value? levels = some value) :
    version value = versionOf tree := by
  have hnumber : (value.get? versionKey).bind Value.number? =
      (tree.last? versionKey).bind Tree.number? := by
    rw [get?_of_value? hvalue]
    cases hlast : tree.last? versionKey with
    | none => rfl
    | some member =>
        obtain ⟨inner, hinner⟩ := exists_value?_of_last? hvalue hlast
        rw [Option.bind_some, hinner]
        exact number?_of_value? hinner
  exact congrArg
    (fun number : Option Number =>
      match number with
      | some n => n.toBinary64.clampedUInt32
      | none => 0) hnumber

theorem ofProperties_eq (hvalue : tree.value? levels = some value) :
    Reading.ofProperties property value =
      match tree.last? property with
      | some (.boolean enabled) => .asks enabled (versionOf tree)
      | _ => .silent := by
  unfold Reading.ofProperties
  rw [get?_of_value? hvalue, version_eq_versionOf hvalue]
  cases hlast : tree.last? property with
  | none => rfl
  | some member =>
      obtain ⟨inner, hinner⟩ := exists_value?_of_last? hvalue hlast
      rw [Option.bind_some, hinner, Option.bind_some, boolean?_of_value? hinner]
      cases member <;> rfl

theorem ofValue_eq_ofTree (hvalue : tree.value? levels = some value) :
    Reading.ofValue property value = Reading.ofTree property tree := by
  obtain ⟨inner, hproperties⟩ := exists_value?_propertiesOf hvalue
  unfold Reading.ofValue Reading.ofTree
  cases valued_of_value? hvalue with
  | object hvalues => exact ofProperties_eq hproperties
  | _ => rfl

/-- A strict document says what its tree says. -/
theorem ofDocument_eq_ofTree (hstrict : StrictText maxLevels tree document) :
    Reading.ofDocument property document = Reading.ofTree property tree := by
  obtain ⟨value, hvalue⟩ := hstrict.exists_value
  rw [Reading.ofDocument, hstrict.read?_eq, hvalue]
  exact ofValue_eq_ofTree hvalue

/-- A document is malformed exactly if it is not strict JSON. -/
theorem ofDocument_eq_malformed_iff :
    Reading.ofDocument property document = .malformed ↔ ¬IsStrict maxLevels document := by
  constructor
  · rintro hmalformed ⟨tree, hstrict⟩
    rw [ofDocument_eq_ofTree hstrict] at hmalformed
    unfold Reading.ofTree at hmalformed
    split at hmalformed
    · split at hmalformed <;> contradiction
    · contradiction
  · intro hloose
    rw [← isSome_read?_iff, Option.not_isSome_iff_eq_none] at hloose
    rw [Reading.ofDocument, hloose]

/-- What is no object has no members. -/
theorem propertiesOf_of_last?_eq_some {member : Tree} {key : String}
    (hlast : (propertiesOf tree).last? key = some member) : ∃ members, tree = .object members := by
  cases tree with
  | object members => exact ⟨members, rfl⟩
  | _ => contradiction

/-- A strict document with a truth value for the property asks for it, in the version that it
gives. -/
theorem ofDocument_eq_asks (hstrict : StrictText maxLevels tree document) {enabled : Bool}
    (hlast : (propertiesOf tree).last? property = some (.boolean enabled)) :
    Reading.ofDocument property document = .asks enabled (versionOf (propertiesOf tree)) := by
  rw [ofDocument_eq_ofTree hstrict]
  obtain ⟨members, rfl⟩ := propertiesOf_of_last?_eq_some hlast
  rw [Reading.ofTree, hlast]

/-- Documents ask for a value exactly if they carry it. -/
theorem carries_iff {enabled : Bool} :
    Carries property document enabled ↔
      ∃ version, Reading.ofDocument property document = .asks enabled version := by
  constructor
  · rintro ⟨tree, hstrict, hlast⟩
    exact ⟨_, ofDocument_eq_asks hstrict hlast⟩
  · rintro ⟨version, hasks⟩
    by_cases hloose : IsStrict maxLevels document
    · obtain ⟨tree, hstrict⟩ := hloose
      refine ⟨tree, hstrict, ?_⟩
      rw [ofDocument_eq_ofTree hstrict] at hasks
      unfold Reading.ofTree at hasks
      split at hasks
      · split at hasks
        · next hlast =>
            rw [Reading.asks.injEq] at hasks
            rw [hlast, hasks.1]
        · contradiction
      · contradiction
    · rw [ofDocument_eq_malformed_iff.mpr hloose] at hasks
      contradiction

theorem not_carries (hsilent : ∀ enabled version,
    Reading.ofDocument property document ≠ .asks enabled version) (enabled : Bool) :
    ¬Carries property document enabled := by
  intro hcarries
  obtain ⟨version, hasks⟩ := carries_iff.mp hcarries
  exact hsilent enabled version hasks

theorem Carries.unique {enabled enabled' : Bool} (hcarries : Carries property document enabled)
    (hcarries' : Carries property document enabled') : enabled = enabled' := by
  obtain ⟨version, hasks⟩ := carries_iff.mp hcarries
  obtain ⟨version', hasks'⟩ := carries_iff.mp hcarries'
  rw [hasks, Reading.asks.injEq] at hasks'
  exact hasks'.1

end DeviceTwin.Desired
