/-
The version that a document asks for.  A whole number counts as it is written, brought into
the range of 32 bits, however many digits it has; what is no number counts as zero.
-/
import Mathlib
import DeviceTwin.Proofs.Desired.Section
import DeviceTwin.Proofs.Json.Integer

namespace DeviceTwin.Desired

open DeviceTwin.Json

/-- The version that the member `$version` of desired properties is written as, if it is a
whole number below the largest power of ten, or no number at all. -/
inductive WrittenVersion : Option Tree → Int → Prop
  | whole {n : Numeral} {z : Int} (hwhole : n.integer? = some z) (hsmall : z.natAbs < 10 ^ 308) :
      WrittenVersion (some (.numeral n)) z
  | missing : WrittenVersion none 0
  | other {tree : Tree} (hother : ∀ n, tree ≠ .numeral n) : WrittenVersion (some tree) 0

/-- A document with a truth value for a property and with a version. -/
def AsksIn (property document : String) (z : Int) : Prop :=
  ∃ tree enabled, StrictText maxLevels tree document ∧
    (propertiesOf tree).last? property = some (.boolean enabled) ∧
    WrittenVersion ((propertiesOf tree).last? versionKey) z

/-- The version that is asked for in what becomes of a document. -/
def requested? (property document : String) (v : DesiredVersion) : Option UInt32 :=
  ((Reading.ofDocument property document).reconciliation? v).bind (·.requestedVersion)

variable {property document : String} {z : Int}

theorem toNat_versionOf {tree : Tree} {cs : List Char} (htree : SpellsText tree cs)
    (hversion : WrittenVersion (tree.last? versionKey) z) :
    ((versionOf tree).toNat : Int) = clamp z := by
  unfold versionOf
  cases hlast : tree.last? versionKey with
  | none =>
      rw [hlast] at hversion
      cases hversion
      rfl
  | some member =>
      obtain ⟨text, htext⟩ := htree.exists_text_of_last? hlast
      rw [hlast] at hversion
      cases hversion with
      | whole hwhole hsmall =>
          obtain ⟨number, hnumber, hclamped⟩ :=
            Numeral.exists_number?_of_integer? htext.decimal hwhole hsmall
          rw [Option.bind_some, Tree.number?, hnumber]
          exact hclamped
      | other hother =>
          rw [Option.bind_some]
          cases member with
          | numeral n => exact absurd rfl (hother n)
          | _ => rfl

/-- What is asked for does not depend on the version counter. -/
theorem AsksIn.exists_requested? (hasks : AsksIn property document z) :
    ∃ requested : UInt32, (∀ v, requested? property document v = some requested) ∧
      (requested.toNat : Int) = clamp z := by
  obtain ⟨tree, enabled, hstrict, hlast, hversion⟩ := hasks
  obtain ⟨text, htext⟩ := exists_text_propertiesOf hstrict.spelled
  refine ⟨versionOf (propertiesOf tree), fun v => ?_, toNat_versionOf htext hversion⟩
  rw [requested?, ofDocument_eq_asks hstrict hlast]
  rfl

/-- A document asks for the whole number that it has for its version, brought into the range of
32 bits, and a document with a greater number does not ask for less. -/
theorem requested_eq_clamp (hasks : AsksIn property document z) :
    ∃ requested : UInt32, (∀ v, requested? property document v = some requested) ∧
      (requested.toNat : Int) = min (max z 0) (2 ^ 32 - 1) ∧
      ∀ later z', AsksIn property later z' → z ≤ z' →
        ∃ requested' : UInt32, (∀ v, requested? property later v = some requested') ∧
          requested ≤ requested' := by
  obtain ⟨requested, hrequested, hclamp⟩ := hasks.exists_requested?
  refine ⟨requested, hrequested, hclamp, ?_⟩
  intro later z' hlater hle
  obtain ⟨requested', hrequested', hclamp'⟩ := hlater.exists_requested?
  refine ⟨requested', hrequested', ?_⟩
  rw [UInt32.le_iff_toNat_le]
  unfold clamp at hclamp hclamp'
  omega

/-- A document with a version beyond 64 bits, which would be one if it wrapped around. -/
def wideDocument : String :=
  "\x7b\"telemetryUploadEnabled\":true,\"$version\":18446744073709551617\x7d"

def wideNumeral : Numeral := ⟨false, [1,8,4,4,6,7,4,4,0,7,3,7,0,9,5,5,1,6,1,7], [], none⟩

def wideTree : Tree :=
  .object [(plain "telemetryUploadEnabled", .boolean true),
    (plain versionKey, .numeral wideNumeral)]

theorem asksIn_wideDocument :
    AsksIn "telemetryUploadEnabled" wideDocument 18446744073709551617 := by
  have hstrict : StrictText maxLevels wideTree wideDocument :=
    strictText_iff.mpr ⟨by cbv, by decide +kernel⟩
  have hwhole : propertiesOf wideTree = wideTree := by
    simp [propertiesOf, wideTree, Tree.last?, lastOf?_cons, versionKey]
  have hlast : wideTree.last? "telemetryUploadEnabled" = some (.boolean true) := by
    simp [wideTree, Tree.last?, lastOf?_cons, versionKey]
  have hversion : wideTree.last? versionKey = some (.numeral wideNumeral) := by
    simp [wideTree, Tree.last?, lastOf?_cons, versionKey]
  refine ⟨wideTree, true, hstrict, hwhole ▸ hlast, ?_⟩
  rw [hwhole, hversion]
  exact .whole (by decide +kernel) (by decide +kernel)

theorem requested_wideDocument :
    AsksIn "telemetryUploadEnabled" wideDocument 18446744073709551617 ∧
      requested? "telemetryUploadEnabled" wideDocument .initial = some DesiredVersion.greatest := by
  refine ⟨asksIn_wideDocument, ?_⟩
  obtain ⟨requested, hrequested, hclamp, -⟩ := requested_eq_clamp asksIn_wideDocument
  have hgreatest : requested = DesiredVersion.greatest := by
    apply UInt32.toNat_inj.mp
    have hvalue : DesiredVersion.greatest.toNat = 4294967295 := rfl
    omega
  rw [hrequested, hgreatest]

end DeviceTwin.Desired
