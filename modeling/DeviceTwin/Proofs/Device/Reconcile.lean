/-
What a device does with a document of desired properties, and what it tells of it.  The
document is no strict JSON and nothing comes of it; or it asks for nothing and nothing is
done; or it asks for a value, which the hook gets once, and for a version, to which the
counter rises.
-/
import Mathlib
import DeviceTwin.Proofs.Desired.Section
import DeviceTwin.Proofs.Device.Effects
import DeviceTwin.Proofs.DesiredVersion

namespace DeviceTwin

namespace Device

open Desired Json

/-- The effects of a value that the upload property is to have: the hook for it is called, if
there is one. -/
def uploadEffects (d : Device) (enabled : Bool) : List Effect :=
  if d.hooks.uploadEnabled.isPresent then [.hook (.uploadEnabled enabled)] else []

/-- What comes of a document between two times, by what the document is. -/
inductive Outcome (d after : Device) (document : String) : Option Reconciliation → Prop
  | malformed (hloose : ¬IsStrict maxLevels document) (hversion : after.version = d.version)
      (hleaves : d.Leaves after []) : Outcome d after document none
  | nothing (hstrict : IsStrict maxLevels document)
      (hmute : ∀ enabled, ¬Carries d.settings.property document enabled)
      (hversion : after.version = d.version) (hleaves : d.Leaves after []) :
      Outcome d after document (some .nothing)
  | asks {enabled : Bool} {requested : UInt32} (hstrict : IsStrict maxLevels document)
      (hcarries : ∀ other, Carries d.settings.property document other ↔ enabled = other)
      (hversion : after.version = d.version.observe requested)
      (hleaves : d.Leaves after (d.uploadEffects enabled)) :
      Outcome d after document
        (some ⟨some enabled, some requested, d.version.isBelow requested⟩)

/-- The effects of a document are those of the value that it asks for. -/
theorem leaves_reconcile_asking (d : Device) (document : String) :
    d.Leaves (d.reconcile document).2
      (match Reading.ofDocument d.settings.property document with
        | .asks enabled _ => d.uploadEffects enabled
        | _ => []) := by
  have hleaves := leaves_reconcile document d
  rw [Memory.effects_of_calls_eq_nil rfl, Memory.raised?] at hleaves
  change d.Leaves _ (((Memory.askedCall? (Reading.ofDocument d.settings.property document)).filter
    d.memory.hasHook).toList.map .hook) at hleaves
  cases hreading : Reading.ofDocument d.settings.property document with
  | asks enabled requested =>
      rw [hreading, Memory.askedCall?, Option.filter_some] at hleaves
      have hhook : d.memory.hasHook (.uploadEnabled enabled) = d.hooks.uploadEnabled.isPresent :=
        rfl
      rw [hhook] at hleaves
      cases hpresent : d.hooks.uploadEnabled.isPresent <;>
        simpa [uploadEffects, hpresent] using hleaves
  | _ =>
      rw [hreading] at hleaves
      exact hleaves

/-- Each document has one of these outcomes. -/
theorem outcome_reconcile (d : Device) (document : String) :
    d.Outcome (d.reconcile document).2 document (d.reconcile document).1 := by
  have hresult : (d.reconcile document).1 =
      (Reading.ofDocument d.settings.property document).reconciliation? d.version := rfl
  have hversion : (d.reconcile document).2.version =
      (Reading.ofDocument d.settings.property document).versionAfter d.version :=
    congrArg Memory.version (memory_reconcile document d)
  have hleaves := leaves_reconcile_asking d document
  have hstrict : Reading.ofDocument d.settings.property document ≠ .malformed →
      IsStrict maxLevels document := by
    intro hne
    by_contra hloose
    exact hne (ofDocument_eq_malformed_iff.mpr hloose)
  rw [hresult]
  cases hreading : Reading.ofDocument d.settings.property document with
  | malformed =>
      rw [hreading] at hversion hleaves
      exact .malformed (ofDocument_eq_malformed_iff.mp hreading) hversion hleaves
  | notObject | silent =>
      rw [hreading] at hversion hleaves hstrict
      refine .nothing (hstrict nofun) (not_carries fun _ _ => ?_) hversion hleaves
      rw [hreading]
      exact nofun
  | asks enabled requested =>
      rw [hreading] at hversion hleaves hstrict
      have hcarries : Carries d.settings.property document enabled :=
        carries_iff.mpr ⟨requested, hreading⟩
      exact .asks (hstrict nofun) (fun other => ⟨hcarries.unique, fun heq => heq ▸ hcarries⟩)
        hversion hleaves

/-- A document is done all of it or nothing, and the report of it tells what was done.  There
is no report exactly if the document is no strict JSON: if it is not spelled after the grammar,
if it has more than 127 levels, if a string has a surrogate without its other half, or if a
number exceeds the range of binary64. -/
theorem reconcile_atomic (d : Device) (document : String) :
    ((d.reconcile document).1 = none ↔ ¬IsStrict maxLevels document) ∧
    ((d.reconcile document).1 = none →
      (d.reconcile document).2.version = d.version ∧ d.Leaves (d.reconcile document).2 []) ∧
    ∀ report, (d.reconcile document).1 = some report →
      (report.uploadEnabled.isSome ↔ report.requestedVersion.isSome) ∧
      (∀ enabled, report.uploadEnabled = some enabled ↔
        Carries d.settings.property document enabled) ∧
      (report.uploadEnabled = none → report = .nothing ∧
        (d.reconcile document).2.version = d.version ∧ d.Leaves (d.reconcile document).2 []) ∧
      ∀ enabled requested, report.uploadEnabled = some enabled →
        report.requestedVersion = some requested →
        d.Leaves (d.reconcile document).2 (d.uploadEffects enabled) ∧
        (d.reconcile document).2.version.current.toNat =
          max d.version.current.toNat requested.toNat ∧
        (report.versionAdvanced = true ↔ (d.reconcile document).2.version ≠ d.version) := by
  have houtcome := outcome_reconcile d document
  generalize (d.reconcile document).1 = r at houtcome ⊢
  generalize (d.reconcile document).2 = after at houtcome ⊢
  cases houtcome with
  | malformed hloose hversion hleaves =>
      exact ⟨iff_of_true rfl hloose, fun _ => ⟨hversion, hleaves⟩, nofun⟩
  | nothing hstrict hmute hversion hleaves =>
      refine ⟨iff_of_false nofun (not_not.mpr hstrict), nofun, ?_⟩
      rintro report ⟨⟩
      exact ⟨Iff.rfl, fun enabled => iff_of_false nofun (hmute enabled),
        fun _ => ⟨rfl, hversion, hleaves⟩, nofun⟩
  | @asks enabled requested hstrict hcarries hversion hleaves =>
      refine ⟨iff_of_false nofun (not_not.mpr hstrict), nofun, ?_⟩
      rintro report ⟨⟩
      refine ⟨Iff.rfl, fun other => ?_, nofun, ?_⟩
      · rw [hcarries, Option.some.injEq]
      · rintro _ _ ⟨⟩ ⟨⟩
        rw [hversion]
        exact ⟨hleaves, d.version.toNat_observe requested,
          d.version.isBelow_iff_observe_ne requested⟩

/-- A device with a hook for the upload property. -/
def hooked : Device :=
  { plain (.scripted []) with hooks := { uploadEnabled := .present } }

/-- A document with an old version. -/
def staleDocument : String := "\x7b\"telemetryUploadEnabled\":false,\"$version\":0\x7d"

/-- The hook is called also if the version is not newer, and the counter stays. -/
theorem reconcile_staleDocument :
    (hooked.reconcile staleDocument).1 = some ⟨some false, some 0, false⟩ ∧
      hooked.Leaves (hooked.reconcile staleDocument).2 [.hook (.uploadEnabled false)] ∧
      (hooked.reconcile staleDocument).2.version.current.toNat = max 1 0 := by
  have hreport : (hooked.reconcile staleDocument).1 = some ⟨some false, some 0, false⟩ := by
    decide +kernel
  obtain ⟨-, -, hdone⟩ := reconcile_atomic hooked staleDocument
  obtain ⟨-, -, -, hasks⟩ := hdone _ hreport
  obtain ⟨hleaves, hversion, -⟩ := hasks false 0 rfl rfl
  exact ⟨hreport, hleaves, hversion⟩

/-- A document that asks for a value, with a number that exceeds the range of binary64. -/
def outOfRangeDocument : String :=
  "\x7b\"telemetryUploadEnabled\":true,\"$version\":7,\"x\":1e400\x7d"

/-- A document that asks for a value, with half of a surrogate pair. -/
def halfPairDocument : String :=
  "\x7b\"telemetryUploadEnabled\":true,\"$version\":7,\"x\":\"\\ud800\"\x7d"

/-- The tree of a document with a value, a version and another member. -/
def treeWith (other : Tree) : Tree :=
  .object [(Json.plain "telemetryUploadEnabled", .boolean true),
    (Json.plain versionKey, .numeral ⟨false, [7], [], none⟩), (Json.plain "x", other)]

theorem isSpelled_outOfRangeDocument : IsSpelled maxLevels outOfRangeDocument :=
  isSpelled_iff.mpr
    ⟨treeWith (.numeral ⟨false, [1], [], some (false, [4, 0, 0])⟩), by cbv, by decide +kernel⟩

theorem isSpelled_halfPairDocument : IsSpelled maxLevels halfPairDocument :=
  isSpelled_iff.mpr ⟨treeWith (.text [.unit 0xD800]), by cbv, by decide +kernel⟩

/-- That a document is JSON after the grammar and not nested too deeply is not enough for a
report: there is none if a number in it is out of range, or if a surrogate stands alone. -/
theorem not_none_iff_not_isSpelled :
    ¬(((plain (.scripted [])).reconcile outOfRangeDocument).1 = none ↔
        ¬IsSpelled maxLevels outOfRangeDocument) ∧
      ¬(((plain (.scripted [])).reconcile halfPairDocument).1 = none ↔
        ¬IsSpelled maxLevels halfPairDocument) := by
  have hrange : ((plain (.scripted [])).reconcile outOfRangeDocument).1 = none := by
    decide +kernel
  have hhalf : ((plain (.scripted [])).reconcile halfPairDocument).1 = none := by
    decide +kernel
  exact ⟨fun hiff => hiff.mp hrange isSpelled_outOfRangeDocument,
    fun hiff => hiff.mp hhalf isSpelled_halfPairDocument⟩

end Device

end DeviceTwin
