/-
Full twins and deltas.  A document in which the desired properties stand under `desired`
says the same as these properties alone, whatever else stands beside them: only what the
text under the last `desired` spells counts.
-/
import Mathlib
import DeviceTwin.Proofs.Desired.Section

namespace DeviceTwin.Desired

open DeviceTwin.Json

/-- The text of a full twin: members, then the desired properties under a name, then more
members, with blanks around the whole. -/
structure FullTwin where
  lead : List Char
  before : List (List Char)
  name : List Char
  /-- The text of the desired properties. -/
  delta : List Char
  after : List (List Char)
  trail : List Char

namespace FullTwin

def text (twin : FullTwin) : List Char :=
  twin.lead ++
    objectText (twin.before ++ (twin.name ++ ':' :: twin.delta) :: twin.after) ++ twin.trail

/-- The parts of a full twin fit together: `desired` is the name of the properties, and of no
member behind them. -/
structure WellFormed (twin : FullTwin) (properties : List (List Piece × Tree)) : Prop where
  lead : Blank twin.lead
  before : ∀ text ∈ twin.before, ∃ member, SpellsMember member text
  name : ∃ name, SpellsName name twin.name ∧ stringOf? name = some "desired"
  delta : SpellsText (.object properties) twin.delta
  after : ∀ text ∈ twin.after, ∃ member, SpellsMember member text ∧
    stringOf? member.1 ≠ some "desired"
  trail : Blank twin.trail

variable {twin : FullTwin} {properties : List (List Piece × Tree)}

theorem exists_forall₂ {texts : List (List Char)} {P : List Piece × Tree → Prop}
    (htexts : ∀ text ∈ texts, ∃ member, SpellsMember member text ∧ P member) :
    ∃ members, List.Forall₂ SpellsMember members texts ∧ ∀ member ∈ members, P member := by
  induction texts with
  | nil => exact ⟨[], .nil, nofun⟩
  | cons text rest ih =>
      obtain ⟨member, hmember, hP⟩ := htexts text List.mem_cons_self
      obtain ⟨members, hmembers, hall⟩ := ih fun text htext =>
        htexts text (List.mem_cons_of_mem _ htext)
      refine ⟨member :: members, .cons hmember hmembers, ?_⟩
      intro other hother
      rcases List.mem_cons.mp hother with rfl | hother
      · exact hP
      · exact hall other hother

/-- A full twin spells an object in which the desired properties are the last `desired`. -/
theorem WellFormed.exists_spelled (hwell : twin.WellFormed properties) :
    ∃ members, SpellsText (.object members) twin.text ∧
      lastOf? "desired" members = some (.object properties) := by
  obtain ⟨before, hbefore, -⟩ := exists_forall₂ (P := fun _ => True) fun text htext =>
    (hwell.before text htext).imp fun member hmember => ⟨hmember, trivial⟩
  obtain ⟨after, hafter, hothers⟩ := exists_forall₂ hwell.after
  obtain ⟨name, hname, hdesired⟩ := hwell.name
  have hmembers := List.rel_append hbefore (.cons (SpellsMember.mk hname hwell.delta) hafter)
  refine ⟨_, .mk hwell.lead (spellsValue_objectText hmembers) hwell.trail, ?_⟩
  exact lastOf?_append_cons hdesired hothers

theorem WellFormed.reading_eq (hwell : twin.WellFormed properties)
    (hinner : ∀ inner, lastOf? "desired" properties ≠ some (.object inner))
    (hstrict : IsStrict maxLevels (String.ofList twin.text)) (property : String) :
    Reading.ofDocument property (String.ofList twin.text) =
      Reading.ofDocument property (String.ofList twin.delta) ∧
    Reading.ofDocument property (String.ofList twin.delta) ≠ .malformed := by
  obtain ⟨members, hspelled, hlast⟩ := hwell.exists_spelled
  obtain ⟨tree, hstrict⟩ := hstrict
  have htree : tree = .object members :=
    hstrict.spelled.unique (by rw [String.toList_ofList]; exact hspelled)
  subst htree
  have hdelta : StrictText maxLevels (.object properties) (String.ofList twin.delta) := by
    obtain ⟨value, hvalue⟩ := hstrict.exists_value
    obtain ⟨inner, hinner⟩ := exists_value?_of_last? hvalue hlast
    have hmore := value?_of_le (Nat.sub_le _ _) _ hinner
    obtain ⟨hdepth, hmeaning⟩ := (isSome_value?_iff _ _).mp
      (Option.isSome_iff_exists.mpr ⟨inner, hmore⟩)
    refine ⟨?_, hdepth, hmeaning⟩
    rw [String.toList_ofList]
    exact hwell.delta
  have hwhole : propertiesOf (.object members) = .object properties := by
    rw [propertiesOf, Tree.last?, hlast]
  have halone : propertiesOf (.object properties) = .object properties := by
    rw [propertiesOf, Tree.last?]
    split
    · next inner heq => exact absurd heq (hinner inner)
    · rfl
  refine ⟨?_, ?_⟩
  · rw [ofDocument_eq_ofTree hstrict, ofDocument_eq_ofTree hdelta, Reading.ofTree, Reading.ofTree,
      hwhole, halone]
  · rw [ne_eq, ofDocument_eq_malformed_iff, not_not]
    exact ⟨_, hdelta⟩

/-- What comes of a full twin, and what it makes of the version counter, is what comes of its
desired properties alone.  The twin is strict JSON: beyond the grammar the surrogates in its
strings come in pairs, its numbers are in the range of binary64, and it has 127 levels at most. -/
theorem reconcile_fullTwin (hwell : twin.WellFormed properties)
    (hinner : ∀ inner, lastOf? "desired" properties ≠ some (.object inner))
    (hstrict : IsStrict maxLevels (String.ofList twin.text)) (property : String)
    (v : DesiredVersion) :
    ∃ r, (Reading.ofDocument property (String.ofList twin.text)).reconciliation? v = some r ∧
      (Reading.ofDocument property (String.ofList twin.delta)).reconciliation? v = some r ∧
      (Reading.ofDocument property (String.ofList twin.text)).versionAfter v =
        (Reading.ofDocument property (String.ofList twin.delta)).versionAfter v := by
  obtain ⟨hsame, hsound⟩ := hwell.reading_eq hinner hstrict property
  rw [hsame]
  cases hreading : Reading.ofDocument property (String.ofList twin.delta) with
  | malformed => exact absurd hreading hsound
  | _ => exact ⟨_, rfl, rfl, rfl⟩

/-- The desired properties under an escaped name, among a version, a value of the property and
a second section that do not count. -/
def amongDecoys : FullTwin where
  lead := [' ']
  before := ["\"$version\":99".toList, " \"telemetryUploadEnabled\" : false".toList]
  name := "\n\"\\u0064esired\"".toList
  delta := " \x7b\"telemetryUploadEnabled\":true,\"$version\":3,\"$version\":7\x7d".toList
  after := ["\"reported\":\x7b\"desired\":\x7b\x7d\x7d".toList]
  trail := []

/-- The object of the properties in the middle. -/
def amongDecoysProperties : List (List Piece × Tree) :=
  [(plain "telemetryUploadEnabled", .boolean true),
    (plain "$version", .numeral ⟨false, [3], [], none⟩),
    (plain "$version", .numeral ⟨false, [7], [], none⟩)]

theorem wellFormed_amongDecoys : amongDecoys.WellFormed amongDecoysProperties where
  lead := by
    intro c hc
    left
    exact List.mem_singleton.mp hc
  before := by
    intro text htext
    rcases List.mem_pair.mp htext with rfl | rfl
    · exact ⟨(plain "$version", .numeral ⟨false, [9, 9], [], none⟩),
        spellsMember_of_readMembers 9 (by cbv)⟩
    · exact ⟨(plain "telemetryUploadEnabled", .boolean false),
        spellsMember_of_readMembers 9 (by cbv)⟩
  name := by
    have hpieces : SpellsPieces (.unit 0x64 :: plain "esired") "\\u0064esired".toList :=
      spellsPieces_of_readPieces (by cbv)
    refine ⟨_, @SpellsName.mk _ ['\n'] _ [] ?_ (.mk hpieces) blank_nil, by decide +kernel⟩
    intro c hc
    rw [List.mem_singleton.mp hc]
    decide
  delta := Tree.ofChars?_eq_some_iff.mp (by cbv)
  after := by
    intro text htext
    rw [List.mem_singleton.mp htext]
    exact ⟨(plain "reported", .object [(plain "desired", .object [])]),
      spellsMember_of_readMembers 9 (by cbv), by decide +kernel⟩
  trail := blank_nil

/-- Nothing of what stands beside the desired properties counts. -/
theorem reconcile_amongDecoys :
    amongDecoys.WellFormed amongDecoysProperties ∧
      IsStrict maxLevels (String.ofList amongDecoys.text) ∧
      ∃ r, (Reading.ofDocument "telemetryUploadEnabled"
          (String.ofList amongDecoys.text)).reconciliation? .initial = some r ∧
        r = ⟨some true, some 7, true⟩ := by
  have hstrict : IsStrict maxLevels (String.ofList amongDecoys.text) :=
    isSome_read?_iff.mp (by decide +kernel)
  have hinner : ∀ inner, lastOf? "desired" amongDecoysProperties ≠ some (.object inner) := by
    have hnone : lastOf? "desired" amongDecoysProperties = none :=
      lastOf?_eq_none (by decide +kernel)
    intro inner heq
    rw [hnone] at heq
    contradiction
  obtain ⟨r, hwhole, hdelta, -⟩ := reconcile_fullTwin wellFormed_amongDecoys hinner hstrict
    "telemetryUploadEnabled" .initial
  refine ⟨wellFormed_amongDecoys, hstrict, r, hwhole, ?_⟩
  have halone : (Reading.ofDocument "telemetryUploadEnabled"
      (String.ofList amongDecoys.delta)).reconciliation? .initial =
        some ⟨some true, some 7, true⟩ := by decide +kernel
  rw [halone, Option.some.injEq] at hdelta
  exact hdelta.symm

end FullTwin

end DeviceTwin.Desired
