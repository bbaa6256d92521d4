/-
The version counter of a device through a run, and the stamps of its upload
reports.  Only documents that carry the property and upload reports move the
counter; what the link answers to a report does not matter.
-/
import DeviceTwin.Proofs.DesiredVersion
import DeviceTwin.Proofs.Device.Run

namespace DeviceTwin

/-- What a document does to the counter, if it carries the property. -/
def Desired.Reading.move? : Desired.Reading → Option DesiredVersion.Move
  | .asks _ version => some (.observe version)
  | _ => none

namespace Device

/-- What a step does to the counter of a device with a property. -/
def Step.move? (property : String) : Step → Option DesiredVersion.Move
  | .reconcile document => (Desired.Reading.ofDocument property document).move?
  | .hear (.desired document) => (Desired.Reading.ofDocument property document).move?
  | .reportUpload _ => some .stamp
  | _ => none

theorem versionAfter_eq_move (v : DesiredVersion) (reading : Desired.Reading) :
    reading.versionAfter v = (reading.move?.map v.move).getD v := by
  cases reading <;> rfl

/-- One step moves the counter as it says, or not at all. -/
theorem Memory.version_act (m : Memory) (step : Step) :
    (m.act step).version =
      ((step.move? m.settings.property).map m.version.move).getD m.version := by
  cases step with
  | reconcile document => exact versionAfter_eq_move m.version _
  | hear n =>
      cases n with
      | desired document => exact versionAfter_eq_move m.version _
      | _ => rfl
  | _ => rfl

theorem version_act_eq_move (d : Device) (step : Step) :
    (d.act step).version =
      ((step.move? d.settings.property).map d.version.move).getD d.version := by
  rw [version_act, Memory.version_act]
  rfl

/-- The counter after a run is the counter after the moves of its steps. -/
theorem version_run (d : Device) (steps : List Step) :
    (d.run steps).version =
      d.version.after (steps.filterMap (Step.move? d.settings.property)) := by
  induction steps generalizing d with
  | nil => rfl
  | cons step later ih =>
      rw [run_cons, ih, settings_act, version_act_eq_move]
      cases hmove : step.move? d.settings.property with
      | none => rw [List.filterMap_cons_none hmove]; rfl
      | some m => rw [List.filterMap_cons_some hmove]; rfl

theorem le_version_run (d : Device) (steps : List Step) :
    d.version.current ≤ (d.run steps).version.current := by
  rw [version_run]
  exact DesiredVersion.le_after d.version _

/-- The counter has reached every version that was asked for. -/
theorem requested_le_version_run {d : Device} {steps : List Step} {step : Step}
    {requested : UInt32} (hstep : step ∈ steps)
    (hmove : step.move? d.settings.property = some (.observe requested)) :
    requested ≤ (d.run steps).version.current := by
  obtain ⟨earlier, later, rfl⟩ := List.append_of_mem hstep
  rw [run_append, run_cons]
  refine UInt32.le_trans ?_ (le_version_run _ later)
  rw [version_act_eq_move, settings_run, hmove, UInt32.le_iff_toNat_le]
  have hobserve : (((d.run earlier).version.move (.observe requested))).current.toNat =
      max (d.run earlier).version.current.toNat requested.toNat :=
    DesiredVersion.toNat_observe _ requested
  change requested.toNat ≤ ((d.run earlier).version.move (.observe requested)).current.toNat
  omega

/-- The calls on the link that a step makes, as the journal has them. -/
def callsOf (d : Device) (step : Step) : List Link.Call :=
  Journal.linkCalls ((d.act step).journal.since d.journal.length)

def Step.isUpload : Step → Bool
  | .reportUpload _ => true
  | _ => false

/-- The calls on the link that the upload reports of a run make. -/
def uploadCalls (d : Device) : List Step → List Link.Call
  | [] => []
  | step :: later =>
      (if step.isUpload then d.callsOf step else []) ++ (d.act step).uploadCalls later

/-- The value that an upload report gives, and the counter at that time. -/
def upload? (d : Device) : Step → Option (Bool × UInt32)
  | .reportUpload enabled => some (enabled, d.version.current)
  | _ => none

/-- The upload reports of a run. -/
def uploads (d : Device) : List Step → List (Bool × UInt32)
  | [] => []
  | step :: later => (d.upload? step).toList ++ (d.act step).uploads later

/-- The call of an upload report for a property. -/
def uploadCall (property : String) (upload : Bool × UInt32) : Link.Call :=
  .report (Report.uploadEnabled property upload.1 upload.2).write

theorem linkCalls_map_record (records : List Log.Record) :
    Journal.linkCalls (records.map .record) = [] := by
  induction records with
  | nil => rfl
  | cons r rest ih => exact ih

/-- A call on the link is the only one that it adds to the journal. -/
theorem linkCalls_call (c : Link.Call) (d : Device) :
    Journal.linkCalls ((d.call c).2.journal.since d.journal.length) = [c] := by
  have hjournal : (d.call c).2.journal =
      d.journal ++ (Journal.Entry.link c ::
        (d.link.perform c).records.map Journal.Entry.record) := rfl
  rw [hjournal, Trace.since_append]
  change c :: Journal.linkCalls ((d.link.perform c).records.map .record) = [c]
  rw [linkCalls_map_record]

theorem callsOf_reportUpload (d : Device) (enabled : Bool) :
    d.callsOf (.reportUpload enabled) =
      [uploadCall d.settings.property (enabled, d.version.current)] :=
  linkCalls_call _ { d with version := d.version.advance }

/-- Every upload report of a run goes out once, stamped with the counter. -/
theorem uploadCalls_eq (d : Device) (steps : List Step) :
    d.uploadCalls steps = (d.uploads steps).map (uploadCall d.settings.property) := by
  induction steps generalizing d with
  | nil => rfl
  | cons step later ih =>
      rw [uploadCalls, uploads, List.map_append, ih, settings_act]
      cases step with
      | reportUpload enabled =>
          rw [if_pos (show (Step.reportUpload enabled).isUpload = true from rfl),
            callsOf_reportUpload]
          rfl
      | _ => rfl

theorem le_of_mem_uploads (d : Device) (steps : List Step) {upload : Bool × UInt32}
    (hupload : upload ∈ d.uploads steps) : d.version.current ≤ upload.2 := by
  induction steps generalizing d with
  | nil => simp [uploads] at hupload
  | cons step later ih =>
      rw [uploads, List.mem_append] at hupload
      rcases hupload with hnow | hlater
      · cases step with
        | reportUpload enabled =>
            rw [List.mem_singleton.mp hnow]
            exact UInt32.le_refl d.version.current
        | _ => exact absurd hnow List.not_mem_nil
      · exact UInt32.le_trans (le_version_run d [step]) (ih (d.act step) hlater)

/-- The stamps of a run go up by one report to the next until they stay at the
greatest number. -/
theorem uploads_pairwise (d : Device) (steps : List Step) :
    ((d.uploads steps).map Prod.snd).Pairwise DesiredVersion.StampedBefore := by
  induction steps generalizing d with
  | nil => exact List.Pairwise.nil
  | cons step later ih =>
      rw [uploads, List.map_append]
      cases step with
      | reportUpload enabled =>
          refine List.Pairwise.cons ?_ (ih _)
          intro stamp hstamp
          obtain ⟨upload, hupload, rfl⟩ := List.mem_map.mp hstamp
          exact DesiredVersion.stampedBefore_of_advance_le
            (le_of_mem_uploads (d.act (.reportUpload enabled)) later hupload)
      | _ => exact ih _

/-- The counter has a closed form, whatever moves it.  In a run of a device it starts
at one, moves only with the documents that carry the property and with the upload
reports, accepted or not, and never goes back; every upload report goes out with
the counter as its stamp, and stamps grow until they stay at the greatest
number. -/
theorem version_run_closed_form {settings : Settings} {hooks : Hooks} {link : Link}
    {d : Device} (hcreated : ofSettings settings hooks link = .ok d) :
    (∀ (v : DesiredVersion) (moves : List DesiredVersion.Move),
      (v.after moves).current.toNat =
        min (UInt32.size - 1) (max (v.current.toNat + DesiredVersion.stamps moves)
          ((DesiredVersion.carried moves).foldr max 0))) ∧
    (∀ (v : DesiredVersion) (requested : UInt32),
      v.isBelow requested = true ↔ v.observe requested ≠ v) ∧
    d.version.current = 1 ∧
    (∀ steps : List Step, (d.run steps).version =
      d.version.after (steps.filterMap (Step.move? settings.property))) ∧
    (∀ earlier later : List Step,
      (d.run earlier).version.current ≤ (d.run (earlier ++ later)).version.current) ∧
    (∀ steps : List Step,
      d.uploadCalls steps = (d.uploads steps).map (uploadCall settings.property) ∧
      ((d.uploads steps).map Prod.snd).Pairwise fun earlier later =>
        earlier < later ∨ earlier = DesiredVersion.greatest ∧
          later = DesiredVersion.greatest) := by
  have hmemory := (eq_of_ofSettings hcreated).1
  have hsettings : d.settings = settings := congrArg Memory.settings hmemory
  have hversion : d.version = .initial := congrArg Memory.version hmemory
  refine ⟨DesiredVersion.toNat_after, DesiredVersion.isBelow_iff_observe_ne, ?_, ?_, ?_, ?_⟩
  · rw [hversion]
    rfl
  · intro steps
    rw [version_run, hsettings]
  · intro earlier later
    rw [run_append]
    exact le_version_run (d.run earlier) later
  · intro steps
    rw [uploadCalls_eq, hsettings]
    exact ⟨rfl, uploads_pairwise d steps⟩

/-- A document asks for the last version but one, and of three reports, the first of
which is refused, the last two bear the greatest number. -/
theorem version_run_closed_form_at_greatest :
    ofSettings {} {} (.scripted [.error .closed]) =
        .ok (plain (.scripted [.error .closed])) ∧
      (plain (.scripted [.error .closed])).uploadCalls
          [.reconcile "\x7b\"telemetryUploadEnabled\":true,\"$version\":4294967294\x7d",
            .reportUpload true, .reportUpload true, .reportUpload false] =
        [(true, 4294967294), (true, 4294967295), (false, 4294967295)].map
          (uploadCall "telemetryUploadEnabled") := by
  refine ⟨ofSettings_plain _, ?_⟩
  rw [((version_run_closed_form (ofSettings_plain (.scripted [.error .closed]))).2.2.2.2.2 _).1]
  have huploads : (plain (.scripted [.error .closed])).uploads
      [.reconcile "\x7b\"telemetryUploadEnabled\":true,\"$version\":4294967294\x7d",
        .reportUpload true, .reportUpload true, .reportUpload false] =
      [(true, 4294967294), (true, 4294967295), (false, 4294967295)] := by
    decide +kernel
  rw [huploads]

end Device

end DeviceTwin
