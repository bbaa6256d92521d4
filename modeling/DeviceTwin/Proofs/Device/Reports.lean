/-
The reports of a device as the cloud reads them.  Whatever the names in a report are, its
text reads back as the document that was meant; and a device that is given its own report
as a document of desired properties finds nothing in it that it was asked for.
-/
import DeviceTwin.Proofs.Device.Calls
import DeviceTwin.Proofs.Json.Writing
import DeviceTwin.Proofs.Link.Sent

namespace DeviceTwin

open Json

namespace Report

theorem exact_deviceDetails (serialNumber : String) :
    (deviceDetails serialNumber).Exact maxLevels :=
  ⟨List.pairwise_singleton _ _, trivial, trivial⟩

theorem exact_uploadEnabled (property : String) (enabled : Bool) (stamp : UInt32) :
    (uploadEnabled property enabled stamp).Exact maxLevels := by
  have hstatus : IsWord statusApplied := ⟨by decide, by decide⟩
  have hstamp : IsWord stamp.toNat := by
    have hlt := stamp.toNat_lt
    refine ⟨by omega, ?_⟩
    rw [show UInt64.size = 18446744073709551616 from rfl]
    omega
  refine ⟨List.pairwise_singleton _ _, ⟨?_, hstatus, trivial, hstamp, trivial, trivial⟩, trivial⟩
  change List.Pairwise (· < ·) ["ac", "ad", "av", "value"]
  decide

/-- A report says of its own property nothing that could be asked for: it is no truth value
but an object, and no member of that object has the name of a section. -/
theorem ofValue_uploadEnabled (property : String) (enabled : Bool) (stamp : UInt32) :
    Desired.Reading.ofValue property (uploadEnabled property enabled stamp) = .silent := by
  by_cases hdesired : property = "desired"
  · subst hdesired
    rfl
  · have hsection : Desired.properties (uploadEnabled property enabled stamp) =
        uploadEnabled property enabled stamp := by
      rw [Desired.properties, uploadEnabled, Value.get?, lookup_cons_eq_ite,
        if_neg (Ne.symm hdesired)]
      rfl
    have hproperty : ((uploadEnabled property enabled stamp).get? property).bind
        Value.boolean? = none := by
      rw [uploadEnabled, Value.get?, lookup_cons_eq_ite, if_pos rfl]
      rfl
    change Desired.Reading.ofProperties property
      (Desired.properties (uploadEnabled property enabled stamp)) = _
    rw [hsection, Desired.Reading.ofProperties, hproperty]

end Report

namespace Device

/-- Between two times a device has made one call on its link, which reports a text. A link
that keeps messages keeps the report if it accepts messages now. -/
structure Reports (d after : Device) (text : String) : Prop where
  makes : d.Makes after [.report text]
  sent : ∀ loopback, d.link.loopback? = some loopback →
    after.link.sent =
      loopback.sent.toList ++ if loopback.isAccepting then [.report text] else []

theorem Makes.reports {d after : Device} {text : String}
    (hmakes : d.Makes after [.report text]) : d.Reports after text := by
  refine ⟨hmakes, fun loopback hloopback => ?_⟩
  obtain ⟨later, hlater, hsent, -⟩ := Link.loopback?_performAll hloopback (.inr ⟨_, rfl⟩)
  rw [hmakes.link, Link.sent, hlater, Option.map_some, Option.getD_some, hsent]
  cases hopen : loopback.isAccepting <;>
    simp [Link.Loopback.accepted?, Link.Loopback.messageOf?, hopen]

theorem makes_reportDetails (serialNumber : String) (d : Device) :
    d.Makes (d.reportDetails serialNumber).2 [.report (Report.deviceDetails serialNumber).write] :=
  makes_call d _

theorem makes_reportUpload (enabled : Bool) (d : Device) :
    d.Makes (d.reportUpload enabled).2
      [.report (Report.uploadEnabled d.settings.property enabled d.version.current).write] := by
  have hadvanced : d.Makes { d with version := d.version.advance } [] :=
    makes_nothing rfl rfl rfl rfl rfl
  exact hadvanced.trans (makes_call _ _)

theorem json_report_write {v : Json.Value} (hexact : v.Exact maxLevels) :
    (Link.Message.report v.write).json = v := by
  rw [Link.Message.json, Link.Message.payload, Value.read?_write hexact, Option.getD_some]

/-- A document that says nothing of the property changes nothing. -/
theorem reconcile_of_silent {d : Device} {document : String}
    (hsilent : Desired.Reading.ofDocument d.settings.property document = .silent) :
    (d.reconcile document).1 = some .nothing ∧
      (d.reconcile document).2.version = d.version := by
  rw [reconcile, hsilent]
  exact ⟨rfl, rfl⟩

/-- The reports of a device read back as the documents that are meant, whatever characters
the serial number and the name of the property have; and the report of the property asks for
nothing when it comes back as a document, whatever the version is then. -/
theorem json_of_reports (d : Device) (serialNumber : String) (enabled : Bool) :
    (∃ text, d.Reports (d.reportDetails serialNumber).2 text ∧
      (Link.Message.report text).json = .object [("serialNumber", .string serialNumber)]) ∧
    ∃ text, d.Reports (d.reportUpload enabled).2 text ∧
      (Link.Message.report text).json = .object [(d.settings.property, .object
        [("ac", .number (.whole 200)),
          ("ad", .string ("Successfully updated " ++ d.settings.property)),
          ("av", .number (.whole d.version.current.toNat)),
          ("value", .boolean enabled)])] ∧
      ∀ v : DesiredVersion,
        ({ d with version := v }.reconcile text).1 = some .nothing ∧
        ({ d with version := v }.reconcile text).2.version = v := by
  refine ⟨⟨_, (makes_reportDetails serialNumber d).reports, ?_⟩,
    ⟨_, (makes_reportUpload enabled d).reports, ?_, fun v => ?_⟩⟩
  · exact json_report_write (Report.exact_deviceDetails serialNumber)
  · exact json_report_write (Report.exact_uploadEnabled _ _ _)
  · apply reconcile_of_silent
    rw [Desired.Reading.ofDocument, Value.read?_write (Report.exact_uploadEnabled _ _ _)]
    exact Report.ofValue_uploadEnabled _ _ _

end Device

end DeviceTwin
