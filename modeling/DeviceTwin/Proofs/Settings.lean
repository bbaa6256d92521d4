/-
Where the settings of a device come from.  A file, the environment and the command line each
set some of them, and of each setting the highest source that sets it counts.  They are
checked only when they are put together, so that the environment can mend what a file has
wrong, and spoil what it has right.
-/
import DeviceTwin.Proofs.Text.Decimal
import DeviceTwin.Settings

namespace DeviceTwin

namespace Settings

/-! ## The file -/

/-- What a file sets. -/
structure Given where
  interval : Option UInt64 := none
  model : Option String := none
  property : Option String := none
  serial : Option String := none
  capacity : Option UInt64 := none

/-- A document sets what it has under the names of the settings, as whole numbers that are
not negative and as strings. -/
structure Sets (d : Toml.Document) (g : Given) : Prop where
  interval : d.get? "event_check_interval_secs" = g.interval.map fun n => .integer n.toNat
  model : d.get? "model_id" = g.model.map .string
  property : d.get? "upload_enabled_property" = g.property.map .string
  serial : d.get? "serial_number" = g.serial.map .string
  capacity : d.get? "channel_capacity" = g.capacity.map fun n => .integer n.toNat

/-- What the file of a path sets: its content is UTF-8 text, the text a document, and the
document has no setting of another kind.  Without a path nothing is set. -/
inductive FileSets (read : String → Except FileError Bytes) : Option String → Given → Prop
  | absent : FileSets read none {}
  | file {path text : String} {content : Bytes} {d : Toml.Document} {g : Given}
      (hread : read path = .ok content) (htext : Utf8.string? content = some text)
      (hdocument : Toml.Document.read? text = some d) (hsets : Sets d g) :
      FileSets read (some path) g

/-- The settings of a file, with the defaults of those that it does not set. -/
def Given.settings (g : Given) : Settings :=
  let standard : Settings := {}
  { interval := g.interval.getD standard.interval
    model := g.model.getD standard.model
    property := g.property.getD standard.property
    serial := g.serial
    capacity := g.capacity.getD standard.capacity }

theorem tomlNatural?_eq_some_iff {v : Toml.Value} {n : UInt64} :
    tomlNatural? v = some n ↔ v = .integer n.toNat := by
  constructor
  · intro hread
    unfold tomlNatural? at hread
    split at hread
    · split at hread
      · next m hlt =>
          obtain rfl := Option.some.inj hread
          rw [UInt64.toNat_ofNat_of_lt' hlt]
          rfl
      · contradiction
    · contradiction
  · rintro rfl
    change (if n.toNat < UInt64.size then some (UInt64.ofNat n.toNat) else none) = some n
    rw [if_pos n.toNat_lt_size, UInt64.ofNat_toNat]

theorem tomlString?_eq_some_iff {v : Toml.Value} {s : String} :
    tomlString? v = some s ↔ v = .string s := by
  cases v <;> simp [tomlString?]

/-- A setting that is read back from its value in a document. -/
theorem given_eq_some_iff {β : Type} {read : Toml.Value → Option β} {encode : β → Toml.Value}
    (hread : ∀ {v x}, read v = some x ↔ v = encode x) {default x : β} {o : Option Toml.Value} :
    given read default o = some x ↔
      ∃ set : Option β, o = set.map encode ∧ x = set.getD default := by
  cases o with
  | none =>
      constructor
      · exact fun heq => ⟨none, rfl, (Option.some.inj heq).symm⟩
      · rintro ⟨set, hset, rfl⟩
        rw [Option.map_eq_none_iff.mp hset.symm]
        rfl
  | some v =>
      rw [given, hread]
      constructor
      · exact fun heq => ⟨some x, congrArg some heq, rfl⟩
      · rintro ⟨set, hset, rfl⟩
        obtain ⟨y, rfl, heq⟩ := Option.map_eq_some_iff.mp hset.symm
        exact heq.symm

/-- The serial number is none by default. -/
theorem given_serial_eq_some_iff {x : Option String} {o : Option Toml.Value} :
    given (fun v => (tomlString? v).map some) none o = some x ↔ o = x.map .string := by
  cases o with
  | none => cases x <;> simp [given]
  | some v => cases x <;> simp [given, tomlString?_eq_some_iff]

/-- The settings of a document are those that it sets, over the defaults. -/
theorem ofToml?_eq_some_iff {d : Toml.Document} {s : Settings} :
    ofToml? d = some s ↔ ∃ g, Sets d g ∧ s = g.settings := by
  simp only [ofToml?, names, List.map_cons, List.map_nil, ofValues?, Option.bind_eq_bind,
    Option.bind_eq_some_iff, given_eq_some_iff tomlNatural?_eq_some_iff,
    given_eq_some_iff tomlString?_eq_some_iff, given_serial_eq_some_iff, Option.some.injEq]
  constructor
  · rintro ⟨_, ⟨interval, hinterval, rfl⟩, _, ⟨model, hmodel, rfl⟩, _, ⟨property, hproperty, rfl⟩,
      serial, hserial, _, ⟨capacity, hcapacity, rfl⟩, rfl⟩
    exact ⟨⟨interval, model, property, serial, capacity⟩,
      ⟨hinterval, hmodel, hproperty, hserial, hcapacity⟩, rfl⟩
  · rintro ⟨g, ⟨hinterval, hmodel, hproperty, hserial, hcapacity⟩, rfl⟩
    exact ⟨_, ⟨_, hinterval, rfl⟩, _, ⟨_, hmodel, rfl⟩, _, ⟨_, hproperty, rfl⟩, _, hserial, _,
      ⟨_, hcapacity, rfl⟩, rfl⟩

theorem ofText_eq_ok_iff {text : String} {s : Settings} :
    ofText text = .ok s ↔
      ∃ d, Toml.Document.read? text = some d ∧ ∃ g, Sets d g ∧ s = g.settings := by
  simp only [← ofToml?_eq_some_iff, ← Option.bind_eq_some_iff, ofText]
  cases (Toml.Document.read? text).bind ofToml? <;> simp

theorem load_eq_ok_iff {read : String → Except FileError Bytes} {path : String} {s : Settings} :
    load read path = .ok s ↔ ∃ g, FileSets read (some path) g ∧ s = g.settings := by
  constructor
  · intro hload
    unfold load at hload
    split at hload
    · contradiction
    · next content hread =>
        split at hload
        · next text htext =>
            obtain ⟨d, hdocument, g, hsets, rfl⟩ := ofText_eq_ok_iff.mp hload
            exact ⟨g, .file hread htext hdocument hsets, rfl⟩
        · contradiction
  · rintro ⟨g, hfile, rfl⟩
    cases hfile with
    | file hread htext hdocument hsets =>
        rw [load, hread]
        dsimp only
        rw [htext]
        exact ofText_eq_ok_iff.mpr ⟨_, hdocument, g, hsets, rfl⟩

theorem start_eq_ok_iff {read : String → Except FileError Bytes} {path : Option String}
    {s : Settings} :
    start read path = .ok s ↔ ∃ g, FileSets read path g ∧ s = g.settings := by
  cases path with
  | some path => exact load_eq_ok_iff
  | none =>
      constructor
      · exact fun hstart => ⟨{}, .absent, (Except.ok.inj hstart).symm⟩
      · rintro ⟨g, hfile, rfl⟩
        cases hfile
        rfl

/-! ## The environment -/

theorem wholeNumber?_trimmed_iff {cs : List Char} {n : UInt64} :
    wholeNumber? (Text.trimmed cs) = some n ↔ Text.Writes cs n.toNat := by
  rw [wholeNumber?, Option.map_eq_some_iff]
  simp only [Option.filter_eq_some_iff, decide_eq_true_eq, Text.unsigned?_trimmed_iff]
  constructor
  · rintro ⟨m, ⟨hwrites, hlt⟩, rfl⟩
    rwa [UInt64.toNat_ofNat_of_lt' hlt]
  · exact fun hwrites => ⟨n.toNat, ⟨hwrites, n.toNat_lt_size⟩, UInt64.ofNat_toNat⟩

/-- The settings after the environment.  A variable that is absent changes nothing, and the
variable of the interval writes the number of seconds. -/
structure Overridden (lookup : String → Option String) (s after : Settings) : Prop where
  interval :
    match lookup intervalVariable with
    | some text => Text.Writes text.toList after.interval.toNat
    | none => after.interval = s.interval
  model : after.model = (lookup modelVariable).getD s.model
  serial : after.serial = (lookup serialVariable).or s.serial
  property : after.property = s.property
  capacity : after.capacity = s.capacity

theorem overriddenInterval_eq_ok_iff {lookup : String → Option String} {interval n : UInt64} :
    overriddenInterval lookup interval = .ok n ↔
      match lookup intervalVariable with
      | some text => Text.Writes text.toList n.toNat
      | none => n = interval := by
  unfold overriddenInterval
  cases lookup intervalVariable with
  | none => simp [eq_comm]
  | some text =>
      dsimp only
      rw [← wholeNumber?_trimmed_iff]
      cases wholeNumber? (Text.trimmed text.toList) <;> simp

theorem override_eq_ok_iff {lookup : String → Option String} {s after : Settings} :
    s.override lookup = .ok after ↔ Overridden lookup s after := by
  have hinterval := fun n => @overriddenInterval_eq_ok_iff lookup s.interval n
  unfold override
  constructor
  · intro hafter
    cases hread : overriddenInterval lookup s.interval with
    | error cause =>
        rw [hread] at hafter
        contradiction
    | ok n =>
        rw [hread] at hafter
        obtain rfl := Except.ok.inj hafter
        exact ⟨(hinterval n).mp hread, rfl, rfl, rfl, rfl⟩
  · intro hover
    obtain ⟨interval, model, property, serial, capacity⟩ := after
    obtain ⟨hread, rfl, rfl, rfl, rfl⟩ := hover
    rw [(hinterval interval).mpr hread]
    rfl

/-- The same environment changes nothing a second time. -/
theorem override_override (lookup : String → Option String) (s : Settings) :
    (s.override lookup).bind (·.override lookup) = s.override lookup := by
  cases hafter : s.override lookup with
  | error cause => rfl
  | ok after =>
      obtain ⟨hinterval, hmodel, hserial, -, -⟩ := override_eq_ok_iff.mp hafter
      refine override_eq_ok_iff.mpr ⟨?_, ?_, ?_, rfl, rfl⟩
      · split at hinterval
        · exact hinterval
        · rfl
      · rw [hmodel]
        cases lookup modelVariable <;> rfl
      · rw [hserial]
        cases lookup serialVariable <;> rfl

/-- A setting stays as it is if the environment does not have its variable. -/
structure KeptWithout (lookup : String → Option String) (s after : Settings) : Prop where
  interval : lookup intervalVariable = none → after.interval = s.interval
  model : lookup modelVariable = none → after.model = s.model
  serial : lookup serialVariable = none → after.serial = s.serial
  property : after.property = s.property
  capacity : after.capacity = s.capacity

theorem Overridden.kept {lookup : String → Option String} {s after : Settings}
    (hover : Overridden lookup s after) : KeptWithout lookup s after := by
  obtain ⟨hinterval, hmodel, hserial, hproperty, hcapacity⟩ := hover
  refine ⟨fun hnone => ?_, fun hnone => ?_, fun hnone => ?_, hproperty, hcapacity⟩
  · rwa [hnone] at hinterval
  · rw [hmodel, hnone, Option.getD_none]
  · rw [hserial, hnone, Option.none_or]

/-! ## The check -/

/-- Settings that the device can rely on.  The interval may be anything. -/
structure Sound (s : Settings) : Prop where
  model : ¬Text.AllBlank s.model.toList
  property : ¬Text.AllBlank s.property.toList
  capacity : s.capacity ≠ 0

theorem isBlank_iff {s : String} : isBlank s = true ↔ Text.AllBlank s.toList := by
  rw [isBlank, List.isEmpty_iff, Text.trimmed_eq_nil_iff]

theorem validate_eq_ok_iff {s : Settings} : s.validate = .ok () ↔ s.Sound := by
  unfold validate
  constructor
  · intro hvalid
    split at hvalid
    · contradiction
    split at hvalid
    · contradiction
    split at hvalid
    · contradiction
    · next hmodel hproperty hcapacity =>
        exact ⟨mt isBlank_iff.mpr hmodel, mt isBlank_iff.mpr hproperty, hcapacity⟩
  · rintro ⟨hmodel, hproperty, hcapacity⟩
    rw [if_neg (mt isBlank_iff.mp hmodel), if_neg (mt isBlank_iff.mp hproperty), if_neg hcapacity]

/-! ## All sources together -/

/-- The settings that the sources lead to: of each setting the highest source counts that sets
it, which are the command line, the environment, the file and the defaults. -/
structure Merged (file : Given) (lookup : String → Option String) (serial : Option String)
    (s : Settings) : Prop where
  serial : s.serial = serial.or ((lookup serialVariable).or file.serial)
  model : s.model = ((lookup modelVariable).or file.model).getD ({} : Settings).model
  interval :
    match lookup intervalVariable with
    | some text => Text.Writes text.toList s.interval.toNat
    | none => s.interval = file.interval.getD ({} : Settings).interval
  property : s.property = file.property.getD ({} : Settings).property
  capacity : s.capacity = file.capacity.getD ({} : Settings).capacity

theorem merged_iff {file : Given} {lookup : String → Option String} {serial : Option String}
    {s : Settings} :
    Merged file lookup serial s ↔
      ∃ after, Overridden lookup file.settings after ∧
        s = { after with serial := serial.or after.serial } := by
  have hmodel : ((lookup modelVariable).or file.model).getD ({} : Settings).model =
      (lookup modelVariable).getD file.settings.model := by
    cases lookup modelVariable <;> rfl
  constructor
  · intro hmerged
    refine ⟨{ s with serial := (lookup serialVariable).or file.serial },
      ⟨hmerged.interval, hmerged.model.trans hmodel, rfl, hmerged.property, hmerged.capacity⟩, ?_⟩
    obtain ⟨interval, model, property, _, capacity⟩ := s
    obtain ⟨rfl, -, -, -, -⟩ := hmerged
    rfl
  · rintro ⟨after, hover, rfl⟩
    exact ⟨congrArg serial.or hover.serial, hover.model.trans hmodel.symm, hover.interval,
      hover.property, hover.capacity⟩

/-- Sources lead to settings unless the interval of the environment is no number. -/
theorem exists_merged {lookup : String → Option String}
    (hinterval : ∀ text, lookup intervalVariable = some text →
      ∃ n < UInt64.size, Text.Writes text.toList n)
    (file : Given) (serial : Option String) : ∃ s, Merged file lookup serial s := by
  have hread : ∃ n, overriddenInterval lookup file.settings.interval = .ok n := by
    simp only [overriddenInterval_eq_ok_iff]
    cases hlookup : lookup intervalVariable with
    | none => exact ⟨_, rfl⟩
    | some text =>
        obtain ⟨n, hlt, hwrites⟩ := hinterval text hlookup
        refine ⟨UInt64.ofNat n, ?_⟩
        dsimp only
        rwa [UInt64.toNat_ofNat_of_lt' hlt]
  obtain ⟨n, hn⟩ := hread
  have hover : ∃ after, file.settings.override lookup = .ok after := by
    unfold override
    rw [hn]
    exact ⟨_, rfl⟩
  obtain ⟨after, hafter⟩ := hover
  exact ⟨_, merged_iff.mpr ⟨after, override_eq_ok_iff.mp hafter, rfl⟩⟩

section

variable {read : String → Except FileError Bytes} {path : Option String}
  {lookup : String → Option String} {serial : Option String} {file : Given} {s : Settings}

theorem gather_of_merged (hfile : FileSets read path file)
    (hmerged : Merged file lookup serial s) :
    gather read path lookup serial = s.validate.map fun _ => s := by
  obtain ⟨after, hover, rfl⟩ := merged_iff.mp hmerged
  rw [gather, start_eq_ok_iff.mpr ⟨file, hfile, rfl⟩]
  change ((file.settings.override lookup).bind fun _ => _) = _
  rw [override_eq_ok_iff.mpr hover]
  rfl

theorem exists_merged_of_gather_eq_ok (hgather : gather read path lookup serial = .ok s) :
    ∃ file, FileSets read path file ∧ Merged file lookup serial s := by
  unfold gather at hgather
  cases hstart : start read path with
  | error cause =>
      rw [hstart] at hgather
      contradiction
  | ok settings =>
      obtain ⟨file, hfile, rfl⟩ := start_eq_ok_iff.mp hstart
      refine ⟨file, hfile, ?_⟩
      rw [hstart] at hgather
      change ((file.settings.override lookup).bind fun _ => _) = _ at hgather
      cases hover : file.settings.override lookup with
      | error cause =>
          rw [hover] at hgather
          contradiction
      | ok after =>
          rw [hover] at hgather
          refine merged_iff.mpr ⟨after, override_eq_ok_iff.mp hover, ?_⟩
          change (validate { after with serial := serial.or after.serial }).bind _ = _ at hgather
          cases hvalid : validate { after with serial := serial.or after.serial } with
          | error cause =>
              rw [hvalid] at hgather
              contradiction
          | ok _ =>
              rw [hvalid] at hgather
              exact (Except.ok.inj hgather).symm

theorem gather_eq_ok_iff :
    gather read path lookup serial = .ok s ↔
      ∃ file, FileSets read path file ∧ Merged file lookup serial s ∧ s.Sound := by
  constructor
  · intro hgather
    obtain ⟨file, hfile, hmerged⟩ := exists_merged_of_gather_eq_ok hgather
    refine ⟨file, hfile, hmerged, validate_eq_ok_iff.mp ?_⟩
    rw [gather_of_merged hfile hmerged] at hgather
    cases hvalid : s.validate with
    | error cause =>
        rw [hvalid] at hgather
        contradiction
    | ok _ => rfl
  · rintro ⟨file, hfile, hmerged, hsound⟩
    rw [gather_of_merged hfile hmerged, validate_eq_ok_iff.mpr hsound]
    rfl

theorem exists_error_of_forall_ne_ok
    (hnone : ∀ s, gather read path lookup serial ≠ .ok s) :
    ∃ cause, gather read path lookup serial = .error cause := by
  cases hgather : gather read path lookup serial with
  | error cause => exact ⟨cause, rfl⟩
  | ok s => exact absurd hgather (hnone s)

/-- Settings are refused exactly if there is something wrong with the file, with the interval
of the environment or with what all sources lead to. -/
theorem gather_eq_error_iff :
    (∃ cause, gather read path lookup serial = .error cause) ↔
      (∀ file, ¬FileSets read path file) ∨
      (∃ text, lookup intervalVariable = some text ∧
        ∀ n < UInt64.size, ¬Text.Writes text.toList n) ∨
      ∃ file s, FileSets read path file ∧ Merged file lookup serial s ∧ ¬s.Sound := by
  constructor
  · rintro ⟨cause, hgather⟩
    by_cases hfile : ∃ file, FileSets read path file
    · by_cases hinterval : ∀ text, lookup intervalVariable = some text →
          ∃ n < UInt64.size, Text.Writes text.toList n
      · obtain ⟨file, hfile⟩ := hfile
        obtain ⟨s, hmerged⟩ := exists_merged hinterval file serial
        refine .inr (.inr ⟨file, s, hfile, hmerged, fun hsound => ?_⟩)
        rw [gather_eq_ok_iff.mpr ⟨file, hfile, hmerged, hsound⟩] at hgather
        contradiction
      · right
        left
        push Not at hinterval
        exact hinterval
    · exact .inl (not_exists.mp hfile)
  · rintro (hfile | ⟨text, htext, hwrites⟩ | ⟨file, s, hfile, hmerged, hsound⟩)
    · refine exists_error_of_forall_ne_ok fun s hgather => ?_
      obtain ⟨file, hsets, -⟩ := gather_eq_ok_iff.mp hgather
      exact hfile file hsets
    · refine exists_error_of_forall_ne_ok fun s hgather => ?_
      obtain ⟨file, -, hmerged, -⟩ := gather_eq_ok_iff.mp hgather
      have hinterval := hmerged.interval
      rw [htext] at hinterval
      exact hwrites _ s.interval.toNat_lt hinterval
    · rw [gather_of_merged hfile hmerged]
      cases hvalid : s.validate with
      | error cause => exact ⟨cause, rfl⟩
      | ok _ => exact absurd (validate_eq_ok_iff.mp hvalid) hsound

end

/-- Each setting comes from the highest source that sets it, and what the sources lead to is
refused exactly if one of them cannot be read or the result cannot be relied on.  The same
environment changes nothing a second time, nor a setting whose variable it does not have; and
of the interval nothing is asked. -/
theorem gather_precedence (read : String → Except FileError Bytes) (path : Option String)
    (lookup : String → Option String) (serial : Option String) :
    ((∃ cause, gather read path lookup serial = .error cause) ↔
      (∀ file, ¬FileSets read path file) ∨
      (∃ text, lookup intervalVariable = some text ∧
        ∀ n < UInt64.size, ¬Text.Writes text.toList n) ∨
      ∃ file s, FileSets read path file ∧ Merged file lookup serial s ∧ ¬s.Sound) ∧
    (∀ s, gather read path lookup serial = .ok s ↔
      ∃ file, FileSets read path file ∧ Merged file lookup serial s ∧ s.Sound) ∧
    (∀ s : Settings, (s.override lookup).bind (·.override lookup) = s.override lookup) ∧
    (∀ s after : Settings, s.override lookup = .ok after → KeptWithout lookup s after) ∧
    ∀ s : Settings, validate { s with interval := 0 } = s.validate :=
  ⟨gather_eq_error_iff, fun _ => gather_eq_ok_iff, override_override lookup,
    fun _ _ hafter => (override_eq_ok_iff.mp hafter).kept, fun _ => rfl⟩

/-- A file with a blank model and a serial number. -/
def blankModelFile : Bytes :=
  Utf8.ofString "model_id = ' '\nserial_number = 'SN-1'\nevent_check_interval_secs = 0\n"

/-- An environment with a model and nothing else. -/
def modelOnly (name : String) : Option String :=
  if name = modelVariable then some "dtmi:sample;1" else none

/-- The settings of that file in that environment. -/
def mended : Settings := { interval := 0, model := "dtmi:sample;1", serial := some "SN-1" }

/-- The environment mends the file, whose interval is zero and stays so. -/
theorem gather_precedence_blankModelFile :
    (∃ file, FileSets (fun _ => .ok blankModelFile) (some "config.toml") file ∧
      Merged file modelOnly none mended ∧ mended.Sound) ∧
    override modelOnly { interval := 0, model := " ", serial := some "SN-1" } = .ok mended ∧
    KeptWithout modelOnly { interval := 0, model := " ", serial := some "SN-1" } mended := by
  obtain ⟨-, hok, -, hkept, -⟩ :=
    gather_precedence (fun _ => .ok blankModelFile) (some "config.toml") modelOnly none
  have hoverride : override modelOnly { interval := 0, model := " ", serial := some "SN-1" } =
      .ok mended := by decide
  exact ⟨(hok mended).mp (by decide +kernel), hoverride, hkept _ _ hoverride⟩

end Settings

end DeviceTwin
