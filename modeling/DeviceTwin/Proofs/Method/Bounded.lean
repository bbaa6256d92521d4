/-
What can be seen of a payload.  Its copy holds the longest beginning of 512 bytes without a
zero, and neither a hook nor the response depends on anything but these bytes.
-/
import Mathlib.Data.List.TakeWhile
import DeviceTwin.Proofs.Device.Calls

namespace DeviceTwin

/-- The longest beginning of a list that has a property. -/
structure LongestBeginning {α : Type} (property : List α → Prop) (whole content : List α) :
    Prop where
  begins : content <+: whole
  holds : property content
  longest : ∀ other, other <+: whole → property other → other.length ≤ content.length

namespace Method

/-- What is in the copy of a payload. -/
structure Copy.Holds (copy : Copy) (content : Bytes) : Prop where
  length_eq : copy.length = content.length
  content?_eq : copy.content? = some content
  terminated?_eq : copy.terminated? = some (content ++ [0])
  length_terminated_le : (content ++ [0]).length ≤ 513
  zero_not_mem : (0 : UInt8) ∉ content
  handed?_eq : copy.handed? = some content
  /-- What stands in for a zero in a wrong place is never handed over. -/
  unterminated?_eq : copy.terminated?.bind unterminated? = some content

/-- The calls of hooks and the response to an invocation by a name, when a hook gets the given
bytes after earlier calls.  A hook that is absent is not called, and one that fails leaves no
response. -/
inductive Answers (hooks : Hooks) (earlier : List Hooks.Call) (content : Bytes) :
    String → List Hooks.Call → Option Response → Prop
  | displayed {fails : List Hooks.Call → Hooks.Call → Bool}
      (hhook : hooks.alert = .registered fails)
      (hreturns : fails earlier (.alert content) = false) :
      Answers hooks earlier content "displayAlert" [.alert content]
        (some ⟨200, Utf8.ofString "\"Alert message displayed successfully.\""⟩)
  | unheard (hhook : hooks.alert = .absent) :
      Answers hooks earlier content "displayAlert" []
        (some ⟨200, Utf8.ofString "\"Alert message displayed successfully.\""⟩)
  | failed {fails : List Hooks.Call → Hooks.Call → Bool}
      (hhook : hooks.alert = .registered fails) (hfails : fails earlier (.alert content) = true) :
      Answers hooks earlier content "displayAlert" [.alert content] none
  | unknown {name : String} (hname : name ≠ "displayAlert") :
      Answers hooks earlier content name [] (some ⟨-1, Utf8.ofString "\x7b\x7d"⟩)

/-- What comes before the first zero is the longest beginning without a zero. -/
theorem longestBeginning_takeWhile (bytes : Bytes) :
    LongestBeginning ((0 : UInt8) ∉ ·) bytes (bytes.takeWhile (· != 0)) where
  begins := List.takeWhile_prefix _
  holds := fun hzero => ne_zero_of_mem_takeWhile 0 hzero rfl
  longest := by
    rintro other ⟨rest, rfl⟩ hfree
    have hall : ∀ b ∈ other, (b != 0) = true := by
      intro b hb
      rw [bne_iff_ne]
      rintro rfl
      exact hfree hb
    rw [List.takeWhile_append_of_pos hall, List.length_append]
    exact Nat.le_add_right _ _

theorem Copy.holds_ofPayload (p : Payload) : (ofPayload p).Holds p.content where
  length_eq := rfl
  content?_eq := content?_ofPayload p
  terminated?_eq := terminated?_ofPayload p
  length_terminated_le := by
    rw [List.length_append]
    exact Nat.succ_le_succ p.length_le
  zero_not_mem := fun hzero => p.ne_zero 0 hzero rfl
  handed?_eq := handed?_ofPayload p
  unterminated?_eq := by
    rw [terminated?_ofPayload]
    exact unterminated?_append_zero p.ne_zero

theorem Payload.eq_of_content_eq {p q : Payload} (hsame : p.content = q.content) : p = q := by
  cases p
  cases q
  cases hsame
  rfl

/-- A payload within the bounds is all of it copied. -/
theorem Payload.ofBytes_content (p : Payload) : ofBytes p.content = p := by
  apply eq_of_content_eq
  change (p.content.take maxPayload).takeWhile (· != 0) = p.content
  rw [List.take_of_length_le p.length_le, List.takeWhile_eq_self_iff]
  exact fun b hb => bne_iff_ne.mpr (p.ne_zero b hb)

variable (hooks : Hooks) (earlier : List Hooks.Call) (name : String) {bytes bytes' : Bytes}

theorem answers_dispatch (bytes : Bytes) :
    Answers hooks earlier (Payload.ofBytes bytes).content name
      (Journal.hookCalls (dispatch hooks earlier name bytes).entries)
      (dispatch hooks earlier name bytes).response := by
  by_cases hname : name = "displayAlert"
  · subst hname
    rw [dispatch_of_known (rfl : ofName? "displayAlert" = some .displayAlert),
      Journal.hookCalls_append, Journal.hookCalls_map_record, List.nil_append]
    have hhook : hooks.hookOf (call (.ofBytes bytes) .displayAlert) = hooks.alert := rfl
    rw [Journal.ofCall, Hooks.fails, hhook]
    cases halert : hooks.alert with
    | absent => exact .unheard halert
    | registered fails =>
        dsimp only
        by_cases hfails : fails earlier (call (.ofBytes bytes) .displayAlert) = true
        · rw [if_pos hfails]
          exact .failed halert hfails
        · rw [if_neg hfails]
          exact .displayed halert (Bool.eq_false_iff.mpr hfails)
  · rw [dispatch_of_unknown (if_neg hname), Journal.hookCalls_append,
      Journal.hookCalls_map_record]
    exact .unknown hname

/-- Payloads that are the same within the bounds are the same to the hooks. -/
theorem dispatch_congr (hsame : Payload.ofBytes bytes' = Payload.ofBytes bytes) :
    Journal.hookCalls (dispatch hooks earlier name bytes').entries =
        Journal.hookCalls (dispatch hooks earlier name bytes).entries ∧
      (dispatch hooks earlier name bytes').response =
        (dispatch hooks earlier name bytes).response := by
  cases hname : ofName? name with
  | none =>
      simp only [dispatch_of_unknown hname, Journal.hookCalls_append,
        Journal.hookCalls_map_record, and_self]
  | some method =>
      simp only [dispatch_of_known hname, Journal.hookCalls_append,
        Journal.hookCalls_map_record, hsame, and_self]

/-- Copying a payload never leaves the memory.  The copy holds the longest beginning of the
first 512 bytes that has no zero, with a zero behind it, and hands just this over; copying it
again makes the same copy.  Payloads of which the copies hold the same bytes raise the same
hooks and have the same response. -/
theorem copy_and_dispatch (bytes : Bytes) :
    ∃ copy content, Copy.ofBytes? bytes = some copy ∧
      LongestBeginning ((0 : UInt8) ∉ ·) (bytes.take 512) content ∧ copy.Holds content ∧
      Copy.ofBytes? content = some copy ∧
      ∀ bytes' copy', Copy.ofBytes? bytes' = some copy' → copy'.content? = copy.content? →
        ∀ hooks earlier name, ∃ calls response,
          Answers hooks earlier content name calls response ∧
          Journal.hookCalls (dispatch hooks earlier name bytes).entries = calls ∧
          (dispatch hooks earlier name bytes).response = response ∧
          Journal.hookCalls (dispatch hooks earlier name bytes').entries = calls ∧
          (dispatch hooks earlier name bytes').response = response := by
  refine ⟨.ofPayload (.ofBytes bytes), (Payload.ofBytes bytes).content, Copy.ofBytes?_eq bytes,
    longestBeginning_takeWhile _, Copy.holds_ofPayload _, ?_, ?_⟩
  · rw [Copy.ofBytes?_eq, Payload.ofBytes_content]
  · intro bytes' copy' hcopy hcontent hooks earlier name
    rw [Copy.ofBytes?_eq, Option.some.injEq] at hcopy
    subst hcopy
    rw [Copy.content?_ofPayload, Copy.content?_ofPayload, Option.some.injEq] at hcontent
    obtain ⟨hcalls, hresponse⟩ :=
      dispatch_congr hooks earlier name (Payload.eq_of_content_eq hcontent)
    exact ⟨_, _, answers_dispatch hooks earlier name bytes, rfl, rfl, hcalls, hresponse⟩

/-- A payload that goes on behind the bound. -/
def overlong : Bytes := List.replicate 600 97

/-- A payload with a zero where the bound is. -/
def cutAtBound : Bytes := List.replicate 512 97 ++ [0, 98]

/-- Neither a zero nor the end of the bound lets a hook see what comes behind it. -/
theorem copy_and_dispatch_cutAtBound :
    ∃ copy copy' content, Copy.ofBytes? overlong = some copy ∧
      Copy.ofBytes? cutAtBound = some copy' ∧ copy'.content? = copy.content? ∧
      content.length = 512 ∧
      Journal.hookCalls (dispatch { alert := .present } [] "displayAlert" cutAtBound).entries =
        [.alert content] := by
  obtain ⟨copy, content, hcopy, -, hholds, -, hsame⟩ := copy_and_dispatch overlong
  have hcopy' := Copy.ofBytes?_eq cutAtBound
  have hlength : (Payload.ofBytes overlong).content.length = 512 := by decide +kernel
  have hcut : (Payload.ofBytes cutAtBound).content = (Payload.ofBytes overlong).content := by
    decide +kernel
  rw [Copy.ofBytes?_eq, Option.some.injEq] at hcopy
  subst hcopy
  have hcontent := hholds.content?_eq
  rw [Copy.content?_ofPayload, Option.some.injEq] at hcontent
  subst hcontent
  have hequal : (Copy.ofPayload (.ofBytes cutAtBound)).content? =
      (Copy.ofPayload (.ofBytes overlong)).content? := by
    rw [Copy.content?_ofPayload, Copy.content?_ofPayload, hcut]
  obtain ⟨calls, response, hanswers, -, -, hcalls, -⟩ :=
    hsame _ _ hcopy' hequal { alert := .present } [] "displayAlert"
  refine ⟨_, _, _, Copy.ofBytes?_eq overlong, hcopy', hequal, hlength, ?_⟩
  rw [hcalls]
  cases hanswers with
  | displayed => rfl
  | unheard hhook => cases hhook
  | failed hhook hfails =>
      cases hhook
      exact absurd hfails Bool.false_ne_true
  | unknown hname => exact absurd rfl hname

end Method

end DeviceTwin
