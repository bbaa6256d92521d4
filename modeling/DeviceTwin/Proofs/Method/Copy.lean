/-
Copying a payload never leaves the memory, and what a hook gets of the copy is the bounded
payload.  The zero behind it is always in place, so it is never lost on the way.
-/
import DeviceTwin.Method.Dispatch

namespace DeviceTwin.Method

theorem first?_eq_some {n : Nat} {bytes : Bytes} (hle : n ≤ bytes.length) :
    first? n bytes = some (bytes.take n) := if_pos hle

/-- The search for a zero stops where the bytes without a zero end. -/
theorem getD_findIdx?_eq_length_takeWhile (bytes : Bytes) :
    (bytes.findIdx? (· == 0)).getD bytes.length = (bytes.takeWhile (· != 0)).length := by
  induction bytes with
  | nil => rfl
  | cons b rest ih =>
      by_cases hb : b = 0
      · simp [List.findIdx?_cons, hb]
      · rw [List.findIdx?_cons, if_neg (by simpa using hb),
          List.takeWhile_cons_of_pos (by simpa using hb), List.length_cons, List.length_cons, ← ih]
        cases rest.findIdx? (· == 0) <;> rfl

theorem unterminated?_append_zero {content : Bytes} (hfree : ∀ b ∈ content, b ≠ 0) :
    unterminated? (content ++ [0]) = some content := by
  have hnone : content.findIdx? (· == 0) = none := by
    rw [List.findIdx?_eq_none_iff]
    exact fun b hb => beq_eq_false_iff_ne.mpr (hfree b hb)
  have hfound : (content ++ [0]).findIdx? (· == 0) = some content.length := by
    rw [List.findIdx?_append, hnone]
    simp
  rw [unterminated?, hfound]
  simp

namespace Payload

variable (bytes : Bytes)

theorem begins_ofBytes : (ofBytes bytes).content <+: bytes :=
  (List.takeWhile_prefix _).trans (List.take_prefix _ _)

theorem take_length_ofBytes : bytes.take (ofBytes bytes).length = (ofBytes bytes).content :=
  (List.prefix_iff_eq_take.mp (begins_ofBytes bytes)).symm

theorem length_ofBytes :
    (((bytes.take (min bytes.length maxPayload)).findIdx? (· == 0)).getD
      (min bytes.length maxPayload)) = (ofBytes bytes).length := by
  have hlimit : (bytes.take (min bytes.length maxPayload)).length =
      min bytes.length maxPayload := by
    rw [List.length_take]
    omega
  have htake : bytes.take (min bytes.length maxPayload) = bytes.take maxPayload := by
    rw [Nat.min_comm, ← List.take_take, List.take_length]
  have hsearch := getD_findIdx?_eq_length_takeWhile (bytes.take (min bytes.length maxPayload))
  rw [hlimit] at hsearch
  rw [hsearch, htake]
  rfl

end Payload

namespace Copy

/-- The memory that holds a payload: its bytes, and zeros behind them. -/
def ofPayload (p : Payload) : Copy :=
  ⟨Vector.ofFn fun i => p.content[i.val]?.getD 0, p.length⟩

theorem overwrite?_zeroed (p : Payload) :
    Buffer.zeroed.overwrite? p.length p.content = some (ofPayload p).buffer := by
  have hle : p.length ≤ maxPayload + 1 := Nat.le_succ_of_le p.length_le
  rw [Buffer.overwrite?, if_pos ⟨hle, rfl⟩]
  congr 2
  funext i
  simp [Buffer.zeroed, Vector.get]

/-- The place behind the bytes of a payload holds a zero already. -/
theorem set?_ofPayload (p : Payload) :
    (ofPayload p).buffer.set? p.length 0 = some (ofPayload p).buffer := by
  have hlt : p.length < maxPayload + 1 := Nat.lt_succ_of_le p.length_le
  rw [Buffer.set?, dif_pos hlt, Option.some.injEq]
  apply Vector.ext
  intro i hi
  rw [Vector.getElem_set]
  split
  · next heq =>
      subst heq
      simp [ofPayload, Payload.length]
  · rfl

/-- Copying bytes always succeeds, and the copy is that of the bounded payload. -/
theorem ofBytes?_eq (bytes : Bytes) : ofBytes? bytes = some (ofPayload (.ofBytes bytes)) := by
  have hseen := first?_eq_some (Nat.min_le_left bytes.length maxPayload)
  have hcontent := first?_eq_some (Payload.begins_ofBytes bytes).length_le
  rw [show (Payload.ofBytes bytes).content.length = (Payload.ofBytes bytes).length from rfl,
    Payload.take_length_ofBytes] at hcontent
  simp only [ofBytes?, hseen, Option.bind_eq_bind, Option.bind_some, Payload.length_ofBytes,
    hcontent, overwrite?_zeroed, set?_ofPayload]
  rfl

variable (p : Payload)

theorem length_terminated : p.terminated.length = p.length + 1 := by
  rw [Payload.terminated, List.length_append]
  rfl

/-- Zeros fill what the payload leaves free. -/
theorem toList_buffer_ofPayload :
    (ofPayload p).buffer.toList = p.terminated ++ List.replicate (maxPayload - p.length) 0 := by
  have hle : p.length ≤ maxPayload := p.length_le
  rw [Payload.terminated, List.append_assoc, List.singleton_append, ← List.replicate_succ]
  apply List.ext_getElem
  · rw [Vector.length_toList, List.length_append, List.length_replicate]
    unfold Payload.length at hle ⊢
    omega
  · intro i hi hi'
    rw [Vector.getElem_toList]
    by_cases hin : i < p.content.length
    · simp [ofPayload, hin]
    · simp [ofPayload, hin, List.getElem_append]

@[simp] theorem terminated?_ofPayload : (ofPayload p).terminated? = some p.terminated := by
  have hle : (ofPayload p).length + 1 ≤ (ofPayload p).buffer.toList.length := by
    rw [Vector.length_toList]
    exact Nat.succ_le_succ p.length_le
  have hlength : (ofPayload p).length + 1 = p.terminated.length := (length_terminated p).symm
  rw [terminated?, Buffer.first?, first?_eq_some hle, toList_buffer_ofPayload, hlength,
    List.take_left]

@[simp] theorem content?_ofPayload : (ofPayload p).content? = some p.content := by
  have hle : (ofPayload p).length ≤ (ofPayload p).buffer.toList.length := by
    rw [Vector.length_toList]
    exact Nat.le_succ_of_le p.length_le
  have hlength : (ofPayload p).length = p.content.length := rfl
  rw [content?, Buffer.first?, first?_eq_some hle, toList_buffer_ofPayload, Payload.terminated,
    List.append_assoc, hlength, List.take_left]

/-- A hook gets the bytes of the payload, and never the nothing that would stand for a zero in
a wrong place. -/
@[simp] theorem handed?_ofPayload : (ofPayload p).handed? = some p.content := by
  rw [handed?, terminated?_ofPayload, Option.map_some, Payload.terminated,
    unterminated?_append_zero p.ne_zero]
  rfl

end Copy

/-! ## What an invocation leads to -/

variable {hooks : Hooks} {earlier : List Hooks.Call} {name : String}

theorem callOn?_ofPayload (method : Method) (p : Payload) :
    method.callOn? (.ofPayload p) = some (method.call p) := by
  cases method
  rw [callOn?, Copy.handed?_ofPayload, Option.map_some, call]

/-- A method that is found calls its hook with what a hook gets of the copy. -/
theorem dispatch_of_callOn? {payload : Bytes} {copy : Copy} {method : Method}
    {call : Hooks.Call} (hcopy : Copy.ofBytes? payload = some copy)
    (hname : ofName? name = some method) (hcall : method.callOn? copy = some call) :
    dispatch hooks earlier name payload =
      { entries := (truncation name payload).map .record ++ [Journal.ofCall hooks call]
        response := if hooks.fails earlier call then none else some method.response } := by
  simp only [dispatch, hcopy, hname, hcall]

/-- A known method calls its hook with the bounded payload. -/
theorem dispatch_of_known {method : Method} (hname : ofName? name = some method)
    (payload : Bytes) :
    dispatch hooks earlier name payload =
      { entries := (truncation name payload).map .record ++
          [Journal.ofCall hooks (method.call (.ofBytes payload))]
        response :=
          if hooks.fails earlier (method.call (.ofBytes payload)) then none
          else some method.response } :=
  dispatch_of_callOn? (Copy.ofBytes?_eq payload) hname (callOn?_ofPayload method _)

theorem dispatch_of_unknown (hname : ofName? name = none) (payload : Bytes) :
    dispatch hooks earlier name payload =
      { entries := (truncation name payload).map .record ++
          [.record (Log.warn s!"Ignoring unknown device method: {name}")]
        response := some .unhandled } := by
  simp only [dispatch, Copy.ofBytes?_eq, hname]

end DeviceTwin.Method
