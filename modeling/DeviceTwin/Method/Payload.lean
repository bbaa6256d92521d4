/-
The payload of a method as a hook gets it: at most 512 bytes, and none from the
first zero byte on, so that a zero can mark its end.
-/
import DeviceTwin.Text.Utf8
import DeviceTwin.Text.Quoted

namespace DeviceTwin.Method

/-- The greatest number of bytes that a hook gets. -/
def maxPayload : Nat := 512

/-- A payload within the bounds. -/
structure Payload where
  /-- The bytes before the end mark. -/
  content : Bytes
  length_le : content.length ≤ maxPayload
  ne_zero : ∀ b ∈ content, b ≠ 0

theorem ne_zero_of_mem_takeWhile {bytes : Bytes} :
    ∀ b ∈ bytes.takeWhile (· != 0), b ≠ 0 := by
  induction bytes with
  | nil => simp
  | cons a rest ih =>
      intro b hb
      by_cases ha : a = 0
      · simp [ha] at hb
      · rw [List.takeWhile_cons_of_pos (by simpa using ha)] at hb
        rcases List.mem_cons.mp hb with rfl | hb
        · exact ha
        · exact ih b hb

namespace Payload

/-- The bounded payload of any bytes: the first 512 of them, up to the first zero. -/
def ofBytes (bytes : Bytes) : Payload where
  content := (bytes.take maxPayload).takeWhile (· != 0)
  length_le := Nat.le_trans (List.takeWhile_prefix _).length_le (List.length_take_le _ _)
  ne_zero := ne_zero_of_mem_takeWhile

/-- The number of bytes before the end mark. -/
def length (p : Payload) : Nat := p.content.length

def terminated (p : Payload) : Bytes := p.content ++ [0]

/-- The text of the payload. A character that the bound cuts becomes a replacement mark. -/
def text (p : Payload) : String := Utf8.lossyString p.content

/-- The payload as the operator sees it. -/
def shown (p : Payload) : String :=
  let content := Text.quoted p.text
  s!"BoundedPayload \x7b len: {p.length}, content: {content} \x7d"

end Payload

end DeviceTwin.Method
