/-
White space in the sense of the Unicode property White_Space, and texts without
the blanks at their two ends.
-/
import DeviceTwin.Text.Ranges

namespace DeviceTwin.Text

/-- The characters with the property White_Space. -/
def blanks : CodeRanges :=
  [(0x09, 0x0D), (0x20, 0x20), (0x85, 0x85), (0xA0, 0xA0), (0x1680, 0x1680),
    (0x2000, 0x200A), (0x2028, 0x2029), (0x202F, 0x202F), (0x205F, 0x205F),
    (0x3000, 0x3000)]

/-- Whether a character is white space. -/
def isBlank (c : Char) : Bool := blanks.contains c

/-- What is left of a text without the blanks at its beginning and its end. -/
def trimmed (cs : List Char) : List Char :=
  ((cs.dropWhile isBlank).reverse.dropWhile isBlank).reverse

theorem dropWhile_isBlank_of_all {cs : List Char} (h : cs.all isBlank = true) :
    cs.dropWhile isBlank = [] := by
  induction cs with
  | nil => rfl
  | cons c rest ih =>
      simp only [List.all_cons, Bool.and_eq_true] at h
      simp [h.1, ih h.2]

/-- A text of blanks alone has nothing left. -/
theorem trimmed_eq_nil_of_all {cs : List Char} (h : cs.all isBlank = true) :
    trimmed cs = [] := by
  simp [trimmed, dropWhile_isBlank_of_all h]

end DeviceTwin.Text
