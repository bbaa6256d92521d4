/-
Pieces of a text between positions that are counted in bytes of UTF-8. A position
inside a character bounds no piece. What is taken and what is dropped at one
position make up the text.
-/
namespace DeviceTwin.Text

def byteLength : List Char → Nat
  | [] => 0
  | c :: rest => c.utf8Size + byteLength rest

def takeBytes? : Nat → List Char → Option (List Char)
  | 0, _ => some []
  | _, [] => none
  | n, c :: rest =>
      if c.utf8Size ≤ n then (takeBytes? (n - c.utf8Size) rest).map (c :: ·) else none

def dropBytes? : Nat → List Char → Option (List Char)
  | 0, cs => some cs
  | _, [] => none
  | n, c :: rest => if c.utf8Size ≤ n then dropBytes? (n - c.utf8Size) rest else none

def slice? (first last : Nat) (cs : List Char) : Option (List Char) :=
  (takeBytes? last cs).bind (dropBytes? first)

theorem append_of_takeBytes?_dropBytes? {n : Nat} {cs before after : List Char}
    (taken : takeBytes? n cs = some before) (dropped : dropBytes? n cs = some after) :
    before ++ after = cs := by
  fun_induction takeBytes? n cs generalizing before with
  | case1 => simp_all [dropBytes?]
  | case2 => simp at taken
  | case3 n c rest hn fits ih =>
      obtain ⟨tail, htail, rfl⟩ := Option.map_eq_some_iff.1 taken
      rw [dropBytes?.eq_def] at dropped
      simp only [fits, if_true] at dropped
      simp [ih htail dropped]
  | case4 => simp at taken

/-- What is taken at a position takes that many bytes. -/
theorem byteLength_of_takeBytes? {n : Nat} {cs before : List Char}
    (taken : takeBytes? n cs = some before) : byteLength before = n := by
  fun_induction takeBytes? n cs generalizing before with
  | case1 => simp_all [byteLength]
  | case2 => simp at taken
  | case3 n c rest hn fits ih =>
      obtain ⟨tail, htail, rfl⟩ := Option.map_eq_some_iff.1 taken
      rw [byteLength, ih htail]
      omega
  | case4 => simp at taken

example : slice? 1 3 ['a', 'é', 'b'] = some ['é'] := by decide

example : slice? 0 2 ['a', 'é', 'b'] = none := by decide

end DeviceTwin.Text
