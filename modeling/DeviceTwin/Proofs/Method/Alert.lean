/-
The text of an alert that is too long.  It ends at a whole character, and a mark stands for
the character that the bound cuts, if it cuts one.
-/
import DeviceTwin.Proofs.Method.Bounded
import DeviceTwin.Proofs.Text.Utf8

namespace DeviceTwin

namespace Text

theorem byteLength_append (earlier later : List Char) :
    byteLength (earlier ++ later) = byteLength earlier + byteLength later := by
  induction earlier with
  | nil => exact (Nat.zero_add _).symm
  | cons c rest ih => rw [List.cons_append, byteLength, byteLength, ih, Nat.add_assoc]

/-- No more characters fit if the next one does not. -/
theorem longestBeginning_of_next {n : Nat} {whole later : List Char} {c : Char}
    (hfits : byteLength whole ≤ n) (hnext : n < byteLength whole + c.utf8Size) :
    LongestBeginning (byteLength · ≤ n) (whole ++ c :: later) whole where
  begins := List.prefix_append _ _
  holds := hfits
  longest := by
    intro other hbegins hother
    by_contra hlonger
    have hwhole : whole ++ [c] <+: whole ++ c :: later := ⟨later, by simp⟩
    have hlength : (whole ++ [c]).length ≤ other.length := by
      rw [List.length_append, List.length_singleton]
      omega
    obtain ⟨rest, rfl⟩ := List.prefix_of_prefix_length_le hwhole hbegins hlength
    rw [byteLength_append, byteLength_append, byteLength, byteLength] at hother
    omega

end Text

namespace Method

open Text

/-- The text that is shown for characters of which 512 bytes are kept. -/
inductive Shows (cs : List Char) : String → Prop
  | whole (hfits : byteLength cs ≤ 512) : Shows cs (String.ofList cs)
  /-- The bound is behind a character. -/
  | even {kept : List Char} (hlong : 512 < byteLength cs)
      (hkept : LongestBeginning (byteLength · ≤ 512) cs kept) (hfull : byteLength kept = 512) :
      Shows cs (String.ofList kept)
  /-- The bound is inside a character. -/
  | cut {kept later : List Char} {c : Char} (hlong : 512 < byteLength cs)
      (hkept : LongestBeginning (byteLength · ≤ 512) cs kept) (hnext : cs = kept ++ c :: later)
      (hpart : 512 - byteLength kept = 1 ∨ 512 - byteLength kept = 2 ∨ 512 - byteLength kept = 3)
      (hcut : 512 - byteLength kept < c.utf8Size) :
      Shows cs (String.ofList (kept ++ ['\ufffd']))

theorem content_ofString (s : String) :
    (Payload.ofBytes (Utf8.ofString s)).content =
      (Utf8.encode (s.toList.takeWhile (· != '\x00'))).take 512 := by
  change ((Utf8.encode s.toList).take 512).takeWhile (· != 0) = _
  rw [← List.take_takeWhile, Utf8.takeWhile_encode]

theorem shows_lossyString (cs : List Char) :
    Shows cs (Utf8.lossyString ((Utf8.encode cs).take 512)) := by
  rw [Utf8.lossyString]
  rcases Nat.lt_or_ge 512 (byteLength cs) with hlong | hfits
  · obtain ⟨kept, c, later, rfl, hkept, hnext, htake⟩ := Utf8.exists_take_encode hlong
    have hlongest : LongestBeginning (byteLength · ≤ 512) (kept ++ c :: later) kept :=
      longestBeginning_of_next hkept hnext
    rw [htake, Utf8.lossy_encode_append]
    rcases Nat.eq_or_lt_of_le hkept with hfull | hpart
    · rw [hfull, Nat.sub_self, List.take_zero, show Utf8.lossy [] = [] from rfl, List.append_nil]
      exact .even hlong hlongest hfull
    · have hsize : c.utf8Size ≤ 4 := c.utf8Size_le_four
      have hmark : Utf8.lossy ((String.utf8EncodeChar c).take (512 - byteLength kept)) =
          ['\ufffd'] := by
        rw [Utf8.lossy, Utf8.chars, Utf8.charsFrom_take_encodeChar (by omega) (by omega)]
        rfl
      rw [hmark]
      exact .cut hlong hlongest rfl (by omega) (by omega)
  · rw [List.take_of_length_le (by rwa [Utf8.length_encode]), Utf8.lossy_encode]
    exact .whole hfits

/-- The text of a copied text is the text up to its first NUL, as far as whole characters go
into 512 bytes, and one replacement mark if there are bytes left of the next character. -/
theorem shows_text (s : String) :
    ∃ copy text, Copy.ofBytes? (Utf8.ofString s) = some copy ∧ copy.text? = some text ∧
      Shows (s.toList.takeWhile (· != '\x00')) text := by
  refine ⟨_, _, Copy.ofBytes?_eq _, ?_, shows_lossyString _⟩
  rw [Copy.text?, Copy.content?_ofPayload, content_ofString]
  rfl

end Method

end DeviceTwin
