/-
Whole numbers in decimal digits, with blanks around them.  The blanks at the two ends of a
text are taken away and nothing between them, so what is read is what was written.
-/
import DeviceTwin.Proofs.Json.Reading
import DeviceTwin.Text.Blank

namespace DeviceTwin.Text

open Json (AreDigits digitChars leadingDigits_append of_leadingDigits)

/-! ## Blanks -/

/-- Characters that are all white space. -/
def AllBlank (cs : List Char) : Prop := ∀ c ∈ cs, isBlank c = true

theorem AllBlank.append {earlier later : List Char} (hearlier : AllBlank earlier)
    (hlater : AllBlank later) : AllBlank (earlier ++ later) := by
  intro c hc
  rcases List.mem_append.mp hc with hc | hc
  · exact hearlier c hc
  · exact hlater c hc

/-- A text is what is left of it, with blanks before and after. -/
theorem exists_trimmed (cs : List Char) :
    ∃ before after, AllBlank before ∧ AllBlank after ∧ cs = before ++ trimmed cs ++ after := by
  have hfront : cs = cs.takeWhile isBlank ++ cs.dropWhile isBlank :=
    List.takeWhile_append_dropWhile.symm
  have hback : (cs.dropWhile isBlank).reverse =
      (cs.dropWhile isBlank).reverse.takeWhile isBlank ++ (trimmed cs).reverse := by
    rw [trimmed, List.reverse_reverse]
    exact List.takeWhile_append_dropWhile.symm
  refine ⟨cs.takeWhile isBlank, ((cs.dropWhile isBlank).reverse.takeWhile isBlank).reverse,
    fun c hc => List.mem_takeWhile_imp hc,
    fun c hc => List.mem_takeWhile_imp (List.mem_reverse.mp hc), ?_⟩
  have hrest := congrArg List.reverse hback
  rw [List.reverse_reverse, List.reverse_append, List.reverse_reverse] at hrest
  rw [List.append_assoc, ← hrest]
  exact hfront

theorem trimmed_eq_nil_iff {cs : List Char} : trimmed cs = [] ↔ AllBlank cs := by
  constructor
  · intro hnil
    obtain ⟨before, after, hbefore, hafter, hcs⟩ := exists_trimmed cs
    rw [hnil, List.append_nil] at hcs
    rw [hcs]
    exact hbefore.append hafter
  · exact fun hblank => trimmed_eq_nil_of_all (List.all_eq_true.mpr hblank)

theorem dropWhile_isBlank_append {core later : List Char} (hcore : ∀ c ∈ core, isBlank c = false)
    (hnonempty : core ≠ []) : (core ++ later).dropWhile isBlank = core ++ later := by
  cases core with
  | nil => exact absurd rfl hnonempty
  | cons c rest => exact List.dropWhile_cons_of_neg (by simp [hcore c List.mem_cons_self])

/-- Of a text without blanks nothing is taken away, whatever blanks stand around it. -/
theorem trimmed_append {before core after : List Char} (hbefore : AllBlank before)
    (hcore : ∀ c ∈ core, isBlank c = false) (hafter : AllBlank after) :
    trimmed (before ++ core ++ after) = core := by
  by_cases hnil : core = []
  · subst hnil
    rw [List.append_nil]
    exact trimmed_eq_nil_iff.mpr (hbefore.append hafter)
  · have hback : core.reverse.dropWhile isBlank = core.reverse := by
      have hstops := @dropWhile_isBlank_append _ []
        (fun c hc => hcore c (List.mem_reverse.mp hc)) (mt List.reverse_eq_nil_iff.mp hnil)
      rwa [List.append_nil] at hstops
    rw [trimmed, List.append_assoc, List.dropWhile_append_of_pos hbefore,
      dropWhile_isBlank_append hcore hnil, List.reverse_append,
      List.dropWhile_append_of_pos fun c hc => hafter c (List.mem_reverse.mp hc), hback,
      List.reverse_reverse]

/-! ## Digits -/

theorem decimal?_eq_some_iff {cs : List Char} {n : Nat} :
    decimal? cs = some n ↔
      ∃ digits, AreDigits digits ∧ cs = digitChars digits ∧ ofDigits 10 digits = n := by
  constructor
  · intro hread
    obtain ⟨hchars, hdecimal⟩ := of_leadingDigits cs
    unfold decimal? at hread
    split at hread
    · contradiction
    · next digits hnonempty hleading =>
        rw [hleading, List.append_nil] at hchars
        rw [hleading] at hdecimal
        refine ⟨digits, ⟨?_, hdecimal⟩, hchars, Option.some.inj hread⟩
        rintro rfl
        exact hnonempty rfl
    · contradiction
  · rintro ⟨digits, hdigits, rfl, rfl⟩
    have hleading := @leadingDigits_append _ [] hdigits.decimal nofun
    rw [List.append_nil] at hleading
    rw [decimal?, hleading]
    cases digits with
    | nil => exact absurd rfl hdigits.nonempty
    | cons d rest => rfl

/-- A plus sign, or nothing. -/
def IsPlus (sign : List Char) : Prop := sign = [] ∨ sign = ['+']

theorem unsigned?_eq_some_iff {cs : List Char} {n : Nat} :
    unsigned? cs = some n ↔ ∃ sign digits, IsPlus sign ∧ AreDigits digits ∧
      cs = sign ++ digitChars digits ∧ ofDigits 10 digits = n := by
  constructor
  · intro hread
    unfold unsigned? at hread
    split at hread
    · obtain ⟨digits, hdigits, rfl, hvalue⟩ := decimal?_eq_some_iff.mp hread
      exact ⟨['+'], digits, .inr rfl, hdigits, rfl, hvalue⟩
    · obtain ⟨digits, hdigits, hchars, hvalue⟩ := decimal?_eq_some_iff.mp hread
      exact ⟨[], digits, .inl rfl, hdigits, hchars, hvalue⟩
  · rintro ⟨sign, digits, rfl | rfl, hdigits, rfl, hvalue⟩
    · have hread := decimal?_eq_some_iff.mpr ⟨digits, hdigits, rfl, hvalue⟩
      unfold unsigned?
      split
      · next rest heq =>
          -- No digit is a plus sign.
          rw [List.nil_append] at heq
          have hplus : decimal? ('+' :: rest) = none := rfl
          rw [heq, hplus] at hread
          contradiction
      · exact hread
    · exact decimal?_eq_some_iff.mpr ⟨digits, hdigits, rfl, hvalue⟩

/-- A text writes a number: decimal digits, one at least, perhaps behind a plus sign, and
blanks around them. -/
inductive Writes : List Char → Nat → Prop
  | mk {before sign after : List Char} {digits : List Nat} (hbefore : AllBlank before)
      (hsign : IsPlus sign) (hdigits : AreDigits digits) (hafter : AllBlank after) :
      Writes (before ++ (sign ++ digitChars digits) ++ after) (ofDigits 10 digits)

theorem isBlank_of_mem_signed {sign : List Char} {digits : List Nat} (hsign : IsPlus sign)
    (hdigits : AreDigits digits) : ∀ c ∈ sign ++ digitChars digits, isBlank c = false := by
  have hdigit : ∀ d < 10, isBlank (Nat.digitChar d) = false := by decide
  intro c hc
  rcases List.mem_append.mp hc with hc | hc
  · rcases hsign with rfl | rfl
    · contradiction
    · rw [List.mem_singleton.mp hc]
      decide
  · obtain ⟨d, hd, rfl⟩ := List.mem_map.mp hc
    exact hdigit d (hdigits.decimal d hd)

/-- What is read of a text without the blanks at its ends is the number that it writes. -/
theorem unsigned?_trimmed_iff {cs : List Char} {n : Nat} :
    unsigned? (trimmed cs) = some n ↔ Writes cs n := by
  rw [unsigned?_eq_some_iff]
  constructor
  · rintro ⟨sign, digits, hsign, hdigits, hchars, rfl⟩
    obtain ⟨before, after, hbefore, hafter, hcs⟩ := exists_trimmed cs
    rw [hcs, hchars]
    exact .mk hbefore hsign hdigits hafter
  · rintro ⟨hbefore, hsign, hdigits, hafter⟩
    exact ⟨_, _, hsign, hdigits,
      trimmed_append hbefore (isBlank_of_mem_signed hsign hdigits) hafter, rfl⟩

end DeviceTwin.Text
