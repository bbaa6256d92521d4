/-
The reader of JSON texts against their grammar.  What it reads from the front of a text
is spelled there, and what is spelled at the front of a text it reads, so that a text has
the tree that the grammar gives it or none.
-/
import Mathlib.Data.List.DropRight
import DeviceTwin.Json.Reader
import DeviceTwin.Proofs.Json.Grammar

namespace DeviceTwin.Json

open DeviceTwin.Text

/-! ## Blanks -/

theorem isSpace_iff {c : Char} :
    isSpace c = true ↔ c = ' ' ∨ c = '\t' ∨ c = '\n' ∨ c = '\r' := by
  simp [isSpace, or_assoc]

/-- What comes first is no blank. -/
def Starts (cs : List Char) : Prop := ∀ c, cs.head? = some c → isSpace c = false

theorem starts_cons {c : Char} {cs : List Char} (hc : isSpace c = false) : Starts (c :: cs) := by
  intro first hfirst
  simp only [List.head?_cons, Option.some.injEq] at hfirst
  rw [← hfirst]
  exact hc

theorem skipSpace_append {before cs : List Char} (hbefore : Blank before) (hstarts : Starts cs) :
    skipSpace (before ++ cs) = cs := by
  induction before with
  | nil =>
      cases cs with
      | nil => rfl
      | cons c rest => simp [skipSpace, hstarts c rfl]
  | cons c before ih =>
      have hc : isSpace c = true := isSpace_iff.mpr (hbefore c List.mem_cons_self)
      have hrest : Blank before := fun b hb => hbefore b (List.mem_cons_of_mem c hb)
      rw [List.cons_append, skipSpace, List.dropWhile_cons_of_pos hc]
      exact ih hrest

theorem exists_blank_append (cs : List Char) :
    ∃ before, Blank before ∧ cs = before ++ skipSpace cs := by
  refine ⟨cs.takeWhile isSpace, ?_, (List.takeWhile_append_dropWhile).symm⟩
  intro c hc
  exact isSpace_iff.mp (List.mem_takeWhile_imp hc)

/-! ## Numbers -/

theorem digit?_digitChar {d : Nat} (hd : d < 10) : digit? (Nat.digitChar d) = some d := by
  have hall : ∀ d < 10, digit? (Nat.digitChar d) = some d := by decide
  exact hall d hd

theorem of_digit?_eq_some {c : Char} {d : Nat} (hdigit : digit? c = some d) :
    d < 10 ∧ Nat.digitChar d = c := by
  unfold digit? at hdigit
  split at hdigit
  · next hrange =>
      rw [Option.some.injEq] at hdigit
      have hlow : 48 ≤ c.toNat := hrange.1
      have hhigh : c.toNat ≤ 57 := hrange.2
      have hzero : '0'.toNat = 48 := rfl
      have hd : d < 10 := by omega
      refine ⟨hd, Char.toNat_inj.mp ?_⟩
      rw [Nat.toNat_digitChar_of_lt_ten hd]
      omega
  · contradiction

/-- A number cannot go on here. -/
def Stops (cs : List Char) : Prop :=
  ∀ c, cs.head? = some c → digit? c = none ∧ c ≠ '.' ∧ c ≠ 'e' ∧ c ≠ 'E'

theorem stops_nil : Stops [] := nofun

theorem stops_cons {c : Char} {cs : List Char}
    (hc : digit? c = none ∧ c ≠ '.' ∧ c ≠ 'e' ∧ c ≠ 'E') : Stops (c :: cs) := by
  intro first hfirst
  simp only [List.head?_cons, Option.some.injEq] at hfirst
  rw [← hfirst]
  exact hc

theorem stops_append {before cs : List Char} (hbefore : Blank before) (hstops : Stops cs) :
    Stops (before ++ cs) := by
  cases before with
  | nil => exact hstops
  | cons c before =>
      apply stops_cons
      rcases hbefore c List.mem_cons_self with rfl | rfl | rfl | rfl <;> decide

theorem leadingDigits_append {digits : List Nat} {rest : List Char}
    (hdecimal : ∀ d ∈ digits, d < 10)
    (hrest : ∀ c, rest.head? = some c → digit? c = none) :
    leadingDigits (digitChars digits ++ rest) = (digits, rest) := by
  induction digits with
  | nil =>
      cases rest with
      | nil => rfl
      | cons c rest => simp [digitChars, leadingDigits, hrest c rfl]
  | cons d digits ih =>
      have hd := digit?_digitChar (hdecimal d List.mem_cons_self)
      have hlater := ih fun e he => hdecimal e (List.mem_cons_of_mem d he)
      simp only [digitChars, List.map_cons, List.cons_append] at hlater ⊢
      simp [leadingDigits, hd, hlater]

theorem of_leadingDigits (cs : List Char) :
    cs = digitChars (leadingDigits cs).1 ++ (leadingDigits cs).2 ∧
      ∀ d ∈ (leadingDigits cs).1, d < 10 := by
  induction cs with
  | nil => simp [leadingDigits, digitChars]
  | cons c rest ih =>
      cases hdigit : digit? c with
      | none => simp [leadingDigits, hdigit, digitChars]
      | some d =>
          obtain ⟨hd, hc⟩ := of_digit?_eq_some hdigit
          simp only [leadingDigits, hdigit, List.mem_cons, forall_eq_or_imp]
          refine ⟨?_, hd, ih.2⟩
          simp only [digitChars, List.map_cons, List.cons_append, hc] at ih ⊢
          rw [← ih.1]

theorem readDigits_append {digits : List Nat} {rest : List Char} (hdigits : AreDigits digits)
    (hrest : ∀ c, rest.head? = some c → digit? c = none) :
    readDigits (digitChars digits ++ rest) = some (digits, rest) := by
  rw [readDigits, leadingDigits_append hdigits.decimal hrest]
  cases digits with
  | nil => exact absurd rfl hdigits.nonempty
  | cons d digits => rfl

theorem of_readDigits {cs rest : List Char} {digits : List Nat}
    (hread : readDigits cs = some (digits, rest)) :
    AreDigits digits ∧ cs = digitChars digits ++ rest := by
  have hleading := of_leadingDigits cs
  unfold readDigits at hread
  split at hread
  · contradiction
  · next hnonempty =>
      rw [Option.some.injEq] at hread
      rw [hread] at hleading hnonempty
      refine ⟨⟨?_, hleading.2⟩, hleading.1⟩
      rintro rfl
      exact hnonempty rest rfl

theorem readWhole_append {digits : List Nat} {rest : List Char} (hdigits : AreWhole digits)
    (hrest : ∀ c, rest.head? = some c → digit? c = none) :
    readWhole (digitChars digits ++ rest) = some (digits, rest) := by
  rcases hdigits.canonical with rfl | hhead
  · rfl
  · have hread := readDigits_append hdigits.toAreDigits hrest
    cases digits with
    | nil => exact absurd rfl hdigits.nonempty
    | cons d digits =>
        have hd : Nat.digitChar d ≠ '0' := by
          intro heq
          have hzero := digit?_digitChar (hdigits.decimal d List.mem_cons_self)
          rw [heq] at hzero
          exact hhead (by rw [List.head?_cons]; exact hzero.symm)
        simp only [digitChars, List.map_cons, List.cons_append] at hread ⊢
        rw [readWhole, hread]
        intro later hlater
        exact hd (List.cons.inj hlater).1

theorem of_readWhole {cs rest : List Char} {digits : List Nat}
    (hread : readWhole cs = some (digits, rest)) :
    AreWhole digits ∧ cs = digitChars digits ++ rest := by
  unfold readWhole at hread
  split at hread
  · simp only [Option.some.injEq, Prod.mk.injEq] at hread
    obtain ⟨rfl, rfl⟩ := hread
    exact ⟨⟨⟨List.cons_ne_nil _ _, by decide⟩, Or.inl rfl⟩, rfl⟩
  · next hhead =>
      obtain ⟨hdigits, rfl⟩ := of_readDigits hread
      refine ⟨⟨hdigits, Or.inr ?_⟩, rfl⟩
      intro hzero
      obtain ⟨later, rfl⟩ : ∃ later, digits = 0 :: later := by
        cases digits with
        | nil => contradiction
        | cons d later => exact ⟨later, by rw [Option.some.inj hzero]⟩
      exact hhead _ rfl

theorem readFraction_append {digits : List Nat} {cs rest : List Char}
    (hfraction : SpellsFraction digits cs)
    (hrest : ∀ c, rest.head? = some c → digit? c = none ∧ c ≠ '.') :
    readFraction (cs ++ rest) = some (digits, rest) := by
  cases hfraction with
  | absent =>
      unfold readFraction
      split
      · next later heq => exact absurd rfl (hrest '.' (by rw [← List.nil_append rest, heq]; rfl)).2
      · rfl
  | present hdigits => exact readDigits_append hdigits fun c hc => (hrest c hc).1

theorem of_readFraction {cs rest : List Char} {digits : List Nat}
    (hread : readFraction cs = some (digits, rest)) :
    ∃ text, SpellsFraction digits text ∧ cs = text ++ rest := by
  unfold readFraction at hread
  split at hread
  · obtain ⟨hdigits, rfl⟩ := of_readDigits hread
    exact ⟨_, .present hdigits, rfl⟩
  · simp only [Option.some.injEq, Prod.mk.injEq] at hread
    obtain ⟨rfl, rfl⟩ := hread
    exact ⟨[], .absent, rfl⟩

/-- Digits are no sign. -/
theorem readSigned_digitChars {digits : List Nat} {rest : List Char} (hdigits : AreDigits digits)
    (hrest : ∀ c, rest.head? = some c → digit? c = none) :
    readSigned (digitChars digits ++ rest) = some ((false, digits), rest) := by
  have hread := readDigits_append hdigits hrest
  have hsign : ∀ sign later, digit? sign = none →
      digitChars digits ++ rest ≠ sign :: later := by
    intro sign later hsign heq
    cases digits with
    | nil => exact hdigits.nonempty rfl
    | cons d digits =>
        have hd := digit?_digitChar (hdigits.decimal d List.mem_cons_self)
        simp only [digitChars, List.map_cons, List.cons_append] at heq
        rw [(List.cons.inj heq).1, hsign] at hd
        contradiction
  rw [readSigned]
  · rw [hread]
    rfl
  · exact fun later heq => hsign '-' later (by decide) heq
  · exact fun later heq => hsign '+' later (by decide) heq

theorem readExponent_append {exponent : Option (Bool × List Nat)} {cs rest : List Char}
    (hexponent : SpellsExponent exponent cs) (hstops : Stops rest) :
    readExponent (cs ++ rest) = some (exponent, rest) := by
  have hdigit : ∀ c, rest.head? = some c → digit? c = none := fun c hc => (hstops c hc).1
  cases hexponent with
  | absent =>
      cases rest with
      | nil => rfl
      | cons c rest =>
          obtain ⟨-, -, hlower, hupper⟩ := hstops c rfl
          simp [readExponent, hlower, hupper]
  | bare hmark hdigits =>
      rw [List.cons_append, readExponent, if_pos hmark, readSigned_digitChars hdigits hdigit]
      rfl
  | plus hmark hdigits =>
      rw [List.cons_append, readExponent, if_pos hmark, List.cons_append, readSigned,
        readDigits_append hdigits hdigit]
      rfl
  | minus hmark hdigits =>
      rw [List.cons_append, readExponent, if_pos hmark, List.cons_append, readSigned,
        readDigits_append hdigits hdigit]
      rfl

theorem of_readSigned {cs rest : List Char} {signed : Bool × List Nat} {mark : Char}
    (hmark : mark = 'e' ∨ mark = 'E') (hread : readSigned cs = some (signed, rest)) :
    ∃ text, SpellsExponent (some signed) (mark :: text) ∧ cs = text ++ rest := by
  unfold readSigned at hread
  split at hread <;>
    simp only [Option.bind_eq_bind, Option.bind_eq_some_iff, Option.some.injEq,
      Prod.mk.injEq] at hread <;>
    obtain ⟨⟨digits, after⟩, hafter, rfl, rfl⟩ := hread <;>
    obtain ⟨hdigits, rfl⟩ := of_readDigits hafter
  · exact ⟨_, .minus hmark hdigits, rfl⟩
  · exact ⟨_, .plus hmark hdigits, rfl⟩
  · exact ⟨_, .bare hmark hdigits, rfl⟩

theorem of_readExponent {cs rest : List Char} {exponent : Option (Bool × List Nat)}
    (hread : readExponent cs = some (exponent, rest)) :
    ∃ text, SpellsExponent exponent text ∧ cs = text ++ rest := by
  unfold readExponent at hread
  split at hread
  · next mark later =>
      split at hread
      · next hmark =>
          simp only [Option.bind_eq_bind, Option.bind_eq_some_iff, Option.some.injEq,
            Prod.mk.injEq] at hread
          obtain ⟨⟨signed, after⟩, hsigned, rfl, rfl⟩ := hread
          obtain ⟨text, htext, rfl⟩ := of_readSigned hmark hsigned
          exact ⟨_, htext, rfl⟩
      · simp only [Option.some.injEq, Prod.mk.injEq] at hread
        obtain ⟨rfl, rfl⟩ := hread
        exact ⟨[], .absent, rfl⟩
  · simp only [Option.some.injEq, Prod.mk.injEq] at hread
    obtain ⟨rfl, rfl⟩ := hread
    exact ⟨[], .absent, rfl⟩

theorem readNumeral_append {n : Numeral} {cs rest : List Char} (hnumeral : SpellsNumeral n cs)
    (hstops : Stops rest) : readNumeral (cs ++ rest) = some (n, rest) := by
  obtain @⟨negative, whole, fraction, exponent, behindPoint, behindMark, hwhole, hfraction,
    hexponent⟩ := hnumeral
  -- Neither the digits nor the fraction can go on into what follows them.
  have hmark : ∀ c, (behindMark ++ rest).head? = some c → digit? c = none ∧ c ≠ '.' := by
    intro c hc
    cases hexponent with
    | absent => exact ⟨(hstops c hc).1, (hstops c hc).2.1⟩
    | bare hmark _ | plus hmark _ | minus hmark _ =>
        simp only [List.cons_append, List.head?_cons, Option.some.injEq] at hc
        rcases hmark with rfl | rfl <;> subst hc <;> decide
  have hpoint : ∀ c, (behindPoint ++ (behindMark ++ rest)).head? = some c → digit? c = none := by
    intro c hc
    cases hfraction with
    | absent => exact (hmark c hc).1
    | present _ =>
        simp only [List.cons_append, List.head?_cons, Option.some.injEq] at hc
        subst hc
        decide
  have hmagnitude : readMagnitude negative (digitChars whole ++ behindPoint ++ behindMark ++ rest) =
      some (⟨negative, whole, fraction, exponent⟩, rest) := by
    rw [readMagnitude, List.append_assoc, List.append_assoc, readWhole_append hwhole hpoint]
    simp only [Option.bind_eq_bind, Option.bind_some]
    rw [readFraction_append hfraction hmark]
    simp only [Option.bind_some]
    rw [readExponent_append hexponent hstops]
    rfl
  cases negative with
  | true => exact hmagnitude
  | false =>
      rw [signChars, if_neg Bool.false_ne_true, List.nil_append, readNumeral]
      · exact hmagnitude
      · intro later heq
        obtain ⟨d, digits, rfl⟩ := List.exists_cons_of_ne_nil hwhole.nonempty
        have hd := digit?_digitChar (hwhole.decimal d List.mem_cons_self)
        simp only [digitChars, List.map_cons, List.cons_append] at heq
        rw [(List.cons.inj heq).1] at hd
        contradiction

theorem of_readMagnitude {negative : Bool} {cs rest : List Char} {n : Numeral}
    (hread : readMagnitude negative cs = some (n, rest)) :
    ∃ text, SpellsNumeral n (signChars negative ++ text) ∧ cs = text ++ rest := by
  unfold readMagnitude at hread
  simp only [Option.bind_eq_bind, Option.bind_eq_some_iff, Option.some.injEq,
    Prod.mk.injEq] at hread
  obtain ⟨⟨whole, behindWhole⟩, hreadWhole, ⟨fraction, behindFraction⟩, hreadFraction,
    ⟨exponent, behindExponent⟩, hreadExponent, rfl, rfl⟩ := hread
  obtain ⟨hwhole, rfl⟩ := of_readWhole hreadWhole
  obtain ⟨point, hpoint, rfl⟩ := of_readFraction hreadFraction
  obtain ⟨mark, hmark, rfl⟩ := of_readExponent hreadExponent
  refine ⟨digitChars whole ++ point ++ mark, ?_, by simp⟩
  have hnumeral : SpellsNumeral ⟨negative, whole, fraction, exponent⟩ _ :=
    .mk hwhole hpoint hmark
  simpa only [List.append_assoc] using hnumeral

theorem of_readNumeral {cs rest : List Char} {n : Numeral}
    (hread : readNumeral cs = some (n, rest)) :
    ∃ text, SpellsNumeral n text ∧ cs = text ++ rest := by
  unfold readNumeral at hread
  split at hread
  · obtain ⟨text, htext, rfl⟩ := of_readMagnitude hread
    exact ⟨'-' :: text, htext, rfl⟩
  · exact of_readMagnitude hread

/-! ## Strings -/

theorem readPieces_append {pieces : List Piece} {cs : List Char}
    (hpieces : SpellsPieces pieces cs) (rest : List Char) :
    readPieces (cs ++ '"' :: rest) = some (pieces, rest) := by
  induction hpieces with
  | nil => rfl
  | @cons piece pieces cs later hpiece hpieces ih =>
      rw [List.append_assoc]
      cases hpiece with
      | plain hcontrol hmark hescape =>
          rw [List.cons_append, List.nil_append, readPieces, if_neg (Nat.not_lt.mpr hcontrol), ih]
          · rfl
          · exact hmark
          · exact fun _ _ _ _ _ heq _ => hescape heq
          · exact fun _ _ heq _ => hescape heq
      | escaped hescape =>
          simp only [escapes, List.mem_cons, Prod.mk.injEq, List.not_mem_nil, or_false] at hescape
          rcases hescape with ⟨rfl, rfl⟩ | ⟨rfl, rfl⟩ | ⟨rfl, rfl⟩ | ⟨rfl, rfl⟩ | ⟨rfl, rfl⟩ |
            ⟨rfl, rfl⟩ | ⟨rfl, rfl⟩ | ⟨rfl, rfl⟩ <;>
          simp [readPieces, escape?, ih]
      | unit ha hb hc hd =>
          simp [readPieces, hexUnit?, ha, hb, hc, hd, ih]

theorem mem_escapes_of_escape? {letter c : Char} (hescape : escape? letter = some c) :
    (letter, c) ∈ escapes := by
  unfold escape? at hescape
  split at hescape <;> first | contradiction | (cases hescape; decide)

theorem of_readPieces {cs rest : List Char} {pieces : List Piece}
    (hread : readPieces cs = some (pieces, rest)) :
    ∃ text, SpellsPieces pieces text ∧ cs = text ++ '"' :: rest := by
  induction cs using readPieces.induct generalizing pieces with
  | case1 => contradiction
  | case2 later =>
      simp only [readPieces, Option.some.injEq, Prod.mk.injEq] at hread
      obtain ⟨rfl, rfl⟩ := hread
      exact ⟨[], .nil, rfl⟩
  | case3 a b c d later ih =>
      simp only [readPieces, hexUnit?, Option.bind_eq_bind, Option.bind_eq_some_iff,
        Option.some.injEq, Prod.mk.injEq] at hread
      obtain ⟨value, ⟨w, hw, x, hx, y, hy, z, hz, rfl⟩, ⟨found, after⟩, hfound, rfl, rfl⟩ := hread
      obtain ⟨text, htext, rfl⟩ := ih hfound
      exact ⟨_, .cons (.unit hw hx hy hz) htext, rfl⟩
  | case4 letter later hunit ih =>
      rw [readPieces.eq_4 letter later hunit] at hread
      simp only [Option.bind_eq_bind, Option.bind_eq_some_iff, Option.some.injEq,
        Prod.mk.injEq] at hread
      obtain ⟨c, hc, ⟨found, after⟩, hfound, rfl, rfl⟩ := hread
      obtain ⟨text, htext, rfl⟩ := ih hfound
      exact ⟨_, .cons (.escaped (mem_escapes_of_escape? hc)) htext, rfl⟩
  | case5 c later hmark hunit hescape hcontrol =>
      rw [readPieces.eq_5 c later hmark hunit hescape, if_pos hcontrol] at hread
      contradiction
  | case6 c later hmark hunit hescape hcontrol ih =>
      rw [readPieces.eq_5 c later hmark hunit hescape, if_neg hcontrol] at hread
      simp only [Option.bind_eq_bind, Option.bind_eq_some_iff, Option.some.injEq,
        Prod.mk.injEq] at hread
      obtain ⟨⟨found, after⟩, hfound, rfl, rfl⟩ := hread
      obtain ⟨text, htext, rfl⟩ := ih hfound
      refine ⟨_, .cons (.plain (Nat.not_lt.mp hcontrol) hmark ?_) htext, rfl⟩
      -- A backslash at the end of the text would leave nothing to read the closing mark from.
      rintro rfl
      obtain ⟨letter, later, hlater⟩ := List.exists_cons_of_ne_nil
        (show text ++ '"' :: after ≠ [] by simp)
      exact hescape letter later rfl hlater

/-! ## Values -/

/-- With some fuel the reader reads only what is spelled there. -/
structure Faithful (fuel : Nat) : Prop where
  value : ∀ {cs rest : List Char} {tree : Tree}, readValue fuel cs = some (tree, rest) →
    ∃ before text, Blank before ∧ SpellsValue tree text ∧ cs = before ++ text ++ rest
  elements : ∀ {cs rest : List Char} {trees : List Tree},
    readElements fuel cs = some (trees, rest) →
      ∃ text, SpellsElements trees text ∧ cs = text ++ ']' :: rest
  members : ∀ {cs rest : List Char} {members : List (List Piece × Tree)},
    readMembers fuel cs = some (members, rest) →
      ∃ text, SpellsMembers members text ∧ cs = text ++ '\x7d' :: rest

variable {fuel : Nat}

/-- A value that was read and the blanks around it. -/
theorem Faithful.text (hfaithful : Faithful fuel) {cs rest : List Char} {tree : Tree}
    (hread : readValue fuel cs = some (tree, rest)) :
    ∃ text, SpellsText tree text ∧ cs = text ++ skipSpace rest := by
  obtain ⟨before, value, hbefore, hvalue, rfl⟩ := hfaithful.value hread
  obtain ⟨after, hafter, hrest⟩ := exists_blank_append rest
  refine ⟨_, .mk hbefore hvalue hafter, ?_⟩
  rw [List.append_assoc _ after, ← hrest]

theorem Faithful.value_succ (hfaithful : Faithful fuel) {cs rest : List Char} {tree : Tree}
    (hread : readValue (fuel + 1) cs = some (tree, rest)) :
    ∃ before text, Blank before ∧ SpellsValue tree text ∧ cs = before ++ text ++ rest := by
  obtain ⟨before, hbefore, hcs⟩ := exists_blank_append cs
  suffices hvalue : ∃ text, SpellsValue tree text ∧ skipSpace cs = text ++ rest by
    obtain ⟨text, htext, hskip⟩ := hvalue
    refine ⟨before, text, hbefore, htext, ?_⟩
    rw [List.append_assoc, ← hskip]
    exact hcs
  rw [readValue.eq_2] at hread
  split at hread
  · next behind heq =>
      obtain ⟨between, hbetween, hbehind⟩ := exists_blank_append behind
      rw [heq, hbehind]
      split at hread
      · next hclose =>
          simp only [Option.some.injEq, Prod.mk.injEq] at hread
          obtain ⟨rfl, rfl⟩ := hread
          exact ⟨_, .noMember hbetween, by simp [hclose]⟩
      · simp only [Option.bind_eq_bind, Option.bind_eq_some_iff, Option.some.injEq,
          Prod.mk.injEq] at hread
        obtain ⟨⟨members, after⟩, hmembers, rfl, rfl⟩ := hread
        obtain ⟨text, htext, hskip⟩ := hfaithful.members hmembers
        exact ⟨_, .object (htext.blank_append hbetween), by simp [hskip]⟩
  · next behind heq =>
      obtain ⟨between, hbetween, hbehind⟩ := exists_blank_append behind
      rw [heq, hbehind]
      split at hread
      · next hclose =>
          simp only [Option.some.injEq, Prod.mk.injEq] at hread
          obtain ⟨rfl, rfl⟩ := hread
          exact ⟨_, .noElement hbetween, by simp [hclose]⟩
      · simp only [Option.bind_eq_bind, Option.bind_eq_some_iff, Option.some.injEq,
          Prod.mk.injEq] at hread
        obtain ⟨⟨elements, after⟩, helements, rfl, rfl⟩ := hread
        obtain ⟨text, htext, hskip⟩ := hfaithful.elements helements
        exact ⟨_, .array (htext.blank_append hbetween), by simp [hskip]⟩
  · next behind heq =>
      simp only [Option.bind_eq_bind, Option.bind_eq_some_iff, Option.some.injEq,
        Prod.mk.injEq] at hread
      obtain ⟨⟨pieces, after⟩, hpieces, rfl, rfl⟩ := hread
      obtain ⟨text, htext, rfl⟩ := of_readPieces hpieces
      exact ⟨_, .text (.mk htext), by simp [heq]⟩
  · next behind heq =>
      simp only [Option.some.injEq, Prod.mk.injEq] at hread
      obtain ⟨rfl, rfl⟩ := hread
      exact ⟨_, .null, heq⟩
  · next behind heq =>
      simp only [Option.some.injEq, Prod.mk.injEq] at hread
      obtain ⟨rfl, rfl⟩ := hread
      exact ⟨_, .isTrue, heq⟩
  · next behind heq =>
      simp only [Option.some.injEq, Prod.mk.injEq] at hread
      obtain ⟨rfl, rfl⟩ := hread
      exact ⟨_, .isFalse, heq⟩
  · simp only [Option.bind_eq_bind, Option.bind_eq_some_iff, Option.some.injEq,
      Prod.mk.injEq] at hread
    obtain ⟨⟨n, after⟩, hn, rfl, rfl⟩ := hread
    obtain ⟨text, htext, hskip⟩ := of_readNumeral hn
    exact ⟨text, .numeral htext, hskip⟩

theorem Faithful.elements_succ (hfaithful : Faithful fuel) {cs rest : List Char}
    {trees : List Tree} (hread : readElements (fuel + 1) cs = some (trees, rest)) :
    ∃ text, SpellsElements trees text ∧ cs = text ++ ']' :: rest := by
  rw [readElements.eq_2] at hread
  simp only [Option.bind_eq_bind, Option.bind_eq_some_iff] at hread
  obtain ⟨⟨tree, behind⟩, htree, hread⟩ := hread
  obtain ⟨text, htext, rfl⟩ := hfaithful.text htree
  split at hread
  · next later hcomma =>
      simp only [Option.bind_eq_some_iff, Option.some.injEq, Prod.mk.injEq] at hread
      obtain ⟨⟨elements, after⟩, helements, rfl, rfl⟩ := hread
      obtain ⟨texts, htexts, rfl⟩ := hfaithful.elements helements
      refine ⟨_, .cons htext htexts, ?_⟩
      rw [hcomma]
      simp
  · next later hclose =>
      simp only [Option.some.injEq, Prod.mk.injEq] at hread
      obtain ⟨rfl, rfl⟩ := hread
      refine ⟨_, .last htext, ?_⟩
      rw [hclose]
  · contradiction

theorem Faithful.members_succ (hfaithful : Faithful fuel) {cs rest : List Char}
    {members : List (List Piece × Tree)}
    (hread : readMembers (fuel + 1) cs = some (members, rest)) :
    ∃ text, SpellsMembers members text ∧ cs = text ++ '\x7d' :: rest := by
  obtain ⟨before, hbefore, hcs⟩ := exists_blank_append cs
  rw [readMembers.eq_2] at hread
  split at hread
  · next behind hopen =>
      simp only [Option.bind_eq_bind, Option.bind_eq_some_iff] at hread
      obtain ⟨⟨name, afterName⟩, hname, hread⟩ := hread
      obtain ⟨nameText, hnameText, rfl⟩ := of_readPieces hname
      obtain ⟨between, hbetween, hafterName⟩ := exists_blank_append afterName
      split at hread
      · next behindColon hcolon =>
          simp only [Option.bind_eq_some_iff] at hread
          obtain ⟨⟨tree, afterValue⟩, htree, hread⟩ := hread
          obtain ⟨text, htext, rfl⟩ := hfaithful.text htree
          have hmember := SpellsMember.mk (.mk hbefore (.mk hnameText) hbetween) htext
          split at hread
          · next later hcomma =>
              simp only [Option.bind_eq_some_iff, Option.some.injEq, Prod.mk.injEq] at hread
              obtain ⟨⟨others, after⟩, hothers, rfl, rfl⟩ := hread
              obtain ⟨texts, htexts, rfl⟩ := hfaithful.members hothers
              refine ⟨_, .cons hmember htexts, ?_⟩
              rw [hcs, hopen, hafterName, hcolon, hcomma]
              simp
          · next later hclose =>
              simp only [Option.some.injEq, Prod.mk.injEq] at hread
              obtain ⟨rfl, rfl⟩ := hread
              refine ⟨_, .last hmember, ?_⟩
              rw [hcs, hopen, hafterName, hcolon, hclose]
              simp
          · contradiction
      · contradiction
  · contradiction

/-- The reader reads only what the grammar spells. -/
theorem faithful (fuel : Nat) : Faithful fuel := by
  induction fuel with
  | zero => exact ⟨nofun, nofun, nofun⟩
  | succ fuel ih => exact ⟨ih.value_succ, ih.elements_succ, ih.members_succ⟩

/-- The first character of a number. -/
theorem SpellsNumeral.exists_cons {n : Numeral} {cs : List Char} (hnumeral : SpellsNumeral n cs) :
    ∃ c later, cs = c :: later ∧ (c = '-' ∨ ∃ d < 10, c = Nat.digitChar d) := by
  obtain @⟨negative, whole, fraction, exponent, behindPoint, behindMark, hwhole, -, -⟩ := hnumeral
  obtain ⟨d, digits, rfl⟩ := List.exists_cons_of_ne_nil hwhole.nonempty
  cases negative with
  | true => exact ⟨_, _, rfl, Or.inl rfl⟩
  | false => exact ⟨_, _, rfl, Or.inr ⟨d, hwhole.decimal d List.mem_cons_self, rfl⟩⟩

/-- A value begins with a token, and with none that ends a list. -/
theorem SpellsValue.exists_cons {tree : Tree} {cs : List Char} (hvalue : SpellsValue tree cs) :
    ∃ c later, cs = c :: later ∧ isSpace c = false ∧ c ≠ ']' := by
  cases hvalue with
  | numeral hnumeral =>
      obtain ⟨c, later, rfl, hc⟩ := hnumeral.exists_cons
      refine ⟨c, later, rfl, ?_⟩
      rcases hc with rfl | ⟨d, hd, rfl⟩
      · decide
      · have hall : ∀ d < 10, isSpace (Nat.digitChar d) = false ∧ Nat.digitChar d ≠ ']' := by
          decide
        exact hall d hd
  | text hstring =>
      obtain ⟨hpieces⟩ := hstring
      exact ⟨_, _, rfl, by decide, by decide⟩
  | _ => exact ⟨_, _, rfl, by decide, by decide⟩

theorem SpellsValue.starts {tree : Tree} {cs rest : List Char} (hvalue : SpellsValue tree cs) :
    Starts (cs ++ rest) := by
  obtain ⟨c, later, rfl, hc, -⟩ := hvalue.exists_cons
  exact starts_cons hc

theorem SpellsElements.exists_skipSpace {trees : List Tree} {cs : List Char}
    (helements : SpellsElements trees cs) (rest : List Char) :
    ∃ c later, skipSpace (cs ++ rest) = c :: later ∧ c ≠ ']' := by
  have htext : ∀ {tree : Tree} {cs rest : List Char}, SpellsText tree cs →
      ∃ c later, skipSpace (cs ++ rest) = c :: later ∧ c ≠ ']' := by
    rintro tree _ rest ⟨hbefore, hvalue, hafter⟩
    rw [List.append_assoc, List.append_assoc, skipSpace_append hbefore hvalue.starts]
    obtain ⟨c, later, rfl, -, hc⟩ := hvalue.exists_cons
    exact ⟨c, _, rfl, hc⟩
  cases helements with
  | last htree => exact htext htree
  | cons htree htrees =>
      rw [List.append_assoc]
      exact htext htree

theorem SpellsMembers.exists_skipSpace {members : List (List Piece × Tree)}
    {cs : List Char} (hmembers : SpellsMembers members cs) (rest : List Char) :
    ∃ later, skipSpace (cs ++ rest) = '"' :: later := by
  have hmember : ∀ {member : List Piece × Tree} {cs rest : List Char}, SpellsMember member cs →
      ∃ later, skipSpace (cs ++ rest) = '"' :: later := by
    rintro member _ rest ⟨⟨hbefore, ⟨hpieces⟩, hafter⟩, htree⟩
    rw [List.append_assoc, List.append_assoc, List.append_assoc]
    exact ⟨_, skipSpace_append hbefore (starts_cons (by decide))⟩
  cases hmembers with
  | last hfirst => exact hmember hfirst
  | cons hfirst hothers =>
      rw [List.append_assoc]
      exact hmember hfirst

theorem skipSpace_skipSpace (cs : List Char) : skipSpace (skipSpace cs) = skipSpace cs :=
  List.dropWhile_idempotent isSpace cs

theorem readValue_skipSpace (cs : List Char) :
    readValue fuel (skipSpace cs) = readValue fuel cs := by
  cases fuel with
  | zero => rfl
  | succ fuel => rw [readValue.eq_2, readValue.eq_2, skipSpace_skipSpace]

theorem readElements_skipSpace (cs : List Char) :
    readElements fuel (skipSpace cs) = readElements fuel cs := by
  cases fuel with
  | zero => rfl
  | succ fuel => rw [readElements.eq_2, readElements.eq_2, readValue_skipSpace]

theorem readMembers_skipSpace (cs : List Char) :
    readMembers fuel (skipSpace cs) = readMembers fuel cs := by
  cases fuel with
  | zero => rfl
  | succ fuel => rw [readMembers.eq_2, readMembers.eq_2, skipSpace_skipSpace]

/-- With some fuel the reader reads all that is spelled there, if the text is not too long
for the fuel. -/
structure Exhaustive (fuel : Nat) : Prop where
  value : ∀ {before text rest : List Char} {tree : Tree}, Blank before → SpellsValue tree text →
    Stops rest → 2 * text.length ≤ fuel →
      readValue fuel (before ++ text ++ rest) = some (tree, rest)
  elements : ∀ {text rest : List Char} {trees : List Tree}, SpellsElements trees text →
    2 * text.length + 1 ≤ fuel → readElements fuel (text ++ ']' :: rest) = some (trees, rest)
  members : ∀ {text rest : List Char} {members : List (List Piece × Tree)},
    SpellsMembers members text → 2 * text.length + 1 ≤ fuel →
      readMembers fuel (text ++ '\x7d' :: rest) = some (members, rest)

/-- A text is read up to the blanks behind its value. -/
theorem Exhaustive.text (hexhaustive : Exhaustive fuel) {text rest : List Char} {tree : Tree}
    (htext : SpellsText tree text) (hstops : Stops rest) (hstarts : Starts rest)
    (hfuel : 2 * text.length ≤ fuel) :
    ∃ behind, readValue fuel (text ++ rest) = some (tree, behind) ∧ skipSpace behind = rest := by
  obtain @⟨_, before, value, after, hbefore, hvalue, hafter⟩ := htext
  refine ⟨after ++ rest, ?_, skipSpace_append hafter hstarts⟩
  rw [List.append_assoc _ after]
  apply hexhaustive.value hbefore hvalue (stops_append hafter hstops)
  simp only [List.length_append] at hfuel
  omega

theorem Exhaustive.value_succ (hexhaustive : Exhaustive fuel) {before text rest : List Char}
    {tree : Tree} (hbefore : Blank before) (hvalue : SpellsValue tree text) (hstops : Stops rest)
    (hfuel : 2 * text.length ≤ fuel + 1) :
    readValue (fuel + 1) (before ++ text ++ rest) = some (tree, rest) := by
  have hskip : skipSpace (before ++ text ++ rest) = text ++ rest := by
    rw [List.append_assoc, skipSpace_append hbefore hvalue.starts]
  rw [readValue.eq_2, hskip]
  cases hvalue with
  | null => rfl
  | isTrue => rfl
  | isFalse => rfl
  | @numeral n text hnumeral =>
      have hread := readNumeral_append hnumeral hstops
      obtain ⟨c, later, rfl, hc⟩ := hnumeral.exists_cons
      have hother : c ≠ '\x7b' ∧ c ≠ '[' ∧ c ≠ '"' ∧ c ≠ 'n' ∧ c ≠ 't' ∧ c ≠ 'f' := by
        rcases hc with rfl | ⟨d, hd, rfl⟩
        · decide
        · have hall : ∀ d < 10, Nat.digitChar d ≠ '\x7b' ∧ Nat.digitChar d ≠ '[' ∧
              Nat.digitChar d ≠ '"' ∧ Nat.digitChar d ≠ 'n' ∧ Nat.digitChar d ≠ 't' ∧
              Nat.digitChar d ≠ 'f' := by decide
          exact hall d hd
      obtain ⟨hbrace, hbracket, hmark, hn, ht, hf⟩ := hother
      rw [List.cons_append] at hread ⊢
      split
      · next heq => exact absurd (List.cons.inj heq).1 hbrace
      · next heq => exact absurd (List.cons.inj heq).1 hbracket
      · next heq => exact absurd (List.cons.inj heq).1 hmark
      · next heq => exact absurd (List.cons.inj heq).1 hn
      · next heq => exact absurd (List.cons.inj heq).1 ht
      · next heq => exact absurd (List.cons.inj heq).1 hf
      · rw [hread]
        rfl
  | text hstring =>
      obtain ⟨hpieces⟩ := hstring
      have hread := readPieces_append hpieces rest
      simp [hread]
  | @noElement between hbetween =>
      have hclose : skipSpace (between ++ ']' :: rest) = ']' :: rest :=
        skipSpace_append hbetween (starts_cons (by decide))
      simp [hclose]
  | @array elements text helements =>
      obtain ⟨c, later, hfirst, hc⟩ := helements.exists_skipSpace (']' :: rest)
      have hread : readElements fuel (c :: later) = some (elements, rest) := by
        rw [← hfirst, readElements_skipSpace]
        apply hexhaustive.elements helements
        simp only [List.length_cons, List.length_append, List.length_nil] at hfuel
        omega
      simp [hfirst, hc, hread]
  | @noMember between hbetween =>
      have hclose : skipSpace (between ++ '\x7d' :: rest) = '\x7d' :: rest :=
        skipSpace_append hbetween (starts_cons (by decide))
      simp [hclose]
  | @object members text hmembers =>
      obtain ⟨later, hfirst⟩ := hmembers.exists_skipSpace ('\x7d' :: rest)
      have hread : readMembers fuel ('"' :: later) = some (members, rest) := by
        rw [← hfirst, readMembers_skipSpace]
        apply hexhaustive.members hmembers
        simp only [List.length_cons, List.length_append, List.length_nil] at hfuel
        omega
      simp [hfirst, hread]

theorem Exhaustive.elements_succ (hexhaustive : Exhaustive fuel) {text rest : List Char}
    {trees : List Tree} (helements : SpellsElements trees text)
    (hfuel : 2 * text.length + 1 ≤ fuel + 1) :
    readElements (fuel + 1) (text ++ ']' :: rest) = some (trees, rest) := by
  rw [readElements.eq_2]
  cases helements with
  | last htree =>
      have hstops : Stops (']' :: rest) := stops_cons (by decide)
      obtain ⟨behind, hread, hskip⟩ := hexhaustive.text htree hstops (starts_cons (by decide))
        (by omega)
      simp [hread, hskip]
  | @cons tree trees first later htree htrees =>
      simp only [List.length_append, List.length_cons] at hfuel
      have hstops : Stops (',' :: (later ++ ']' :: rest)) := stops_cons (by decide)
      obtain ⟨behind, hread, hskip⟩ := hexhaustive.text htree hstops (starts_cons (by decide))
        (by omega)
      have hlater : readElements fuel (later ++ ']' :: rest) = some (trees, rest) :=
        hexhaustive.elements htrees (by omega)
      simp [hread, hskip, hlater]

theorem Exhaustive.member (hexhaustive : Exhaustive fuel) {text rest : List Char}
    {name : List Piece} {tree : Tree} (hmember : SpellsMember (name, tree) text)
    (hstops : Stops rest) (hstarts : Starts rest) (hfuel : 2 * text.length ≤ fuel) :
    ∃ behindMark behindName behindColon behind,
      skipSpace (text ++ rest) = '"' :: behindMark ∧
        readPieces behindMark = some (name, behindName) ∧
        skipSpace behindName = ':' :: behindColon ∧
        readValue fuel behindColon = some (tree, behind) ∧ skipSpace behind = rest := by
  obtain @⟨_, _, _, value, ⟨hbefore, ⟨hpieces⟩, hafter⟩, htree⟩ := hmember
  obtain ⟨behind, hread, hskip⟩ := hexhaustive.text htree hstops hstarts (by
    simp only [List.length_append, List.length_cons] at hfuel
    omega)
  refine ⟨_, _, value ++ rest, behind, ?_, readPieces_append hpieces _,
    skipSpace_append hafter (starts_cons (by decide)), hread, hskip⟩
  simp only [List.append_assoc, List.cons_append, List.nil_append]
  exact skipSpace_append hbefore (starts_cons (by decide))

theorem Exhaustive.members_succ (hexhaustive : Exhaustive fuel) {text rest : List Char}
    {members : List (List Piece × Tree)} (hmembers : SpellsMembers members text)
    (hfuel : 2 * text.length + 1 ≤ fuel + 1) :
    readMembers (fuel + 1) (text ++ '\x7d' :: rest) = some (members, rest) := by
  rw [readMembers.eq_2]
  cases hmembers with
  | @last member _ hmember =>
      have hstops : Stops ('\x7d' :: rest) := stops_cons (by decide)
      obtain ⟨behindMark, behindName, behindColon, behind, hopen, hname, hcolon, hvalue, hskip⟩ :=
        hexhaustive.member hmember hstops (starts_cons (by decide)) (by omega)
      simp [hopen, hname, hcolon, hvalue, hskip]
  | @cons member members first later hmember hmembers =>
      simp only [List.length_append, List.length_cons] at hfuel
      have hstops : Stops (',' :: (later ++ '\x7d' :: rest)) := stops_cons (by decide)
      obtain ⟨behindMark, behindName, behindColon, behind, hopen, hname, hcolon, hvalue, hskip⟩ :=
        hexhaustive.member hmember hstops (starts_cons (by decide)) (by omega)
      have hlater : readMembers fuel (later ++ '\x7d' :: rest) = some (members, rest) :=
        hexhaustive.members hmembers (by omega)
      simp [hopen, hname, hcolon, hvalue, hskip, hlater]

/-- The reader reads all that the grammar spells. -/
theorem exhaustive (fuel : Nat) : Exhaustive fuel := by
  induction fuel with
  | zero =>
      refine ⟨?_, fun _ hfuel => absurd hfuel (by omega), fun _ hfuel => absurd hfuel (by omega)⟩
      intro before text rest tree _ hvalue _ hfuel
      obtain ⟨c, later, rfl, -, -⟩ := hvalue.exists_cons
      simp at hfuel
  | succ fuel ih => exact ⟨ih.value_succ, ih.elements_succ, ih.members_succ⟩

/-- A text is read as the tree that it spells, and as nothing if it spells none. -/
theorem Tree.ofChars?_eq_some_iff {cs : List Char} {tree : Tree} :
    Tree.ofChars? cs = some tree ↔ SpellsText tree cs := by
  constructor
  · intro hread
    unfold Tree.ofChars? at hread
    split at hread
    · next found rest hfound =>
        split at hread
        · next hnothing =>
            rw [Option.some.injEq] at hread
            subst hread
            obtain ⟨text, htext, rfl⟩ := (faithful _).text hfound
            rw [hnothing, List.append_nil]
            exact htext
        · contradiction
    · contradiction
  · intro htext
    obtain ⟨behind, hread, hskip⟩ := (exhaustive (2 * cs.length + 2)).text htext
      stops_nil nofun (by omega)
    rw [List.append_nil] at hread
    rw [Tree.ofChars?, hread]
    exact if_pos hskip

/-- A text spells one tree at most. -/
theorem SpellsText.unique {cs : List Char} {tree tree' : Tree} (htext : SpellsText tree cs)
    (htext' : SpellsText tree' cs) : tree = tree' := by
  rw [← Tree.ofChars?_eq_some_iff] at htext htext'
  exact Option.some.inj (htext.symm.trans htext')

/-- A text that is read up to the closing mark spells the pieces that were read. -/
theorem spellsPieces_of_readPieces {text : List Char} {pieces : List Piece}
    (hread : readPieces (text ++ ['"']) = some (pieces, [])) : SpellsPieces pieces text := by
  obtain ⟨found, hfound, heq⟩ := of_readPieces hread
  obtain rfl := List.append_cancel_right heq
  exact hfound

/-- A text that is read as the only member of an object spells that member. -/
theorem spellsMember_of_readMembers (fuel : Nat) {text : List Char}
    {member : List Piece × Tree}
    (hread : readMembers fuel (text ++ ['\x7d']) = some ([member], [])) :
    SpellsMember member text := by
  obtain ⟨found, hfound, heq⟩ := (faithful fuel).members hread
  obtain rfl := List.append_cancel_right heq
  cases hfound with
  | last hmember => exact hmember
  | cons hmember hnothing => nomatch hnothing

end DeviceTwin.Json
