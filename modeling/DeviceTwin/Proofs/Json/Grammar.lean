/-
The grammar of JSON texts after RFC 8259: which characters spell which tree.  It says
what a text is and not how one is read, and a text is put together from the texts of
its parts.
-/
import Mathlib.Data.List.Forall2
import DeviceTwin.Json.Tree
import DeviceTwin.Text.Digits

namespace DeviceTwin.Json

open DeviceTwin.Text

/-- Characters that may stand between two tokens. -/
def Blank (cs : List Char) : Prop := ∀ c ∈ cs, c = ' ' ∨ c = '\t' ∨ c = '\n' ∨ c = '\r'

theorem blank_nil : Blank [] := fun _ hc => absurd hc List.not_mem_nil

/-! ## Numbers -/

/-- Decimal digits, one at least. -/
structure AreDigits (digits : List Nat) : Prop where
  nonempty : digits ≠ []
  decimal : ∀ d ∈ digits, d < 10

def digitChars (digits : List Nat) : List Char := digits.map Nat.digitChar

/-- The digits before the point: no zero stands in front of another digit. -/
structure AreWhole (digits : List Nat) : Prop extends AreDigits digits where
  canonical : digits = [0] ∨ digits.head? ≠ some 0

/-- The point and the digits behind it, if they are there. -/
inductive SpellsFraction : List Nat → List Char → Prop
  | absent : SpellsFraction [] []
  | present {digits : List Nat} (hdigits : AreDigits digits) :
      SpellsFraction digits ('.' :: digitChars digits)

/-- The exponent with its mark and its sign, if it is there. -/
inductive SpellsExponent : Option (Bool × List Nat) → List Char → Prop
  | absent : SpellsExponent none []
  | bare {mark : Char} {digits : List Nat} (hmark : mark = 'e' ∨ mark = 'E')
      (hdigits : AreDigits digits) :
      SpellsExponent (some (false, digits)) (mark :: digitChars digits)
  | plus {mark : Char} {digits : List Nat} (hmark : mark = 'e' ∨ mark = 'E')
      (hdigits : AreDigits digits) :
      SpellsExponent (some (false, digits)) (mark :: '+' :: digitChars digits)
  | minus {mark : Char} {digits : List Nat} (hmark : mark = 'e' ∨ mark = 'E')
      (hdigits : AreDigits digits) :
      SpellsExponent (some (true, digits)) (mark :: '-' :: digitChars digits)

def signChars (negative : Bool) : List Char := if negative then ['-'] else []

inductive SpellsNumeral : Numeral → List Char → Prop
  | mk {negative : Bool} {whole fraction : List Nat} {exponent : Option (Bool × List Nat)}
      {behindPoint behindMark : List Char} (hwhole : AreWhole whole)
      (hfraction : SpellsFraction fraction behindPoint)
      (hexponent : SpellsExponent exponent behindMark) :
      SpellsNumeral ⟨negative, whole, fraction, exponent⟩
        (signChars negative ++ digitChars whole ++ behindPoint ++ behindMark)

/-! ## Strings -/

/-- The letters behind a backslash and the characters that they stand for. -/
def escapes : List (Char × Char) :=
  [('"', '"'), ('\\', '\\'), ('/', '/'), ('b', '\x08'), ('f', '\x0c'), ('n', '\n'), ('r', '\r'),
    ('t', '\t')]

inductive SpellsPiece : Piece → List Char → Prop
  | plain {c : Char} (hcontrol : 0x20 ≤ c.toNat) (hmark : c ≠ '"') (hescape : c ≠ '\\') :
      SpellsPiece (.char c) [c]
  | escaped {letter c : Char} (hescape : (letter, c) ∈ escapes) :
      SpellsPiece (.char c) ['\\', letter]
  | unit {a b c d : Char} {w x y z : Nat} (ha : hexDigit? a = some w) (hb : hexDigit? b = some x)
      (hc : hexDigit? c = some y) (hd : hexDigit? d = some z) :
      SpellsPiece (.unit (ofDigits 16 [w, x, y, z])) ['\\', 'u', a, b, c, d]

/-- What stands between the two marks of a string. -/
inductive SpellsPieces : List Piece → List Char → Prop
  | nil : SpellsPieces [] []
  | cons {piece : Piece} {pieces : List Piece} {cs rest : List Char}
      (hpiece : SpellsPiece piece cs) (hpieces : SpellsPieces pieces rest) :
      SpellsPieces (piece :: pieces) (cs ++ rest)

/-- A string with its marks. -/
inductive SpellsString : List Piece → List Char → Prop
  | mk {pieces : List Piece} {cs : List Char} (hpieces : SpellsPieces pieces cs) :
      SpellsString pieces ('"' :: (cs ++ ['"']))

/-- The name of a member, with blanks around it. -/
inductive SpellsName : List Piece → List Char → Prop
  | mk {name : List Piece} {before cs after : List Char} (hbefore : Blank before)
      (hstring : SpellsString name cs) (hafter : Blank after) :
      SpellsName name (before ++ cs ++ after)

/-! ## Values -/

mutual

/-- A value, without blanks around it. -/
inductive SpellsValue : Tree → List Char → Prop
  | null : SpellsValue .null ['n', 'u', 'l', 'l']
  | isTrue : SpellsValue (.boolean true) ['t', 'r', 'u', 'e']
  | isFalse : SpellsValue (.boolean false) ['f', 'a', 'l', 's', 'e']
  | numeral {n : Numeral} {cs : List Char} (hnumeral : SpellsNumeral n cs) :
      SpellsValue (.numeral n) cs
  | text {pieces : List Piece} {cs : List Char} (hstring : SpellsString pieces cs) :
      SpellsValue (.text pieces) cs
  | noElement {between : List Char} (hbetween : Blank between) :
      SpellsValue (.array []) ('[' :: (between ++ [']']))
  | array {elements : List Tree} {cs : List Char} (helements : SpellsElements elements cs) :
      SpellsValue (.array elements) ('[' :: (cs ++ [']']))
  | noMember {between : List Char} (hbetween : Blank between) :
      SpellsValue (.object []) ('\x7b' :: (between ++ ['\x7d']))
  | object {members : List (List Piece × Tree)} {cs : List Char}
      (hmembers : SpellsMembers members cs) :
      SpellsValue (.object members) ('\x7b' :: (cs ++ ['\x7d']))

/-- A value with blanks around it, which is what a JSON text is. -/
inductive SpellsText : Tree → List Char → Prop
  | mk {tree : Tree} {before cs after : List Char} (hbefore : Blank before)
      (hvalue : SpellsValue tree cs) (hafter : Blank after) :
      SpellsText tree (before ++ cs ++ after)

/-- The elements of an array, one at least. -/
inductive SpellsElements : List Tree → List Char → Prop
  | last {tree : Tree} {cs : List Char} (htree : SpellsText tree cs) : SpellsElements [tree] cs
  | cons {tree : Tree} {trees : List Tree} {cs rest : List Char} (htree : SpellsText tree cs)
      (htrees : SpellsElements trees rest) : SpellsElements (tree :: trees) (cs ++ ',' :: rest)

/-- A member of an object. -/
inductive SpellsMember : List Piece × Tree → List Char → Prop
  | mk {name : List Piece} {tree : Tree} {cs value : List Char} (hname : SpellsName name cs)
      (htree : SpellsText tree value) : SpellsMember (name, tree) (cs ++ ':' :: value)

/-- The members of an object, one at least. -/
inductive SpellsMembers : List (List Piece × Tree) → List Char → Prop
  | last {member : List Piece × Tree} {cs : List Char} (hmember : SpellsMember member cs) :
      SpellsMembers [member] cs
  | cons {member : List Piece × Tree} {members : List (List Piece × Tree)} {cs rest : List Char}
      (hmember : SpellsMember member cs) (hmembers : SpellsMembers members rest) :
      SpellsMembers (member :: members) (cs ++ ',' :: rest)

end

/-! ## More blanks -/

theorem Blank.append {earlier later : List Char} (hearlier : Blank earlier) (hlater : Blank later) :
    Blank (earlier ++ later) := by
  intro c hc
  rcases List.mem_append.mp hc with hc | hc
  · exact hearlier c hc
  · exact hlater c hc

variable {blank : List Char}

theorem SpellsText.blank_append (hblank : Blank blank) {tree : Tree} {cs : List Char}
    (htree : SpellsText tree cs) : SpellsText tree (blank ++ cs) := by
  obtain ⟨hbefore, hvalue, hafter⟩ := htree
  rw [← List.append_assoc, ← List.append_assoc]
  exact .mk (hblank.append hbefore) hvalue hafter

theorem SpellsElements.blank_append (hblank : Blank blank) {trees : List Tree} {cs : List Char}
    (htrees : SpellsElements trees cs) : SpellsElements trees (blank ++ cs) := by
  cases htrees with
  | last htree => exact .last (htree.blank_append hblank)
  | cons htree htrees =>
      rw [← List.append_assoc]
      exact .cons (htree.blank_append hblank) htrees

theorem SpellsMember.blank_append (hblank : Blank blank) {member : List Piece × Tree}
    {cs : List Char} (hmember : SpellsMember member cs) : SpellsMember member (blank ++ cs) := by
  obtain ⟨hname, htree⟩ := hmember
  obtain ⟨hbefore, hstring, hafter⟩ := hname
  rw [← List.append_assoc, ← List.append_assoc, ← List.append_assoc]
  exact .mk (.mk (hblank.append hbefore) hstring hafter) htree

theorem SpellsMembers.blank_append (hblank : Blank blank) {members : List (List Piece × Tree)}
    {cs : List Char} (hmembers : SpellsMembers members cs) :
    SpellsMembers members (blank ++ cs) := by
  cases hmembers with
  | last hmember => exact .last (hmember.blank_append hblank)
  | cons hmember hmembers =>
      rw [← List.append_assoc]
      exact .cons (hmember.blank_append hblank) hmembers

/-! ## Texts put together -/

/-- Texts with commas between them. -/
def commaSeparated (texts : List (List Char)) : List Char := [','].intercalate texts

theorem commaSeparated_singleton (text : List Char) : commaSeparated [text] = text := by
  simp [commaSeparated, List.intercalate]

theorem commaSeparated_cons_cons (first second : List Char) (later : List (List Char)) :
    commaSeparated (first :: second :: later) =
      first ++ ',' :: commaSeparated (second :: later) := by
  simp [commaSeparated, List.intercalate]

/-- The text of an array, from the texts of its elements. -/
def arrayText (elements : List (List Char)) : List Char :=
  '[' :: (commaSeparated elements ++ [']'])

/-- The text of an object, from the texts of its members. -/
def objectText (members : List (List Char)) : List Char :=
  '\x7b' :: (commaSeparated members ++ ['\x7d'])

theorem spellsElements_commaSeparated {trees : List Tree} {texts : List (List Char)}
    (htrees : List.Forall₂ SpellsText trees texts) (hnonempty : trees ≠ []) :
    SpellsElements trees (commaSeparated texts) := by
  induction htrees with
  | nil => exact absurd rfl hnonempty
  | @cons tree text trees texts htree hrest ih =>
      cases hrest with
      | nil =>
          rw [commaSeparated_singleton]
          exact .last htree
      | cons hnext hlater =>
          rw [commaSeparated_cons_cons]
          exact .cons htree (ih (List.cons_ne_nil _ _))

theorem spellsMembers_commaSeparated {members : List (List Piece × Tree)}
    {texts : List (List Char)} (hmembers : List.Forall₂ SpellsMember members texts)
    (hnonempty : members ≠ []) : SpellsMembers members (commaSeparated texts) := by
  induction hmembers with
  | nil => exact absurd rfl hnonempty
  | @cons member text members texts hmember hrest ih =>
      cases hrest with
      | nil =>
          rw [commaSeparated_singleton]
          exact .last hmember
      | cons hnext hlater =>
          rw [commaSeparated_cons_cons]
          exact .cons hmember (ih (List.cons_ne_nil _ _))

/-- An array is spelled by the texts of its elements. -/
theorem spellsValue_arrayText {trees : List Tree} {texts : List (List Char)}
    (htrees : List.Forall₂ SpellsText trees texts) :
    SpellsValue (.array trees) (arrayText texts) := by
  cases htrees with
  | nil => exact .noElement blank_nil
  | cons htree hrest =>
      exact .array (spellsElements_commaSeparated (.cons htree hrest) (List.cons_ne_nil _ _))

/-- An object is spelled by the texts of its members. -/
theorem spellsValue_objectText {members : List (List Piece × Tree)} {texts : List (List Char)}
    (hmembers : List.Forall₂ SpellsMember members texts) :
    SpellsValue (.object members) (objectText texts) := by
  cases hmembers with
  | nil => exact .noMember blank_nil
  | cons hmember hrest =>
      exact .object (spellsMembers_commaSeparated (.cons hmember hrest) (List.cons_ne_nil _ _))

end DeviceTwin.Json
