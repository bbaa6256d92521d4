/-
Values written on one line and read back.  What the printer makes of a value without reals
is spelled after the grammar, whatever characters its strings have, and the tree that it
spells has that value.
-/
import DeviceTwin.Json.Printer
import DeviceTwin.Proofs.Json.Strict

namespace DeviceTwin.Json

/-! ## Strings -/

theorem textOf?_unit {value : Nat} (hvalue : value < 0xD800) (rest : List Piece) :
    textOf? (.unit value :: rest) =
      (Text.codePoint? value).bind fun c => (textOf? rest).map (c :: ·) := by
  have hhigh : ¬(0xD800 ≤ value ∧ value < 0xDC00) := by omega
  match rest with
  | [] => rfl
  | .char c :: rest => rfl
  | .unit low :: rest =>
      rw [textOf?, if_neg hhigh]
      rfl

theorem codePoint?_toNat (c : Char) : Text.codePoint? c.toNat = some c := by
  have hvalid : c.toNat.isValidChar := c.valid
  rw [Text.codePoint?, dif_pos hvalid]
  rfl

/-- The hexadecimal digits that escape a control character are read as its code. -/
theorem spellsPiece_control {n : Nat} (hn : n < 0x20) :
    SpellsPiece (.unit n) ['\\', 'u', '0', '0', Nat.digitChar (n / 16), Nat.digitChar (n % 16)] := by
  have hdigit : ∀ d < 16, Text.hexDigit? (Nat.digitChar d) = some d := by decide
  have hvalue : Text.ofDigits 16 [0, 0, n / 16, n % 16] = n := by
    simp only [Text.ofDigits, List.foldl_cons, List.foldl_nil]
    omega
  have hspelled := SpellsPiece.unit (hdigit 0 (by decide)) (hdigit 0 (by decide))
    (hdigit (n / 16) (by omega)) (hdigit (n % 16) (by omega))
  rwa [hvalue] at hspelled

/-- A character in a string is one piece, which stands for that character. -/
theorem exists_spellsPiece (c : Char) :
    ∃ piece, SpellsPiece piece (stringChar c) ∧
      ∀ rest, textOf? (piece :: rest) = (textOf? rest).map (c :: ·) := by
  by_cases hletter : c ∈ ['"', '\\', '\x08', '\x0c', '\n', '\r', '\t']
  · simp only [List.mem_cons, List.not_mem_nil, or_false] at hletter
    rcases hletter with rfl | rfl | rfl | rfl | rfl | rfl | rfl <;>
      exact ⟨.char _, .escaped (by decide), fun _ => rfl⟩
  · simp only [List.mem_cons, List.not_mem_nil, or_false, not_or] at hletter
    obtain ⟨hmark, hescape, hbackspace, hfeed, hline, hreturn, htab⟩ := hletter
    rw [stringChar, if_neg hmark, if_neg hescape, if_neg hbackspace, if_neg hfeed, if_neg hline,
      if_neg hreturn, if_neg htab]
    split
    · next hcontrol =>
        refine ⟨.unit c.toNat, spellsPiece_control hcontrol, fun rest => ?_⟩
        rw [textOf?_unit (by omega), codePoint?_toNat, Option.bind_some]
    · next hcontrol =>
        exact ⟨.char c, .plain (Nat.le_of_not_lt hcontrol) hmark hescape, fun _ => rfl⟩

theorem exists_spellsPieces (cs : List Char) :
    ∃ pieces, SpellsPieces pieces (cs.flatMap stringChar) ∧ textOf? pieces = some cs := by
  induction cs with
  | nil => exact ⟨[], .nil, rfl⟩
  | cons c rest ih =>
      obtain ⟨piece, hpiece, hvalue⟩ := exists_spellsPiece c
      obtain ⟨pieces, hpieces, hrest⟩ := ih
      refine ⟨piece :: pieces, .cons hpiece hpieces, ?_⟩
      rw [hvalue, hrest, Option.map_some]

/-- The text of a string is one string, with the same characters. -/
theorem exists_spellsString (s : String) :
    ∃ pieces, SpellsString pieces (stringText s) ∧ stringOf? pieces = some s := by
  obtain ⟨pieces, hpieces, htext⟩ := exists_spellsPieces s.toList
  refine ⟨pieces, .mk hpieces, ?_⟩
  rw [stringOf?, htext, Option.map_some, String.ofList_toList]

/-! ## Numbers -/

theorem exists_toDigits (n : Nat) :
    ∃ digits, AreWhole digits ∧ digitChars digits = Nat.toDigits 10 n ∧
      Text.ofDigits 10 digits = n := by
  induction n using Nat.strong_induction_on with
  | _ n ih =>
      rw [Nat.toDigits_eq_if (by decide)]
      split
      · next hlt =>
          refine ⟨[n], ⟨⟨List.cons_ne_nil _ _, ?_⟩, ?_⟩, rfl, Nat.zero_add n⟩
          · intro d hd
            rwa [List.mem_singleton.mp hd]
          · by_cases hzero : n = 0
            · exact .inl (by rw [hzero])
            · exact .inr (by simpa using hzero)
      · next hge =>
          obtain ⟨digits, hwhole, hchars, hvalue⟩ := ih (n / 10) (by omega)
          refine ⟨digits ++ [n % 10], ⟨⟨by simp, ?_⟩, .inr ?_⟩, ?_, ?_⟩
          · intro d hd
            rcases List.mem_append.mp hd with hd | hd
            · exact hwhole.decimal d hd
            · rw [List.mem_singleton.mp hd]
              exact Nat.mod_lt n (by decide)
          · -- The digits in front are not a zero alone, for then the number would be below ten.
            rw [List.head?_append_of_ne_nil _ hwhole.nonempty]
            rcases hwhole.canonical with hzero | hhead
            · rw [hzero] at hvalue
              change 0 = n / 10 at hvalue
              omega
            · exact hhead
          · rw [← hchars]
            exact List.map_append
          · rw [Text.ofDigits_append_singleton, hvalue]
            exact Nat.div_add_mod n 10

/-- A whole number of 64 bits, with a sign or without. -/
def IsWord (z : Int) : Prop := -0x8000000000000000 ≤ z ∧ z < UInt64.size

theorem exists_spellsNumeral {z : Int} (hz : IsWord z) :
    ∃ n, SpellsNumeral n (wholeText z) ∧ n.number? = some (.whole z) := by
  obtain ⟨digits, hwhole, hchars, hvalue⟩ := exists_toDigits z.natAbs
  obtain ⟨hlower, hupper⟩ := hz
  have hspelled := fun negative : Bool =>
    @SpellsNumeral.mk negative digits [] none [] [] hwhole .absent .absent
  simp only [List.append_nil, hchars] at hspelled
  unfold wholeText
  split
  · next hneg =>
      refine ⟨⟨true, digits, [], none⟩, hspelled true, ?_⟩
      rw [Numeral.number?, if_pos ⟨rfl, rfl, by rw [if_pos rfl, hvalue]; omega⟩, hvalue, if_pos rfl]
      congr 2
      omega
  · next hpos =>
      refine ⟨⟨false, digits, [], none⟩, hspelled false, ?_⟩
      rw [Numeral.number?,
        if_pos ⟨rfl, rfl, by rw [if_neg Bool.false_ne_true, hvalue]; omega⟩, hvalue,
        if_neg Bool.false_ne_true]
      congr 2
      omega

/-! ## Tables -/

/-- Members whose keys are in order. -/
def Ascending (members : List (String × Value)) : Prop :=
  (members.map Prod.fst).Pairwise (· < ·)

theorem put_of_forall_lt {key : String} {entries : List (String × Value)}
    (hbelow : ∀ entry ∈ entries, entry.1 < key) (value : Value) :
    put key value entries = entries ++ [(key, value)] := by
  induction entries with
  | nil => rfl
  | cons entry rest ih =>
      obtain ⟨k, v⟩ := entry
      have hlt : k < key := hbelow _ List.mem_cons_self
      have hne : key ≠ k := by
        rintro rfl
        exact String.lt_irrefl key hlt
      rw [put, if_neg (String.lt_asymm hlt), if_neg hne,
        ih fun entry hentry => hbelow entry (List.mem_cons_of_mem _ hentry), List.cons_append]

/-- The table of members in order has them all, in that order. -/
theorem table_of_ascending {members : List (String × Value)} (hascending : Ascending members) :
    table members = members := by
  induction members using List.reverseRecOn with
  | nil => rfl
  | append_singleton earlier last ih =>
      obtain ⟨hearlier, -, hbelow⟩ := List.pairwise_append.mp (List.pairwise_map.mp hascending)
      have hput := put_of_forall_lt
        (fun entry hentry => hbelow entry hentry last (List.mem_singleton_self last)) last.2
      rw [table, List.foldl_append, ← table, ih (List.pairwise_map.mpr hearlier)]
      exact hput

/-! ## Values -/

mutual

/-- A value of which nothing is lost when it is written: its numbers are whole and have 64
bits, the keys of its objects are in order, and it has at most the given number of levels. -/
def Value.Exact : Nat → Value → Prop
  | _, .null | _, .boolean _ | _, .string _ => True
  | _, .number (.whole z) => IsWord z
  | _, .number (.real _) => False
  | 0, .array _ | 0, .object _ => False
  | levels + 1, .array elements => ElementsExact levels elements
  | levels + 1, .object members => Ascending members ∧ MembersExact levels members

def ElementsExact : Nat → List Value → Prop
  | _, [] => True
  | levels, element :: rest => element.Exact levels ∧ ElementsExact levels rest

def MembersExact : Nat → List (String × Value) → Prop
  | _, [] => True
  | levels, (_, value) :: rest => value.Exact levels ∧ MembersExact levels rest

end

/-- A member as it stands in an object on one line. -/
def memberText (member : String × Value) : List Char :=
  stringText member.1 ++ ':' :: member.2.compact

theorem commaSeparated_elements (first : List Char) (rest : List Value) :
    commaSeparated (first :: rest.map Value.compact) ++ [']'] = first ++ compactElements rest := by
  induction rest generalizing first with
  | nil => rw [List.map_nil, commaSeparated_singleton, compactElements]
  | cons element rest ih =>
      rw [List.map_cons, commaSeparated_cons_cons, List.append_assoc, List.cons_append, ih,
        compactElements, List.cons_append]

theorem commaSeparated_members (first : List Char) (rest : List (String × Value)) :
    commaSeparated (first :: rest.map memberText) ++ ['\x7d'] = first ++ compactMembers rest := by
  induction rest generalizing first with
  | nil => rw [List.map_nil, commaSeparated_singleton, compactMembers]
  | cons member rest ih =>
      obtain ⟨key, value⟩ := member
      rw [List.map_cons, commaSeparated_cons_cons, List.append_assoc, List.cons_append, ih,
        compactMembers, memberText]
      simp only [List.cons_append, List.append_assoc]

theorem compact_array (elements : List Value) :
    (Value.array elements).compact = arrayText (elements.map Value.compact) := by
  cases elements with
  | nil => rfl
  | cons element rest =>
      rw [Value.compact, arrayText, List.map_cons, commaSeparated_elements, List.cons_append]

theorem compact_object (members : List (String × Value)) :
    (Value.object members).compact = objectText (members.map memberText) := by
  cases members with
  | nil => rfl
  | cons member rest =>
      obtain ⟨key, value⟩ := member
      rw [Value.compact, objectText, List.map_cons, commaSeparated_members, memberText]
      simp only [List.cons_append, List.append_assoc]

theorem SpellsValue.alone {tree : Tree} {cs : List Char} (hvalue : SpellsValue tree cs) :
    SpellsText tree cs := by
  have htext := SpellsText.mk blank_nil hvalue blank_nil
  rwa [List.nil_append, List.append_nil] at htext

theorem SpellsString.alone {pieces : List Piece} {cs : List Char}
    (hstring : SpellsString pieces cs) : SpellsName pieces cs := by
  have hname := SpellsName.mk blank_nil hstring blank_nil
  rwa [List.nil_append, List.append_nil] at hname

mutual

/-- The text of an exact value spells a tree that has this value. -/
theorem exists_spellsValue {levels : Nat} (value : Value) (hexact : value.Exact levels) :
    ∃ tree, SpellsValue tree value.compact ∧ tree.value? levels = some value := by
  cases value with
  | null => exact ⟨.null, .null, rfl⟩
  | boolean b => cases b with
    | true => exact ⟨.boolean true, .isTrue, rfl⟩
    | false => exact ⟨.boolean false, .isFalse, rfl⟩
  | number n => cases n with
    | whole z =>
        obtain ⟨n, hspelled, hnumber⟩ := exists_spellsNumeral hexact
        exact ⟨.numeral n, .numeral hspelled, by rw [Tree.value?, hnumber, Option.map_some]⟩
    | real x => exact hexact.elim
  | string s =>
      obtain ⟨pieces, hspelled, hs⟩ := exists_spellsString s
      exact ⟨.text pieces, .text hspelled, by rw [Tree.value?, hs, Option.map_some]⟩
  | array elements => cases levels with
    | zero => exact hexact.elim
    | succ levels =>
        obtain ⟨trees, hspelled, hvalues⟩ := exists_spellsElements elements hexact
        refine ⟨.array trees, ?_, by rw [Tree.value?, hvalues, Option.map_some]⟩
        rw [compact_array]
        exact spellsValue_arrayText hspelled
  | object members => cases levels with
    | zero => exact hexact.elim
    | succ levels =>
        obtain ⟨hascending, hmembers⟩ := hexact
        obtain ⟨trees, hspelled, hvalues⟩ := exists_spellsMembers members hmembers
        refine ⟨.object trees, ?_, ?_⟩
        · rw [compact_object]
          exact spellsValue_objectText hspelled
        · rw [Tree.value?, hvalues, Option.map_some, table_of_ascending hascending]

theorem exists_spellsElements {levels : Nat} (elements : List Value)
    (hexact : ElementsExact levels elements) :
    ∃ trees, List.Forall₂ SpellsText trees (elements.map Value.compact) ∧
      values? levels trees = some elements := by
  cases elements with
  | nil => exact ⟨[], .nil, rfl⟩
  | cons element rest =>
      obtain ⟨helement, hrest⟩ := hexact
      obtain ⟨tree, hspelled, hvalue⟩ := exists_spellsValue element helement
      obtain ⟨trees, hlater, hvalues⟩ := exists_spellsElements rest hrest
      refine ⟨tree :: trees, .cons hspelled.alone hlater, ?_⟩
      rw [values?, hvalue, hvalues]
      rfl

theorem exists_spellsMembers {levels : Nat} (members : List (String × Value))
    (hexact : MembersExact levels members) :
    ∃ trees, List.Forall₂ SpellsMember trees (members.map memberText) ∧
      members? levels trees = some members := by
  cases members with
  | nil => exact ⟨[], .nil, rfl⟩
  | cons member rest =>
      obtain ⟨key, value⟩ := member
      obtain ⟨hvalue, hrest⟩ := hexact
      obtain ⟨pieces, hkey, hstring⟩ := exists_spellsString key
      obtain ⟨tree, hspelled, hread⟩ := exists_spellsValue value hvalue
      obtain ⟨trees, hlater, hvalues⟩ := exists_spellsMembers rest hrest
      refine ⟨(pieces, tree) :: trees, .cons (.mk hkey.alone hspelled.alone) hlater, ?_⟩
      rw [members?, hstring, hread, hvalues]
      rfl

end

/-- An exact value that is written and read again is the same. -/
theorem Value.read?_write {v : Value} (hexact : v.Exact maxLevels) :
    Value.read? v.write = some v := by
  obtain ⟨tree, hspelled, hvalue⟩ := exists_spellsValue v hexact
  have hread : Tree.read? v.write = some tree := by
    rw [Tree.read?, Value.write, String.toList_ofList]
    exact Tree.ofChars?_eq_some_iff.mpr hspelled.alone
  rw [Value.read?, hread, Option.bind_some, hvalue]

end DeviceTwin.Json
