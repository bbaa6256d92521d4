/-
Strict JSON texts: spelled after the grammar, with strings that are Unicode, with numbers
that have a value, and not nested too deeply.  These are the texts that have a value, and
in the value of an object the last member of each name counts.
-/
import DeviceTwin.Json.Record
import DeviceTwin.Proofs.Json.Range
import DeviceTwin.Proofs.Json.Reading

namespace DeviceTwin.Json

/-! ## Levels -/

mutual

/-- How deep arrays and objects are nested in a tree. -/
def Tree.depth : Tree → Nat
  | .array elements => depthOfElements elements + 1
  | .object members => depthOfMembers members + 1
  | .null | .boolean _ | .numeral _ | .text _ => 0

def depthOfElements : List Tree → Nat
  | [] => 0
  | tree :: rest => max tree.depth (depthOfElements rest)

def depthOfMembers : List (List Piece × Tree) → Nat
  | [] => 0
  | (_, tree) :: rest => max tree.depth (depthOfMembers rest)

end

/-! ## Strings and numbers that mean something -/

/-- Pieces that are Unicode text: the units that are surrogates come in pairs. -/
inductive Paired : List Piece → Prop
  | nil : Paired []
  | char {c : Char} {rest : List Piece} (hrest : Paired rest) : Paired (.char c :: rest)
  | unit {value : Nat} {rest : List Piece} (hvalue : value.isValidChar) (hrest : Paired rest) :
      Paired (.unit value :: rest)
  | pair {high low : Nat} {rest : List Piece} (hhigh : 0xD800 ≤ high ∧ high < 0xDC00)
      (hlow : 0xDC00 ≤ low ∧ low < 0xE000) (hrest : Paired rest) :
      Paired (.unit high :: .unit low :: rest)

mutual

/-- All strings of a tree are Unicode text and all its numbers are in range. -/
def Tree.Meaningful : Tree → Prop
  | .numeral n => n.InRange
  | .text pieces => Paired pieces
  | .array elements => ElementsMeaningful elements
  | .object members => MembersMeaningful members
  | .null | .boolean _ => True

def ElementsMeaningful : List Tree → Prop
  | [] => True
  | tree :: rest => tree.Meaningful ∧ ElementsMeaningful rest

def MembersMeaningful : List (List Piece × Tree) → Prop
  | [] => True
  | (name, tree) :: rest => Paired name ∧ tree.Meaningful ∧ MembersMeaningful rest

end

theorem isSome_codePoint?_iff {n : Nat} : (Text.codePoint? n).isSome ↔ n.isValidChar := by
  by_cases hvalid : n.isValidChar
  · rw [Text.codePoint?, dif_pos hvalid]
    exact iff_of_true rfl hvalid
  · rw [Text.codePoint?, dif_neg hvalid]
    exact iff_of_false Bool.false_ne_true hvalid

theorem paired_unit_iff {value : Nat} {rest : List Piece}
    (hrest : ∀ low later, rest = .unit low :: later → ¬(0xD800 ≤ value ∧ value < 0xDC00)) :
    Paired (.unit value :: rest) ↔ value.isValidChar ∧ Paired rest := by
  constructor
  · intro hpaired
    cases hpaired with
    | unit hvalue hpaired => exact ⟨hvalue, hpaired⟩
    | pair hhigh hlow hpaired => exact absurd hhigh (hrest _ _ rfl)
  · exact fun ⟨hvalue, hpaired⟩ => .unit hvalue hpaired

theorem paired_units_iff {high low : Nat} {rest : List Piece}
    (hhigh : 0xD800 ≤ high ∧ high < 0xDC00) :
    Paired (.unit high :: .unit low :: rest) ↔ (0xDC00 ≤ low ∧ low < 0xE000) ∧ Paired rest := by
  constructor
  · intro hpaired
    cases hpaired with
    | unit hvalue _ =>
        unfold Nat.isValidChar at hvalue
        omega
    | pair _ hlow hpaired => exact ⟨hlow, hpaired⟩
  · exact fun ⟨hlow, hpaired⟩ => .pair hhigh hlow hpaired

/-- A string has a text exactly if its surrogates come in pairs. -/
theorem isSome_textOf?_iff {pieces : List Piece} : (textOf? pieces).isSome ↔ Paired pieces := by
  induction pieces using textOf?.induct with
  | case1 => simp [textOf?, Paired.nil]
  | case2 c rest ih =>
      simp only [textOf?, Option.isSome_map, ih]
      exact ⟨.char, fun hpaired => by cases hpaired; assumption⟩
  | case3 high low rest hhigh hlow ih =>
      have hvalid : (0x10000 + (high - 0xD800) * 0x400 + (low - 0xDC00)).isValidChar := by
        unfold Nat.isValidChar
        omega
      obtain ⟨c, hc⟩ := Option.isSome_iff_exists.mp (isSome_codePoint?_iff.mpr hvalid)
      simp [textOf?, hhigh, hlow, hc, ih, paired_units_iff]
  | case4 high low rest hhigh hlow =>
      simp [textOf?, hhigh, hlow, paired_units_iff]
  | case5 high low rest hhigh ih =>
      rw [paired_unit_iff fun _ _ _ => hhigh, ← ih, ← isSome_codePoint?_iff]
      simp only [textOf?, hhigh, if_false, Option.bind_eq_bind]
      cases Text.codePoint? high <;> simp
  | case6 value rest hrest ih =>
      rw [paired_unit_iff fun low later heq => (hrest low later heq).elim, ← ih,
        ← isSome_codePoint?_iff, textOf?]
      · simp only [Option.bind_eq_bind]
        cases Text.codePoint? value <;> simp
      · exact hrest

theorem isSome_stringOf?_iff {pieces : List Piece} :
    (stringOf? pieces).isSome ↔ Paired pieces := by
  rw [stringOf?, Option.isSome_map, isSome_textOf?_iff]

/-- The pieces of a string in which no character is escaped. -/
def plain (s : String) : List Piece := s.toList.map .char

theorem textOf?_map_char (cs : List Char) : textOf? (cs.map .char) = some cs := by
  induction cs with
  | nil => rfl
  | cons c rest ih => rw [List.map_cons, textOf?, ih, Option.map_some]

@[simp] theorem stringOf?_plain (s : String) : stringOf? (plain s) = some s := by
  rw [stringOf?, plain, textOf?_map_char, Option.map_some, String.ofList_toList]

theorem isSome_bind_map {α β γ : Type} {first : Option α} {second : Option β} {f : α → β → γ} :
    (first.bind fun a => second.map (f a)).isSome ↔ first.isSome ∧ second.isSome := by
  cases first <;> simp

mutual

/-- A tree has a value exactly if it is not nested too deeply and means something. -/
theorem isSome_value?_iff (levels : Nat) (tree : Tree) :
    (tree.value? levels).isSome ↔ tree.depth ≤ levels ∧ tree.Meaningful := by
  cases tree with
  | null => simp [Tree.value?, Tree.depth, Tree.Meaningful]
  | boolean b => simp [Tree.value?, Tree.depth, Tree.Meaningful]
  | numeral n => simp [Tree.value?, Tree.depth, Tree.Meaningful, Numeral.isSome_number?_iff]
  | text pieces => simp [Tree.value?, Tree.depth, Tree.Meaningful, isSome_stringOf?_iff]
  | array elements =>
      cases levels with
      | zero => simp [Tree.value?, Tree.depth]
      | succ levels =>
          have helements := isSome_values?_iff levels elements
          simp [Tree.value?, Tree.depth, Tree.Meaningful, helements]
  | object members =>
      cases levels with
      | zero => simp [Tree.value?, Tree.depth]
      | succ levels =>
          have hmembers := isSome_members?_iff levels members
          simp [Tree.value?, Tree.depth, Tree.Meaningful, hmembers]

theorem isSome_values?_iff (levels : Nat) (trees : List Tree) :
    (values? levels trees).isSome ↔ depthOfElements trees ≤ levels ∧ ElementsMeaningful trees := by
  cases trees with
  | nil => simp [values?, depthOfElements, ElementsMeaningful]
  | cons tree rest =>
      have htree := isSome_value?_iff levels tree
      have hrest := isSome_values?_iff levels rest
      rw [values?, Option.bind_eq_bind, isSome_bind_map, htree, hrest, depthOfElements,
        ElementsMeaningful, Nat.max_le]
      exact and_and_and_comm

theorem isSome_members?_iff (levels : Nat) (members : List (List Piece × Tree)) :
    (members? levels members).isSome ↔
      depthOfMembers members ≤ levels ∧ MembersMeaningful members := by
  cases members with
  | nil => simp [members?, depthOfMembers, MembersMeaningful]
  | cons member rest =>
      obtain ⟨name, tree⟩ := member
      have htree := isSome_value?_iff levels tree
      have hrest := isSome_members?_iff levels rest
      have hname : (stringOf? name).isSome ↔ Paired name := isSome_stringOf?_iff
      simp only [members?, depthOfMembers, MembersMeaningful, Nat.max_le, ← hname,
        Option.bind_eq_bind]
      cases stringOf? name with
      | none => simp
      | some key =>
          rw [Option.bind_some, isSome_bind_map, htree, hrest, Option.isSome_some]
          simp only [true_and]
          exact and_and_and_comm

end

/-- What a tree is and what value it has, kind by kind. -/
inductive Valued : Nat → Tree → Value → Prop
  | null {levels : Nat} : Valued levels .null .null
  | boolean {levels : Nat} {b : Bool} : Valued levels (.boolean b) (.boolean b)
  | number {levels : Nat} {n : Numeral} {number : Number} (hnumber : n.number? = some number) :
      Valued levels (.numeral n) (.number number)
  | string {levels : Nat} {pieces : List Piece} {s : String} (hs : stringOf? pieces = some s) :
      Valued levels (.text pieces) (.string s)
  | array {levels : Nat} {elements : List Tree} {values : List Value}
      (hvalues : values? levels elements = some values) :
      Valued (levels + 1) (.array elements) (.array values)
  | object {levels : Nat} {members : List (List Piece × Tree)} {values : List (String × Value)}
      (hvalues : members? levels members = some values) :
      Valued (levels + 1) (.object members) (.object (table values))

theorem valued_of_value? {levels : Nat} {tree : Tree} {value : Value}
    (hvalue : tree.value? levels = some value) : Valued levels tree value := by
  cases tree with
  | null =>
      cases hvalue
      exact .null
  | boolean b =>
      cases hvalue
      exact .boolean
  | numeral n =>
      obtain ⟨number, hnumber, rfl⟩ := Option.map_eq_some_iff.mp hvalue
      exact .number hnumber
  | text pieces =>
      obtain ⟨s, hs, rfl⟩ := Option.map_eq_some_iff.mp hvalue
      exact .string hs
  | array elements =>
      cases levels with
      | zero => contradiction
      | succ levels =>
          obtain ⟨values, hvalues, rfl⟩ := Option.map_eq_some_iff.mp hvalue
          exact .array hvalues
  | object members =>
      cases levels with
      | zero => contradiction
      | succ levels =>
          obtain ⟨values, hvalues, rfl⟩ := Option.map_eq_some_iff.mp hvalue
          exact .object hvalues

/-- The truth value of a tree that is one. -/
def Tree.boolean? : Tree → Option Bool
  | .boolean b => some b
  | _ => none

def Tree.isObject : Tree → Bool
  | .object _ => true
  | _ => false

variable {levels : Nat} {tree : Tree} {value : Value}

theorem object?_of_value? (hvalue : tree.value? levels = some value) :
    value.object? = if tree.isObject then some value else none := by
  cases valued_of_value? hvalue <;> rfl

theorem boolean?_of_value? (hvalue : tree.value? levels = some value) :
    value.boolean? = tree.boolean? := by
  cases valued_of_value? hvalue <;> rfl

theorem number?_of_value? (hvalue : tree.value? levels = some value) :
    value.number? = tree.number? := by
  cases valued_of_value? hvalue with
  | number hnumber => exact hnumber.symm
  | _ => rfl

mutual

/-- More levels do not change a value. -/
theorem value?_of_le {levels levels' : Nat} (hle : levels ≤ levels') (tree : Tree) {value : Value}
    (hvalue : tree.value? levels = some value) : tree.value? levels' = some value := by
  cases tree with
  | array elements =>
      cases valued_of_value? hvalue with
      | array hvalues =>
          obtain ⟨more, rfl⟩ := Nat.exists_eq_add_of_lt hle
          rw [Tree.value?, values?_of_le (by omega) elements hvalues]
          rfl
  | object members =>
      cases valued_of_value? hvalue with
      | object hvalues =>
          obtain ⟨more, rfl⟩ := Nat.exists_eq_add_of_lt hle
          rw [Tree.value?, members?_of_le (by omega) members hvalues]
          rfl
  | _ => exact hvalue

theorem values?_of_le {levels levels' : Nat} (hle : levels ≤ levels') (trees : List Tree)
    {values : List Value} (hvalues : values? levels trees = some values) :
    values? levels' trees = some values := by
  cases trees with
  | nil => exact hvalues
  | cons tree rest =>
      simp only [values?, Option.bind_eq_bind, Option.bind_eq_some_iff,
        Option.map_eq_some_iff] at hvalues ⊢
      obtain ⟨value, hvalue, later, hlater, rfl⟩ := hvalues
      exact ⟨value, value?_of_le hle tree hvalue, later, values?_of_le hle rest hlater, rfl⟩

theorem members?_of_le {levels levels' : Nat} (hle : levels ≤ levels')
    (members : List (List Piece × Tree)) {values : List (String × Value)}
    (hvalues : members? levels members = some values) :
    members? levels' members = some values := by
  cases members with
  | nil => exact hvalues
  | cons member rest =>
      obtain ⟨name, tree⟩ := member
      simp only [members?, Option.bind_eq_bind, Option.bind_eq_some_iff,
        Option.map_eq_some_iff] at hvalues ⊢
      obtain ⟨key, hkey, value, hvalue, later, hlater, rfl⟩ := hvalues
      exact ⟨key, hkey, value, value?_of_le hle tree hvalue, later,
        members?_of_le hle rest hlater, rfl⟩

end

/-! ## Strict texts -/

/-- A text after the grammar with at most a number of levels, whether or not its strings and
its numbers mean something. -/
def IsSpelled (levels : Nat) (text : String) : Prop :=
  ∃ tree, SpellsText tree text.toList ∧ tree.depth ≤ levels

theorem isSpelled_iff {levels : Nat} {text : String} :
    IsSpelled levels text ↔ ∃ tree, Tree.read? text = some tree ∧ tree.depth ≤ levels := by
  simp only [IsSpelled, Tree.read?, Tree.ofChars?_eq_some_iff]

/-- A text that spells a tree with at most a number of levels and with a meaning. -/
structure StrictText (levels : Nat) (tree : Tree) (text : String) : Prop where
  spelled : SpellsText tree text.toList
  depth_le : tree.depth ≤ levels
  meaningful : tree.Meaningful

/-- A strict JSON text: one after the grammar with at most a number of levels, in which
surrogates come in pairs and numbers are in range. -/
def IsStrict (levels : Nat) (text : String) : Prop := ∃ tree, StrictText levels tree text

/-- A strict text has the value of its tree. -/
theorem StrictText.exists_value {levels : Nat} {text : String} {tree : Tree}
    (hstrict : StrictText levels tree text) : ∃ value, tree.value? levels = some value :=
  Option.isSome_iff_exists.mp
    ((isSome_value?_iff levels tree).mpr ⟨hstrict.depth_le, hstrict.meaningful⟩)

theorem StrictText.read?_eq {text : String} {tree : Tree}
    (hstrict : StrictText maxLevels tree text) : Value.read? text = tree.value? maxLevels := by
  rw [Value.read?, Tree.read?, Tree.ofChars?_eq_some_iff.mpr hstrict.spelled, Option.bind_some]

/-- A strict text is one of which the reader makes a tree with a value. -/
theorem strictText_iff {levels : Nat} {text : String} {tree : Tree} :
    StrictText levels tree text ↔ Tree.read? text = some tree ∧ (tree.value? levels).isSome := by
  rw [isSome_value?_iff, Tree.read?, Tree.ofChars?_eq_some_iff]
  exact ⟨fun ⟨hspelled, hdepth, hmeaning⟩ => ⟨hspelled, hdepth, hmeaning⟩,
    fun ⟨hspelled, hdepth, hmeaning⟩ => ⟨hspelled, hdepth, hmeaning⟩⟩

/-- The reader accepts the strict texts and no others. -/
theorem isSome_read?_iff {text : String} : (Value.read? text).isSome ↔ IsStrict maxLevels text := by
  simp only [IsStrict, strictText_iff, Value.read?]
  cases Tree.read? text with
  | none => simp
  | some tree => simp

/-! ## The last member of a name -/

/-- The tree of the last of the members that have a name. -/
def lastOf? (key : String) (members : List (List Piece × Tree)) : Option Tree :=
  (members.filter fun member => stringOf? member.1 = some key).getLast?.map Prod.snd

/-- The last member of an object that has a name. -/
def Tree.last? (key : String) : Tree → Option Tree
  | .object members => lastOf? key members
  | _ => none

@[simp] theorem lastOf?_nil (key : String) : lastOf? key [] = none := rfl

theorem lastOf?_cons (key : String) (name : List Piece) (tree : Tree)
    (rest : List (List Piece × Tree)) :
    lastOf? key ((name, tree) :: rest) =
      (lastOf? key rest).or (if stringOf? name = some key then some tree else none) := by
  simp only [lastOf?, List.filter_cons, decide_eq_true_eq]
  split
  · rw [List.getLast?_cons]
    cases (rest.filter fun member => stringOf? member.1 = some key).getLast? <;> rfl
  · rw [Option.or_none]

theorem lastOf?_eq_none {key : String} {members : List (List Piece × Tree)}
    (hothers : ∀ member ∈ members, stringOf? member.1 ≠ some key) : lastOf? key members = none := by
  have hfilter : (members.filter fun member => stringOf? member.1 = some key) = [] := by
    simpa [List.filter_eq_nil_iff] using hothers
  rw [lastOf?, hfilter]
  rfl

/-- A member that is followed by members of other names is the last of its name. -/
theorem lastOf?_append_cons {key : String} {name : List Piece} {tree : Tree}
    {before after : List (List Piece × Tree)} (hname : stringOf? name = some key)
    (hothers : ∀ member ∈ after, stringOf? member.1 ≠ some key) :
    lastOf? key (before ++ (name, tree) :: after) = some tree := by
  have hafter : (after.filter fun member => stringOf? member.1 = some key) = [] := by
    simpa [List.filter_eq_nil_iff] using hothers
  simp [lastOf?, List.filter_append, hname, hafter]

theorem lookup_cons_eq_ite (key k : String) (value : Value) (entries : List (String × Value)) :
    ((k, value) :: entries).lookup key = if key = k then some value else entries.lookup key := by
  by_cases hkey : key = k
  · simp [hkey]
  · rw [List.lookup_cons, beq_eq_false_iff_ne.mpr hkey, if_neg hkey]

theorem lookup_put (key k : String) (value : Value) (entries : List (String × Value)) :
    (put k value entries).lookup key = if key = k then some value else entries.lookup key := by
  induction entries with
  | nil => exact lookup_cons_eq_ite key k value []
  | cons entry rest ih =>
      obtain ⟨k', value'⟩ := entry
      rw [put]
      split
      · exact lookup_cons_eq_ite key k value _
      · split
        · next heq =>
            subst heq
            rw [lookup_cons_eq_ite, lookup_cons_eq_ite]
            split <;> rfl
        · next hne =>
            rw [lookup_cons_eq_ite, ih, lookup_cons_eq_ite]
            by_cases hkey : key = k
            · rw [if_neg (hkey ▸ hne), if_pos hkey, if_pos hkey]
            · rw [if_neg hkey, if_neg hkey]

/-- Entering the values of members one after the other leaves the last one of each name. -/
theorem lookup_foldl_put {levels : Nat} {members : List (List Piece × Tree)}
    {values : List (String × Value)} (hvalues : members? levels members = some values)
    (key : String) (entries : List (String × Value)) :
    (values.foldl (fun entries member => put member.1 member.2 entries) entries).lookup key =
      (lastOf? key members).elim (entries.lookup key) (·.value? levels) := by
  induction members generalizing values entries with
  | nil =>
      cases hvalues
      rfl
  | cons member rest ih =>
      obtain ⟨name, tree⟩ := member
      simp only [members?, Option.bind_eq_bind, Option.bind_eq_some_iff,
        Option.map_eq_some_iff] at hvalues
      obtain ⟨k, hk, value, hvalue, later, hlater, rfl⟩ := hvalues
      rw [List.foldl_cons, ih hlater, lookup_put, lastOf?_cons, hk]
      cases lastOf? key rest with
      | some last => rfl
      | none =>
          by_cases hkey : key = k
          · simp [hkey, hvalue]
          · simp [hkey, Ne.symm hkey]

theorem exists_value?_of_mem {levels : Nat} {members : List (List Piece × Tree)}
    {values : List (String × Value)} (hvalues : members? levels members = some values)
    {member : List Piece × Tree} (hmember : member ∈ members) :
    ∃ value, member.2.value? levels = some value := by
  induction members generalizing values with
  | nil => contradiction
  | cons first rest ih =>
      obtain ⟨name, tree⟩ := first
      simp only [members?, Option.bind_eq_bind, Option.bind_eq_some_iff,
        Option.map_eq_some_iff] at hvalues
      obtain ⟨k, -, value, hvalue, later, hlater, -⟩ := hvalues
      rcases List.mem_cons.mp hmember with rfl | hmember
      · exact ⟨value, hvalue⟩
      · exact ih hlater hmember

/-- A value has under a name what the last member of that name has. -/
theorem get?_of_value? {levels : Nat} {tree : Tree} {value : Value}
    (hvalue : tree.value? levels = some value) (key : String) :
    value.get? key = (tree.last? key).bind (·.value? (levels - 1)) := by
  cases valued_of_value? hvalue with
  | @object levels members values hvalues =>
      rw [Value.get?, table, lookup_foldl_put hvalues, Tree.last?, Nat.add_sub_cancel]
      cases lastOf? key members <;> rfl
  | _ => rfl

theorem exists_mem_of_lastOf? {key : String} {members : List (List Piece × Tree)} {tree : Tree}
    (hlast : lastOf? key members = some tree) : ∃ member ∈ members, member.2 = tree := by
  obtain ⟨member, hmember, htree⟩ := Option.map_eq_some_iff.mp hlast
  exact ⟨member, (List.mem_filter.mp (List.mem_of_getLast? hmember)).1, htree⟩

/-- The last member of a name has a value if the object has one. -/
theorem exists_value?_of_last? {levels : Nat} {tree member : Tree} {value : Value}
    (hvalue : tree.value? levels = some value) {key : String}
    (hlast : tree.last? key = some member) :
    ∃ value, member.value? (levels - 1) = some value := by
  cases valued_of_value? hvalue with
  | object hvalues =>
      obtain ⟨found, hfound, rfl⟩ := exists_mem_of_lastOf? hlast
      exact exists_value?_of_mem hvalues hfound
  | _ => contradiction

theorem SpellsMembers.exists_text {members : List (List Piece × Tree)} {cs : List Char}
    (hmembers : SpellsMembers members cs) {member : List Piece × Tree}
    (hmember : member ∈ members) :
    ∃ text, SpellsText member.2 text := by
  induction members generalizing cs with
  | nil => contradiction
  | cons first rest ih =>
      cases hmembers with
      | last hfirst =>
          obtain ⟨hname, htree⟩ := hfirst
          rw [List.mem_singleton.mp hmember]
          exact ⟨_, htree⟩
      | cons hfirst hrest =>
          obtain ⟨hname, htree⟩ := hfirst
          rcases List.mem_cons.mp hmember with rfl | hmember
          · exact ⟨_, htree⟩
          · exact ih hrest hmember

/-- The last member of a name has a text of its own. -/
theorem SpellsText.exists_text_of_last? {tree member : Tree} {cs : List Char}
    (htree : SpellsText tree cs) {key : String} (hlast : tree.last? key = some member) :
    ∃ text, SpellsText member text := by
  obtain ⟨-, hvalue, -⟩ := htree
  cases hvalue with
  | object hmembers =>
      obtain ⟨found, hfound, rfl⟩ := exists_mem_of_lastOf? hlast
      exact hmembers.exists_text hfound
  | _ => contradiction

/-- A numeral that has a text has digits. -/
theorem SpellsText.decimal {n : Numeral} {cs : List Char} (htext : SpellsText (.numeral n) cs) :
    ∀ d ∈ n.whole, d < 10 := by
  obtain ⟨-, hvalue, -⟩ := htext
  cases hvalue with
  | numeral hnumeral =>
      obtain ⟨hwhole, -, -⟩ := hnumeral
      exact hwhole.decimal

end DeviceTwin.Json
