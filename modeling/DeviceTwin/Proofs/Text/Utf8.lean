/-
UTF-8 written and read back.  Characters are read as they were written, and what is there of
a character that breaks off is one malformed part, however many of its bytes are left.
-/
import DeviceTwin.Text.Slice
import DeviceTwin.Text.Utf8

namespace DeviceTwin.Utf8

open DeviceTwin.Text

/-- The bytes that are still to come of a character that was begun. -/
inductive Awaits (c : Char) : Begun → Bytes → Prop
  | last {begun : Begun} {b : UInt8} (hlater : begun.later = 0)
      (hrange : begun.low ≤ b ∧ b ≤ begun.high) (hbits : begun.bitsWith b = c.toNat) :
      Awaits c begun [b]
  | more {begun : Begun} {b : UInt8} {rest : Bytes} {later : Nat}
      (hlater : begun.later = later + 1) (hrange : begun.low ≤ b ∧ b ≤ begun.high)
      (hrest : Awaits c ⟨begun.bitsWith b, later, 0x80, 0xBF⟩ rest) : Awaits c begun (b :: rest)

variable {c : Char} {begun : Begun} {missing : Bytes}

theorem Awaits.charsFrom_append (hawaits : Awaits c begun missing) (rest : Bytes) :
    charsFrom (some begun) (missing ++ rest) = some c :: charsFrom none rest := by
  induction hawaits with
  | @last begun b hlater hrange hbits =>
      rw [List.singleton_append, charsFrom, if_pos hrange, hlater]
      simp only [hbits, Char.ofNat_toNat]
  | @more begun b later _ hlater hrange hrest ih =>
      rw [List.cons_append, charsFrom, if_pos hrange, hlater]
      exact ih

/-- A character that breaks off is one malformed part. -/
theorem Awaits.charsFrom_take (hawaits : Awaits c begun missing) {n : Nat}
    (hn : n < missing.length) : charsFrom (some begun) (missing.take n) = [none] := by
  induction hawaits generalizing n with
  | last =>
      rw [Nat.lt_one_iff.mp hn]
      rfl
  | @more begun b later _ hlater hrange hrest ih =>
      cases n with
      | zero => rfl
      | succ n =>
          rw [List.take_succ_cons, charsFrom, if_pos hrange, hlater]
          exact ih (Nat.lt_of_succ_lt_succ hn)

/-! ## What a character begins with -/

theorem first_one {n : Nat} (hn : n ≤ 127) : first (UInt8.ofNat n) = .whole (Char.ofNat n) := by
  have hall : ∀ n < 128, first (UInt8.ofNat n) = .whole (Char.ofNat n) := by decide
  exact hall n (by omega)

theorem first_two {n : Nat} (hlow : 2 ≤ n) (hhigh : n < 32) :
    first (UInt8.ofNat (n + 192)) = .begun ⟨n, 0, 0x80, 0xBF⟩ := by
  have hall : ∀ n < 32, 2 ≤ n → first (UInt8.ofNat (n + 192)) = .begun ⟨n, 0, 0x80, 0xBF⟩ := by
    decide
  exact hall n hhigh hlow

theorem first_three {n : Nat} (hn : n < 16) :
    first (UInt8.ofNat (n + 224)) =
      .begun ⟨n, 1, if n = 0 then 0xA0 else 0x80, if n = 13 then 0x9F else 0xBF⟩ := by
  have hall : ∀ n < 16, first (UInt8.ofNat (n + 224)) =
      .begun ⟨n, 1, if n = 0 then 0xA0 else 0x80, if n = 13 then 0x9F else 0xBF⟩ := by decide
  exact hall n hn

theorem first_four {n : Nat} (hn : n < 5) :
    first (UInt8.ofNat (n + 240)) =
      .begun ⟨n, 2, if n = 0 then 0x90 else 0x80, if n = 4 then 0x8F else 0xBF⟩ := by
  have hall : ∀ n < 5, first (UInt8.ofNat (n + 240)) =
      .begun ⟨n, 2, if n = 0 then 0x90 else 0x80, if n = 4 then 0x8F else 0xBF⟩ := by decide
  exact hall n hn

/-! ## Characters -/

theorem toNat_tail (n : Nat) : (UInt8.ofNat (n % 64 + 128)).toNat = n % 64 + 128 :=
  UInt8.toNat_ofNat_of_lt' (show n % 64 + 128 < 256 by omega)

/-- A byte in a later position adds six bits. -/
theorem bitsWith_tail (begun : Begun) (n : Nat) :
    begun.bitsWith (UInt8.ofNat (n % 64 + 128)) = begun.bits * 64 + n % 64 := by
  have htail := toNat_tail n
  unfold Begun.bitsWith
  omega

theorem tail_mem_range (n : Nat) :
    (0x80 : UInt8) ≤ UInt8.ofNat (n % 64 + 128) ∧ UInt8.ofNat (n % 64 + 128) ≤ 0xBF := by
  rw [UInt8.le_iff_toNat_le, UInt8.le_iff_toNat_le, toNat_tail]
  have hlow : (0x80 : UInt8).toNat = 128 := rfl
  have hhigh : (0xBF : UInt8).toNat = 191 := rfl
  omega

/-- The last byte of a character, when all bits before are there. -/
theorem awaits_last {bits : Nat} (hbits : bits * 64 + c.toNat % 64 = c.toNat) :
    Awaits c ⟨bits, 0, 0x80, 0xBF⟩ [UInt8.ofNat (c.toNat % 64 + 128)] :=
  .last rfl (tail_mem_range _) (by rw [bitsWith_tail, hbits])

/-- A byte in second position is in a narrower range too, if the number of its character is
neither too small nor too large for that. -/
theorem tail_mem_narrow_range {low high : UInt8} {n : Nat} (least greatest : Nat)
    (hleast : low.toNat = least) (hgreatest : high.toNat = greatest)
    (hlow : least ≤ n % 64 + 128) (hhigh : n % 64 + 128 ≤ greatest) :
    low ≤ UInt8.ofNat (n % 64 + 128) ∧ UInt8.ofNat (n % 64 + 128) ≤ high := by
  rw [UInt8.le_iff_toNat_le, UInt8.le_iff_toNat_le, toNat_tail, hleast, hgreatest]
  exact ⟨hlow, hhigh⟩

theorem exists_awaits (hlong : 127 < c.toNat) :
    ∃ b begun missing, String.utf8EncodeChar c = b :: missing ∧ first b = .begun begun ∧
      Awaits c begun missing := by
  have hvalid : c.toNat < 0xD800 ∨ 0xDFFF < c.toNat ∧ c.toNat < 0x110000 := c.valid
  have hval : c.val.toNat = c.toNat := rfl
  rw [String.utf8EncodeChar.eq_1, hval, if_neg (Nat.not_le.mpr hlong)]
  split
  · refine ⟨_, _, _, rfl, first_two (by omega) (Nat.mod_lt _ (by decide)), awaits_last ?_⟩
    omega
  · split
    · have hlead : c.toNat / 4096 % 16 = c.toNat / 4096 := Nat.mod_eq_of_lt (by omega)
      refine ⟨_, _, _, rfl, first_three (Nat.mod_lt _ (by decide)), .more rfl ?_ ?_⟩
      · -- A lead of 0 would be too long a form, a lead of 13 may be a surrogate.
        rw [hlead]
        dsimp only
        split
        · rw [if_neg (by omega)]
          exact tail_mem_narrow_range 160 191 rfl rfl (by omega) (by omega)
        · split
          · exact tail_mem_narrow_range 128 159 rfl rfl (by omega) (by omega)
          · exact tail_mem_range _
      · rw [bitsWith_tail, hlead]
        exact awaits_last (by dsimp only; omega)
    · have hlead : c.toNat / 262144 % 8 = c.toNat / 262144 := Nat.mod_eq_of_lt (by omega)
      refine ⟨_, _, _, rfl, first_four (by omega), .more rfl ?_ (.more rfl (tail_mem_range _) ?_)⟩
      · rw [hlead]
        dsimp only
        split
        · rw [if_neg (by omega)]
          exact tail_mem_narrow_range 144 191 rfl rfl (by omega) (by omega)
        · split
          · exact tail_mem_narrow_range 128 143 rfl rfl (by omega) (by omega)
          · exact tail_mem_range _
      · rw [bitsWith_tail, bitsWith_tail, hlead]
        exact awaits_last (by dsimp only; omega)

theorem utf8EncodeChar_of_le (hshort : c.toNat ≤ 127) :
    String.utf8EncodeChar c = [UInt8.ofNat c.toNat] := by
  rw [String.utf8EncodeChar.eq_1]
  exact if_pos hshort

theorem charsFrom_encodeChar_append (c : Char) (rest : Bytes) :
    charsFrom none (String.utf8EncodeChar c ++ rest) = some c :: charsFrom none rest := by
  rcases Nat.lt_or_ge 127 c.toNat with hlong | hshort
  · obtain ⟨b, begun, missing, hbytes, hfirst, hawaits⟩ := exists_awaits hlong
    rw [hbytes, List.cons_append, charsFrom, hfirst]
    exact hawaits.charsFrom_append rest
  · rw [utf8EncodeChar_of_le hshort, List.singleton_append, charsFrom, first_one hshort]
    simp only [Char.ofNat_toNat]

/-- A part of a character leaves one mark. -/
theorem charsFrom_take_encodeChar {n : Nat} (hpos : 0 < n) (hn : n < c.utf8Size) :
    charsFrom none ((String.utf8EncodeChar c).take n) = [none] := by
  have hlength : (String.utf8EncodeChar c).length = c.utf8Size := String.length_utf8EncodeChar c
  rcases Nat.lt_or_ge 127 c.toNat with hlong | hshort
  · obtain ⟨b, begun, missing, hbytes, hfirst, hawaits⟩ := exists_awaits hlong
    rw [hbytes, List.length_cons] at hlength
    obtain ⟨k, rfl⟩ := Nat.exists_eq_succ_of_ne_zero (Nat.ne_of_gt hpos)
    rw [hbytes, List.take_succ_cons, charsFrom, hfirst]
    exact hawaits.charsFrom_take (by omega)
  · rw [utf8EncodeChar_of_le hshort, List.length_singleton] at hlength
    omega

/-! ## Texts -/

theorem encode_cons (c : Char) (cs : List Char) :
    encode (c :: cs) = String.utf8EncodeChar c ++ encode cs := List.flatMap_cons

theorem length_encode (cs : List Char) : (encode cs).length = byteLength cs := by
  induction cs with
  | nil => rfl
  | cons c rest ih =>
      rw [encode_cons, List.length_append, String.length_utf8EncodeChar, ih, byteLength]

theorem charsFrom_encode_append (cs : List Char) (rest : Bytes) :
    charsFrom none (encode cs ++ rest) = cs.map some ++ charsFrom none rest := by
  induction cs with
  | nil => rfl
  | cons c later ih =>
      rw [encode_cons, List.append_assoc, charsFrom_encodeChar_append, ih]
      rfl

/-- What is written before other bytes is read as it was written. -/
theorem lossy_encode_append (cs : List Char) (rest : Bytes) :
    lossy (encode cs ++ rest) = cs ++ lossy rest := by
  rw [lossy, chars, charsFrom_encode_append, List.map_append, List.map_map]
  congr 1
  exact List.map_id cs

theorem lossy_encode (cs : List Char) : lossy (encode cs) = cs := by
  have hread := lossy_encode_append cs []
  rwa [List.append_nil, show lossy [] = [] from rfl, List.append_nil] at hread

/-! ## Zeros -/

theorem zero_ne_ofNat {n : Nat} (hpos : 0 < n) (hbyte : n < 256) : (0 : UInt8) ≠ UInt8.ofNat n := by
  intro heq
  have hnat := congrArg UInt8.toNat heq
  rw [UInt8.toNat_ofNat_of_lt' hbyte] at hnat
  exact Nat.ne_of_lt hpos hnat

theorem zero_not_mem_encodeChar (hc : c ≠ '\x00') : (0 : UInt8) ∉ String.utf8EncodeChar c := by
  have hpos : 0 < c.toNat := by
    apply Nat.pos_of_ne_zero
    intro hzero
    exact hc (Char.toNat_inj.mp hzero)
  have hval : c.val.toNat = c.toNat := rfl
  rw [String.utf8EncodeChar.eq_1, hval]
  repeat' split
  all_goals
    simp only [List.mem_cons, List.not_mem_nil, or_false, not_or]
    and_intros
    all_goals exact zero_ne_ofNat (by omega) (by omega)

/-- A text is cut at its first zero byte where it is cut at its first NUL. -/
theorem takeWhile_encode (cs : List Char) :
    (encode cs).takeWhile (· != 0) = encode (cs.takeWhile (· != '\x00')) := by
  induction cs with
  | nil => rfl
  | cons c rest ih =>
      rw [encode_cons]
      by_cases hc : c = '\x00'
      · subst hc
        rfl
      · have hfree : ∀ b ∈ String.utf8EncodeChar c, (b != 0) = true := by
          intro b hb
          rw [bne_iff_ne]
          rintro rfl
          exact zero_not_mem_encodeChar hc hb
        rw [List.takeWhile_append_of_pos hfree, List.takeWhile_cons_of_pos (by simpa using hc),
          encode_cons, ih]

/-- The first bytes of a text that is longer are whole characters and a part of the next one,
which may be no byte at all. -/
theorem exists_take_encode {n : Nat} {cs : List Char} (hlong : n < byteLength cs) :
    ∃ whole c later, cs = whole ++ c :: later ∧ byteLength whole ≤ n ∧
      n < byteLength whole + c.utf8Size ∧
      (encode cs).take n =
        encode whole ++ (String.utf8EncodeChar c).take (n - byteLength whole) := by
  induction cs generalizing n with
  | nil => exact absurd hlong (Nat.not_lt_zero n)
  | cons c rest ih =>
      have hlength : (String.utf8EncodeChar c).length = c.utf8Size :=
        String.length_utf8EncodeChar c
      rw [byteLength] at hlong
      rcases Nat.lt_or_ge n c.utf8Size with hcut | hfits
      · refine ⟨[], c, rest, rfl, Nat.zero_le n, by rwa [byteLength, Nat.zero_add], ?_⟩
        rw [encode_cons, List.take_append_of_le_length (by omega)]
        rfl
      · obtain ⟨whole, next, later, rfl, hwhole, hnext, htake⟩ :=
          @ih (n - c.utf8Size) (by omega)
        refine ⟨c :: whole, next, later, rfl, ?_, ?_, ?_⟩
        · rw [byteLength]
          omega
        · rw [byteLength]
          omega
        · rw [encode_cons, List.take_append, hlength, List.take_of_length_le (by omega), htake,
            encode_cons, List.append_assoc, byteLength, Nat.sub_sub]

end DeviceTwin.Utf8
