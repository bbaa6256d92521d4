/-
UTF-8. Encoding is character by character; decoding takes the bytes one at a
time and keeps what is left open of the character begun, so that it ends with
the bytes. A byte that cannot go on with the character begun closes it as
malformed and begins anew, which makes every maximal malformed part one mark.
-/
namespace DeviceTwin

/-- A text or a payload as its bytes. -/
abbrev Bytes := List UInt8

namespace Utf8

def encode (cs : List Char) : Bytes := cs.flatMap String.utf8EncodeChar

/-- A character of which some bytes are still to come. -/
structure Begun where
  /-- The bits read so far. -/
  bits : Nat
  /-- How many bytes are missing, less one. -/
  later : Nat
  /-- The least value the next byte may have. -/
  low : UInt8
  /-- The greatest value the next byte may have. -/
  high : UInt8
  deriving DecidableEq

/-- What a byte in first position gives: a whole character, the beginning of
one, or nothing well-formed. -/
inductive First
  | whole (c : Char)
  | begun (b : Begun)
  | malformed
  deriving DecidableEq

/-- Reads a byte in first position. The bounds on the second byte leave out
overlong forms, surrogates and numbers above the last code point. -/
def first (b : UInt8) : First :=
  if b < 0x80 then .whole (Char.ofNat b.toNat)
  else if b < 0xC2 then .malformed
  else if b < 0xE0 then .begun ⟨b.toNat - 0xC0, 0, 0x80, 0xBF⟩
  else if b = 0xE0 then .begun ⟨0, 1, 0xA0, 0xBF⟩
  else if b = 0xED then .begun ⟨0xD, 1, 0x80, 0x9F⟩
  else if b < 0xF0 then .begun ⟨b.toNat - 0xE0, 1, 0x80, 0xBF⟩
  else if b = 0xF0 then .begun ⟨0, 2, 0x90, 0xBF⟩
  else if b < 0xF4 then .begun ⟨b.toNat - 0xF0, 2, 0x80, 0xBF⟩
  else if b = 0xF4 then .begun ⟨4, 2, 0x80, 0x8F⟩
  else .malformed

/-- The bits of a character after one more byte. -/
def Begun.bitsWith (begun : Begun) (b : UInt8) : Nat :=
  begun.bits * 64 + (b.toNat - 0x80)

/-- The characters of a byte sequence, `none` for each maximal malformed part,
given the character that was begun before it. -/
def charsFrom : Option Begun → Bytes → List (Option Char)
  | none, [] => []
  | some _, [] => [none]
  | none, b :: rest =>
      match first b with
      | .whole c => some c :: charsFrom none rest
      | .begun begun => charsFrom (some begun) rest
      | .malformed => none :: charsFrom none rest
  | some begun, b :: rest =>
      if begun.low ≤ b ∧ b ≤ begun.high then
        match begun.later with
        | 0 => some (Char.ofNat (begun.bitsWith b)) :: charsFrom none rest
        | later + 1 => charsFrom (some ⟨begun.bitsWith b, later, 0x80, 0xBF⟩) rest
      else
        none ::
          match first b with
          | .whole c => some c :: charsFrom none rest
          | .begun next => charsFrom (some next) rest
          | .malformed => none :: charsFrom none rest

/-- The characters of a byte sequence, `none` for each maximal malformed part. -/
def chars (bytes : Bytes) : List (Option Char) := charsFrom none bytes

/-- The mark that stands for a malformed part. -/
def replacement : Char := '\ufffd'

/-- Reads bytes as text, with one replacement mark for each malformed part. -/
def lossy (bytes : Bytes) : List Char := (chars bytes).map (·.getD replacement)

/-- Reads bytes as text if all of them are well-formed. -/
def decode? (bytes : Bytes) : Option (List Char) := (chars bytes).mapM id

def ofString (s : String) : Bytes := encode s.toList

/-- The string of a byte sequence, with replacement marks. -/
def lossyString (bytes : Bytes) : String := String.ofList (lossy bytes)

/-- The string of a well-formed byte sequence. -/
def string? (bytes : Bytes) : Option String := (decode? bytes).map String.ofList

example : lossy [0xE2, 0x28, 0xA1] = ['\ufffd', '(', '\ufffd'] := by decide

example : lossy [0xED, 0xA0, 0x80] = ['\ufffd', '\ufffd', '\ufffd'] := by decide

example : lossy [0xF0, 0x9F, 0x98, 0x80, 0xF0, 0x9F] = ['😀', '\ufffd'] := by decide

end Utf8

end DeviceTwin
