/-
The copy of a payload that a hook gets: memory of a fixed size, with a zero behind the
bytes that are in use.  An access that is not wholly within the memory has no result.
-/
import DeviceTwin.Method.Payload

namespace DeviceTwin.Method

/-- The first bytes of a sequence, if it has so many. -/
def first? (n : Nat) (bytes : Bytes) : Option Bytes :=
  if n ≤ bytes.length then some (bytes.take n) else none

/-- The bytes in front of a zero that is the last byte and the only zero. -/
def unterminated? (bytes : Bytes) : Option Bytes :=
  match bytes.findIdx? (· == 0) with
  | some i => if i + 1 = bytes.length then some (bytes.take i) else none
  | none => none

/-- Memory for the longest payload and the zero behind it. -/
abbrev Buffer := Vector UInt8 (maxPayload + 1)

namespace Buffer

def zeroed : Buffer := Vector.replicate (maxPayload + 1) 0

def first? (n : Nat) (b : Buffer) : Option Bytes := Method.first? n b.toList

/-- Writes bytes over the first `n` bytes of the memory. They have to be just as many. -/
def overwrite? (n : Nat) (bytes : Bytes) (b : Buffer) : Option Buffer :=
  if n ≤ maxPayload + 1 ∧ bytes.length = n then
    some (Vector.ofFn fun i => bytes[i.val]?.getD (b.get i))
  else none

def set? (i : Nat) (byte : UInt8) (b : Buffer) : Option Buffer :=
  if h : i < maxPayload + 1 then some (b.set i byte h) else none

end Buffer

/-- A payload in memory of its own. -/
structure Copy where
  buffer : Buffer
  /-- The number of bytes in use, without the zero behind them. -/
  length : Nat

namespace Copy

/-- Copies the bytes before the first zero, 512 of them at most. -/
def ofBytes? (bytes : Bytes) : Option Copy := do
  let limit := min bytes.length maxPayload
  let seen ← first? limit bytes
  let length := (seen.findIdx? (· == 0)).getD limit
  let content ← first? length bytes
  let buffer ← Buffer.zeroed.overwrite? length content
  let buffer ← buffer.set? length 0
  some { buffer, length }

def content? (c : Copy) : Option Bytes := c.buffer.first? c.length

/-- The bytes in use and the zero behind them. -/
def terminated? (c : Copy) : Option Bytes := c.buffer.first? (c.length + 1)

/-- What a hook gets: the bytes before the zero, and none at all if it is not where it
has to be. -/
def handed? (c : Copy) : Option Bytes :=
  c.terminated?.map fun bytes => (unterminated? bytes).getD []

/-- The text of the bytes in use. A character that the bound cuts becomes a replacement mark. -/
def text? (c : Copy) : Option String := c.content?.map Utf8.lossyString

end Copy

end DeviceTwin.Method
