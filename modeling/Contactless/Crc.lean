import Contactless.Error

/-!
The two 16-bit checks of ISO/IEC 14443-3. Both use the reflected polynomial 0x8408 and go out low
byte first; they differ in the initial register, and the second is complemented.
-/
namespace Contactless

inductive Crc where
  | a
  | b
deriving DecidableEq

/-- What becomes of a sum that is past the top of a 64-bit word. -/
inductive Overflow where
  /-- Whoever adds stops there. -/
  | stops
  /-- The sum starts again from zero. -/
  | wraps
deriving DecidableEq

def Overflow.add : Overflow → UInt64 → UInt64 → Option UInt64
  | stops, m, n => if m.toNat + n.toNat < UInt64.size then some (m + n) else none
  | wraps, m, n => some (m + n)

/-- The bytes from `start` up to `stop`, if both are places of the data, in this order. -/
def slice? (data : Bytes) (start stop : Nat) : Option Bytes :=
  if start ≤ stop ∧ stop ≤ data.length then some ((data.take stop).drop start) else none

namespace Crc

def step (register : UInt16) (byte : UInt8) : UInt16 :=
  let low := byte ^^^ register.toUInt8
  let mixed := (low ^^^ (low <<< 4)).toUInt16
  (register >>> 8) ^^^ (mixed <<< 8) ^^^ (mixed <<< 3) ^^^ (mixed >>> 4)

def register (preset : UInt16) (data : Bytes) : UInt16 := data.foldl step preset

def value : Crc → Bytes → UInt16
  | a, data => register 0x6363 data
  | b, data => ~~~ register 0xffff data

/-- The check as transmitted. -/
def tail (c : Crc) (data : Bytes) : Octets 2 := ⟨le16 (c.value data), rfl⟩

def append (c : Crc) (data : Bytes) : Bytes := data ++ (c.tail data).toList

/-- The frame ends with the check of what precedes it, which is not empty. -/
def check (c : Crc) (frame : Bytes) : Bool :=
  2 < frame.length &&
    (c.tail (frame.take (frame.length - 2))).toList == frame.drop (frame.length - 2)

/-- The frame without its check, after verifying it. -/
def strip (c : Crc) (frame : Bytes) : Except Error Bytes :=
  if h : frame.length < 3 then .error (.invalidLength 3 frame.length)
  else
    let body := frame.take (frame.length - 2)
    let found : Octets 2 := ⟨frame.drop (frame.length - 2), by
      simp only [List.length_drop]
      omega⟩
    if c.tail body = found then .ok body else .error (.crcMismatch (c.tail body) found)

/-- Put the check of the first `len` bytes of a buffer behind them, with sizes in 64-bit words. The
result is the length of the frame, with the buffer as it is left; a buffer that is too short stays
as it was. There is no result where the length of the frame overflows and stops the write, or wraps
around to a place before the end of the body. -/
def write? (c : Crc) (overflow : Overflow) (buffer : Bytes) (len : UInt64) :
    Option (Except Error Nat × Bytes) := do
  let needed ← overflow.add len 2
  if buffer.length < needed.toNat then
    return (.error (.bufferTooSmall needed.toNat buffer.length), buffer)
  let body ← slice? buffer 0 len.toNat
  let _ ← slice? buffer len.toNat needed.toNat
  return (.ok needed.toNat, body ++ (c.tail body).toList ++ buffer.drop needed.toNat)

/-- The write with sums that wrap around. Where it has no result, the length is refused as one that
no buffer holds. -/
def write (c : Crc) (buffer : Bytes) (len : UInt64) : Except Error Nat × Bytes :=
  (c.write? .wraps buffer len).getD
    (.error (.bufferTooSmall (len.toNat + 2) buffer.length), buffer)

end Crc

end Contactless
