import Contactless.Error

/-!
Frames with a bit count. A frame may end inside a byte; the unused high bits of its last byte
carry nothing.
-/
namespace Contactless

structure BitFrame where
  data : Bytes
  bits : Nat
  length_data : data.length = (bits + 7) / 8
deriving DecidableEq

namespace BitFrame

def ofBytes (data : Bytes) : BitFrame := ⟨data, data.length * 8, by omega⟩

/-- `bits` bits in exactly the bytes they need. -/
def ofBits (data : Bytes) (bits : Nat) : Except Error BitFrame :=
  if h : data.length = (bits + 7) / 8 then .ok ⟨data, bits, h⟩
  else .error (.invalidParameter s!"{bits} bits do not fit a {data.length}-byte frame")

def short (command : UInt8) : BitFrame := ⟨[command &&& 0x7f], 7, rfl⟩

def byteLength (f : BitFrame) : Nat := f.data.length

def isEmpty (f : BitFrame) : Bool := f.bits == 0

def isWhole (f : BitFrame) : Bool := f.bits % 8 == 0

/-- Bits used of the last byte; zero when the frame ends with a byte. -/
def trailing (f : BitFrame) : Nat := f.bits % 8

end BitFrame

end Contactless
