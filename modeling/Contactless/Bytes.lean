/-!
Byte strings, byte strings of a fixed length, and the two byte orders of a 16-bit word.
-/
namespace Contactless

abbrev Bytes := List UInt8

structure Octets (n : Nat) where
  toList : Bytes
  length_toList : toList.length = n
deriving DecidableEq

namespace Octets

variable {n : Nat}

instance : CoeOut (Octets n) Bytes := ⟨toList⟩

theorem ext_toList {a b : Octets n} (h : a.toList = b.toList) : a = b := by
  cases a; cases b; cases h; rfl

def get (o : Octets n) (i : Fin n) : UInt8 :=
  o.toList.get (i.cast o.length_toList.symm)

def zero (n : Nat) : Octets n := ⟨List.replicate n 0, List.length_replicate⟩

end Octets

/-- Most significant byte first. -/
def be16 (w : UInt16) : Bytes := [(w >>> 8).toUInt8, w.toUInt8]

/-- Least significant byte first. -/
def le16 (w : UInt16) : Bytes := [w.toUInt8, (w >>> 8).toUInt8]

def word16 (hi lo : UInt8) : UInt16 := (hi.toUInt16 <<< 8) ||| lo.toUInt16

end Contactless
