import Contactless.Error

/-!
Identifiers of type A tags and the groups in which a tag gives them away.
-/
namespace Contactless

structure Uid where
  bytes : Bytes
  size : bytes.length = 4 ∨ bytes.length = 7 ∨ bytes.length = 10
deriving DecidableEq

namespace Uid

def ofBytes (bs : Bytes) : Except Error Uid :=
  if h : bs.length = 4 ∨ bs.length = 7 ∨ bs.length = 10 then .ok ⟨bs, h⟩
  else .error (.invalidParameter s!"uid must be 4, 7 or 10 bytes, got {bs.length}")

/-- Cascade levels needed to transmit the identifier. -/
def levels (u : Uid) : Nat :=
  if u.bytes.length = 4 then 1 else if u.bytes.length = 7 then 2 else 3

def hex (u : Uid) : String := Text.Hex.compact u.bytes

end Uid

/-- Exclusive or of all bytes, sent as the check byte of a group of four. -/
def bcc (bs : Bytes) : UInt8 := bs.foldl (· ^^^ ·) 0

/-- First byte of every group that is not the last one. -/
def cascadeTag : UInt8 := 0x88

/-- Four identifier bytes and their check byte. -/
def group (a b c d : UInt8) : Octets 5 := ⟨[a, b, c, d, bcc [a, b, c, d]], rfl⟩

/-- Groups of an identifier: all but the last carry the cascade tag and three bytes. -/
def cascadeGroups : Bytes → List (Octets 5)
  | [a, b, c, d] => [group a b c d]
  | a :: b :: c :: r => group cascadeTag a b c :: cascadeGroups r
  | _ => []

def Uid.groups (u : Uid) : List (Octets 5) := cascadeGroups u.bytes

end Contactless
