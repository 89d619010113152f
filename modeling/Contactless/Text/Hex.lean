import Contactless.Bytes

/-!
Hexadecimal text of byte strings: compact, spaced, and spaced with a bit count.
-/
namespace Contactless.Text.Hex

/-- The lowercase digit of a value below 16. -/
def digit (n : UInt8) : Char :=
  if n < 10 then Char.ofNat (48 + n.toNat) else Char.ofNat (87 + n.toNat)

/-- Two digits, the high half first. -/
def pair (b : UInt8) : List Char := [digit (b >>> 4), digit (b &&& 0x0f)]

def compactChars : Bytes → List Char
  | [] => []
  | b :: r => pair b ++ compactChars r

/-- One blank between bytes, none at the ends. -/
def spacedChars : Bytes → List Char
  | [] => []
  | [b] => pair b
  | b :: r => pair b ++ ' ' :: spacedChars r

def compact (bs : Bytes) : String := String.ofList (compactChars bs)

def spaced (bs : Bytes) : String := String.ofList (spacedChars bs)

/-- Spaced text; a frame that ends inside a byte is marked with its bit count. -/
def bits (bs : Bytes) (n : Nat) : String :=
  if n % 8 = 0 then spaced bs else s!"{spaced bs} ({n} bits)"

def byte (b : UInt8) : String := String.ofList (pair b)

def word (w : UInt16) : String := compact (be16 w)

def bracketed (bs : Bytes) : String := "[" ++ String.intercalate ", " (bs.map byte) ++ "]"

end Contactless.Text.Hex
