import Contactless.Bytes

/-!
Reading bytes from hexadecimal text. Blanks are dropped anywhere, the rest is cut into pairs of
UTF-8 bytes, and each pair has to be a two-digit number; a plus sign counts as a leading zero.
-/
namespace Contactless.Text.Hex

/-- Why a pair of bytes is no text. -/
inductive Utf8Fault where
  | invalid (index : Nat)
  | incomplete (index : Nat)
deriving DecidableEq

def Utf8Fault.message : Utf8Fault → String
  | .invalid i => s!"invalid utf-8 sequence of 1 bytes from index {i}"
  | .incomplete i => s!"incomplete utf-8 byte sequence from index {i}"

inductive ReadFault where
  | oddLength
  | brokenText (fault : Utf8Fault)
  | invalidPair (text : String)
deriving DecidableEq

def ReadFault.message : ReadFault → String
  | .oddLength => "hex string has odd length"
  | .brokenText f => f.message
  | .invalidPair t => s!"invalid hex pair '{t}': invalid digit found in string"

/-- Space, tab, line feed, form feed and carriage return. -/
def isBlank (b : UInt8) : Bool := b == 32 || b == 9 || b == 10 || b == 12 || b == 13

/-- Whether `b` may follow the lead byte `lead` of a longer sequence. -/
def continues (lead b : UInt8) : Bool :=
  if lead == 0xe0 then 0xa0 ≤ b && b ≤ 0xbf
  else if lead == 0xed then 0x80 ≤ b && b ≤ 0x9f
  else if lead == 0xf0 then 0x90 ≤ b && b ≤ 0xbf
  else if lead == 0xf4 then 0x80 ≤ b && b ≤ 0x8f
  else 0x80 ≤ b && b ≤ 0xbf

/-- The text of a pair: two ASCII characters, or one character of two bytes. -/
def pairText (x y : UInt8) : Except Utf8Fault String :=
  if x < 0x80 then
    if y < 0x80 then .ok (String.ofList [Char.ofNat x.toNat, Char.ofNat y.toNat])
    else if y < 0xc2 || 0xf4 < y then .error (.invalid 1)
    else .error (.incomplete 1)
  else if x < 0xc2 || 0xf4 < x || !continues x y then .error (.invalid 0)
  else if x < 0xe0 then
    .ok (String.ofList [Char.ofNat ((x.toNat - 0xc0) * 64 + (y.toNat - 0x80))])
  else .error (.incomplete 0)

/-- The value of a digit in either case. -/
def digitValue (b : UInt8) : Option UInt8 :=
  if 48 ≤ b && b ≤ 57 then some (b - 48)
  else if 97 ≤ b && b ≤ 102 then some (b - 87)
  else if 65 ≤ b && b ≤ 70 then some (b - 55)
  else none

/-- The number written by two bytes. -/
def pairValue (x y : UInt8) : Option UInt8 :=
  match digitValue x, digitValue y with
  | some h, some l => some (h * 16 + l)
  | none, some l => if x == 43 then some l else none
  | _, none => none

def readPair (x y : UInt8) : Except ReadFault UInt8 :=
  match pairText x y with
  | .error f => .error (.brokenText f)
  | .ok t =>
    match pairValue x y with
    | some v => .ok v
    | none => .error (.invalidPair t)

/-- The pairs from left to right; the first that fails decides. -/
def readPairs : Bytes → Except ReadFault Bytes
  | x :: y :: r =>
    match readPair x y with
    | .error f => .error f
    | .ok v =>
      match readPairs r with
      | .error f => .error f
      | .ok vs => .ok (v :: vs)
  | _ => .ok []

def readBytes (text : Bytes) : Except ReadFault Bytes :=
  let kept := text.filter (fun b => !isBlank b)
  if kept.length % 2 ≠ 0 then .error .oddLength else readPairs kept

def read (text : String) : Except ReadFault Bytes := readBytes text.toUTF8.toList

end Contactless.Text.Hex
