import Contactless.Crc

/-!
The answer to select: a length byte that counts itself, a format byte, one interface byte for each
of the three flags of the format byte, then historical bytes.
-/
namespace Contactless.TypeA

/-- The answer from its format byte on. The frame is as long as its first byte says, or two bytes
longer when it carries a check. -/
def parseAts (frame : Bytes) : Except Error Bytes :=
  match frame with
  | [] => .error (.framing "empty ATS")
  | tl :: rest =>
    if tl = 0 then .error (.framing "ATS length byte is zero")
    else if frame.length = tl.toNat + 2 then
      match Crc.a.strip frame with
      | .ok body => .ok (body.drop 1)
      | .error e => .error e
    else if frame.length = tl.toNat then .ok rest
    else .error (.framing s!"ATS TL={tl.toNat} does not match {frame.length} received bytes")

/-- Interface bytes that a format byte announces. -/
def interfaceCount (t0 : UInt8) : Nat :=
  ([0x10, 0x20, 0x40].filter fun (flag : UInt8) => t0 &&& flag != 0).length

/-- Historical bytes of an answer given from its format byte on; `none` when there are none. -/
def historicalBytes (ats : Bytes) : Option Bytes :=
  match ats with
  | [] => none
  | t0 :: rest =>
    if interfaceCount t0 < rest.length then some (rest.drop (interfaceCount t0)) else none

end Contactless.TypeA
