import Contactless.Field
import Contactless.Target

/-!
The memory tags of the SRx and ST25TB families: their frames, without check, and what the
identifier tells about the chip.
-/
namespace Contactless.Srx

def initiate : Bytes := [0x06, 0x00]
def select (chip : UInt8) : Bytes := [0x0e, chip]
def getUid : Bytes := [0x0b]
def completion : Bytes := [0x0f]
def readBlock (block : UInt8) : Bytes := [0x08, block]

inductive BlockSize where
  | two
  | four
deriving DecidableEq

def BlockSize.bytes : BlockSize → Nat
  | .two => 2
  | .four => 4

def writeBlock (block : UInt8) (data : Bytes) (size : BlockSize) : Except Error Bytes :=
  match requireExactLength data size.bytes with
  | .error e => .error e
  | .ok () => .ok ([0x09, block] ++ data)

structure ChipInfo where
  name : String
  code : UInt8
  /-- Blocks open to users, counted from block zero. -/
  blockCount : Nat
  blockSize : BlockSize
  /-- The one block beyond them, which configures the chip. -/
  systemBlock : UInt8
  /-- Older than the ST25TB family. -/
  legacy : Bool
deriving DecidableEq

def chips : List ChipInfo := [
  ⟨"SR176", 0x02, 15, .two, 15, true⟩,
  ⟨"SRIX4K", 0x03, 128, .four, 255, true⟩,
  ⟨"SRIX512", 0x04, 16, .four, 255, true⟩,
  ⟨"SRI512", 0x06, 16, .four, 255, true⟩,
  ⟨"SRI4K", 0x07, 128, .four, 255, true⟩,
  ⟨"SRT512", 0x0c, 16, .four, 255, true⟩,
  ⟨"SRI2K", 0x0f, 64, .four, 255, true⟩,
  ⟨"ST25TB512-AC", 0x1b, 16, .four, 255, false⟩,
  ⟨"ST25TB04K", 0x1f, 128, .four, 255, false⟩,
  ⟨"ST25TB512-AT", 0x33, 16, .four, 255, false⟩,
  ⟨"ST25TB02K", 0x3f, 64, .four, 255, false⟩]

/-- The chip of an identifier with its least significant byte first. The last two bytes name the
manufacturer, and the six high bits of the byte before them the chip. -/
def ChipInfo.ofUid? (uid : Octets 8) : Option ChipInfo :=
  if uid.get 7 = 0xd0 ∧ uid.get 6 = 0x02 then chips.find? (·.code == uid.get 5 >>> 2) else none

def ChipInfo.contains (c : ChipInfo) (block : UInt8) : Bool :=
  block.toNat < c.blockCount || block == c.systemBlock

def parseUid (frame : Bytes) : Except Error Target := do
  requireExactLength frame 8
  let uid ← octetsAt 8 frame 0
  return .srx uid

def targetInfo : Target → Except Error ChipInfo
  | .srx uid =>
    match ChipInfo.ofUid? uid with
    | some c => .ok c
    | none => .error (.deviceNotSupported s!"unknown SRx chip {Text.Hex.compact uid.toList}")
  | t => .error (.invalidParameter s!"not an SRx target: {t.modulation.text}")

end Contactless.Srx
