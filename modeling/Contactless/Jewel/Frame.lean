import Contactless.Field
import Contactless.Jewel.Dump

/-!
Commands of Innovision Jewel and Topaz tags. Every request but the first ends with the four
identifier bytes of the tag. Commands on single bytes take 7 bytes, those on segments and blocks 14.
-/
namespace Contactless.Jewel

abbrev TagId := Octets 4

def ridCode : UInt8 := 0x78
def rallCode : UInt8 := 0x00
def readCode : UInt8 := 0x01
def writeErasingCode : UInt8 := 0x53
def writeCode : UInt8 := 0x1a
def rsegCode : UInt8 := 0x10
def readBlockCode : UInt8 := 0x02
def writeBlockErasingCode : UInt8 := 0x54
def writeBlockCode : UInt8 := 0x1b

/-- Address of a byte of static memory: three bits for the byte, the rest for the block. -/
def byteAddress (block byte : UInt8) : Except Error UInt8 :=
  if 0x0e < block ∨ 7 < byte then
    .error (.invalidParameter s!"block {block.toNat} byte {byte.toNat} is outside static memory")
  else .ok ((block <<< 3) ||| byte)

/-- A write erases first, or it only sets bits. -/
inductive Request where
  | rid
  | rall (uid : TagId)
  | read (uid : TagId) (address : UInt8)
  | writeErasing (uid : TagId) (address data : UInt8)
  | write (uid : TagId) (address data : UInt8)
  | rseg (uid : TagId) (segment : UInt8)
  | readBlock (uid : TagId) (block : UInt8)
  | writeBlockErasing (uid : TagId) (block : UInt8) (data : Octets 8)
  | writeBlock (uid : TagId) (block : UInt8) (data : Octets 8)
deriving DecidableEq

/-- Seven bytes: command, address, data, identifier. -/
def shortRequest (code address data : UInt8) (uid : TagId) : Bytes :=
  [code, address, data] ++ uid.toList

/-- Fourteen bytes: command, address, eight bytes of data, identifier. -/
def longRequest (code address : UInt8) (data : Octets 8) (uid : TagId) : Bytes :=
  [code, address] ++ data.toList ++ uid.toList

namespace Request

def code : Request → UInt8
  | rid => ridCode
  | rall _ => rallCode
  | read _ _ => readCode
  | writeErasing _ _ _ => writeErasingCode
  | write _ _ _ => writeCode
  | rseg _ _ => rsegCode
  | readBlock _ _ => readBlockCode
  | writeBlockErasing _ _ _ => writeBlockErasingCode
  | writeBlock _ _ _ => writeBlockCode

/-- The segment of a segment read stands in the high half of its byte. -/
def encode : Request → Bytes
  | rid => [ridCode, 0, 0, 0, 0, 0, 0]
  | rall uid => shortRequest rallCode 0 0 uid
  | read uid address => shortRequest readCode address 0 uid
  | writeErasing uid address data => shortRequest writeErasingCode address data uid
  | write uid address data => shortRequest writeCode address data uid
  | rseg uid segment => longRequest rsegCode (segment <<< 4) (.zero 8) uid
  | readBlock uid block => longRequest readBlockCode block (.zero 8) uid
  | writeBlockErasing uid block data => longRequest writeBlockErasingCode block data uid
  | writeBlock uid block data => longRequest writeBlockCode block data uid

end Request

/-- Length of the frame of a request. -/
def requestLength (code : UInt8) : Option Nat :=
  if code = ridCode ∨ code = rallCode ∨ code = readCode ∨ code = writeErasingCode ∨
      code = writeCode then
    some 7
  else if code = rsegCode ∨ code = readBlockCode ∨ code = writeBlockErasingCode ∨
      code = writeBlockCode then
    some 14
  else none

/-- Length of the answer, without its check. -/
def responseLength (code : UInt8) : Option Nat :=
  if code = ridCode then some 6
  else if code = rallCode then some (2 + 120)
  else if code = readCode ∨ code = writeErasingCode ∨ code = writeCode then some 2
  else if code = rsegCode then some 129
  else if code = readBlockCode ∨ code = writeBlockErasingCode ∨ code = writeBlockCode then
    some (1 + 8)
  else none

inductive Response where
  | rid (header : Octets 2) (uid : TagId)
  | rall (header : Octets 2) (dump : Dump)
  | byte (address data : UInt8)
  | rseg (segment : UInt8) (data : Octets 128)
  | block (block : UInt8) (data : Octets 8)
deriving DecidableEq

/-- The answer to a command. Its length has to match exactly; what no other command calls for is
read as a block. -/
def Response.decode (code : UInt8) (frame : Bytes) : Except Error Response :=
  match responseLength code with
  | none => .error (.commandNotSupported s!"jewel opcode {Text.Hex.byte code}")
  | some len => do
    requireExactLength frame len
    if code = ridCode then return .rid (← octetsAt 2 frame 0) (← octetsAt 4 frame 2)
    else if code = rallCode then
      return .rall (← octetsAt 2 frame 0) (.ofImage (← octetsAt 120 frame 2))
    else if code = readCode ∨ code = writeErasingCode ∨ code = writeCode then
      return .byte (← byteAt frame 0) (← byteAt frame 1)
    else if code = rsegCode then return .rseg ((← byteAt frame 0) >>> 4) (← octetsAt 128 frame 1)
    else return .block (← byteAt frame 0) (← octetsAt 8 frame 1)

end Contactless.Jewel
