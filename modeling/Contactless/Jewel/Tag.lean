import Contactless.Device
import Contactless.Jewel.Frame

/-!
Static memory of the selected Jewel tag.
-/
namespace Contactless.Jewel.Tag

def uid : Act Chip (Device .initiator) TagId := do
  match (← get).selected with
  | some (.jewel _ id) => return id
  | _ => throw (.invalidParameter "no Jewel tag selected")

def exchange (request : Request) : Act Chip (Device .initiator) Response := do
  let answer ← Device.exchange request.encode
  Act.ofExcept (Response.decode request.code answer)

/-- Exchange with the selected tag, which has to be there first. -/
def exchangeSelected (request : Request) : Act Chip (Device .initiator) Response := do
  let _ ← uid
  exchange request

def readAll : Act Chip (Device .initiator) Dump := do
  match ← exchange (.rall (← uid)) with
  | .rall _ dump => return dump
  | _ => throw (.rfProtocol "RALL answer expected")

def byteExchange (request : Request) : Act Chip (Device .initiator) UInt8 := do
  match ← exchange request with
  | .byte _ data => return data
  | _ => throw (.rfProtocol "byte answer expected")

def blockExchange (request : Request) : Act Chip (Device .initiator) (Octets 8) := do
  match ← exchange request with
  | .block _ data => return data
  | _ => throw (.rfProtocol "block answer expected")

def readByte (block byte : UInt8) : Act Chip (Device .initiator) UInt8 := do
  let id ← uid
  let address ← Act.ofExcept (byteAddress block byte)
  byteExchange (.read id address)

/-- Write one byte of the tag `id`; after erasing, the tag has to hold what was written. -/
def writeByteOf (id : TagId) (block byte data : UInt8) (erase : Bool) :
    Act Chip (Device .initiator) Unit := do
  let address ← Act.ofExcept (byteAddress block byte)
  let held ← byteExchange
    (if erase then .writeErasing id address data else .write id address data)
  if erase && held != data then
    throw (.rfProtocol (s!"byte {Text.Hex.byte address} holds {Text.Hex.byte held}"
      ++ s!" after writing {Text.Hex.byte data}"))

def writeByte (block byte data : UInt8) (erase : Bool) : Act Chip (Device .initiator) Unit := do
  writeByteOf (← uid) block byte data erase

/-- Read eight bytes at once, which only the larger tags can. -/
def readBlock (block : UInt8) : Act Chip (Device .initiator) (Octets 8) := do
  blockExchange (.readBlock (← uid) block)

def writeBlock (block : UInt8) (data : Octets 8) (erase : Bool) :
    Act Chip (Device .initiator) Unit := do
  let id ← uid
  let _ ← blockExchange
    (if erase then .writeBlockErasing id block data else .writeBlock id block data)

/-- Positions and values of the bytes in the data blocks of an image. -/
def dataBytes (d : Dump) : List (UInt8 × Nat) := (d.bytes.zipIdx.drop 8).take 96

/-- Write the data blocks of an image back, byte by byte. The identifier block, the reserved block
and the lock block are left alone. -/
def restore (d : Dump) : Act Chip (Device .initiator) Unit := do
  let id ← uid
  (dataBytes d).forM fun (value, position) =>
    writeByteOf id (UInt8.ofNat (position / 8)) (UInt8.ofNat (position % 8)) value true

end Contactless.Jewel.Tag
