import Contactless.Field
import Contactless.Target

/-!
FeliCa frames. Each starts with a length byte that counts itself.
-/
namespace Contactless.Felica

def anySystem : UInt16 := 0xffff
def commonSystem : UInt16 := 0xfe00
def ndefSystem : UInt16 := 0x12fc

inductive AccessMode where
  | normal
  | cashBack
deriving DecidableEq

def AccessMode.code : AccessMode → UInt8
  | .normal => 0
  | .cashBack => 1

/-- One block to access: the position of its service in the service list, and its number there. -/
structure BlockElement where
  service : UInt8
  access : AccessMode
  number : UInt16
deriving DecidableEq

/-- Two bytes for block numbers below 256, else three with the number low byte first. -/
def BlockElement.encode (e : BlockElement) : Bytes :=
  let head := (e.access.code <<< 4) ||| (e.service &&& 0x0f)
  if e.number < 0x100 then [0x80 ||| head, e.number.toUInt8] else head :: le16 e.number

def BlockElement.encodedLength (e : BlockElement) : Nat := if e.number < 0x100 then 2 else 3

abbrev BlockData := Octets 16

def withLength (payload : Bytes) : Except Error Bytes :=
  if 255 < payload.length + 1 then .error (.bufferOverflow 255 (payload.length + 1))
  else .ok (UInt8.ofNat (payload.length + 1) :: payload)

/-- The frame without its length byte, after verifying it. -/
def body (frame : Bytes) : Except Error Bytes :=
  match frame with
  | [] => .error (.invalidLength 1 0)
  | len :: rest =>
    if len.toNat = frame.length then .ok rest
    else .error (.invalidLength len.toNat frame.length)

def polling (systemCode : UInt16) (request slot : UInt8) : Bytes :=
  [6, 0x00] ++ be16 systemCode ++ [request, slot]

/-- An answer to polling; the system code is there only when it was asked for. -/
structure PollingAnswer where
  idm : Idm
  pmm : Pmm
  systemCode : Option UInt16
deriving DecidableEq

def decodePolling (frame : Bytes) : Except Error PollingAnswer := do
  let data ← body frame
  requireLength data 17
  expectByte data 0 0x01
  let idm ← octetsAt 8 data 1
  let pmm ← octetsAt 8 data 9
  if 19 ≤ data.length then
    return ⟨idm, pmm, some (← wordAt data 17)⟩
  else return ⟨idm, pmm, none⟩

/-- Services and blocks as sent, each list after its count. -/
def lists (services : List UInt16) (blocks : List BlockElement) : Bytes :=
  UInt8.ofNat services.length :: services.flatMap le16
    ++ UInt8.ofNat blocks.length :: blocks.flatMap BlockElement.encode

/-- One to sixteen services, and at least one block, each of a listed service. -/
def checkLists (services : List UInt16) (blocks : List BlockElement) : Except Error Unit :=
  if services.isEmpty ∨ 16 < services.length then
    .error (.invalidParameter s!"service count must be 1..=16, got {services.length}")
  else if blocks.isEmpty then .error (.invalidParameter "empty block list")
  else
    match blocks.find? fun b => services.length ≤ b.service.toNat with
    | some b => .error (.invalidParameter
        s!"block {b.number.toNat} refers to service #{b.service.toNat} out of {services.length}")
    | none => .ok ()

/-- Read without encryption. -/
def check (idm : Idm) (services : List UInt16) (blocks : List BlockElement) :
    Except Error Bytes := do
  checkLists services blocks
  withLength (0x06 :: idm.toList ++ lists services blocks)

/-- Write without encryption. -/
def update (idm : Idm) (services : List UInt16) (blocks : List BlockElement)
    (data : List BlockData) : Except Error Bytes := do
  checkLists services blocks
  if data.length ≠ blocks.length then
    throw (.invalidParameter
      s!"{blocks.length} blocks listed but {data.length} data blocks given")
  withLength (0x08 :: idm.toList ++ lists services blocks ++ data.flatMap (·.toList))

/-- Head of the answer to a read or write: response code, card and status. -/
def decodeStatus (data : Bytes) (code : UInt8) (idm : Idm) : Except Error Unit := do
  requireLength data 11
  expectByte data 0 code
  let got ← octetsAt 8 data 1
  if got ≠ idm then
    throw (.rfProtocol (s!"answer from IDm {Text.Hex.compact got.toList}"
      ++ s!" while talking to {Text.Hex.compact idm.toList}"))
  let status1 ← byteAt data 9
  let status2 ← byteAt data 10
  if status1 ≠ 0 ∨ status2 ≠ 0 then throw (.felicaStatus status1 status2)

def readBlocks : Nat → Bytes → Except Error (List BlockData)
  | 0, _ => .ok []
  | n + 1, data => do
    let first ← octetsAt 16 data 0
    let rest ← readBlocks n (data.drop 16)
    return first :: rest

/-- Data blocks of the answer to a read. -/
def decodeCheck (frame : Bytes) (idm : Idm) : Except Error (List BlockData) := do
  let data ← body frame
  decodeStatus data 0x07 idm
  let count ← byteAt data 11
  requireExactLength data (12 + count.toNat * 16)
  readBlocks count.toNat (data.drop 12)

def decodeUpdate (frame : Bytes) (idm : Idm) : Except Error Unit := do
  let data ← body frame
  decodeStatus data 0x09 idm

end Contactless.Felica
