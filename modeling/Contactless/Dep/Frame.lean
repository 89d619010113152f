import Contactless.Field
import Contactless.Dep.Info
import Contactless.Text.Record

/-!
Frames of the data exchange protocol: a length byte that counts itself, a direction byte, a command
byte and a body.
-/
namespace Contactless.Dep

inductive Direction where
  | request
  | answer
deriving DecidableEq

def Direction.code : Direction → UInt8
  | .request => 0xd4
  | .answer => 0xd5

def atrRequest : UInt8 := 0x00
def atrAnswer : UInt8 := 0x01
def pslRequest : UInt8 := 0x04
def pslAnswer : UInt8 := 0x05
def dslRequest : UInt8 := 0x08
def dslAnswer : UInt8 := 0x09
def rlsRequest : UInt8 := 0x0a
def rlsAnswer : UInt8 := 0x0b

def Direction.dataCode : Direction → UInt8
  | .request => 0x06
  | .answer => 0x07

/-- Flag of a parameter byte: general bytes follow. -/
def generalBytesFlag : UInt8 := 0x02

/-- Length reduction of a parameter byte for frames of 254 bytes. -/
def longestFrames : UInt8 := 0x30

/-- The bit rates above 106 kbps, all three. -/
def allRates : UInt8 := 0x07

/-- Timeout exponent that targets announce by default. -/
def standardTimeoutExponent : UInt8 := 0x0e

/-- Most general bytes that an attribute frame carries. -/
def generalBytesLimit : Nat := 48

/-- The largest frame that the length reduction of a parameter byte allows. -/
def frameLimit (pp : UInt8) : Nat :=
  let code := (pp >>> 4) &&& 0x03
  if code = 0 then 64 else if code = 1 then 128 else if code = 2 then 192 else 254

/-- Put length, direction and command before a body. -/
def build (direction : Direction) (command : UInt8) (body : Bytes) : Except Error Bytes :=
  if 255 < body.length + 3 then .error (.bufferOverflow 255 (body.length + 3))
  else .ok ([UInt8.ofNat (body.length + 3), direction.code, command] ++ body)

/-- Command and body of a frame, after verifying its length and direction. -/
def unbuild (direction : Direction) (frame : Bytes) : Except Error (UInt8 × Bytes) :=
  match frame with
  | len :: dir :: command :: body =>
    if len.toNat ≠ frame.length then .error (.invalidLength len.toNat frame.length)
    else if dir ≠ direction.code then .error (.unexpectedResponse direction.code dir)
    else .ok (command, body)
  | _ => .error (.invalidLength 3 frame.length)

def unbuildAs (direction : Direction) (command : UInt8) (frame : Bytes) : Except Error Bytes :=
  match unbuild direction frame with
  | .error e => .error e
  | .ok (found, body) =>
    if found = command then .ok body else .error (.unexpectedResponse command found)

def checkGeneralBytes (gb : Bytes) : Except Error Unit :=
  if generalBytesLimit < gb.length then .error (.bufferOverflow generalBytesLimit gb.length)
  else .ok ()

/-- The parameter byte with its general-bytes flag set to what is true. -/
def flagGeneralBytes (pp : UInt8) (gb : Bytes) : UInt8 :=
  if gb.isEmpty then pp &&& ~~~ generalBytesFlag else pp ||| generalBytesFlag

structure AtrRequest where
  nfcid3 : Nfcid3
  did : UInt8 := 0
  bs : UInt8 := allRates
  br : UInt8 := allRates
  pp : UInt8 := longestFrames
  generalBytes : Bytes
deriving DecidableEq

namespace AtrRequest

def encode (a : AtrRequest) : Except Error Bytes := do
  checkGeneralBytes a.generalBytes
  build .request atrRequest
    (a.nfcid3.toList ++ [a.did, a.bs, a.br, flagGeneralBytes a.pp a.generalBytes]
      ++ a.generalBytes)

def ofBody (body : Bytes) : Except Error AtrRequest := do
  requireLength body 14
  checkGeneralBytes (body.drop 14)
  let nfcid3 ← octetsAt 10 body 0
  let did ← byteAt body 10
  let bs ← byteAt body 11
  let br ← byteAt body 12
  let pp ← byteAt body 13
  return { nfcid3, did, bs, br, pp, generalBytes := body.drop 14 }

def decode (frame : Bytes) : Except Error AtrRequest := do
  ofBody (← unbuildAs .request atrRequest frame)

def info (a : AtrRequest) (mode : DepMode) (baud : BaudRate) : DepInfo :=
  ⟨a.nfcid3, a.did, a.bs, a.br, 0, a.pp, a.generalBytes, mode, baud⟩

def text (a : AtrRequest) : String :=
  Text.record "AtrReq" [
    ("nfcid3", Text.tuple "Nfcid3" [Text.decimals a.nfcid3.toList]),
    ("did", toString a.did.toNat),
    ("bs", toString a.bs.toNat),
    ("br", toString a.br.toNat),
    ("pp", toString a.pp.toNat),
    ("general_bytes", Text.decimals a.generalBytes)]

end AtrRequest

structure AtrAnswer where
  nfcid3 : Nfcid3
  did : UInt8
  bs : UInt8 := allRates
  br : UInt8 := allRates
  timeoutExponent : UInt8 := standardTimeoutExponent
  pp : UInt8 := longestFrames
  generalBytes : Bytes
deriving DecidableEq

namespace AtrAnswer

def encode (a : AtrAnswer) : Except Error Bytes := do
  checkGeneralBytes a.generalBytes
  build .answer atrAnswer
    (a.nfcid3.toList
      ++ [a.did, a.bs, a.br, a.timeoutExponent, flagGeneralBytes a.pp a.generalBytes]
      ++ a.generalBytes)

def decode (frame : Bytes) : Except Error AtrAnswer := do
  let body ← unbuildAs .answer atrAnswer frame
  requireLength body 15
  checkGeneralBytes (body.drop 15)
  let nfcid3 ← octetsAt 10 body 0
  let did ← byteAt body 10
  let bs ← byteAt body 11
  let br ← byteAt body 12
  let timeoutExponent ← byteAt body 13
  let pp ← byteAt body 14
  return { nfcid3, did, bs, br, timeoutExponent, pp, generalBytes := body.drop 15 }

def info (a : AtrAnswer) (mode : DepMode) (baud : BaudRate) : DepInfo :=
  ⟨a.nfcid3, a.did, a.bs, a.br, a.timeoutExponent, a.pp, a.generalBytes, mode, baud⟩

end AtrAnswer

inductive Pfb where
  | information (more : Bool) (pni : UInt8)
  | ack (pni : UInt8)
  | nack (pni : UInt8)
  | attention
  | timeoutExtension
deriving DecidableEq

/-- Packet numbers have two bits. -/
def pniMask : UInt8 := 0x03

def nextPni (pni : UInt8) : UInt8 := (pni + 1) &&& pniMask

namespace Pfb

def toByte : Pfb → UInt8
  | information more pni => (if more then 0x10 else 0) ||| (pni &&& pniMask)
  | ack pni => 0x40 ||| (pni &&& pniMask)
  | nack pni => 0x50 ||| (pni &&& pniMask)
  | attention => 0x80
  | timeoutExtension => 0x90

/-- The three high bits tell the kind, and the bit below them splits it in two. -/
def ofByte (b : UInt8) : Except Error Pfb :=
  let pni := b &&& pniMask
  let flag := b &&& 0x10 != 0
  if b >>> 5 = 0 then .ok (information flag pni)
  else if b >>> 5 = 2 then .ok (if flag then nack pni else ack pni)
  else if b >>> 5 = 4 then .ok (if flag then timeoutExtension else attention)
  else .error (.rfProtocol s!"invalid PFB {Text.Hex.byte b}")

def text : Pfb → String
  | information more pni =>
    Text.record "Information" [("more", Text.truth more), ("pni", toString pni.toNat)]
  | ack pni => Text.record "Ack" [("pni", toString pni.toNat)]
  | nack pni => Text.record "Nack" [("pni", toString pni.toNat)]
  | attention => "Attention"
  | timeoutExtension => "TimeoutExtension"

end Pfb

structure Pdu where
  pfb : Pfb
  payload : Bytes
deriving DecidableEq

namespace Pdu

def information (more : Bool) (pni : UInt8) (payload : Bytes) : Pdu :=
  ⟨.information more pni, payload⟩

def ack (pni : UInt8) : Pdu := ⟨.ack pni, []⟩

def attention : Pdu := ⟨.attention, []⟩

/-- Asks for more time, in multiples of the agreed wait. -/
def timeoutExtension (rtox : UInt8) : Pdu := ⟨.timeoutExtension, [rtox]⟩

def rtox (p : Pdu) : Option UInt8 :=
  match p.pfb with
  | .timeoutExtension => p.payload.head?
  | _ => none

def encode (p : Pdu) (direction : Direction) : Except Error Bytes :=
  build direction direction.dataCode (p.pfb.toByte :: p.payload)

/-- A flagged device identifier and a flagged node address are skipped. -/
def ofBody (body : Bytes) : Except Error Pdu := do
  let raw ← byteAt body 0
  let pfb ← Pfb.ofByte raw
  let skip := 1 + (raw &&& 0x04 != 0).toNat + (raw &&& 0x08 != 0).toNat
  requireLength body skip
  return ⟨pfb, body.drop skip⟩

def decode (frame : Bytes) (direction : Direction) : Except Error Pdu := do
  ofBody (← unbuildAs direction direction.dataCode frame)

def text (p : Pdu) : String :=
  Text.record "DepPdu" [("pfb", p.pfb.text), ("payload", Text.decimals p.payload)]

end Pdu

/-- Ask for one bit rate in both directions and a frame size. -/
def psl (did : UInt8) (baud : BaudRate) (fsl : UInt8) : Except Error Bytes :=
  build .request pslRequest [did, (baud.exponent <<< 3) ||| baud.exponent, fsl &&& 0x03]

def pslDone (did : UInt8) : Except Error Bytes := build .answer pslAnswer [did]

/-- A device identifier is written only when there is one. -/
def didBody (did : UInt8) : Bytes := if did = 0 then [] else [did]

def dsl (did : UInt8) : Except Error Bytes := build .request dslRequest (didBody did)
def dslDone (did : UInt8) : Except Error Bytes := build .answer dslAnswer (didBody did)
def rls (did : UInt8) : Except Error Bytes := build .request rlsRequest (didBody did)
def rlsDone (did : UInt8) : Except Error Bytes := build .answer rlsAnswer (didBody did)

/-- Any frame that an initiator sends. -/
inductive InitiatorFrame where
  | atr (request : AtrRequest)
  | psl (did : UInt8) (baud : BaudRate) (fsl : UInt8)
  | data (pdu : Pdu)
  | dsl
  | rls
deriving DecidableEq

namespace InitiatorFrame

def ofBody (command : UInt8) (body : Bytes) : Except Error InitiatorFrame :=
  if command = atrRequest then (AtrRequest.ofBody body).map atr
  else if command = pslRequest then do
    requireExactLength body 3
    let did ← byteAt body 0
    let rates ← byteAt body 1
    let size ← byteAt body 2
    match BaudRate.ofExponent? (rates &&& 0x07) with
    | none => throw (.rfProtocol s!"PSL bit rate {Text.Hex.byte rates}")
    | some baud => return psl did baud (size &&& 0x03)
  else if command = Direction.request.dataCode then (Pdu.ofBody body).map data
  else if command = dslRequest then .ok dsl
  else if command = rlsRequest then .ok rls
  else .error (.commandNotSupported s!"NFCIP-1 command {Text.Hex.byte command}")

def decode (frame : Bytes) : Except Error InitiatorFrame := do
  let (command, body) ← unbuild .request frame
  ofBody command body

def text : InitiatorFrame → String
  | atr request => Text.tuple "Atr" [request.text]
  | psl did baud fsl =>
    Text.record "Psl" [("did", toString did.toNat), ("baud", baud.name),
      ("fsl", toString fsl.toNat)]
  | data pdu => Text.tuple "Dep" [pdu.text]
  | dsl => "Dsl"
  | rls => "Rls"

end InitiatorFrame

end Contactless.Dep
