import Contactless.Field
import Contactless.Target

/-!
Frames between the two halves of a relay. On a byte stream each frame is its kind, the length of its
data as a word, and the data.
-/
namespace Contactless.Relay

inductive LinkFrame where
  | target (t : Target)
  | command (data : Bytes)
  | response (data : Bytes)
  | shutdown
deriving DecidableEq

/-- Answer to request, select acknowledge, identifier with its length, answer to select. Only
type A tags are relayed. -/
def encodeTarget (t : Target) : Except Error Bytes :=
  match t with
  | .typeA atqa sak uid ats =>
    .ok (atqa.toList ++ [sak, UInt8.ofNat uid.bytes.length] ++ uid.bytes ++ ats)
  | other => .error (.deviceNotSupported s!"relaying {other.modulation.technology.name} targets")

def decodeTarget (data : Bytes) : Except Error Target := do
  let atqa ← octetsAt 2 data 0
  let sak ← byteAt data 2
  let size ← byteAt data 3
  let bytes ← sliceAt data 4 size.toNat
  let uid ← Uid.ofBytes bytes
  return .typeA atqa sak uid (data.drop (4 + size.toNat))

namespace LinkFrame

def kind : LinkFrame → UInt8
  | target _ => 0x01
  | command _ => 0x02
  | response _ => 0x03
  | shutdown => 0x04

def data : LinkFrame → Except Error Bytes
  | target t => encodeTarget t
  | command d | response d => .ok d
  | shutdown => .ok []

def encode (f : LinkFrame) : Except Error Bytes := do
  let data ← f.data
  if 0xffff < data.length then throw (.bufferOverflow 0xffff data.length)
  return f.kind :: be16 (UInt16.ofNat data.length) ++ data

def decode (kind : UInt8) (data : Bytes) : Except Error LinkFrame :=
  if kind = 0x01 then (decodeTarget data).map target
  else if kind = 0x02 then .ok (command data)
  else if kind = 0x03 then .ok (response data)
  else if kind = 0x04 then .ok shutdown
  else .error (.rfProtocol s!"relay frame kind {Text.Hex.byte kind}")

end LinkFrame

end Contactless.Relay
