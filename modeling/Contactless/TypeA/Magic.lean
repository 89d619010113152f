import Contactless.Device
import Contactless.TypeA.Frame

/-!
Clones of MIFARE Classic cards with a back door: once it is open, even block zero, which
holds the identifier, can be written.
-/
namespace Contactless.TypeA.Magic

def ackCode : UInt8 := 0x0a

/-- What follows identifier, check byte, select acknowledge and answer to request in block zero. -/
def manufacturerData : Bytes := [0x46, 0x59, 0x25, 0x58, 0x49, 0x10, 0x23, 0x02]

/-- Block zero of a card with an identifier of four bytes. -/
def blockZero (uid : Octets 4) (sak : UInt8) (atqa : Octets 2) : Octets 16 :=
  ⟨uid.toList ++ [bcc uid.toList, sak, atqa.get 1, atqa.get 0] ++ manufacturerData, by
    simp only [List.length_append, uid.length_toList]
    rfl⟩

/-- The low half of the first byte acknowledges, in an answer of at most one byte. -/
def expectAck (frame : BitFrame) : Except Error Unit :=
  match frame.data with
  | [] => .error (.rfProtocol "empty answer where ACK expected")
  | b :: _ =>
    if b &&& 0x0f = ackCode ∧ frame.bits ≤ 8 then .ok ()
    else .error (.unexpectedResponse ackCode b)

def sendAcked (frame : BitFrame) (wait : Timeout) : Act Chip (Device .initiator) Unit := do
  let answer ← Chip.bits frame wait
  Act.ofExcept (expectAck answer)

/-- Talk to the card with frames exactly as built. No target stays selected. -/
def raw (x : Timeout → Act Chip (Device .initiator) Unit) : Act Chip (Device .initiator) Unit := do
  let wait ← Device.timeout
  Device.select none
  Chip.withRawFraming (x wait)

/-- Halt the card, then send the two frames of the back door. A halt is not answered. -/
def unlock : Act Chip (Device .initiator) Unit :=
  raw fun wait => do
    let _ ← Chip.silentAsNone (Chip.bits (.ofBytes TypeA.halt) wait)
    sendAcked TypeA.magicWakeup wait
    sendAcked (.ofBytes [0x43]) wait

def wipe : Act Chip (Device .initiator) Unit :=
  raw fun wait => sendAcked (.ofBytes [0x41]) wait

/-- Write block zero of an unlocked card, in two steps. -/
def writeBlockZero (data : Octets 16) : Act Chip (Device .initiator) Unit :=
  raw fun wait => do
    sendAcked (.ofBytes (TypeA.writeBlock 0)) wait
    sendAcked (.ofBytes (Crc.a.append data.toList)) wait

def setUid (uid : Octets 4) (sak : UInt8) (atqa : Octets 2) :
    Act Chip (Device .initiator) Unit := do
  unlock
  writeBlockZero (blockZero uid sak atqa)

end Contactless.TypeA.Magic
