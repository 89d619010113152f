import Contactless.Dep.Pieces
import Contactless.Device

/-!
The initiator of the data exchange protocol. It opens a link with attribute frames, and then each
payload it sends is answered with one payload; both are cut into numbered frames where they are too
long for one.
-/
namespace Contactless.Dep

/-- An open link: the target and the next packet number. -/
structure Link where
  info : DepInfo
  pni : UInt8
deriving DecidableEq

structure InitiatorSide where
  device : Device .initiator
  link : Option Link
deriving DecidableEq

structure Linked where
  device : Device .initiator
  link : Link
deriving DecidableEq

/-- Identifier sent when the settings hold none. -/
def standardNfcid3 : Nfcid3 :=
  ⟨[0x6c, 0x69, 0x62, 0x6e, 0x66, 0x63, 0x2d, 0x72, 0x73, 0x00], rfl⟩

/-- The largest multiple of the agreed wait that a target may ask for. -/
def rtoxLimit : UInt8 := 59

/-- The multiple that a data frame asks for. -/
def readRtox (pdu : Pdu) : Except Error UInt8 :=
  match pdu.rtox with
  | none => .error (.rfProtocol "invalid RTOX None")
  | some v =>
    if 1 ≤ v ∧ v ≤ rtoxLimit then .ok v
    else .error (.rfProtocol s!"invalid RTOX {Text.optional (some (toString v.toNat))}")

/-- Send a data frame and take the raw answer. -/
def sendPdu (pdu : Pdu) (wait : Timeout) : Act Chip (Device .initiator) Bytes := do
  let frame ← Act.ofExcept (pdu.encode .request)
  Chip.exchangeBytes frame wait

/-- One look at a raw answer: a request for more time is granted, anything else is the answer. -/
def settle (wait : Timeout) (answer : Bytes) : Act Chip (Device .initiator) (Bytes ⊕ Pdu) := do
  let pdu ← Act.ofExcept (Pdu.decode answer .answer)
  if pdu.pfb = .timeoutExtension then
    let rtox ← Act.ofExcept (readRtox pdu)
    return .inl (← sendPdu (.timeoutExtension rtox) (wait.scale rtox))
  else return .inr pdu

/-- One data frame and its answer, with any requests for more time in between. -/
def roundTrip (pdu : Pdu) (wait : Timeout) : Act Chip (Device .initiator) Pdu := do
  Act.loop (settle wait) (← sendPdu pdu wait)

namespace Linked

def onDevice {α : Type} (x : Act Chip (Device .initiator) α) : Act Chip Linked α :=
  Act.zoom Linked.device (fun device s => { s with device }) x

def roundTrip (pdu : Pdu) : Act Chip Linked Pdu := do
  let s ← get
  onDevice (Dep.roundTrip pdu s.device.config.commandTimeout)

def advance : Act Chip Linked Unit :=
  modify fun s => { s with link := { s.link with pni := nextPni s.link.pni } }

/-- Send a piece that is not the last; the target acknowledges it. -/
def sendPiece (piece : Bytes) : Act Chip Linked Unit := do
  let pni := (← get).link.pni
  let answer ← roundTrip (.information true pni piece)
  if answer.pfb = .ack pni then advance else throw (unexpected answer.pfb pni)

/-- Add a frame to the pieces of the answer, and ask for the next one if there is more. -/
def collect (received : Bytes × Pdu) : Act Chip Linked ((Bytes × Pdu) ⊕ Bytes) := do
  let (payload, answer) := received
  let pni := (← get).link.pni
  match answer.pfb with
  | .information more n =>
    if n = pni then
      advance
      let payload := payload ++ answer.payload
      if more then return .inl (payload, ← roundTrip (.ack (nextPni pni)))
      else return .inr payload
    else throw (unexpected answer.pfb pni)
  | other => throw (unexpected other pni)

def transceive (payload : Bytes) : Act Chip Linked Bytes := do
  let (head, last) := pieces (payloadLimit (← get).link.info.pp) payload
  head.forM sendPiece
  let answer ← roundTrip (.information false (← get).link.pni last)
  Act.loop collect ([], answer)

/-- An attention frame is answered with one. -/
def attention : Act Chip Linked Unit := do
  let answer ← roundTrip .attention
  if answer.pfb ≠ .attention then throw (unexpected answer.pfb 0)

/-- Exchange a frame that is not a data frame. -/
def exchange (frame : Bytes) : Act Chip Linked Bytes :=
  onDevice (Device.exchange frame)

def setBaud (baud : BaudRate) : Act Chip Linked Unit := do
  let info := (← get).link.info
  if baud ∉ info.rates then
    throw (.invalidParameter s!"target does not support {baud.label}")
  let request ← Act.ofExcept (psl info.did baud (info.pp >>> 4))
  let answer ← exchange request
  let _ ← Act.ofExcept (unbuildAs .answer pslAnswer answer)
  modify fun s =>
    let info := { s.link.info with baud }
    { device := { s.device with selected := some (.dep info) }, link := { s.link with info } }

end Linked

namespace InitiatorSide

def new (device : Device .initiator) : InitiatorSide := ⟨device, none⟩

def target (s : InitiatorSide) : Option DepInfo := s.link.map Link.info

def isSelected (s : InitiatorSide) : Bool := s.link.isSome

def onDevice {α : Type} (x : Act Chip (Device .initiator) α) : Act Chip InitiatorSide α :=
  Act.zoom InitiatorSide.device (fun device s => { s with device }) x

/-- Act on the open link, which there has to be. -/
def linked {α : Type} (x : Act Chip Linked α) : Act Chip InitiatorSide α := fun n s =>
  match s.link with
  | none => .done (.error (.invalidParameter "no DEP target selected"), s)
  | some link => (x n ⟨s.device, link⟩).map fun r => (r.1, ⟨r.2.device, some r.2.link⟩)

/-- Release the link, if there is one. It is gone whatever comes of that. -/
def deselect : Act Chip InitiatorSide Unit := do
  match (← get).link with
  | none => return ()
  | some link =>
    modify fun s => { device := { s.device with selected := none }, link := none }
    let request ← Act.ofExcept (rls link.info.did)
    let answer ← onDevice (Device.exchange request)
    let _ ← Act.ofExcept (unbuildAs .answer rlsAnswer answer)

/-- The attribute request of a device. General bytes given here win over those of the settings. -/
def request (c : Config) (generalBytes : Option Bytes) : AtrRequest where
  nfcid3 := c.nfcid3.getD standardNfcid3
  generalBytes := generalBytes.getD c.generalBytes

/-- Open a link after releasing the one there was. Nobody there is no failure. -/
def select (mode : DepMode) (baud : BaudRate) (generalBytes : Option Bytes) (wait : Timeout) :
    Act Chip InitiatorSide (Option Target) := do
  deselect
  let frame ← Act.ofExcept (request (← get).device.config generalBytes).encode
  match ← Chip.silentAsNone (Chip.exchangeBytes frame wait) with
  | none => return none
  | some answer =>
    let info := (← Act.ofExcept (AtrAnswer.decode answer)).info mode baud
    modify fun s =>
      { device := { s.device with selected := some (.dep info) }, link := some ⟨info, 0⟩ }
    return some (.dep info)

/-- Look for a target, without general bytes. -/
def poll (mode : DepMode) (baud : BaudRate) (wait : Timeout) :
    Act Chip InitiatorSide (Option Target) :=
  select mode baud (some []) wait

def setBaud (baud : BaudRate) : Act Chip InitiatorSide Unit := linked (Linked.setBaud baud)

def transceive (payload : Bytes) : Act Chip InitiatorSide Bytes :=
  linked (Linked.transceive payload)

def attention : Act Chip InitiatorSide Unit := linked Linked.attention

end InitiatorSide

end Contactless.Dep
