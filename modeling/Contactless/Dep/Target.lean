import Contactless.Dep.Pieces
import Contactless.Device

/-!
The target of the data exchange protocol. After the attribute frames it receives one payload and
sends one, in turn, until the initiator releases it.
-/
namespace Contactless.Dep

inductive Turn where
  /-- No attribute frames have been exchanged. -/
  | unlinked
  | receive
  | send
deriving DecidableEq

def Turn.name : Turn → String
  | .unlinked => "Unlinked"
  | .receive => "Receive"
  | .send => "Send"

structure TargetSide where
  device : Device .target
  /-- How the target describes itself. -/
  description : Option DepInfo
  initiator : Option DepInfo
  turn : Turn
  pni : UInt8
deriving DecidableEq

/-- A target with this identifier and general bytes, and otherwise as targets are by default. -/
def describe (nfcid3 : Nfcid3) (generalBytes : Bytes) (mode : DepMode) : Target :=
  .dep ⟨nfcid3, 0, allRates, allRates, standardTimeoutExponent, longestFrames, generalBytes, mode,
    .baud106⟩

namespace TargetSide

def new (device : Device .target) : TargetSide := ⟨device, none, none, .unlinked, 0⟩

/-- A target on an idle device. -/
def ofIdle {σ : Type} (device : Device .idle) : Act Chip σ TargetSide := do
  return new (← device.asTarget)

def initiatorGeneralBytes (s : TargetSide) : Bytes :=
  match s.initiator with
  | some i => i.generalBytes
  | none => []

def did (s : TargetSide) : UInt8 :=
  match s.initiator with
  | some i => i.did
  | none => 0

/-- Most payload bytes of a frame to the initiator. -/
def limit (s : TargetSide) : Nat :=
  match s.initiator with
  | some i => payloadLimit i.pp
  | none => payloadLimit longestFrames

def onDevice {α : Type} (x : Act Chip (Device .target) α) : Act Chip TargetSide α :=
  Act.zoom TargetSide.device (fun device s => { s with device }) x

def sendFrame (frame : Except Error Bytes) (wait : Timeout) : Act Chip TargetSide Unit := do
  Chip.send (← Act.ofExcept frame) wait

def receiveFrame (wait : Timeout) : Act Chip TargetSide InitiatorFrame := do
  let frame ← Chip.receive wait
  Act.ofExcept (InitiatorFrame.decode frame)

/-- Describe the target to an initiator, and start the exchange afresh. -/
def answerAtr (request : AtrRequest) (wait : Timeout) : Act Chip TargetSide Unit := do
  match (← get).description with
  | none => throw (.invalidParameter "DEP target not initialised")
  | some own =>
    let answer : AtrAnswer :=
      { nfcid3 := own.nfcid3, did := request.did, generalBytes := own.generalBytes }
    sendFrame answer.encode wait
    modify fun s => { s with
      initiator := some (request.info own.mode own.baud)
      turn := .receive
      pni := 0 }

/-- Answer the first frame, which has to be an attribute request. -/
def greet (first : Bytes) (wait : Timeout) : Act Chip TargetSide Unit := do
  match ← Act.ofExcept (InitiatorFrame.decode first) with
  | .atr request => answerAtr request wait
  | other => throw (.rfProtocol s!"ATR_REQ expected, got {other.text}")

/-- Appear as a target and link with the first initiator; the result is its first frame. -/
def init (target : Target) (wait : Timeout) : Act Chip TargetSide Bytes := do
  match target with
  | .dep own =>
    modify fun s => { s with turn := .unlinked, initiator := none, description := some own }
    let first ← onDevice (Device.arm target wait)
    greet first wait
    return first
  | other => throw (.invalidParameter
      s!"DEP target expected, got {other.modulation.technology.name}")

def release {α : Type} (answer : Except Error Bytes) (wait : Timeout) : Act Chip TargetSide α := do
  sendFrame answer wait
  modify fun s => { s with turn := .unlinked, initiator := none }
  throw .targetReleased

def setBaud (s : TargetSide) (baud : BaudRate) : TargetSide :=
  { s with initiator := s.initiator.map fun i => { i with baud } }

def advance : Act Chip TargetSide Unit := modify fun s => { s with pni := nextPni s.pni }

/-- A data frame while the target receives. The pieces so far go on with the frame's payload or are
complete. -/
def receiveData (received : Bytes) (pdu : Pdu) (wait : Timeout) :
    Act Chip TargetSide (Bytes ⊕ Bytes) := do
  let pni := (← get).pni
  match pdu.pfb with
  | .information more n =>
    if n = pni then
      let received := received ++ pdu.payload
      if more then
        sendFrame ((Pdu.ack pni).encode .answer) wait
        advance
        return .inl received
      else
        modify fun s => { s with turn := .send }
        return .inr received
    else throw (unexpected pdu.pfb pni)
  | .attention =>
    sendFrame (Pdu.attention.encode .answer) wait
    return .inl received
  | other => throw (unexpected other pni)

/-- One frame while the target receives. A new attribute request starts afresh. -/
def receiveStep (wait : Timeout) (received : Bytes) : Act Chip TargetSide (Bytes ⊕ Bytes) := do
  match ← receiveFrame wait with
  | .data pdu => receiveData received pdu wait
  | .psl did baud _ =>
    sendFrame (pslDone did) wait
    modify fun s => s.setBaud baud
    return .inl received
  | .atr request =>
    answerAtr request wait
    return .inl []
  | .dsl => release (dslDone (← get).did) wait
  | .rls => release (rlsDone (← get).did) wait

/-- Receive the next payload. An initiator that releases the target ends the wait with a failure. -/
def receive (wait : Timeout) : Act Chip TargetSide Bytes := do
  let turn := (← get).turn
  if turn ≠ .receive then
    throw (.invalidParameter s!"receive called while the target expects {turn.name}")
  Act.loop (receiveStep wait) []

def expectAck (wait : Timeout) : Act Chip TargetSide Unit := do
  let frame ← receiveFrame wait
  let pni := (← get).pni
  let acknowledged :=
    match frame with
    | .data pdu => pdu.pfb == .ack pni
    | _ => false
  if !acknowledged then throw (.rfProtocol s!"ACK {pni.toNat} expected, got {frame.text}")

def sendPiece (wait : Timeout) (more : Bool) (piece : Bytes) : Act Chip TargetSide Unit := do
  sendFrame ((Pdu.information more (← get).pni piece).encode .answer) wait
  advance
  if more then expectAck wait

def send (payload : Bytes) (wait : Timeout) : Act Chip TargetSide Unit := do
  let s ← get
  if s.turn ≠ .send then
    throw (.invalidParameter s!"send called while the target expects {s.turn.name}")
  let (head, last) := pieces s.limit payload
  head.forM (sendPiece wait true)
  sendPiece wait false last
  modify fun s => { s with turn := .receive }

/-- Ask the initiator for more time before the pending answer. -/
def requestTime (rtox : UInt8) (wait : Timeout) : Act Chip TargetSide Unit := do
  if (← get).turn ≠ .send then
    throw (.invalidParameter "RTOX is only valid while an answer is pending")
  sendFrame ((Pdu.timeoutExtension rtox).encode .answer) wait
  let frame ← receiveFrame wait
  let granted :=
    match frame with
    | .data pdu => pdu.rtox == some rtox
    | _ => false
  if !granted then throw (.rfProtocol s!"RTOX {rtox.toNat} echo expected, got {frame.text}")

def idle {σ : Type} (s : TargetSide) : Act Chip σ (Device .idle) := s.device.idle

end TargetSide

end Contactless.Dep
