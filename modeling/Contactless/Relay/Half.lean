import Contactless.Relay.Emulated
import Contactless.Relay.Link

/-!
The two halves of a relay whose tag and reader are served by different processes. One half reads
the tag and answers the commands that come over the link; the other shows the tag to the reader and
sends its commands.
-/
namespace Contactless.Relay

/-- A chip and the link to the other half. -/
abbrev ChipAndLink : Interface := Chip.sum Link

variable {σ α : Type}

def onChip (x : Act Chip σ α) : Act ChipAndLink σ α := x.left

def sendLink (frame : LinkFrame) : Act ChipAndLink σ Unit := (Link.send frame).right

/-- The next frame of the other half, however long it takes. -/
def recvLink : Act ChipAndLink σ LinkFrame := (Link.recv .forever).right

def unexpected (frame : LinkFrame) : Error :=
  .rfProtocol s!"unexpected relay frame kind {Text.Hex.byte frame.kind}"

/-- Tell the other half that this one stops; whether that succeeds does not matter. -/
def sayGoodbye : Act ChipAndLink σ Unit := do
  let _ ← (sendLink .shutdown).attempt

/-- Stop with a failure, after telling the other half. -/
def shutDown (e : Error) : Act ChipAndLink σ α := do
  sayGoodbye
  throw e

/-- The value of an outcome; a failure stops this half. -/
def orShutDown (outcome : Except Error α) : Act ChipAndLink σ α :=
  match outcome with
  | .ok a => pure a
  | .error e => shutDown e

namespace InitiatorHalf

/-- Answer one command. The number of commands answered, which has no top, goes on or is final. -/
def serve (served : Nat) : Act ChipAndLink (Device .initiator) (Nat ⊕ Nat) := do
  match ← recvLink with
  | .command command =>
    let answer ← orShutDown (← (onChip (Device.exchange command)).attempt)
    sendLink (.response answer)
    return .inl (served + 1)
  | .shutdown => return .inr served
  | other => shutDown (unexpected other)

/-- Describe the tag to the other half, then answer commands until it stops. The result is their
number. -/
def run : Act ChipAndLink (Device .initiator) Nat := do
  let real ← orShutDown (← (onChip waitForTag).attempt)
  sendLink (.target real)
  Act.loop serve 0

end InitiatorHalf

/-- The half that faces the reader. -/
structure TargetHalf where
  device : Device .target
  /-- Answers handed to the reader, a number without a top. -/
  exchanged : Nat := 0
deriving DecidableEq

namespace TargetHalf

def onDevice (x : Act Chip (Device .target) α) : Act ChipAndLink TargetHalf α :=
  Act.zoom TargetHalf.device (fun device h => { h with device }) (onChip x)

/-- Send one command to the other half, hand its answer to the reader and wait for the next
command. -/
def passOn (wait : Timeout) (command : Bytes) : Act ChipAndLink TargetHalf (Bytes ⊕ Unit) := do
  sendLink (.command command)
  match ← recvLink with
  | .response answer =>
    onDevice (Chip.send answer wait)
    modify fun h => { h with exchanged := h.exchanged + 1 }
    return .inl (← onDevice (Chip.receive wait))
  | .shutdown => return .inr ()
  | other => throw (unexpected other)

/-- Show the described tag to the reader and pass on commands. -/
def emulate (real : Target) : Act ChipAndLink TargetHalf Unit := do
  let config := (← get).device.config
  let shown ← Act.ofExcept (emulatedBy config real)
  let first ← onDevice (Device.arm shown config.targetTimeout)
  Act.loop (passOn config.targetTimeout) first

/-- Wait for the description of the tag and emulate it; it ends early when the other half stops. -/
def session : Act ChipAndLink TargetHalf Unit := do
  match ← recvLink with
  | .target real => emulate real
  | .shutdown => return ()
  | other => throw (unexpected other)

/-- Pass on commands until the reader releases the tag, the device is aborted or the other half
stops. The result is the number of exchanges. -/
def run : Act ChipAndLink TargetHalf Nat := do
  modify fun h => { h with exchanged := 0 }
  match ← session.attempt with
  | .ok () => return (← get).exchanged
  | .error e =>
    sayGoodbye
    if isNormalStop e then
      onDevice Chip.clearAbort
      return (← get).exchanged
    else throw e

end TargetHalf

end Contactless.Relay
