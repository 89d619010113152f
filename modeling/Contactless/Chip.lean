import Contactless.Act
import Contactless.BitFrame
import Contactless.Crc
import Contactless.Target
import Contactless.Timeout

/-!
What a reader chip is asked to do, as an initiator and as an emulated target, and exchanges with
the frame sizes a chip can hold.
-/
namespace Contactless

/-- Chip settings that change how frames travel. -/
inductive Switch where
  /-- Append a check on sending, verify and remove it on receiving. -/
  | handleCrc
  /-- Let the chip add framing bytes. -/
  | easyFraming
  /-- Let the chip open an ISO/IEC 14443-4 session by itself. -/
  | autoPart4
  /-- Keep looking until a target shows up. -/
  | infiniteSelect
  /-- The radio field. -/
  | activateField
deriving DecidableEq

def Switch.all : List Switch :=
  [.handleCrc, .easyFraming, .autoPart4, .infiniteSelect, .activateField]

def Switch.name : Switch → String
  | .handleCrc => "HandleCrc"
  | .easyFraming => "EasyFraming"
  | .autoPart4 => "AutoIso14443Part4"
  | .infiniteSelect => "InfiniteSelect"
  | .activateField => "ActivateField"

namespace Chip

inductive Call where
  | bits (frame : BitFrame) (timeout : Timeout)
  | bytes (frame : Bytes) (timeout : Timeout)
  | configure (switch : Switch) (on : Bool)
  /-- Appear as a target and wait for the first frame that is meant for the host. -/
  | arm (target : Target) (timeout : Timeout)
  | receive (timeout : Timeout)
  | send (frame : Bytes) (timeout : Timeout)
  | idle
  | abortPending
  /-- Take back a pending abort request; the answer tells whether there was one. -/
  | checkAbort
  | clearAbort
  /-- The answer tells whether an abort request ended the sleep. -/
  | sleep (timeout : Timeout)

abbrev Call.Answer : Call → Type
  | bits .. => Except Error BitFrame
  | bytes .. | arm .. | receive .. => Except Error Bytes
  | configure .. | send .. | idle | abortPending => Except Error Unit
  | checkAbort | sleep _ => Bool
  | clearAbort => Unit

end Chip

abbrev Chip : Interface := ⟨Chip.Call, Chip.Call.Answer⟩

namespace Chip

variable {σ α : Type}

/-- Ask, and fail as the answer does. -/
def request (call : Call) (value : call.Answer → Except Error α) : Act Chip σ α := fun _ s =>
  .ask call fun a => .done (value a, s)

def bits (frame : BitFrame) (timeout : Timeout) : Act Chip σ BitFrame :=
  request (.bits frame timeout) id

def bytes (frame : Bytes) (timeout : Timeout) : Act Chip σ Bytes :=
  request (.bytes frame timeout) id

def configure (switch : Switch) (on : Bool) : Act Chip σ Unit := request (.configure switch on) id

def arm (target : Target) (timeout : Timeout) : Act Chip σ Bytes :=
  request (.arm target timeout) id

def receive (timeout : Timeout) : Act Chip σ Bytes := request (.receive timeout) id

def send (frame : Bytes) (timeout : Timeout) : Act Chip σ Unit := request (.send frame timeout) id

def idle : Act Chip σ Unit := request .idle id

def abortPending : Act Chip σ Unit := request .abortPending id

/-- Fail when an abort request is pending, and take it back. -/
def checkAbort : Act Chip σ Unit :=
  request .checkAbort fun (pending : Bool) => if pending then .error .aborted else .ok ()

def clearAbort : Act Chip σ Unit := request .clearAbort .ok

def sleep (timeout : Timeout) : Act Chip σ Unit :=
  request (.sleep timeout) fun (cutShort : Bool) => if cutShort then .error .aborted else .ok ()

/-- The largest frame of a classic exchange. -/
def frameLimit : Nat := 264

def exchangeFrame (frame : BitFrame) (timeout : Timeout) : Act Chip σ BitFrame :=
  if frameLimit < frame.byteLength then throw (.bufferOverflow frameLimit frame.byteLength)
  else bits frame timeout

def exchangeBits (data : Bytes) (count : Nat) (timeout : Timeout) : Act Chip σ BitFrame :=
  if count = 0 ∨ data.length * 8 < count then
    throw (.invalidParameter s!"{count} bits requested from a {data.length}-byte frame")
  else do
    let frame ← Act.ofExcept (BitFrame.ofBits (data.take ((count + 7) / 8)) count)
    exchangeFrame frame timeout

/-- Exchange whole bytes, at least one and no more than the chip can hold. -/
def exchangeBytes (data : Bytes) (timeout : Timeout) : Act Chip σ Bytes :=
  if data.isEmpty then throw (.invalidParameter "empty frame")
  else if frameLimit < data.length then throw (.bufferOverflow frameLimit data.length)
  else bytes data timeout

/-- Exchange a frame whose check is added here, and verified and removed in the answer. -/
def exchangeChecked (crc : Crc) (data : Bytes) (timeout : Timeout) : Act Chip σ Bytes := do
  let answer ← bytes (crc.append data) timeout
  Act.ofExcept (crc.strip answer)

/-- What remains when an action and the restoring that follows it may both fail. -/
def firstFailure (outcome : Except Error α) (restored : Except Error Unit) : Except Error α :=
  match outcome, restored with
  | .error e, _ => .error e
  | .ok _, .error e => .error e
  | .ok a, .ok () => .ok a

/-- Run an action with checks left to it, and give them back to the chip whatever it did. -/
def withoutHardwareCrc (x : Act Chip σ α) : Act Chip σ α := do
  configure .handleCrc false
  let outcome ← x.attempt
  let restored ← (configure .handleCrc true).attempt
  Act.ofExcept (firstFailure outcome restored)

def restoreFraming : Act Chip σ Unit := do
  configure .handleCrc true
  configure .easyFraming true

/-- Run an action whose frames go out exactly as built. -/
def withRawFraming (x : Act Chip σ α) : Act Chip σ α := do
  configure .handleCrc false
  configure .easyFraming false
  let outcome ← x.attempt
  let restored ← restoreFraming.attempt
  Act.ofExcept (firstFailure outcome restored)

/-- Silence means that nobody is there. -/
def silentAsNone (x : Act Chip σ α) : Act Chip σ (Option α) := do
  match ← x.attempt with
  | .ok a => return some a
  | .error e => if e.isTimeout then return none else throw e

end Chip

end Contactless
