import Contactless.Chip
import Contactless.Config

/-!
A device: a chip with settings and the target it has selected or appears as. What may be done with
it depends on its mode.
-/
namespace Contactless

inductive Mode where
  | idle
  | initiator
  | target
deriving DecidableEq

structure Device (mode : Mode) where
  config : Config
  /-- The target selected, or the one the chip appears as. -/
  selected : Option Target
deriving DecidableEq

namespace Device

variable {σ : Type} {m : Mode}

/-- The same device in another mode. -/
def turn (d : Device m) (next : Mode) : Device next := ⟨d.config, d.selected⟩

/-- An idle device on a chip, which has to be there and to accept the settings. -/
def attach (present : Bool) (config : Config) : Except Error (Device .idle) :=
  if present then
    match config.validate with
    | .ok () => .ok ⟨config, none⟩
    | .error e => .error e
  else .error .deviceNotFound

/-- Leave the mode; the chip stops answering and the target is forgotten. -/
def idle (d : Device m) : Act Chip σ (Device .idle) := do
  Chip.idle
  return { d.turn .idle with selected := none }

/-- Switch the field on, with framing as it is by default. -/
def asInitiator (d : Device .idle) : Act Chip σ (Device .initiator) := do
  Chip.clearAbort
  Chip.configure .activateField false
  Chip.configure .handleCrc true
  Chip.configure .easyFraming true
  Chip.configure .autoPart4 false
  Chip.configure .infiniteSelect false
  Chip.configure .activateField true
  return d.turn .initiator

/-- Turn to target mode without appearing as a target yet. -/
def asTarget (d : Device .idle) : Act Chip σ (Device .target) := do
  Chip.clearAbort
  return { d.turn .target with selected := none }

def arm (target : Target) (timeout : Timeout) : Act Chip (Device .target) Bytes := do
  modify fun d => { d with selected := some target }
  Chip.arm target timeout

def timeout : Act Chip (Device .initiator) Timeout := do
  return (← get).config.commandTimeout

def select (target : Option Target) : Act Chip (Device .initiator) Unit :=
  modify fun d => { d with selected := target }

def exchange (data : Bytes) : Act Chip (Device .initiator) Bytes := do
  Chip.exchangeBytes data (← timeout)

def exchangeBits (data : Bytes) (count : Nat) : Act Chip (Device .initiator) BitFrame := do
  Chip.exchangeBits data count (← timeout)

end Device

end Contactless
