import Contactless.Relay.Emulated

/-!
A relay in one process: one device reads the tag, the other shows it to a reader. Commands and
answers pass unchanged and strictly in order.
-/
namespace Contactless.Relay

/-- The tag's chip, and the chip that faces the reader. -/
abbrev Chips : Interface := Chip.sum Chip

structure Stats where
  target : Option Target := none
  /-- Exchanges that went all the way; as for the commands of a session, a number without a top. -/
  exchanges : Nat := 0
deriving DecidableEq

structure Devices where
  initiator : Device .initiator
  target : Device .target
  stats : Stats := {}
deriving DecidableEq

variable {α : Type}

def onTag (x : Act Chip (Device .initiator) α) : Act Chips Devices α :=
  Act.zoom Devices.initiator (fun initiator d => { d with initiator }) x.left

def onReader (x : Act Chip (Device .target) α) : Act Chips Devices α :=
  Act.zoom Devices.target (fun target d => { d with target }) x.right

/-- Pass one command to the tag and its answer to the reader, and wait for the next command. -/
def passOn (wait : Timeout) (command : Bytes) : Act Chips Devices (Bytes ⊕ Empty) := do
  let answer ← onTag (Device.exchange command)
  onReader (Chip.send answer wait)
  modify fun d => { d with stats := { d.stats with exchanges := d.stats.exchanges + 1 } }
  return .inl (← onReader (Chip.receive wait))

/-- Find the tag, show it to the reader and pass on commands. Only a failure ends this. -/
def session : Act Chips Devices Empty := do
  let real ← onTag waitForTag
  let config := (← get).target.config
  let shown ← Act.ofExcept (emulatedBy config real)
  modify fun d => { d with stats := { d.stats with target := some real } }
  let first ← onReader (Device.arm shown config.targetTimeout)
  Act.loop (passOn config.targetTimeout) first

/-- Relay until stopped, until the reader releases the tag or until something fails. No abort
request stays pending. -/
def run : Act Chips Devices Stats := do
  modify fun d => { d with stats := {} }
  let outcome ← session.attempt
  onTag Chip.clearAbort
  onReader Chip.clearAbort
  match outcome with
  | .ok nothing => nomatch nothing
  | .error e => if isNormalStop e then return (← get).stats else throw e

end Contactless.Relay
