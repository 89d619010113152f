import Contactless.Device

/-!
Emulating a tag: every command of the reader goes to a card, and the card's reply goes back, until
the card halts, the reader releases it or something fails.
-/
namespace Contactless

inductive Reply where
  /-- Send this, unless it is empty, and go on. -/
  | answer (frame : Bytes)
  /-- The session ends without an answer. -/
  | halt
  | failure (e : Error)
deriving DecidableEq

/-- How a card of some state processes a command. -/
abbrev Card (κ : Type) := Bytes → κ → Reply × κ

namespace Emulation

inductive Stage where
  | uninitialized
  | waitingForActivation
  | active
  | receivedCommand
  | dispatchedResponse
  | halted
  | failed
deriving DecidableEq

def Stage.name : Stage → String
  | .uninitialized => "Uninitialized"
  | .waitingForActivation => "WaitingForActivation"
  | .active => "Active"
  | .receivedCommand => "ReceivedCommand"
  | .dispatchedResponse => "DispatchedResponse"
  | .halted => "Halted"
  | .failed => "Failed"

inductive Exit where
  | halted
  | released
deriving DecidableEq

def Exit.name : Exit → String
  | .halted => "Halted"
  | .released => "Released"

structure Session (κ : Type) where
  device : Device .target
  target : Target
  card : κ
  stage : Stage := .uninitialized
  /-- How many commands the card was given. The number has no top here; a counter of 64 bits takes
  more commands than a session lasts for. -/
  commands : Nat := 0

variable {κ : Type}

def enter (stage : Stage) : Act Chip (Session κ) Unit := modify fun s => { s with stage }

/-- A failure of the action ends the session. -/
def guarded {α : Type} (x : Act Chip (Session κ) α) : Act Chip (Session κ) α :=
  Act.tryCatch x fun e => do
    enter .failed
    throw e

/-- Appear as the target and wait for the first command. -/
def start (wait : Timeout) : Act Chip (Session κ) Bytes := do
  enter .waitingForActivation
  let target := (← get).target
  let first ← guarded <|
    Act.zoom Session.device (fun device s => { s with device }) (Device.arm target wait)
  enter .active
  return first

def process (card : Card κ) (command : Bytes) : Act Chip (Session κ) Reply :=
  modifyGet fun s =>
    let (reply, next) := card command s.card
    (reply, { s with card := next, stage := .receivedCommand, commands := s.commands + 1 })

/-- Receive the next command; absent when the reader released the card. -/
def nextCommand (wait : Timeout) : Act Chip (Session κ) (Option Bytes) := do
  match ← (Chip.receive wait).attempt with
  | .ok command =>
    enter .active
    return some command
  | .error .targetReleased =>
    enter .halted
    return none
  | .error e =>
    enter .failed
    throw e

/-- One command from the card's reply to the next command. -/
def step (card : Card κ) (wait : Timeout) (command : Bytes) :
    Act Chip (Session κ) (Bytes ⊕ Exit) := do
  match ← process card command with
  | .answer frame =>
    if !frame.isEmpty then guarded (Chip.send frame wait)
    enter .dispatchedResponse
    match ← nextCommand wait with
    | some command => return .inl command
    | none => return .inr .released
  | .halt =>
    enter .halted
    return .inr .halted
  | .failure e =>
    enter .failed
    throw e

def run (card : Card κ) (first : Bytes) (wait : Timeout) : Act Chip (Session κ) Exit :=
  Act.loop (step card wait) first

def emulate (card : Card κ) (wait : Timeout) : Act Chip (Session κ) Exit := do
  run card (← start wait) wait

end Emulation

/-- Replies laid out in order; a card that has none left halts. -/
def scriptedCard : Card (List Reply) := fun _ replies =>
  match replies with
  | [] => (.halt, [])
  | r :: rest => (r, rest)

end Contactless
