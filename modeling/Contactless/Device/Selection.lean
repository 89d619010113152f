import Contactless.Device
import Contactless.Search
import Contactless.TypeA.Activation

/-!
Selecting, listing, polling for and releasing targets.
-/
namespace Contactless.Device

open TypeA (Activation Activator)

/-- Activate a type A tag and select it. Nothing is selected when nobody answers. -/
def activate (wanted : Option Uid) : Act Chip (Device .initiator) (Option Activation) := do
  let d ← get
  let found ← Act.within (Activator.ofConfig d.config) (Activator.activate wanted)
  select (found.map Activation.target)
  return found

/-- The identifier that narrows a search among type A tags. -/
def wantedUid (hint : Option Bytes) : Except Error (Option Uid) :=
  match hint with
  | none => .ok none
  | some bs => (Uid.ofBytes bs).map some

/-- The system code that narrows a search among FeliCa cards. -/
def wantedSystem (hint : Option Bytes) : Except Error UInt16 :=
  match hint with
  | none => .ok Felica.anySystem
  | some bs => wordAt bs 0

/-- Look for one target of a modulation. A hint narrows the search: an identifier, an application
family or a system code. -/
def find (modulation : Modulation) (hint : Option Bytes) :
    Act Chip (Device .initiator) (Option Target) := do
  let wait ← timeout
  match modulation.technology with
  | .iso14443a =>
    let wanted ← Act.ofExcept (wantedUid hint)
    return (← activate wanted).map Activation.target
  | .iso14443b => Search.typeB ((hint.bind List.head?).getD 0) wait
  | .iso14443b2sr => Search.srx wait
  | .felica =>
    let system ← Act.ofExcept (wantedSystem hint)
    Search.felica modulation.baud system wait
  | .jewel => Search.jewel wait
  | .dep => throw (.invalidParameter "DEP targets are selected through dep::DepInitiator")
  | .iso14443bi | .iso14443b2ct | .barcode =>
    throw (.notImplemented s!"{modulation.technology.name} target selection")

/-- Look for one target and select what was found. A failure leaves the selection as it was. -/
def selectPassive (modulation : Modulation) (hint : Option Bytes) :
    Act Chip (Device .initiator) (Option Target) := do
  let found ← find modulation hint
  select found
  return found

/-- The frame that releases a target: an ISO/IEC 14443-4 session is ended, another type A tag is
halted, and other targets need none. -/
def releaseFrame (t : Target) : Option Bytes :=
  if t.isPart4 then some TypeA.deselect
  else
    match t with
    | .typeA .. => some TypeA.halt
    | _ => none

/-- Send a release frame. A halt is never answered. -/
def sendRelease (frame : Bytes) (answered : Bool) (wait : Timeout) :
    Act Chip (Device .initiator) Unit := do
  match ← (Chip.bytes frame wait).attempt with
  | .ok _ => return ()
  | .error e => if e.isTimeout && !answered then return () else throw e

/-- Release the selected target, if there is one. It is forgotten whatever comes of that. -/
def deselect : Act Chip (Device .initiator) Unit := do
  let d ← get
  match d.selected with
  | none => return ()
  | some t =>
    select none
    match releaseFrame t with
    | none => return ()
    | some frame =>
      Chip.withoutHardwareCrc (sendRelease frame t.isPart4 d.config.commandTimeout)

/-- Up to `max` type A tags, each one halted after its activation so that the next one answers. -/
def listTypeA : Nat → Act Chip (Device .initiator) (List Target)
  | 0 => return []
  | max + 1 => do
    let d ← get
    let found ← Act.within { Activator.ofConfig d.config with wakeup := .reqa }
      (Activator.activate none)
    match found with
    | none => return []
    | some a =>
      select (some a.target)
      deselect
      return a.target :: (← listTypeA max)

/-- Several type A tags, or at most one target of another modulation. -/
def list (modulation : Modulation) (max : Nat) : Act Chip (Device .initiator) (List Target) :=
  if modulation.technology = .iso14443a then listTypeA max
  else do
    return (← selectPassive modulation none).toList

def selectFirst : List Modulation → Act Chip (Device .initiator) (Option Target)
  | [] => return none
  | m :: rest => do
    match ← selectPassive m none with
    | some t => return some t
    | none => selectFirst rest

/-- One round of polling, which a pending abort request prevents. -/
def pollRound (modulations : List Modulation) : Act Chip (Device .initiator) (Option Target) := do
  Chip.checkAbort
  selectFirst modulations

/-- At most so many rounds, with a pause between two. -/
def pollRounds (modulations : List Modulation) (pause : Timeout) :
    Nat → Act Chip (Device .initiator) (Option Target)
  | 0 => return none
  | rounds + 1 => do
    match ← pollRound modulations with
    | some t => return some t
    | none =>
      if rounds = 0 then return none
      else
        Chip.sleep pause
        pollRounds modulations pause rounds

/-- Rounds until a target shows up or somebody requests an abort. They are not counted: without a
limit nothing looks at their number, and a counter of 32 bits would have to go over its top, after
2 ^ 32 rounds, to be noticed at all. -/
def pollUntilFound (modulations : List Modulation) (pause : Timeout) :
    Act Chip (Device .initiator) Target :=
  Act.loop (fun () => do
    match ← pollRound modulations with
    | some t => return .inr t
    | none =>
      Chip.sleep pause
      return .inl ()) ()

/-- Number of attempts that stands for polling without end. -/
def endlessAttempts : UInt8 := 0xff

/-- Try all modulations, round after round. -/
def poll (modulations : List Modulation) (attempts : UInt8) (period : Duration) :
    Act Chip (Device .initiator) (Option Target) :=
  if modulations.isEmpty ∨ attempts = 0 then
    throw (.invalidParameter "poll needs at least one modulation and one attempt")
  else if attempts = endlessAttempts then
    some <$> pollUntilFound modulations (.ofDuration period)
  else pollRounds modulations (.ofDuration period) attempts.toNat

end Contactless.Device
