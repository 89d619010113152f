import Contactless.Device.Selection

/-!
What the two ways of relaying share: finding the tag, and what the reader is shown of it.
-/
namespace Contactless.Relay

/-- The target shown to the reader. An identifier given here replaces the one of the tag. -/
def emulatedTarget (real : Target) (uid : Option Uid) : Except Error Target :=
  match real with
  | .typeA atqa sak own ats => .ok (.typeA atqa sak (uid.getD own) ats)
  | other => .error (.deviceNotSupported
      s!"cannot emulate {other.modulation.technology.name} targets")

/-- The target shown by a device with these settings. -/
def emulatedBy (c : Config) (real : Target) : Except Error Target := do
  emulatedTarget real (← c.relayUid?)

/-- Poll until a type A tag answers. -/
def waitForTag : Act Chip (Device .initiator) Target := do
  let period := Duration.ofMillis (← get).config.pollPeriod
  Device.pollUntilFound [.typeA] (.ofDuration period)

/-- Reasons to stop that are no failure. -/
def isNormalStop : Error → Bool
  | .aborted | .targetReleased => true
  | _ => false

end Contactless.Relay
