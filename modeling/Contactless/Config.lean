import Contactless.Dep.Frame
import Contactless.TypeA.Frame
import Contactless.Timeout

/-!
Settings of a device.
-/
namespace Contactless

structure Config where
  commandTimeout : Timeout := .standard
  targetTimeout : Timeout := .forever
  wakeup : Wakeup := .reqa
  /-- Frame size code in the high half, channel in the low half. -/
  ratsParam : UInt8 := 0x50
  /-- Milliseconds between two rounds of polling. -/
  pollPeriod : UInt64 := 150
  /-- Sent in attribute frames; when absent a value is derived. -/
  nfcid3 : Option Nfcid3 := none
  generalBytes : Bytes := []
  /-- Presented by a relay in place of the identifier of the relayed tag. -/
  relayUid : Option Bytes := none
deriving DecidableEq

namespace Config

/-- The presented identifier, if it has one of the lengths of an identifier. -/
def relayUid? (c : Config) : Except Error (Option Uid) :=
  match c.relayUid with
  | none => .ok none
  | some bs => (Uid.ofBytes bs).map some

/-- Largest frame that the device takes, as a code. -/
def frameSizeCode (c : Config) : UInt8 := c.ratsParam >>> 4

/-- Refuse settings that no reader accepts: frame size codes above 8 are reserved. -/
def validate (c : Config) : Except Error Unit := do
  if (8 : UInt8) < c.frameSizeCode then
    throw (Error.invalidParameter s!"RATS FSDI {c.frameSizeCode.toNat} is reserved")
  Dep.checkGeneralBytes c.generalBytes
  let _ ← c.relayUid?

end Config

end Contactless
