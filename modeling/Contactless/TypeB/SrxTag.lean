import Contactless.Device
import Contactless.TypeB.Srx

/-!
Block access to the selected SRx tag. Checks are computed here and not by the chip.
-/
namespace Contactless.Srx.Tag

def info : Act Chip (Device .initiator) ChipInfo := do
  match (← get).selected with
  | none => throw (.invalidParameter "no SRx tag selected")
  | some t => Act.ofExcept (targetInfo t)

def checkBlock (c : ChipInfo) (block : UInt8) : Except Error Unit :=
  if c.contains block then .ok ()
  else .error (.invalidParameter s!"{c.name} has no block {block.toNat}")

def readBlockOf (c : ChipInfo) (block : UInt8) : Act Chip (Device .initiator) Bytes := do
  Act.ofExcept (checkBlock c block)
  let wait ← Device.timeout
  let data ← Chip.withoutHardwareCrc (Chip.exchangeChecked .b (Srx.readBlock block) wait)
  Act.ofExcept (requireExactLength data c.blockSize.bytes)
  return data

def readBlock (block : UInt8) : Act Chip (Device .initiator) Bytes := do
  readBlockOf (← info) block

/-- Send a frame that may stay unanswered. -/
def sendSilent (frame : Bytes) (wait : Timeout) : Act Chip (Device .initiator) Unit :=
  Chip.withoutHardwareCrc do
    let _ ← Chip.silentAsNone (Chip.exchangeChecked .b frame wait)

/-- Programming time of one block. -/
def writeCycle : Timeout := .millis 5

/-- Write one block and read it back. The write itself is never answered. -/
def writeBlock (block : UInt8) (data : Bytes) : Act Chip (Device .initiator) Unit := do
  let c ← info
  Act.ofExcept (checkBlock c block)
  let frame ← Act.ofExcept (Srx.writeBlock block data c.blockSize)
  sendSilent frame (← Device.timeout)
  Chip.sleep writeCycle
  let held ← readBlockOf c block
  if held ≠ data then
    throw (.rfProtocol (s!"block {block.toNat} reads back {Text.Hex.spaced held}"
      ++ s!" after writing {Text.Hex.spaced data}"))

/-- Silence the tag until the field is reset, and forget it. -/
def complete : Act Chip (Device .initiator) Unit := do
  let _ ← info
  sendSilent Srx.completion (← Device.timeout)
  Device.select none

end Contactless.Srx.Tag
