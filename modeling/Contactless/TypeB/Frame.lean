import Contactless.Field
import Contactless.Target

/-!
Requests and answers of ISO/IEC 14443-3 type B. Checks are left to the chip.
-/
namespace Contactless.TypeB

/-- Request for a family of applications in a single slot; it can also wake halted tags. -/
def reqb (family : UInt8) (wakeup : Bool) : Bytes := [0x05, family, if wakeup then 0x08 else 0x00]

/-- The answer to the request, which tells pseudo identifier, application and protocol. -/
def parseAtqb (frame : Bytes) : Except Error Target := do
  requireLength frame 12
  expectByte frame 0 0x50
  let pupi ← octetsAt 4 frame 1
  let application ← octetsAt 4 frame 5
  let protocol ← octetsAt 3 frame 9
  return .typeB pupi application protocol

end Contactless.TypeB
