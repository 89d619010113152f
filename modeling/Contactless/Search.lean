import Contactless.Chip
import Contactless.Felica.Frame
import Contactless.Jewel.Frame
import Contactless.TypeA.Frame
import Contactless.TypeB.Frame
import Contactless.TypeB.Srx

/-!
Looking for one target of a technology other than type A. A search finds nothing when its first
frame stays unanswered; silence later on is a failure.
-/
namespace Contactless.Search

variable {σ : Type}

def typeB (family : UInt8) (timeout : Timeout) : Act Chip σ (Option Target) := do
  match ← Chip.silentAsNone (Chip.bytes (TypeB.reqb family false) timeout) with
  | none => return none
  | some answer => return some (← Act.ofExcept (TypeB.parseAtqb answer))

/-- The single byte with which SRx tags answer. -/
def chipId (answer : Bytes) : Except Error UInt8 := do
  requireExactLength answer 1
  byteAt answer 0

/-- Exchanges of the SRx search, with checks left to it. -/
def srxUnchecked (timeout : Timeout) : Act Chip σ (Option Target) := do
  match ← Chip.silentAsNone (Chip.exchangeChecked .b Srx.initiate timeout) with
  | none => return none
  | some answer =>
    let chip ← Act.ofExcept (chipId answer)
    let selected ← Chip.exchangeChecked .b (Srx.select chip) timeout
    Act.ofExcept do
      requireExactLength selected 1
      expectByte selected 0 chip
    let uid ← Chip.exchangeChecked .b Srx.getUid timeout
    return some (← Act.ofExcept (Srx.parseUid uid))

def srx (timeout : Timeout) : Act Chip σ (Option Target) :=
  Chip.withoutHardwareCrc (srxUnchecked timeout)

/-- Cards of a FeliCa system, in a single slot. The system code is asked for; a card that does not
tell it has the one it was called by. -/
def felica (baud : BaudRate) (system : UInt16) (timeout : Timeout) :
    Act Chip σ (Option Target) := do
  match ← Chip.silentAsNone (Chip.bytes (Felica.polling system 1 0) timeout) with
  | none => return none
  | some answer =>
    let card ← Act.ofExcept (Felica.decodePolling answer)
    return some (.felica card.idm card.pmm (card.systemCode.getD system) baud)

/-- Jewel tags skip anti-collision: wake-up, then the identifier. -/
def jewel (timeout : Timeout) : Act Chip σ (Option Target) := do
  match ← Chip.silentAsNone (Chip.bits TypeA.reqa timeout) with
  | none => return none
  | some frame =>
    let atqa ← Act.ofExcept (octetsAt 2 frame.data 0)
    let answer ← Chip.bytes Jewel.Request.rid.encode timeout
    match ← Act.ofExcept (Jewel.Response.decode Jewel.Request.rid.code answer) with
    | .rid _ uid => return some (.jewel atqa uid)
    | _ => throw (.rfProtocol "RID answer expected")

end Contactless.Search
