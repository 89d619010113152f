import Contactless.Dep.Initiator
import Contactless.Device.Selection
import Contactless.Felica.Card
import Contactless.Jewel.Tag
import Contactless.Proofs.Transcript
import Contactless.TypeA.Magic
import Contactless.TypeB.SrxTag

/-! Everything that may be asked of a device as an initiator, and what happens when operations are
asked of it one after the other. Results are left out; failures are not. -/
namespace Contactless

/-- An action whose result does not matter. -/
def Act.quiet {I : Interface} {σ α : Type} (x : Act I σ α) : Act I σ Unit := do
  let _ ← x

namespace TypeA.Magic

inductive Operation where
  | unlock
  | wipe
  | writeBlockZero (data : Octets 16)
  | setUid (uid : Octets 4) (sak : UInt8) (atqa : Octets 2)

def Operation.run : Operation → Act Chip (Device .initiator) Unit
  | .unlock => Magic.unlock
  | .wipe => Magic.wipe
  | .writeBlockZero data => Magic.writeBlockZero data
  | .setUid uid sak atqa => Magic.setUid uid sak atqa

end TypeA.Magic

namespace Srx.Tag

inductive Operation where
  | info
  | readBlock (block : UInt8)
  | writeBlock (block : UInt8) (data : Bytes)
  | complete

def Operation.run : Operation → Act Chip (Device .initiator) Unit
  | .info => Tag.info.quiet
  | .readBlock block => (Tag.readBlock block).quiet
  | .writeBlock block data => Tag.writeBlock block data
  | .complete => Tag.complete

end Srx.Tag

namespace Felica.Card

inductive Operation where
  | idm
  | read (services : List UInt16) (blocks : List BlockElement)
  | write (services : List UInt16) (blocks : List BlockElement) (data : List BlockData)

def Operation.run : Operation → Act Chip (Device .initiator) Unit
  | .idm => Card.idm.quiet
  | .read services blocks => (Card.read services blocks).quiet
  | .write services blocks data => Card.write services blocks data

end Felica.Card

namespace Jewel.Tag

inductive Operation where
  | exchange (request : Request)
  | readAll
  | readByte (block byte : UInt8)
  | writeByte (block byte data : UInt8) (erase : Bool)
  | readBlock (block : UInt8)
  | writeBlock (block : UInt8) (data : Octets 8) (erase : Bool)
  | restore (dump : Dump)

def Operation.run : Operation → Act Chip (Device .initiator) Unit
  | .exchange request => (exchangeSelected request).quiet
  | .readAll => Tag.readAll.quiet
  | .readByte block byte => (Tag.readByte block byte).quiet
  | .writeByte block byte data erase => Tag.writeByte block byte data erase
  | .readBlock block => (Tag.readBlock block).quiet
  | .writeBlock block data erase => Tag.writeBlock block data erase
  | .restore dump => Tag.restore dump

end Jewel.Tag

namespace Dep.InitiatorSide

inductive Operation where
  | select (mode : DepMode) (baud : BaudRate) (generalBytes : Option Bytes) (wait : Timeout)
  | poll (mode : DepMode) (baud : BaudRate) (wait : Timeout)
  | setBaud (baud : BaudRate)
  | transceive (payload : Bytes)
  | attention
  | deselect

/-- Does the operation look for a target? -/
def Operation.searches : Operation → Bool
  | .select .. | .poll .. => true
  | _ => false

def Operation.run : Operation → Act Chip InitiatorSide Unit
  | .select mode baud generalBytes wait => (InitiatorSide.select mode baud generalBytes wait).quiet
  | .poll mode baud wait => (InitiatorSide.poll mode baud wait).quiet
  | .setBaud baud => InitiatorSide.setBaud baud
  | .transceive payload => (InitiatorSide.transceive payload).quiet
  | .attention => InitiatorSide.attention
  | .deselect => InitiatorSide.deselect

end Dep.InitiatorSide

/-- What may be asked of a device as an initiator. A link of the data exchange that is open stays
so until it is dropped or released. -/
inductive Operation where
  | settings (config : Config)
  | activate (wanted : Option Uid)
  | select (modulation : Modulation) (hint : Option Bytes)
  | list (modulation : Modulation) (max : Nat)
  | poll (modulations : List Modulation) (attempts : UInt8) (period : Duration)
  | deselect
  /-- Without a wait of its own an exchange takes the one of the settings. -/
  | bytes (data : Bytes) (wait : Option Timeout)
  | bits (data : Bytes) (count : Nat)
  | magic (operation : TypeA.Magic.Operation)
  | srx (operation : Srx.Tag.Operation)
  | felica (operation : Felica.Card.Operation)
  | jewel (operation : Jewel.Tag.Operation)
  | dep (operation : Dep.InitiatorSide.Operation)
  /-- Give the device back without a word to the target of the data exchange. -/
  | dropLink

namespace Operation

open Dep.InitiatorSide (onDevice)

def run : Operation → Act Chip Dep.InitiatorSide Unit
  | settings config => onDevice (modify fun d => { d with config })
  | activate wanted => onDevice (Device.activate wanted).quiet
  | select modulation hint => onDevice (Device.selectPassive modulation hint).quiet
  | list modulation max => onDevice (Device.list modulation max).quiet
  | poll modulations attempts period => onDevice (Device.poll modulations attempts period).quiet
  | deselect => onDevice Device.deselect
  | bytes data (some wait) => onDevice (Chip.exchangeBytes data wait).quiet
  | bytes data none => onDevice (Device.exchange data).quiet
  | bits data count => onDevice (Device.exchangeBits data count).quiet
  | magic operation => onDevice operation.run
  | srx operation => onDevice operation.run
  | felica operation => onDevice operation.run
  | jewel operation => onDevice operation.run
  | dep operation => operation.run
  | dropLink => modify fun s => { s with link := none }

end Operation

/-- Operations one after the other, each one to its end, with whatever it came to. -/
inductive Performed : Dep.InitiatorSide → List Chip.Event → Dep.InitiatorSide → Prop
  | none (s : Dep.InitiatorSide) : Performed s [] s
  | more {s s' s'' : Dep.InitiatorSide} {t u : List Chip.Event} {r : Except Error Unit}
      (operation : Operation) : Performed s t s' → operation.run.Yields s' u r s'' →
      Performed s (t ++ u) s''

end Contactless
