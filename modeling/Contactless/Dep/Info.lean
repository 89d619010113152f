import Contactless.Modulation

/-!
Description of a peer of the data exchange protocol (NFCIP-1).
-/
namespace Contactless

inductive DepMode where
  | passive
  | active
deriving DecidableEq

def DepMode.name : DepMode → String
  | .passive => "Passive"
  | .active => "Active"

abbrev Nfcid3 := Octets 10

structure DepInfo where
  nfcid3 : Nfcid3
  did : UInt8
  /-- Bit rates the peer can send. -/
  bs : UInt8
  /-- Bit rates the peer can receive. -/
  br : UInt8
  /-- Given by targets only. -/
  timeoutExponent : UInt8
  /-- Length reduction and general-bytes flag. -/
  pp : UInt8
  generalBytes : Bytes
  mode : DepMode
  baud : BaudRate
deriving DecidableEq

/-- Bit rates usable in both directions; 106 kbps always is. -/
def DepInfo.rates (i : DepInfo) : List BaudRate :=
  let both (flag : UInt8) : Bool := i.bs &&& flag != 0 && i.br &&& flag != 0
  .baud106 :: ([(0x01, .baud212), (0x02, .baud424), (0x04, .baud847)].filter
    fun (r : UInt8 × BaudRate) => both r.1).map (·.2)

end Contactless
