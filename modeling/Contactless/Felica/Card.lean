import Contactless.Device
import Contactless.Felica.Frame

/-!
Block access to the selected FeliCa card.
-/
namespace Contactless.Felica.Card

def idm : Act Chip (Device .initiator) Idm := do
  match (← get).selected with
  | some (.felica idm _ _ _) => return idm
  | _ => throw (.invalidParameter "no FeliCa card selected")

/-- As many blocks as were asked for. -/
def checkCount (blocks : List BlockElement) (data : List BlockData) :
    Except Error (List BlockData) :=
  if data.length = blocks.length then .ok data
  else .error (.invalidLength blocks.length data.length)

def read (services : List UInt16) (blocks : List BlockElement) :
    Act Chip (Device .initiator) (List BlockData) := do
  let card ← idm
  let request ← Act.ofExcept (check card services blocks)
  let answer ← Device.exchange request
  let data ← Act.ofExcept (decodeCheck answer card)
  Act.ofExcept (checkCount blocks data)

def write (services : List UInt16) (blocks : List BlockElement) (data : List BlockData) :
    Act Chip (Device .initiator) Unit := do
  let card ← idm
  let request ← Act.ofExcept (update card services blocks data)
  let answer ← Device.exchange request
  Act.ofExcept (decodeUpdate answer card)

end Contactless.Felica.Card
