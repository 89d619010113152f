import Contactless.Dep.Frame

/-!
Cutting a payload that is too long for one frame.
-/
namespace Contactless.Dep

/-- All pieces of `n` bytes but the last, and the last one, which has at most `n` bytes. The last
piece is empty only when the payload is. -/
def pieces (n : Nat) (payload : Bytes) : List Bytes × Bytes :=
  if n = 0 ∨ payload.length ≤ n then ([], payload)
  else
    let (head, last) := pieces n (payload.drop n)
    (payload.take n :: head, last)
termination_by payload.length
decreasing_by
  simp only [List.length_drop]
  omega

/-- Direction, command and kind; a frame size does not count the length byte. -/
def headerLength : Nat := 3

/-- Most payload bytes of a frame to a peer with this parameter byte. -/
def payloadLimit (pp : UInt8) : Nat := frameLimit pp - headerLength

/-- A data frame that does not fit the exchange. -/
def unexpected (pfb : Pfb) (pni : UInt8) : Error :=
  .rfProtocol s!"unexpected {pfb.text} while at PNI {pni.toNat}"

end Contactless.Dep
