import Contactless.Proofs.Initiator.Calls
import Contactless.Proofs.Initiator.Losses

/-! Sizes of the frames of an initiator. Each kind of frame has at least one byte and no more than
the chip can hold, with whatever fields it was built. -/
namespace Contactless

namespace Chip

/-- The chip can hold a frame of so many bytes, and there is one. -/
def Holds (size : Nat) : Prop := 1 ≤ size ∧ size ≤ frameLimit

instance : DecidablePred Holds := fun size =>
  inferInstanceAs (Decidable (1 ≤ size ∧ size ≤ frameLimit))

/-- Only a frame that the chip can hold is exchanged, and one of bits takes no more bytes than it
needs. -/
def Call.Fits : Call → Prop
  | .bits frame _ =>
    1 ≤ frame.bits ∧ frame.data.length = (frame.bits + 7) / 8 ∧ Holds frame.data.length
  | .bytes frame _ => Holds frame.length
  | _ => True

theorem Call.fits_of_quiet {call : Call} (quiet : call.isExchange = false) : call.Fits := by
  cases call with
  | bits | bytes => cases quiet
  | _ => trivial

theorem fits_bits (frame : BitFrame) (bits : 1 ≤ frame.bits)
    (short : frame.byteLength ≤ frameLimit) (wait : Timeout) : (Call.bits frame wait).Fits := by
  have whole := frame.length_data
  refine ⟨bits, whole, ?_, short⟩
  omega

/-- Whole bytes take as many bytes as there are. -/
theorem fits_ofBytes (data : Bytes) (holds : Holds data.length) (wait : Timeout) :
    (Call.bits (.ofBytes data) wait).Fits := by
  apply fits_bits
  · change 1 ≤ data.length * 8
    have nonempty := holds.1
    omega
  · exact holds.2

theorem bits_of_ofBits {data : Bytes} {count : Nat} {frame : BitFrame}
    (built : BitFrame.ofBits data count = .ok frame) : frame.bits = count := by
  unfold BitFrame.ofBits at built
  split at built
  · cases built
    rfl
  · cases built

theorem holds_append (crc : Crc) {data : Bytes} (short : data.length + 2 ≤ frameLimit) :
    Holds (crc.append data).length := by
  rw [crc.length_append]
  exact ⟨Nat.succ_le_succ (Nat.zero_le _), short⟩

section Kinds

variable {call : Call}

theorem Opening.fits (opening : Opening call) : call.Fits := by
  cases opening with
  | wakeup w wait =>
      cases w with
      | reqa => exact fits_bits _ (by decide) (by decide) wait
      | wupa => exact fits_bits _ (by decide) (by decide) wait
  | reqb family wait => exact (by decide : Holds 3)
  | initiate wait => exact holds_append .b (by decide)
  | polling system wait => exact (by decide : Holds 6)

theorem holds_select (level : CascadeLevel) (chunk : Octets 5) :
    Holds (TypeA.select level chunk).length := by
  apply holds_append
  rw [List.length_append, chunk.length_toList]
  exact (by decide : 9 ≤ frameLimit)

theorem Following.fits (following : Following call) : call.Fits := by
  cases following with
  | anticollision level wait =>
      exact fits_ofBytes (TypeA.anticollision level) (by decide : Holds 2) wait
  | select level chunk wait => exact holds_select level chunk
  | rats param wait => exact holds_append .a (by decide : 4 ≤ frameLimit)
  | srxSelect chip wait => exact holds_append .b (by decide : 4 ≤ frameLimit)
  | srxUid wait => exact holds_append .b (by decide)
  | rid wait => exact (by decide : Holds 7)

theorem holds_halt : Holds TypeA.halt.length := holds_append .a (by decide)

/-- A block is written whole, and the largest has four bytes. -/
theorem length_writeBlock {block : UInt8} {data frame : Bytes} {size : Srx.BlockSize}
    (built : Srx.writeBlock block data size = .ok frame) :
    frame.length = data.length + 2 ∧ data.length ≤ 4 := by
  obtain ⟨sized, rfl⟩ := Srx.writeBlock_eq_ok_iff.mp built
  refine ⟨rfl, ?_⟩
  rw [sized]
  cases size <;> decide

theorem Unanswered.fits (unanswered : Unanswered call) : call.Fits := by
  cases unanswered with
  | halt wait => exact holds_halt
  | haltBits wait => exact fits_ofBytes _ holds_halt wait
  | writeBlock wait built =>
      obtain ⟨size, short⟩ := length_writeBlock built
      apply holds_append
      unfold frameLimit
      omega
  | completion wait => exact holds_append .b (by decide)

theorem Releasing.fits (releasing : Releasing call) : call.Fits := by
  cases releasing with
  | halt wait => exact holds_halt
  | deselect wait => exact holds_append .a (by decide)

end Kinds

end Chip

namespace Dep

open Chip (Holds)

variable {call : Chip.Call} {frame : Bytes}

/-- A length byte counts every frame of the data exchange. -/
theorem holds_build {direction : Direction} {command : UInt8} {body : Bytes}
    (built : build direction command body = .ok frame) : Holds frame.length := by
  obtain ⟨size, short⟩ := length_of_build built
  unfold Holds Chip.frameLimit
  omega

theorem length_encode {a : AtrRequest} (encoded : a.encode = .ok frame) :
    frame.length = a.generalBytes.length + 17 ∧ Holds frame.length := by
  obtain ⟨-, built⟩ := checkGeneralBytes_bind encoded
  obtain ⟨size, -⟩ := length_of_build built
  rw [List.length_append, List.length_append, a.nfcid3.length_toList] at size
  refine ⟨?_, holds_build built⟩
  rw [size]
  simp only [List.length_cons, List.length_nil]
  omega

theorem Greeting.fits (greeting : Greeting call) : call.Fits := by
  cases greeting with
  | request wait encoded => exact (length_encode encoded).2

theorem Release.fits (release : Release call) : call.Fits := by
  cases release with
  | request wait built => exact holds_build built

end Dep

end Contactless
