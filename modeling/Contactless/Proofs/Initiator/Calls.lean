import Contactless.Proofs.Crc
import Contactless.Proofs.Dep.Frame
import Contactless.Proofs.Initiator.Operation
import Contactless.Proofs.TypeB.Writing

/-! The frames of an initiator that are told apart by how silence is taken: those by which a search
opens and those that follow, and those that a target obeys without an answer. -/
namespace Contactless

namespace Chip

/-- The frame by which a search calls for targets. -/
inductive Opening : Call → Prop
  | wakeup (w : Wakeup) (wait : Timeout) : Opening (.bits w.frame wait)
  | reqb (family : UInt8) (wait : Timeout) : Opening (.bytes (TypeB.reqb family false) wait)
  | initiate (wait : Timeout) : Opening (.bytes (Crc.b.append Srx.initiate) wait)
  | polling (system : UInt16) (wait : Timeout) : Opening (.bytes (Felica.polling system 1 0) wait)

/-- A frame of a search to a target that answered before. -/
inductive Following : Call → Prop
  | anticollision (level : CascadeLevel) (wait : Timeout) :
      Following (.bits (.ofBytes (TypeA.anticollision level)) wait)
  | select (level : CascadeLevel) (chunk : Octets 5) (wait : Timeout) :
      Following (.bytes (TypeA.select level chunk) wait)
  | rats (param : UInt8) (wait : Timeout) : Following (.bytes (TypeA.rats param) wait)
  | srxSelect (chip : UInt8) (wait : Timeout) :
      Following (.bytes (Crc.b.append (Srx.select chip)) wait)
  | srxUid (wait : Timeout) : Following (.bytes (Crc.b.append Srx.getUid) wait)
  | rid (wait : Timeout) : Following (.bytes Jewel.Request.rid.encode wait)

/-- A frame that a target obeys without an answer. -/
inductive Unanswered : Call → Prop
  | halt (wait : Timeout) : Unanswered (.bytes TypeA.halt wait)
  | haltBits (wait : Timeout) : Unanswered (.bits (.ofBytes TypeA.halt) wait)
  | writeBlock {block : UInt8} {data frame : Bytes} {size : Srx.BlockSize} (wait : Timeout) :
      Srx.writeBlock block data size = .ok frame →
      Unanswered (.bytes (Crc.b.append frame) wait)
  | completion (wait : Timeout) : Unanswered (.bytes (Crc.b.append Srx.completion) wait)

/-- The frame that ends a session of ISO/IEC 14443-4 is answered. -/
inductive Releasing : Call → Prop
  | halt (wait : Timeout) : Releasing (.bytes TypeA.halt wait)
  | deselect (wait : Timeout) : Releasing (.bytes TypeA.deselect wait)

section Marks

/-- What tells frames apart: the size of a frame of bits, and the first byte. -/
def Call.mark : Call → Option Nat × Option UInt8
  | .bits frame _ => (some frame.bits, frame.data.head?)
  | .bytes frame _ => (none, frame.head?)
  | _ => (none, none)

def openingMarks : List (Option Nat × Option UInt8) :=
  [(some 7, some 0x26), (some 7, some 0x52), (none, some 0x05), (none, some 0x06)]

def followingMarks : List (Option Nat × Option UInt8) :=
  [(some 16, some 0x93), (some 16, some 0x95), (some 16, some 0x97), (none, some 0x93),
    (none, some 0x95), (none, some 0x97), (none, some 0xe0), (none, some 0x0e), (none, some 0x0b),
    (none, some 0x78)]

def unansweredMarks : List (Option Nat × Option UInt8) :=
  [(none, some 0x50), (some 32, some 0x50), (none, some 0x09), (none, some 0x0f)]

variable {call : Call}

theorem Opening.mark (opening : Opening call) : call.mark ∈ openingMarks := by
  cases opening with
  | wakeup w wait =>
      cases w with
      | reqa => exact .head _
      | wupa => exact .tail _ (.head _)
  | reqb family wait => exact .tail _ (.tail _ (.head _))
  | initiate wait => exact .tail _ (.tail _ (.tail _ (.head _)))
  | polling system wait => exact .tail _ (.tail _ (.tail _ (.head _)))

theorem Following.mark (following : Following call) : call.mark ∈ followingMarks := by
  unfold followingMarks
  cases following with
  | anticollision level wait =>
      cases level <;>
        simp [Call.mark, BitFrame.ofBytes, TypeA.anticollision, CascadeLevel.sel]
  | select level chunk wait =>
      cases level <;> simp [Call.mark, TypeA.select, CascadeLevel.sel, Crc.append]
  | rats param wait => simp [Call.mark, TypeA.rats, Crc.append, TypeA.ratsCode]
  | srxSelect chip wait => simp [Call.mark, Srx.select, Crc.append]
  | srxUid wait => simp [Call.mark, Srx.getUid, Crc.append]
  | rid wait => simp [Call.mark, Jewel.Request.encode, Jewel.ridCode]

theorem Unanswered.mark (unanswered : Unanswered call) : call.mark ∈ unansweredMarks := by
  cases unanswered with
  | halt wait => exact .head _
  | haltBits wait => exact .tail _ (.head _)
  | writeBlock wait built =>
      obtain ⟨-, rfl⟩ := Srx.writeBlock_eq_ok_iff.mp built
      exact .tail _ (.tail _ (.head _))
  | completion wait => exact .tail _ (.tail _ (.tail _ (.head _)))

theorem Following.not_opening (following : Following call) : ¬ Opening call := fun opening =>
  (by decide : ∀ mark ∈ followingMarks, mark ∉ openingMarks) _ following.mark opening.mark

theorem Opening.not_unanswered (opening : Opening call) : ¬ Unanswered call := fun unanswered =>
  (by decide : ∀ mark ∈ openingMarks, mark ∉ unansweredMarks) _ opening.mark unanswered.mark

theorem Following.not_unanswered (following : Following call) : ¬ Unanswered call :=
  fun unanswered => (by decide : ∀ mark ∈ followingMarks, mark ∉ unansweredMarks) _ following.mark
    unanswered.mark

theorem Releasing.not_opening (releasing : Releasing call) : ¬ Opening call := fun opening => by
  cases releasing with
  | halt wait => exact opening.not_unanswered (.halt wait)
  | deselect wait =>
      exact (by decide : (none, some 0xc2) ∉ openingMarks) opening.mark

theorem not_unanswered_bits {frame : BitFrame} {wait : Timeout}
    (other : (some frame.bits, frame.data.head?) ∉ unansweredMarks) :
    ¬ Unanswered (.bits frame wait) :=
  fun unanswered => other unanswered.mark

theorem not_unanswered_bytes {frame : Bytes} {wait : Timeout}
    (other : (none, frame.head?) ∉ unansweredMarks) : ¬ Unanswered (.bytes frame wait) :=
  fun unanswered => other unanswered.mark

end Marks

end Chip

namespace Dep

/-- A frame with which an initiator looks for a target. -/
inductive Greeting : Chip.Call → Prop
  | request {a : AtrRequest} {frame : Bytes} (wait : Timeout) : a.encode = .ok frame →
      Greeting (.bytes frame wait)

/-- A frame with which an initiator gives a target up. -/
inductive Release : Chip.Call → Prop
  | request {did : UInt8} {frame : Bytes} (wait : Timeout) : rls did = .ok frame →
      Release (.bytes frame wait)

/-- The command byte tells the two apart. -/
theorem Release.not_greeting {call : Chip.Call} (release : Release call) : ¬ Greeting call := by
  intro greeting
  cases release with
  | request wait released =>
      cases greeting with
      | @request a _ _ encoded =>
          obtain ⟨-, rfl⟩ := build_eq_ok_iff.mp released
          unfold AtrRequest.encode at encoded
          cases checked : checkGeneralBytes a.generalBytes with
          | error e =>
              rw [checked] at encoded
              cases encoded
          | ok done =>
              rw [checked] at encoded
              obtain ⟨-, same⟩ := build_eq_ok_iff.mp encoded
              have commands := congrArg (fun frame : Bytes => frame[2]?) same
              exact absurd commands (by decide : ¬ some rlsRequest = some atrRequest)

end Dep

end Contactless
