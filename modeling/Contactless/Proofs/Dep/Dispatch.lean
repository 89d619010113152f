import Contactless.Proofs.Dep.Attributes
import Contactless.Proofs.Dep.Pdu

/-! One decoder for all frames that an initiator sends. It does with a frame what the decoder of the
frame's own kind does, and takes none that a target sends. -/
namespace Contactless.Dep

/-- A frame of this direction and command that counts itself. -/
def WellFramed (d : Direction) (command : UInt8) (frame : Bytes) : Prop :=
  ∃ len body, frame = len :: d.code :: command :: body ∧ len.toNat = frame.length

theorem WellFramed.exists_body {d : Direction} {command : UInt8} {frame : Bytes}
    (framed : WellFramed d command frame) : ∃ body, build d command body = .ok frame := by
  obtain ⟨len, body, rfl, counted⟩ := framed
  exact ⟨body, build_of_counted counted⟩

namespace InitiatorFrame

variable {f : InitiatorFrame} {frame : Bytes}

def command : InitiatorFrame → UInt8
  | atr _ => atrRequest
  | psl _ _ _ => pslRequest
  | data _ => Direction.request.dataCode
  | dsl => dslRequest
  | rls => rlsRequest

theorem command_of_ofBody {command : UInt8} {body : Bytes} (read : ofBody command body = .ok f) :
    f.command = command := by
  unfold ofBody at read
  split at read
  · rename_i same
    obtain ⟨a, -, rfl⟩ := map_eq_ok_iff.mp read
    exact same.symm
  · split at read
    · rename_i same
      simp only [bind_eq_ok_iff] at read
      obtain ⟨-, -, did, -, rates, -, size, -, chosen⟩ := read
      split at chosen
      · cases chosen
      · cases chosen
        exact same.symm
    · split at read
      · rename_i same
        obtain ⟨p, -, rfl⟩ := map_eq_ok_iff.mp read
        exact same.symm
      · split at read
        · rename_i same
          cases read
          exact same.symm
        · split at read
          · rename_i same
            cases read
            exact same.symm
          · cases read

/-- A frame that is taken is one of the command of what it is taken for. -/
theorem exists_body (decoded : decode frame = .ok f) :
    ∃ body, build .request f.command body = .ok frame := by
  obtain ⟨⟨command, body⟩, opened, read⟩ := bind_eq_ok_iff.mp decoded
  rw [command_of_ofBody read]
  exact ⟨body, unbuild_eq_ok_iff.mp opened⟩

section Kinds

variable {body : Bytes}

theorem decode_eq_atr (built : build .request atrRequest body = .ok frame) :
    decode frame = (AtrRequest.decode frame).map atr := by
  rw [decode_of_build built, AtrRequest.decode, unbuildAs_of_build built]
  rfl

theorem decode_eq_data (built : build .request Direction.request.dataCode body = .ok frame) :
    decode frame = (Pdu.decode frame .request).map data := by
  rw [decode_of_build built, Pdu.decode, unbuildAs_of_build built]
  rfl

theorem decode_atr_iff {a : AtrRequest} :
    decode frame = .ok (.atr a) ↔ AtrRequest.decode frame = .ok a := by
  constructor
  · intro decoded
    obtain ⟨body, built⟩ := exists_body decoded
    rw [decode_eq_atr built] at decoded
    obtain ⟨_, read, ⟨⟩⟩ := map_eq_ok_iff.mp decoded
    exact read
  · intro read
    obtain ⟨-, built⟩ := AtrRequest.decode_eq_ok_iff.mp read
    rw [decode_eq_atr built, read]
    rfl

theorem decode_data_iff {p : Pdu} :
    decode frame = .ok (.data p) ↔ Pdu.decode frame .request = .ok p := by
  constructor
  · intro decoded
    obtain ⟨body, built⟩ := exists_body decoded
    rw [decode_eq_data built] at decoded
    obtain ⟨_, read, ⟨⟩⟩ := map_eq_ok_iff.mp decoded
    exact read
  · intro read
    obtain ⟨mark, skipped, built, -, -⟩ := Pdu.decode_eq_ok_iff.mp read
    rw [decode_eq_data built, read]
    rfl

end Kinds

/-- What is taken from an initiator is not taken from a target. -/
theorem unbuildAs_answer (decoded : decode frame = .ok f) (command : UInt8) (body : Bytes) :
    unbuildAs .answer command frame ≠ .ok body := by
  intro taken
  obtain ⟨asked, built⟩ := exists_body decoded
  have refused : unbuild .answer frame = .error _ := unbuild_of_build_other built (by decide)
  rw [unbuildAs, refused] at taken
  cases taken

end InitiatorFrame

/-- What becomes of one frame in the decoder of all frames of an initiator. -/
structure Dispatched (frame : Bytes) : Prop where
  attributes : ∀ a, InitiatorFrame.decode frame = .ok (.atr a) ↔ AtrRequest.decode frame = .ok a
  data : ∀ p, InitiatorFrame.decode frame = .ok (.data p) ↔ Pdu.decode frame .request = .ok p
  attributesRefused : WellFramed .request atrRequest frame → ∀ e,
    InitiatorFrame.decode frame = .error e ↔ AtrRequest.decode frame = .error e
  dataRefused : WellFramed .request Direction.request.dataCode frame → ∀ e,
    InitiatorFrame.decode frame = .error e ↔ Pdu.decode frame .request = .error e
  /-- Frames that are built come back as what they were built from. -/
  ofAttributes : ∀ a : AtrRequest, a.encode = .ok frame → ∃ written,
    Flags a.generalBytes a.pp written ∧
      InitiatorFrame.decode frame = .ok (.atr { a with pp := written })
  ofData : ∀ p : Pdu, p.encode .request = .ok frame →
    InitiatorFrame.decode frame = .ok (.data { p with pfb := p.pfb.mapPni (· % 4) })
  ofPsl : ∀ did baud fsl, psl did baud fsl = .ok frame →
    InitiatorFrame.decode frame = .ok (.psl did baud (fsl % 4))
  ofDsl : ∀ did, dsl did = .ok frame → InitiatorFrame.decode frame = .ok .dsl
  ofRls : ∀ did, rls did = .ok frame → InitiatorFrame.decode frame = .ok .rls
  /-- No frame is taken on both sides. -/
  apart : ∀ f, InitiatorFrame.decode frame = .ok f → (∀ a, AtrAnswer.decode frame ≠ .ok a) ∧
    (∀ p, Pdu.decode frame .answer ≠ .ok p) ∧
      ∀ command body, unbuildAs .answer command frame ≠ .ok body

theorem initiator_frames_dispatched (frame : Bytes) : Dispatched frame where
  attributes a := InitiatorFrame.decode_atr_iff
  data p := InitiatorFrame.decode_data_iff
  attributesRefused framed e := by
    obtain ⟨body, built⟩ := framed.exists_body
    rw [InitiatorFrame.decode_eq_atr built, map_eq_error_iff]
  dataRefused framed e := by
    obtain ⟨body, built⟩ := framed.exists_body
    rw [InitiatorFrame.decode_eq_data built, map_eq_error_iff]
  ofAttributes a encoded := ⟨_, flags_flagGeneralBytes _ _, InitiatorFrame.decode_atr encoded⟩
  ofData p encoded := by
    rw [← p.normal_eq_mapPni]
    exact InitiatorFrame.decode_data encoded
  ofPsl did baud fsl encoded := by
    rw [← Pfb.mask_eq_mod]
    exact InitiatorFrame.decode_psl encoded
  ofDsl did encoded := InitiatorFrame.decode_dsl encoded
  ofRls did encoded := InitiatorFrame.decode_rls encoded
  apart f decoded := by
    have refused := InitiatorFrame.unbuildAs_answer decoded
    refine ⟨fun a read => ?_, fun p read => ?_, refused⟩
    · obtain ⟨-, built⟩ := AtrAnswer.decode_eq_ok_iff.mp read
      exact refused _ _ (unbuildAs_of_build built)
    · obtain ⟨mark, skipped, built, -, -⟩ := Pdu.decode_eq_ok_iff.mp read
      exact refused _ _ (unbuildAs_of_build built)

end Contactless.Dep
