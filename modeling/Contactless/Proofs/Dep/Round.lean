import Contactless.Dep.Initiator
import Contactless.Proofs.Dep.Frame

/-! Rounds of the data exchange initiator: one frame, any requests for more time, and the answer. -/
namespace Contactless.Dep

section Exchange

variable {σ : Type} {direction : Direction} {command : UInt8} {body frame : Bytes}

/-- Every frame that is built fits a chip. -/
theorem exchangeBytes_apply (built : build direction command body = .ok frame) (wait : Timeout)
    (n : Nat) (s : σ) :
    Chip.exchangeBytes frame wait n s = .ask (.bytes frame wait) fun r => .done (r, s) := by
  obtain ⟨length, short⟩ := length_of_build built
  have nonempty : ¬ frame.isEmpty = true := by
    rw [List.isEmpty_iff_length_eq_zero]
    omega
  have fits : ¬ Chip.frameLimit < frame.length := by
    unfold Chip.frameLimit
    omega
  rw [Chip.exchangeBytes, if_neg nonempty, if_neg fits]
  rfl

theorem exchange_apply (built : build direction command body = .ok frame) (n : Nat)
    (d : Device .initiator) :
    Device.exchange frame n d =
      .ask (.bytes frame d.config.commandTimeout) fun r => .done (r, d) := by
  change (Device.timeout >>= fun wait => Chip.exchangeBytes frame wait) n d = _
  rw [Act.bind_apply]
  exact exchangeBytes_apply built _ n d

end Exchange

section Rounds

variable (wait : Timeout) (n fuel : Nat) (d : Device .initiator)

/-- How a round goes on with a raw answer, while so many looks at an answer are left. -/
def looking (r : Except Error Bytes) :
    Dialogue Chip (Except Error Pdu × Device .initiator) :=
  Act.resume (Act.steps (settle wait) fuel) n (r, d)

theorem roundTrip_apply {pdu : Pdu} {frame : Bytes} (encoded : pdu.encode .request = .ok frame) :
    roundTrip pdu wait n d = .ask (.bytes frame wait) (looking wait n n d) := by
  unfold roundTrip sendPdu
  rw [encoded]
  simp only [Act.bind_apply, Act.ofExcept_apply, Dialogue.bind_done_left, Act.resume_ok,
    exchangeBytes_apply encoded, Dialogue.bind_ask]
  rfl

theorem looking_answer {answer : Bytes} {pdu : Pdu} (decoded : Pdu.decode answer .answer = .ok pdu)
    (final : pdu.pfb ≠ .timeoutExtension) :
    looking wait n (fuel + 1) d (.ok answer) = .done (.ok pdu, d) := by
  unfold looking settle
  rw [Act.resume_ok, Act.steps_succ, decoded]
  simp only [Act.bind_apply, Act.ofExcept_apply, Dialogue.bind_done_left, Act.resume_ok,
    if_neg final, Act.pure_apply, Act.again_inr]

/-- A request for more time is granted, and the round goes on with a longer wait. -/
theorem looking_request {answer echo : Bytes} {rtox : UInt8} (least : 1 ≤ rtox)
    (most : rtox ≤ rtoxLimit) (decoded : Pdu.decode answer .answer = .ok (.timeoutExtension rtox))
    (encoded : (Pdu.timeoutExtension rtox).encode .request = .ok echo) :
    looking wait n (fuel + 1) d (.ok answer) =
      .ask (.bytes echo (wait.scale rtox)) (looking wait n fuel d) := by
  have read : readRtox (.timeoutExtension rtox) = .ok rtox := if_pos ⟨least, most⟩
  have asks : (Pdu.timeoutExtension rtox).pfb = .timeoutExtension := rfl
  unfold looking settle sendPdu
  rw [Act.resume_ok, Act.steps_succ, decoded]
  simp only [Act.bind_apply, Act.ofExcept_apply, Dialogue.bind_done_left, Act.resume_ok,
    if_pos asks, read, encoded, exchangeBytes_apply encoded, Dialogue.bind_ask]
  congr 1
  funext r
  cases r <;> rfl

end Rounds

end Contactless.Dep
