import Contactless.Proofs.Dep.Reaction
import Contactless.Proofs.Dep.Round
import Contactless.Proofs.Wire

/-! Frames of the data exchange protocol on their way between an initiator and a target. Both go on
with an arbitrary rest, so that each fact holds in the middle of any session. -/
namespace Contactless.Dep

open Wire

variable {α β : Type} {live : Timeout → Prop}

section Ends

/-- An initiator that has sent a frame, and what follows the round. -/
def Linked.looking (s : Linked) (wait : Timeout) (n fuel : Nat)
    (rest : Except Error Pdu × Linked → Dialogue Chip α) (r : Except Error Bytes) :
    Dialogue Chip α :=
  (Dep.looking wait n fuel s.device r).bind fun r => rest (r.1, { s with device := r.2 })

theorem Linked.roundTrip_bind (s : Linked) (n : Nat) {pdu : Pdu} {frame : Bytes}
    (encoded : pdu.encode .request = .ok frame)
    (rest : Except Error Pdu × Linked → Dialogue Chip α) :
    (Linked.roundTrip pdu n s).bind rest =
      .ask (.bytes frame s.device.config.commandTimeout)
        (s.looking s.device.config.commandTimeout n n rest) := by
  unfold Linked.roundTrip Linked.onDevice
  simp only [Act.bind_apply, Act.get_apply, Dialogue.bind_done_left, Act.resume_ok,
    Act.zoom_apply, roundTrip_apply _ _ _ encoded, Dialogue.bind_ask, Dialogue.bind_bind]
  rfl

theorem Linked.looking_answer (s : Linked) (wait : Timeout) (n : Nat) {fuel : Nat}
    (more : 0 < fuel) {answer : Bytes} {pdu : Pdu} (decoded : Pdu.decode answer .answer = .ok pdu)
    (final : pdu.pfb ≠ .timeoutExtension)
    (rest : Except Error Pdu × Linked → Dialogue Chip α) :
    s.looking wait n fuel rest (.ok answer) = rest (.ok pdu, s) := by
  obtain ⟨fuel, rfl⟩ := Nat.exists_eq_add_of_lt more
  unfold Linked.looking
  rw [Dep.looking_answer wait n (0 + fuel) s.device decoded final]
  rfl

/-- A target that receives, and what follows the call. -/
def TargetSide.receiving (t : TargetSide) (wait : Timeout) (m fuel : Nat) (received : Bytes)
    (rest : Except Error Bytes × TargetSide → Dialogue Chip β) : Dialogue Chip β :=
  (Act.steps (TargetSide.receiveStep wait) fuel received m t).bind rest

theorem TargetSide.listens_receiving (t : TargetSide) (wait : Timeout) (m fuel : Nat)
    (received : Bytes) (rest : Except Error Bytes × TargetSide → Dialogue Chip β) :
    (t.receiving wait m fuel received rest).Listens := by
  unfold receiving
  cases fuel with
  | zero => exact trivial
  | succ fuel =>
      rw [steps_receive_succ]
      exact trivial

end Ends

section Requests

variable {t : TargetSide} {patience : Timeout} {m fuel : Nat} {received frame : Bytes}
  {wait : Timeout} {content : InitiatorFrame} {next : Except Error Bytes → Dialogue Chip α}
  {rest : Except Error Bytes × TargetSide → Dialogue Chip β}

/-- A frame that a receiving target answers comes back answered. -/
theorem hops_reply {answer : Bytes} {after : Except Error Bytes} {u : TargetSide}
    (lasts : live wait) (patient : live patience)
    (decoded : InitiatorFrame.decode frame = .ok content)
    (reacts : t.react received content = .reply (.ok answer) after u)
    (listens : ((TargetSide.afterReply patience m fuel after u).bind rest).Listens) :
    Hops live
      ⟨.running (.ask (.bytes frame wait) next),
        t.receiving patience m (fuel + 1) received rest, [], []⟩
      ⟨.running (next (.ok answer)),
        (TargetSide.afterReply patience m fuel after u).bind rest, [], []⟩ := by
  obtain ⟨go, hears, goes⟩ :=
    TargetSide.hear_reply patience m t fuel received decoded reacts
  unfold TargetSide.receiving
  rw [TargetSide.steps_receive_succ, Dialogue.bind_ask]
  refine .head (.request lasts patient) (.head ?_ .refl)
  rw [hears, Dialogue.bind_ask, ← goes]
  refine .answer ?_
  rw [goes]
  exact listens

theorem hops_aside {answer after : Bytes} {u : TargetSide}
    (lasts : live wait) (patient : live patience)
    (decoded : InitiatorFrame.decode frame = .ok content)
    (reacts : t.react received content = .reply (.ok answer) (.ok after) u) :
    Hops live
      ⟨.running (.ask (.bytes frame wait) next),
        t.receiving patience m (fuel + 1) received rest, [], []⟩
      ⟨.running (next (.ok answer)), u.receiving patience m fuel after rest, [], []⟩ :=
  hops_reply lasts patient decoded reacts (u.listens_receiving patience m fuel after rest)

theorem hops_complete {payload : Bytes} (lasts : live wait) (patient : live patience)
    (decoded : InitiatorFrame.decode frame = .ok content)
    (reacts : t.react received content = .complete payload) :
    Hops live
      ⟨.running (.ask (.bytes frame wait) next),
        t.receiving patience m (fuel + 1) received rest, [], []⟩
      ⟨.awaiting next, rest (.ok payload, t.turned .send), [], []⟩ := by
  unfold TargetSide.receiving
  rw [TargetSide.steps_receive_succ, Dialogue.bind_ask]
  refine .head (.request lasts patient) ?_
  rw [TargetSide.hear_complete patience m t fuel received decoded reacts]
  exact .refl

end Requests

section Answers

variable {s : Linked} {t : TargetSide} {wait patience : Timeout} {n m fuel : Nat}
  {next : Except Error Pdu × Linked → Dialogue Chip α}
  {rest : Except Error Unit × TargetSide → Dialogue Chip β}

/-- A request for more time is granted, and both ends are as before. -/
theorem hops_extension {rtox : UInt8} (least : 1 ≤ rtox) (most : rtox ≤ rtoxLimit)
    (lasts : live (wait.scale rtox)) (patient : live patience) (pending : t.turn = .send) :
    Hops live
      ⟨.awaiting (s.looking wait n (fuel + 1) next),
        (TargetSide.requestTime rtox patience m t).bind rest, [], []⟩
      ⟨.awaiting (s.looking wait n fuel next), rest (.ok (), t), [], []⟩ := by
  have short : (Pdu.timeoutExtension rtox).payload.length ≤ 251 := Nat.le_add_left 1 250
  obtain ⟨asked, encoded⟩ := (Pdu.timeoutExtension rtox).exists_encode .answer short
  obtain ⟨echo, echoed⟩ := (Pdu.timeoutExtension rtox).exists_encode .request short
  have heard : looking wait n (fuel + 1) s.device (.ok asked) =
      .ask (.bytes echo (wait.scale rtox)) (looking wait n fuel s.device) :=
    looking_request wait n fuel s.device least most (Pdu.decode_of_encode encoded) echoed
  have granted : TargetSide.grants rtox (.data (Pdu.timeoutExtension rtox)) = true :=
    beq_self_eq_true (some rtox)
  rw [TargetSide.requestTime_apply patience m t rtox pending, encoded]
  refine .head (.answer trivial) ?_
  unfold Linked.looking
  rw [heard]
  refine .head (.request lasts patient) ?_
  rw [TargetSide.demanded_ok t _ _ (InitiatorFrame.decode_data echoed) granted]
  exact .refl

end Answers

end Contactless.Dep
