import Contactless.Proofs.Dep.Hops
import Contactless.Proofs.Dep.Pieces
import Mathlib.Logic.Function.Iterate

/-! Payloads of the data exchange protocol on their way between an initiator and a target. The
packet numbers of both are the same between two payloads. Inside one they part for a frame at a
time: each end counts a piece that it sends before the acknowledgement or after it, as it is the
target or the initiator. -/
namespace Contactless.Dep

open Wire

variable {α β : Type} {live : Timeout → Prop}

def Linked.advanced (s : Linked) : Linked :=
  { s with link := { s.link with pni := nextPni s.link.pni } }

/-- Both ends expect the same packet number. -/
structure Aligned (s : Linked) (t : TargetSide) : Prop where
  number : s.link.pni = t.pni
  small : t.pni ≤ 3

theorem Aligned.advanced {s : Linked} {t : TargetSide} (aligned : Aligned s t) :
    Aligned s.advanced t.advanced where
  number := congrArg nextPni aligned.number
  small := nextPni_le t.pni

section Requests

variable {s : Linked} {t : TargetSide} {patience : Timeout} {n m fuel : Nat} {received : Bytes}
  {rest : Except Error Bytes × TargetSide → Dialogue Chip β}

theorem react_information (t : TargetSide) (received payload : Bytes) (more : Bool) :
    t.react received (.data (.information more t.pni payload)) =
      if more then .reply ((Pdu.ack t.pni).encode .answer) (.ok (received ++ payload)) t.advanced
      else .complete (received ++ payload) :=
  if_pos rfl

theorem hops_sendPiece {next : Except Error Unit × Linked → Dialogue Chip α} {piece : Bytes}
    (aligned : Aligned s t) (lasts : live s.device.config.commandTimeout)
    (patient : live patience) (loops : 0 < n) (short : piece.length ≤ 251) :
    Hops live
      ⟨.running ((Linked.sendPiece piece n s).bind next),
        t.receiving patience m (fuel + 1) received rest, [], []⟩
      ⟨.running (next (.ok (), s.advanced)),
        t.advanced.receiving patience m fuel (received ++ piece) rest, [], []⟩ := by
  obtain ⟨frame, encoded⟩ := (Pdu.information true s.link.pni piece).exists_encode .request short
  obtain ⟨answer, answered⟩ := (Pdu.ack t.pni).exists_encode .answer (Nat.zero_le 251)
  have arrives := InitiatorFrame.decode_data encoded
  rw [aligned.number, Pdu.normal_information aligned.small] at arrives
  have comesBack := Pdu.decode_of_encode answered
  rw [Pdu.normal_ack aligned.small] at comesBack
  have reacts := react_information t received piece true
  rw [if_pos rfl, answered] at reacts
  have current : (Pdu.ack t.pni).pfb = .ack t.pni := rfl
  unfold Linked.sendPiece
  simp only [Act.bind_apply, Act.get_apply, Dialogue.bind_done_left, Act.resume_ok,
    s.roundTrip_bind n encoded]
  refine (hops_aside lasts patient arrives reacts).trans ?_
  rw [s.looking_answer _ n loops comesBack Pfb.noConfusion, Act.resume_ok, aligned.number,
    if_pos current]
  exact .refl

/-- All pieces but the last. Both ends have counted each of them. -/
theorem hops_forM_sendPiece {next : Except Error Unit × Linked → Dialogue Chip α}
    (patient : live patience) (loops : 0 < n) :
    ∀ (head : List Bytes) {s : Linked} {t : TargetSide} (received : Bytes), Aligned s t →
      live s.device.config.commandTimeout → (∀ piece ∈ head, piece.length ≤ 251) →
      Hops live
        ⟨.running ((head.forM Linked.sendPiece n s).bind next),
          t.receiving patience m (fuel + head.length) received rest, [], []⟩
        ⟨.running (next (.ok (), Linked.advanced^[head.length] s)),
          (TargetSide.advanced^[head.length] t).receiving patience m fuel
            (received ++ head.flatten) rest, [], []⟩ := by
  intro head
  induction head with
  | nil =>
      intro s t received aligned lasts short
      rw [List.flatten_nil, List.append_nil]
      exact .refl
  | cons piece head ih =>
      intro s t received aligned lasts short
      rw [Act.forM_cons_apply, Dialogue.bind_bind, List.flatten_cons,
        ← List.append_assoc]
      refine (hops_sendPiece aligned lasts patient loops
        (short piece List.mem_cons_self)).trans ?_
      exact ih (received ++ piece) aligned.advanced lasts
        fun other member => short other (List.mem_cons_of_mem piece member)

end Requests

section Answers

/-- An initiator that has so much of the answer and goes on with what a round came to. -/
def Linked.collecting (n fuel : Nat) (payload : Bytes)
    (next : Except Error Bytes × Linked → Dialogue Chip α) (r : Except Error Pdu × Linked) :
    Dialogue Chip α :=
  (Act.resume (fun answer => Act.steps Linked.collect fuel (payload, answer)) n r).bind next

theorem Linked.collecting_more (s : Linked) (n fuel : Nat) (payload piece : Bytes) {frame : Bytes}
    (encoded : (Pdu.ack (nextPni s.link.pni)).encode .request = .ok frame)
    (next : Except Error Bytes × Linked → Dialogue Chip α) :
    collecting n (fuel + 1) payload next (.ok (.information true s.link.pni piece), s) =
      .ask (.bytes frame s.device.config.commandTimeout)
        (s.advanced.looking s.device.config.commandTimeout n n
          (collecting n fuel (payload ++ piece) next)) := by
  unfold collecting
  rw [Act.resume_ok, Act.steps_succ]
  unfold Linked.collect
  simp only [Act.bind_apply, Act.get_apply, Dialogue.bind_done_left, Act.resume_ok]
  simp only [Pdu.information, if_true, Act.bind_apply]
  have counted : Linked.advance n s = .done (.ok (), s.advanced) := rfl
  rw [counted, Dialogue.bind_done_left, Act.resume_ok, Act.bind_apply, Dialogue.bind_bind,
    Dialogue.bind_bind, s.advanced.roundTrip_bind n encoded]
  congr 2
  funext r
  obtain ⟨outcome, u⟩ := r
  cases outcome <;> rfl

theorem Linked.collecting_last (s : Linked) (n fuel : Nat) (payload last : Bytes)
    (next : Except Error Bytes × Linked → Dialogue Chip α) :
    collecting n (fuel + 1) payload next (.ok (.information false s.link.pni last), s) =
      next (.ok (payload ++ last), s.advanced) := by
  unfold collecting
  rw [Act.resume_ok, Act.steps_succ]
  unfold Linked.collect
  simp only [Act.bind_apply, Act.get_apply, Dialogue.bind_done_left, Act.resume_ok]
  simp only [Pdu.information, if_true, Act.bind_apply]
  rfl

variable {s : Linked} {t : TargetSide} {wait patience : Timeout} {n m fuel left : Nat}
  {payload : Bytes} {next : Except Error Bytes × Linked → Dialogue Chip α}
  {rest : Except Error Unit × TargetSide → Dialogue Chip β}

/-- A piece of the answer that is not the last. The target counts it before the acknowledgement, and
the initiator before it sends that. -/
theorem hops_answerPiece {piece : Bytes} (aligned : Aligned s t)
    (lasts : live s.device.config.commandTimeout) (patient : live patience) (loops : 0 < left)
    (short : piece.length ≤ 251) :
    Hops live
      ⟨.awaiting (s.looking wait n left (Linked.collecting n (fuel + 1) payload next)),
        (TargetSide.sendPiece patience true piece m t).bind rest, [], []⟩
      ⟨.awaiting (s.advanced.looking s.device.config.commandTimeout n n
          (Linked.collecting n fuel (payload ++ piece) next)),
        rest (.ok (), t.advanced), [], []⟩ := by
  obtain ⟨answer, answered⟩ := (Pdu.information true t.pni piece).exists_encode .answer short
  obtain ⟨frame, encoded⟩ :=
    (Pdu.ack (nextPni s.link.pni)).exists_encode .request (Nat.zero_le 251)
  have comesBack := Pdu.decode_of_encode answered
  rw [Pdu.normal_information aligned.small, ← aligned.number] at comesBack
  have arrives := InitiatorFrame.decode_data encoded
  rw [Pdu.normal_ack (nextPni_le _)] at arrives
  have acknowledged : TargetSide.acknowledges t.advanced.pni
      (.data (Pdu.ack (nextPni s.link.pni))) = true := by
    rw [aligned.number]
    exact beq_self_eq_true (Pfb.ack (nextPni t.pni))
  rw [TargetSide.sendPiece_apply, answered]
  refine .head (.answer trivial) ?_
  rw [s.looking_answer wait n loops comesBack Pfb.noConfusion,
    s.collecting_more n fuel payload piece encoded]
  unfold TargetSide.afterPiece
  rw [if_pos rfl, TargetSide.expectAck_apply]
  refine .head (.request lasts patient) ?_
  rw [TargetSide.demanded_ok t.advanced _ _ arrives acknowledged]
  exact .refl

theorem hops_answerLast {last : Bytes} (aligned : Aligned s t) (loops : 0 < left)
    (short : last.length ≤ 251) (listens : (rest (.ok (), t.advanced)).Listens) :
    Hops live
      ⟨.awaiting (s.looking wait n left (Linked.collecting n (fuel + 1) payload next)),
        (TargetSide.sendPiece patience false last m t).bind rest, [], []⟩
      ⟨.running (next (.ok (payload ++ last), s.advanced)), rest (.ok (), t.advanced), [], []⟩ := by
  obtain ⟨answer, answered⟩ := (Pdu.information false t.pni last).exists_encode .answer short
  have comesBack := Pdu.decode_of_encode answered
  rw [Pdu.normal_information aligned.small, ← aligned.number] at comesBack
  rw [TargetSide.sendPiece_apply, answered]
  refine .head (.answer listens) ?_
  rw [s.looking_answer wait n loops comesBack Pfb.noConfusion,
    s.collecting_last n fuel payload last]
  exact .refl

theorem hops_forM_answerPiece (rest : Except Error Unit × TargetSide → Dialogue Chip β)
    (patient : live patience) (loops : 0 < n) :
    ∀ (head : List Bytes) {s : Linked} {t : TargetSide} (wait : Timeout) (left : Nat)
      (payload : Bytes), Aligned s t → live s.device.config.commandTimeout → 0 < left →
      (∀ piece ∈ head, piece.length ≤ 251) →
      ∃ wait' left', 0 < left' ∧ Hops live
        ⟨.awaiting (s.looking wait n left
            (Linked.collecting n (fuel + head.length) payload next)),
          (head.forM (TargetSide.sendPiece patience true) m t).bind rest, [], []⟩
        ⟨.awaiting ((Linked.advanced^[head.length] s).looking wait' n left'
            (Linked.collecting n fuel (payload ++ head.flatten) next)),
          rest (.ok (), TargetSide.advanced^[head.length] t), [], []⟩ := by
  intro head
  induction head with
  | nil =>
      intro s t wait left payload aligned lasts more short
      rw [List.flatten_nil, List.append_nil]
      exact ⟨wait, left, more, .refl⟩
  | cons piece head ih =>
      intro s t wait left payload aligned lasts more short
      obtain ⟨wait', left', more', later⟩ := ih s.device.config.commandTimeout n (payload ++ piece)
        aligned.advanced lasts loops
        fun other member => short other (List.mem_cons_of_mem piece member)
      refine ⟨wait', left', more', ?_⟩
      rw [Act.forM_cons_apply, Dialogue.bind_bind, List.flatten_cons, ← List.append_assoc]
      exact (hops_answerPiece aligned lasts patient more
        (short piece List.mem_cons_self)).trans later


end Answers

section Payloads

theorem Linked.iterate_advanced (k : Nat) (s : Linked) :
    Linked.advanced^[k] s = { s with link := { s.link with pni := nextPni^[k] s.link.pni } } := by
  induction k generalizing s with
  | zero => rfl
  | succ k ih => exact ih s.advanced

theorem TargetSide.iterate_advanced (k : Nat) (t : TargetSide) :
    TargetSide.advanced^[k] t = { t with pni := nextPni^[k] t.pni } := by
  induction k generalizing t with
  | zero => rfl
  | succ k ih => exact ih t.advanced

@[simp] theorem Linked.device_iterate (k : Nat) (s : Linked) :
    (Linked.advanced^[k] s).device = s.device := by
  rw [Linked.iterate_advanced]

@[simp] theorem Linked.info_iterate (k : Nat) (s : Linked) :
    (Linked.advanced^[k] s).link.info = s.link.info := by
  rw [Linked.iterate_advanced]

@[simp] theorem TargetSide.turn_iterate (k : Nat) (t : TargetSide) :
    (TargetSide.advanced^[k] t).turn = t.turn := by
  rw [TargetSide.iterate_advanced]

@[simp] theorem TargetSide.initiator_iterate (k : Nat) (t : TargetSide) :
    (TargetSide.advanced^[k] t).initiator = t.initiator := by
  rw [TargetSide.iterate_advanced]

theorem Aligned.iterate {s : Linked} {t : TargetSide} (aligned : Aligned s t) (k : Nat) :
    Aligned (Linked.advanced^[k] s) (TargetSide.advanced^[k] t) := by
  induction k generalizing s t with
  | zero => exact aligned
  | succ k ih => exact ih aligned.advanced

/-- Frames of a payload before its last one. -/
def cuts (pp : UInt8) (payload : Bytes) : Nat := (pieces (payloadLimit pp) payload).1.length

/-- Cut payloads are put together again, and every frame of theirs can be built. -/
theorem exists_pieces (pp : UInt8) (payload : Bytes) :
    ∃ head last, pieces (payloadLimit pp) payload = (head, last) ∧
      head.length = cuts pp payload ∧ head.flatten ++ last = payload ∧
      (∀ piece ∈ head, piece.length ≤ 251) ∧ last.length ≤ 251 := by
  have most := payloadLimit_le pp
  have cut := cut_pieces (payloadLimit_pos pp) payload
  refine ⟨_, _, rfl, rfl, cut.whole, ?_, ?_⟩
  · intro piece member
    exact Nat.le_trans (cut.length_le piece member) most
  · exact Nat.le_trans cut.short most

variable {s : Linked} {t : TargetSide} {wait patience : Timeout} {n m fuel left : Nat}

theorem Linked.finish_bind (s : Linked) (n : Nat) {last frame : Bytes}
    (encoded : (Pdu.information false s.link.pni last).encode .request = .ok frame)
    (next : Except Error Bytes × Linked → Dialogue Chip α) :
    ((do
      let answer ← Linked.roundTrip (.information false (← get).link.pni last)
      Act.loop Linked.collect ([], answer) : Act Chip Linked Bytes) n s).bind next =
      .ask (.bytes frame s.device.config.commandTimeout)
        (s.looking s.device.config.commandTimeout n n (Linked.collecting n n [] next)) := by
  rw [Act.bind_apply, Act.get_apply, Dialogue.bind_done_left, Act.resume_ok, Act.bind_apply,
    Dialogue.bind_bind, s.roundTrip_bind n encoded]
  rfl

/-- A whole payload goes to the target, whose turn it then is. -/
theorem hops_request {request : Bytes} {next : Except Error Bytes × Linked → Dialogue Chip α}
    {rest : Except Error Bytes × TargetSide → Dialogue Chip β} (aligned : Aligned s t)
    (lasts : live s.device.config.commandTimeout) (patient : live patience) (loops : 0 < n)
    (enough : cuts s.link.info.pp request < fuel) :
    Hops live
      ⟨.running ((Linked.transceive request n s).bind next),
        t.receiving patience m fuel [] rest, [], []⟩
      ⟨.awaiting ((Linked.advanced^[cuts s.link.info.pp request] s).looking
          s.device.config.commandTimeout n n (Linked.collecting n n [] next)),
        rest (.ok request,
          (TargetSide.advanced^[cuts s.link.info.pp request] t).turned .send), [], []⟩ := by
  obtain ⟨head, last, cut, count, whole, shortHead, shortLast⟩ :=
    exists_pieces s.link.info.pp request
  obtain ⟨fuel, rfl⟩ := Nat.exists_eq_add_of_lt enough
  rw [← count]
  have after := aligned.iterate head.length
  obtain ⟨frame, encoded⟩ :=
    (Pdu.information false (Linked.advanced^[head.length] s).link.pni last).exists_encode
      .request shortLast
  have arrives := InitiatorFrame.decode_data encoded
  rw [after.number, Pdu.normal_information after.small] at arrives
  have reacts := react_information (TargetSide.advanced^[head.length] t) head.flatten last false
  rw [if_neg Bool.false_ne_true, whole] at reacts
  unfold Linked.transceive
  rw [Act.bind_apply, Act.get_apply, Dialogue.bind_done_left, Act.resume_ok, cut]
  change Hops live
    ⟨.running (((head.forM Linked.sendPiece >>= fun _ => _) n s).bind next), _, [], []⟩ _
  rw [Act.bind_apply, Dialogue.bind_bind, Nat.add_assoc, Nat.add_comm head.length]
  refine (hops_forM_sendPiece patient loops head [] aligned lasts shortHead).trans ?_
  rw [Act.resume_ok, Linked.finish_bind _ n encoded, List.nil_append,
    Linked.device_iterate]
  exact hops_complete lasts patient arrives reacts

/-- The parameter byte by which the target cuts its answers. -/
def TargetSide.pp (t : TargetSide) : UInt8 :=
  match t.initiator with
  | some i => i.pp
  | none => longestFrames

theorem TargetSide.limit_eq (t : TargetSide) : t.limit = payloadLimit t.pp := by
  unfold limit pp
  cases t.initiator <;> rfl

/-- A whole payload comes back, and the turn with it. -/
theorem hops_send {payload answer : Bytes} {next : Except Error Bytes × Linked → Dialogue Chip α}
    {rest : Except Error Unit × TargetSide → Dialogue Chip β} (aligned : Aligned s t)
    (turn : t.turn = .send) (lasts : live s.device.config.commandTimeout)
    (patient : live patience) (loops : 0 < n) (more : 0 < left) (enough : cuts t.pp answer < fuel)
    (listens : ∀ u : TargetSide, u.turn = .receive → (rest (.ok (), u)).Listens) :
    Hops live
      ⟨.awaiting (s.looking wait n left (Linked.collecting n fuel payload next)),
        (TargetSide.send answer patience m t).bind rest, [], []⟩
      ⟨.running (next (.ok (payload ++ answer), Linked.advanced^[cuts t.pp answer + 1] s)),
        rest (.ok (),
          (TargetSide.advanced^[cuts t.pp answer + 1] t).turned .receive), [], []⟩ := by
  obtain ⟨head, last, cut, count, whole, shortHead, shortLast⟩ := exists_pieces t.pp answer
  obtain ⟨fuel, rfl⟩ := Nat.exists_eq_add_of_lt enough
  rw [← TargetSide.limit_eq] at cut
  rw [← count, t.send_apply patience m turn cut, ← whole, ← List.append_assoc, Act.bind_apply,
    Dialogue.bind_bind, Nat.add_assoc, Nat.add_comm head.length, Function.iterate_succ_apply',
    Function.iterate_succ_apply']
  obtain ⟨wait', left', more', pieces⟩ := hops_forM_answerPiece
    (fun r => (Act.resume (fun _ => _) m r).bind rest) patient loops head wait left payload
    aligned lasts more shortHead
  refine pieces.trans ?_
  rw [Act.resume_ok, Act.bind_apply, Dialogue.bind_bind]
  exact hops_answerLast (aligned.iterate head.length) more' shortLast
    (listens _ rfl)

end Payloads

end Contactless.Dep
