import Contactless.Proofs.Accounts
import Contactless.Proofs.Dep.Payloads

/-! Answers of a target, piece by piece. Each piece but the last waits for its acknowledgement, and
the first thing that is not in order ends the call. -/
namespace Contactless.Dep.TargetSide

open Act

/-- What a target makes of a frame when it awaits an acknowledgement. -/
def awaited (pni : UInt8) (answer : Except Error Bytes) : Except Error Unit :=
  (answer.bind InitiatorFrame.decode).bind (demand (acknowledges pni) (notAcknowledged pni))

/-- All ways to send some pieces that are numbered from a packet number on, with the number that is
next in the end. -/
inductive Sends (wait : Timeout) : UInt8 → List Bytes → Bytes → List Chip.Event →
    Except Error Unit → UInt8 → Prop
  | unsent {pni : UInt8} {piece last frame : Bytes} {head : List Bytes} (e : Error) :
      (Pdu.information true pni piece).encode .answer = .ok frame →
      Sends wait pni (piece :: head) last [⟨.send frame wait, .error e⟩] (.error e) pni
  | unacked {pni : UInt8} {piece last frame : Bytes} {head : List Bytes}
      {answer : Except Error Bytes} {e : Error} :
      (Pdu.information true pni piece).encode .answer = .ok frame →
      awaited (nextPni pni) answer = .error e →
      Sends wait pni (piece :: head) last
        [⟨.send frame wait, .ok ()⟩, ⟨.receive wait, answer⟩] (.error e) (nextPni pni)
  | acked {pni pni' : UInt8} {piece last frame : Bytes} {head : List Bytes}
      {answer : Except Error Bytes} {t : List Chip.Event} {r : Except Error Unit} :
      (Pdu.information true pni piece).encode .answer = .ok frame →
      awaited (nextPni pni) answer = .ok () → Sends wait (nextPni pni) head last t r pni' →
      Sends wait pni (piece :: head) last
        (⟨.send frame wait, .ok ()⟩ :: ⟨.receive wait, answer⟩ :: t) r pni'
  | withheld {pni : UInt8} {last frame : Bytes} (e : Error) :
      (Pdu.information false pni last).encode .answer = .ok frame →
      Sends wait pni [] last [⟨.send frame wait, .error e⟩] (.error e) pni
  | sent {pni : UInt8} {last frame : Bytes} :
      (Pdu.information false pni last).encode .answer = .ok frame →
      Sends wait pni [] last [⟨.send frame wait, .ok ()⟩] (.ok ()) (nextPni pni)

section Sending

variable (wait : Timeout) (s : TargetSide)

theorem assures_sendFrame {frame : Except Error Bytes} {bytes : Bytes} (built : frame = .ok bytes) :
    (sendFrame frame wait).Assures s fun t r s' => t = [⟨.send bytes wait, r⟩] ∧ s' = s := by
  subst built
  intro n answer
  exact ⟨rfl, rfl⟩

theorem assures_expectAck :
    (expectAck wait).Assures s fun t r s' =>
      ∃ answer, t = [⟨.receive wait, answer⟩] ∧ r = awaited s.pni answer ∧ s' = s := by
  intro n
  rw [expectAck_apply]
  intro answer
  exact ⟨answer, rfl, rfl, rfl⟩

theorem assures_lastPiece {last : Bytes} (short : last.length ≤ 251) :
    (sendPiece wait false last).Assures s fun t r s' =>
      Sends wait s.pni [] last t r s'.pni ∧ s' = { s with pni := s'.pni } := by
  obtain ⟨frame, built⟩ := (Pdu.information false s.pni last).exists_encode .answer short
  refine assures_get_bind ((assures_sendFrame wait s built).bind ?_ ?_)
  · rintro _ ⟨⟩ _ ⟨rfl, rfl⟩
    exact assures_modify_bind (assures_pure ⟨.sent built, rfl⟩)
  · rintro _ e _ ⟨rfl, rfl⟩
    exact ⟨.withheld e built, rfl⟩

/-- A piece that is not the last goes out, and is followed by what should acknowledge it. -/
theorem assures_piece {piece : Bytes} (short : piece.length ≤ 251) :
    (sendPiece wait true piece).Assures s fun t r s' => ∃ frame,
      (Pdu.information true s.pni piece).encode .answer = .ok frame ∧
        ((∃ e, t = [⟨.send frame wait, .error e⟩] ∧ r = .error e ∧ s' = s) ∨
          ∃ answer, t = [⟨.send frame wait, .ok ()⟩, ⟨.receive wait, answer⟩] ∧
            r = awaited s.advanced.pni answer ∧ s' = s.advanced) := by
  obtain ⟨frame, built⟩ := (Pdu.information true s.pni piece).exists_encode .answer short
  refine assures_get_bind ((assures_sendFrame wait s built).bind ?_ ?_)
  · rintro _ ⟨⟩ _ ⟨rfl, rfl⟩
    refine assures_modify_bind ((assures_expectAck wait _).mono ?_)
    rintro _ _ _ ⟨answer, rfl, rfl, rfl⟩
    exact ⟨frame, built, .inr ⟨answer, rfl, rfl, rfl⟩⟩
  · rintro _ e _ ⟨rfl, rfl⟩
    exact ⟨frame, built, .inl ⟨e, rfl, rfl, rfl⟩⟩

/-- The pieces of a whole answer, one after the other. -/
theorem assures_sends {head : List Bytes} {last : Bytes}
    (shortHead : ∀ piece ∈ head, piece.length ≤ 251) (short : last.length ≤ 251) :
    (do
      head.forM (sendPiece wait true)
      sendPiece wait false last : Act Chip TargetSide Unit).Assures s fun t r s' =>
      Sends wait s.pni head last t r s'.pni ∧ s' = { s with pni := s'.pni } := by
  induction head generalizing s with
  | nil => exact assures_lastPiece wait s short
  | cons piece head ih =>
      have rest (s : TargetSide) := ih s fun other member => shortHead other (.tail piece member)
      rw [forM_cons_bind]
      refine (assures_piece wait s (shortHead piece List.mem_cons_self)).bind ?_ ?_
      · rintro _ ⟨⟩ _ ⟨frame, built, ⟨e, -, came, -⟩ | ⟨answer, rfl, acks, rfl⟩⟩
        · cases came
        · refine (rest s.advanced).mono ?_
          rintro t r s' ⟨sends, kept⟩
          exact ⟨.acked built acks.symm sends, kept⟩
      · rintro _ e _ ⟨frame, built, ⟨e', rfl, came, rfl⟩ | ⟨answer, rfl, failed, rfl⟩⟩
        · cases came
          exact ⟨.unsent e built, rfl⟩
        · exact ⟨.unacked built failed.symm, rfl⟩

/-- An answer takes packet numbers, and the turn once all of it is out. -/
def Spent (s : TargetSide) : Except Error Unit → TargetSide → Prop
  | .ok (), s' => s' = { s with turn := .receive, pni := s'.pni }
  | .error _, s' => s' = { s with pni := s'.pni }

/-- A whole answer, with the turn that follows it. -/
theorem assures_send {payload last : Bytes} {head : List Bytes} (turn : s.turn = .send)
    (cut : pieces s.limit payload = (head, last)) :
    (send payload wait).Assures s fun t r s' =>
      Sends wait s.pni head last t r s'.pni ∧ s.Spent r s' := by
  obtain ⟨_, _, cut', -, -, shortHead, short⟩ := exists_pieces s.pp payload
  rw [← s.limit_eq] at cut'
  cases cut.symm.trans cut'
  have pieces := assures_sends wait s shortHead short
  have all : (do
      (do
        head.forM (sendPiece wait true)
        sendPiece wait false last)
      modify fun t => t.turned .receive : Act Chip TargetSide Unit).Assures s fun t r s' =>
      Sends wait s.pni head last t r s'.pni ∧ s.Spent r s' := by
    refine pieces.bind ?_ ?_
    · rintro t ⟨⟩ s' ⟨sends, kept⟩
      refine assures_modifyGet ?_
      rw [List.append_nil]
      exact ⟨sends, congrArg (turned · .receive) kept⟩
    · rintro t e s' ⟨sends, kept⟩
      exact ⟨sends, kept⟩
  intro n
  rw [send_apply wait n s turn cut, ← LawfulMonad.bind_assoc]
  exact all n

end Sending

end Contactless.Dep.TargetSide
