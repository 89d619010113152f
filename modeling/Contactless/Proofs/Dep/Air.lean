import Contactless.Proofs.Dep.Calls
import Contactless.Proofs.Dep.Speech

/-! An initiator and a target over a link that may drop each request and each answer. The initiator
then waits in vain, and the target goes on waiting for its next frame. -/
namespace Contactless.Dep

/-- The events of an initiator and of a target as they fit together, with the outcome of an exchange
whose request was heard and whose answer is still due. -/
inductive Air : Option (Except Error Bytes) → List Chip.Event → List Chip.Event → Prop
  | silence : Air none [] []
  /-- A request is dropped. -/
  | unheard {frame : Bytes} {wait : Timeout} {xs ys : List Chip.Event} : Air none xs ys →
      Air none (⟨.bytes frame wait, .error .rfTimeout⟩ :: xs) ys
  | heard {frame : Bytes} {wait patience : Timeout} {r : Except Error Bytes}
      {xs ys : List Chip.Event} : Air (some r) xs ys →
      Air none (⟨.bytes frame wait, r⟩ :: xs) (⟨.receive patience, .ok frame⟩ :: ys)
  | answered {answer : Bytes} {patience : Timeout} {xs ys : List Chip.Event} : Air none xs ys →
      Air (some (.ok answer)) xs (⟨.send answer patience, .ok ()⟩ :: ys)
  /-- No answer comes, or not in time. -/
  | unanswered {xs ys : List Chip.Event} : Air none xs ys → Air (some (.error .rfTimeout)) xs ys
  /-- An answer is dropped, or comes when nobody waits for it any more. -/
  | unlistened {answer : Bytes} {patience : Timeout} {xs ys : List Chip.Event} : Air none xs ys →
      Air none xs (⟨.send answer patience, .ok ()⟩ :: ys)

variable {p : Option (Except Error Bytes)} {xs ys : List Chip.Event}

/-- The link takes every answer, and delivers it or not. -/
theorem Air.sent_ok {answer : Bytes} {patience : Timeout} {x : Except Error Unit}
    (air : Air p xs (⟨.send answer patience, x⟩ :: ys)) : x = .ok () := by
  generalize events : (⟨.send answer patience, x⟩ :: ys : List Chip.Event) = zs at air
  induction air with
  | silence => cases events
  | unheard _ ih => exact ih events
  | heard _ => cases events
  | answered _ =>
      cases events
      rfl
  | unanswered _ ih => exact ih events
  | unlistened _ =>
      cases events
      rfl

/-- A target does nothing but receive and send. -/
theorem Air.target_event {event : Chip.Event} (air : Air p xs (event :: ys)) :
    (∃ patience x, event = ⟨.receive patience, x⟩) ∨
      ∃ answer patience, event = ⟨.send answer patience, .ok ()⟩ := by
  generalize events : event :: ys = zs at air
  induction air with
  | silence => cases events
  | unheard _ ih => exact ih events
  | heard _ =>
      cases events
      exact .inl ⟨_, _, rfl⟩
  | answered _ =>
      cases events
      exact .inr ⟨_, _, rfl⟩
  | unanswered _ ih => exact ih events
  | unlistened _ =>
      cases events
      exact .inr ⟨_, _, rfl⟩

section Mute

/-- No answer acknowledges a piece. -/
def Mute (t : List Chip.Event) : Prop :=
  ∀ answer wait x, ⟨.send answer wait, x⟩ ∈ t → ¬ Acks answer

theorem mute_nil : Mute [] := fun _ _ _ member => nomatch member

theorem Mute.receive {t : List Chip.Event} {wait : Timeout} {x : Except Error Bytes}
    (mute : Mute t) : Mute (⟨.receive wait, x⟩ :: t) := by
  intro answer wait' x' member
  cases member with
  | tail _ later => exact mute answer wait' x' later

theorem Mute.send {t : List Chip.Event} {answer : Bytes} {wait : Timeout} {x : Except Error Unit}
    (mute : Mute t) (other : ¬ Acks answer) : Mute (⟨.send answer wait, x⟩ :: t) := by
  intro answer' wait' x' member
  cases member with
  | head => exact other
  | tail _ later => exact mute answer' wait' x' later

namespace TargetSide

variable {wait : Timeout} {n : Nat} {s s' : TargetSide} {t : List Chip.Event}

theorem await_mute {expected : InitiatorFrame → Bool} {refusal : InitiatorFrame → Error}
    {r : Except Error Unit} (h : (await wait s expected refusal).Yields t (r, s')) : Mute t := by
  obtain ⟨answer, u, rfl, ended⟩ := Dialogue.yields_ask_iff.mp h
  cases ended
  exact mute_nil.receive

/-- A target that sends an answer acknowledges nothing. -/
theorem Sends.mute {pni pni' : UInt8} {head : List Bytes} {last : Bytes} {r : Except Error Unit}
    (sends : Sends wait pni head last t r pni') : Mute t := by
  have carries {more : Bool} {k : UInt8} {piece frame : Bytes}
      (built : (Pdu.information more k piece).encode .answer = .ok frame) : ¬ Acks frame :=
    not_acks_of_decode (Pdu.decode_of_encode built) fun _ => Pfb.noConfusion
  induction sends with
  | unsent _ built | withheld _ built | sent built => exact mute_nil.send (carries built)
  | unacked built _ => exact mute_nil.receive.send (carries built)
  | acked built _ _ ih => exact ih.receive.send (carries built)

theorem send_mute {payload : Bytes} {r : Except Error Unit}
    (h : (send payload wait n s).Yields t (r, s')) : Mute t := by
  by_cases turn : s.turn = .send
  · obtain ⟨sends, -⟩ := (assures_send wait s turn rfl).accounts.yields ⟨n, h⟩
    exact sends.mute
  · rw [send_refused wait n s payload turn] at h
    cases h
    exact mute_nil

theorem requestTime_mute {rtox : UInt8} {r : Except Error Unit}
    (h : (requestTime rtox wait n s).Yields t (r, s')) : Mute t := by
  by_cases turn : s.turn = .send
  · rw [requestTime_apply wait n s rtox turn] at h
    cases built : (Pdu.timeoutExtension rtox).encode .answer with
    | error e =>
        rw [built] at h
        cases h
        exact mute_nil
    | ok frame =>
        have asks : ¬ Acks frame :=
          not_acks_of_decode (Pdu.decode_of_encode built) fun _ => Pfb.noConfusion
        rw [built] at h
        obtain ⟨sent, u, rfl, goes⟩ := Dialogue.yields_ask_iff.mp h
        refine Mute.send ?_ asks
        cases sent with
        | error e =>
            cases goes
            exact mute_nil
        | ok done => exact await_mute goes
  · rw [requestTime_refused wait n s rtox turn] at h
    cases h
    exact mute_nil

end TargetSide

end Mute

end Contactless.Dep
