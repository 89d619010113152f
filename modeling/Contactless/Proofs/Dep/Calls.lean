import Contactless.Proofs.Dep.Failure
import Contactless.Proofs.Dep.Sending

/-! Everything that a call of the data exchange target can do, whatever the chip answers: with which
transcript it comes to which outcome, and in which state it leaves the target. -/
namespace Contactless.Dep

/-- A failure of a call on a target is one of a frame, or it is one of the chip passed on. -/
def Blames {α : Type} (t : List Chip.Event) (r : Except Error α) : Prop :=
  ∀ e, r = .error e → Malformed e ∨ Chip.Fails t e

section Blames

variable {α β : Type} {t u : List Chip.Event} {e : Error} {r : Except Error α}

theorem Framed.blames (framed : Framed r) (t : List Chip.Event) : Blames t r :=
  fun e same => .inl (framed e same)

theorem blames_of_fails (fails : Chip.Fails t e) : Blames t (.error e : Except Error α) := by
  intro e' same
  cases same
  exact .inr fails

theorem Blames.mono (blames : Blames t r) (h : ∀ event ∈ t, event ∈ u) : Blames u r := by
  intro e same
  rcases blames e same with malformed | fails
  · exact .inl malformed
  · exact .inr (fails.mono h)

theorem Blames.error (blames : Blames t (.error e : Except Error α)) :
    Blames t (.error e : Except Error β) := by
  intro e' same
  cases same
  exact blames e rfl

theorem Blames.fails (blames : Blames t (.error e : Except Error α)) (other : ¬ Malformed e) :
    Chip.Fails t e :=
  (blames e rfl).resolve_left other

end Blames

namespace TargetSide

section Receiving

/-- A target that listens, with what it received so far, comes to an outcome. -/
inductive Receiving (wait : Timeout) :
    TargetSide → Bytes → List Chip.Event → Except Error Bytes → TargetSide → Prop
  | lost {s received} (e : Error) :
      Receiving wait s received [⟨.receive wait, .error e⟩] (.error e) s
  | unreadable {s received frame e} : InitiatorFrame.decode frame = .error e →
      Receiving wait s received [⟨.receive wait, .ok frame⟩] (.error e) s
  | refused {s received frame content e} : InitiatorFrame.decode frame = .ok content →
      s.react received content = .refuse e →
      Receiving wait s received [⟨.receive wait, .ok frame⟩] (.error e) s
  | completed {s received frame content payload} : InitiatorFrame.decode frame = .ok content →
      s.react received content = .complete payload →
      Receiving wait s received [⟨.receive wait, .ok frame⟩] (.ok payload) (s.turned .send)
  | unbuilt {s received frame content e after next} :
      InitiatorFrame.decode frame = .ok content →
      s.react received content = .reply (.error e) after next →
      Receiving wait s received [⟨.receive wait, .ok frame⟩] (.error e) s
  | unsent {s received frame content answer after next} (e : Error) :
      InitiatorFrame.decode frame = .ok content →
      s.react received content = .reply (.ok answer) after next →
      Receiving wait s received [⟨.receive wait, .ok frame⟩, ⟨.send answer wait, .error e⟩]
        (.error e) s
  | stopped {s received frame content answer e next} : InitiatorFrame.decode frame = .ok content →
      s.react received content = .reply (.ok answer) (.error e) next →
      Receiving wait s received [⟨.receive wait, .ok frame⟩, ⟨.send answer wait, .ok ()⟩]
        (.error e) next
  | replied {s received frame content answer pieces next t r s'} :
      InitiatorFrame.decode frame = .ok content →
      s.react received content = .reply (.ok answer) (.ok pieces) next →
      Receiving wait next pieces t r s' →
      Receiving wait s received
        (⟨.receive wait, .ok frame⟩ :: ⟨.send answer wait, .ok ()⟩ :: t) r s'

variable {wait : Timeout} {n : Nat} {s s' : TargetSide} {t : List Chip.Event}
  {r : Except Error Bytes}

/-- A target that listens takes in a frame with each step, so it only goes on while frames come. -/
theorem accounts_receiving (wait : Timeout) (n fuel : Nat) (received : Bytes) (s : TargetSide) :
    (Act.steps (receiveStep wait) fuel received n s).Accounts
      (fun t r => Receiving wait s received t r.1 r.2) fun t => fuel ≤ Chip.taken t := by
  induction fuel generalizing s received with
  | zero => exact Nat.zero_le _
  | succ fuel ih =>
      rw [steps_receive_succ]
      intro answer
      cases answer with
      | error e => exact .lost e
      | ok frame =>
          cases decoded : InitiatorFrame.decode frame with
          | error e =>
              rw [hear_unreadable wait n s fuel received decoded]
              exact .unreadable decoded
          | ok content =>
              rw [hear_ok wait n s fuel received decoded]
              cases reacts : s.react received content with
              | refuse e => exact .refused decoded reacts
              | complete payload => exact .completed decoded reacts
              | reply built after next =>
                  cases built with
                  | error e => exact .unbuilt decoded reacts
                  | ok reply =>
                      intro sent
                      cases sent with
                      | error e => exact .unsent e decoded reacts
                      | ok done =>
                          cases after with
                          | error e => exact .stopped decoded reacts
                          | ok pieces =>
                              refine (ih pieces next).mono ?_ ?_
                              · intro t r rest
                                exact .replied decoded reacts rest
                              · intro t enough
                                have more : ¬ Chip.Event.incoming ⟨.send reply wait, .ok done⟩ :=
                                  Bool.false_ne_true
                                change fuel + 1 ≤ List.countP Chip.Event.incoming (_ :: _ :: t)
                                rw [List.countP_cons_of_pos rfl, List.countP_cons_of_neg more]
                                exact Nat.succ_le_succ enough

theorem receiving_of_yields (fuel : Nat) {received : Bytes}
    (h : (Act.steps (receiveStep wait) fuel received n s).Yields t (r, s')) :
    Receiving wait s received t r s' :=
  (accounts_receiving wait n fuel received s).yields h

theorem accounts_receive (wait : Timeout) {s : TargetSide} (turn : s.turn = .receive) :
    (receive wait).Accounts s (Receiving wait s []) := by
  intro n
  rw [receive_apply wait n s turn]
  exact accounts_receiving wait n n [] s

end Receiving

section Sending

/-- Only the packet number of a target changed, and it still has two bits if it had. -/
structure Counted (s s' : TargetSide) : Prop where
  same : s' = { s with pni := s'.pni }
  small : s.pni ≤ 3 → s'.pni ≤ 3

theorem counted_advanced (s : TargetSide) : Counted s s.advanced := ⟨rfl, fun _ => nextPni_le _⟩

variable {wait : Timeout} {n : Nat} {s s' : TargetSide} {t : List Chip.Event}
  {r : Except Error Unit}

theorem blames_demand {expected : InitiatorFrame → Bool} {refusal : InitiatorFrame → Error}
    (framed : ∀ frame, Malformed (refusal frame)) (answer : Except Error Bytes) :
    Blames [⟨.receive wait, answer⟩]
      ((answer.bind InitiatorFrame.decode).bind (demand expected refusal)) := by
  cases answer with
  | error e => exact blames_of_fails (Chip.fails_head rfl)
  | ok frame =>
      refine Framed.blames (Framed.bind (InitiatorFrame.framed_decode frame) ?_) _
      intro content
      unfold demand
      split
      · exact framed_ok _
      · exact (framed content).framed

theorem await_yields {expected : InitiatorFrame → Bool} {refusal : InitiatorFrame → Error}
    (framed : ∀ frame, Malformed (refusal frame))
    (h : (await wait s expected refusal).Yields t (r, s')) : s' = s ∧ Blames t r := by
  obtain ⟨answer, u, rfl, ended⟩ := Dialogue.yields_ask_iff.mp h
  cases ended
  exact ⟨rfl, blames_demand framed answer⟩

/-- A frame that cannot be built or sent leaves the target as it was. -/
theorem sent_yields {α : Type} {frame : Except Error Bytes} {r : Except Error α}
    {next : Except Error Unit → Dialogue Chip (Except Error α × TargetSide)}
    (h : (match frame with
      | .error e => .done (.error e, s)
      | .ok frame => .ask (.send frame wait) next :
        Dialogue Chip (Except Error α × TargetSide)).Yields t (r, s'))
    (framed : Framed frame) (lost : ∀ e, next (.error e) = .done (.error e, s)) :
    (s' = s ∧ (∃ e, r = .error e) ∧ Blames t r) ∨
      ∃ frame u, t = ⟨.send frame wait, .ok ()⟩ :: u ∧ (next (.ok ())).Yields u (r, s') := by
  cases frame with
  | error e =>
      cases h
      exact .inl ⟨rfl, ⟨e, rfl⟩, (framed e rfl).framed.blames _⟩
  | ok frame =>
      obtain ⟨sent, u, rfl, goes⟩ := Dialogue.yields_ask_iff.mp h
      cases sent with
      | error e =>
          rw [lost] at goes
          cases goes
          exact .inl ⟨rfl, ⟨e, rfl⟩, blames_of_fails (Chip.fails_head rfl)⟩
      | ok done => exact .inr ⟨frame, u, rfl, goes⟩

theorem Sends.small {pni pni' : UInt8} {head : List Bytes} {last : Bytes}
    (sends : Sends wait pni head last t r pni') (small : pni ≤ 3) : pni' ≤ 3 := by
  induction sends with
  | unsent | withheld => exact small
  | unacked | sent => exact nextPni_le _
  | acked _ _ _ ih => exact ih (nextPni_le _)

theorem Sends.blames {pni pni' : UInt8} {head : List Bytes} {last : Bytes}
    (sends : Sends wait pni head last t r pni') : Blames t r := by
  induction sends with
  | unsent e built | withheld e built => exact blames_of_fails (Chip.fails_head rfl)
  | @unacked pni _ _ _ _ answer e built failed =>
      have blames : Blames [⟨.receive wait, answer⟩] (awaited (nextPni pni) answer) :=
        blames_demand (fun _ => .protocol _) answer
      rw [failed] at blames
      exact blames.mono fun _ => List.mem_cons_of_mem _
  | acked _ _ _ ih => exact ih.mono fun _ later => .tail _ (.tail _ later)
  | sent => exact (framed_ok _).blames _

/-- An answer leaves the target as it was but for the packet number, and for the turn once all of
it is out. -/
theorem send_yields {payload : Bytes} (turn : s.turn = .send)
    (h : (send payload wait n s).Yields t (r, s')) :
    (r = .ok () ∧ ∃ s₁, Counted s s₁ ∧ s' = s₁.turned .receive) ∨
      ∃ e, r = .error e ∧ Counted s s' ∧ Blames t r := by
  obtain ⟨sends, kept⟩ := (assures_send wait s turn rfl).accounts.yields ⟨n, h⟩
  cases r with
  | ok done => exact .inl ⟨rfl, { s with pni := s'.pni }, ⟨rfl, sends.small⟩, kept⟩
  | error e => exact .inr ⟨e, rfl, ⟨kept, sends.small⟩, sends.blames⟩

theorem requestTime_yields {rtox : UInt8} (turn : s.turn = .send)
    (h : (requestTime rtox wait n s).Yields t (r, s')) : s' = s ∧ Blames t r := by
  rw [requestTime_apply wait n s rtox turn] at h
  have lost (e : Error) : afterRequest wait s rtox (.error e) = .done (.error e, s) := rfl
  rcases sent_yields h (Pdu.framed_encode (.timeoutExtension rtox) .answer) lost with
    ⟨rfl, -, blames⟩ | ⟨frame, u, rfl, goes⟩
  · exact ⟨rfl, blames⟩
  · obtain ⟨rfl, blames⟩ := await_yields (fun _ => .protocol _) goes
    exact ⟨rfl, blames.mono fun _ => List.mem_cons_of_mem _⟩

end Sending

section Opening

variable {wait : Timeout} {n : Nat} {s s' : TargetSide} {t : List Chip.Event}
  {r : Except Error Bytes} {own : DepInfo}

theorem init_yields (h : (init (.dep own) wait n s).Yields t (r, s')) :
    (∃ first request, r = .ok first ∧ s' = (s.prepared own).linkedTo own request) ∨
      ∃ e, r = .error e ∧ s' = s.prepared own ∧ Blames t r := by
  rw [init_apply] at h
  obtain ⟨heard, u, rfl, goes⟩ := Dialogue.yields_ask_iff.mp h
  by_cases greeted : ∃ request, heard.bind InitiatorFrame.decode = .ok (.atr request)
  · obtain ⟨request, decoded⟩ := greeted
    cases heard with
    | error e => cases decoded
    | ok first =>
        rw [greeting_atr wait n (s.prepared own) own rfl decoded] at goes
        rcases sent_yields goes (AtrAnswer.framed_encode _) (fun _ => rfl) with
          ⟨rfl, ⟨e, rfl⟩, blames⟩ | ⟨frame, v, rfl, ends⟩
        · exact .inr ⟨e, rfl, rfl, blames.mono fun _ => List.mem_cons_of_mem _⟩
        · cases ends
          exact .inl ⟨first, request, rfl, rfl⟩
  · obtain ⟨e, refused, cause⟩ := greeting_refused wait n (s.prepared own)
      fun request decoded => greeted ⟨request, decoded⟩
    rw [refused] at goes
    cases goes
    refine .inr ⟨e, rfl, rfl, ?_⟩
    rcases cause with unread | ⟨detail, rfl⟩
    · cases heard with
      | error e =>
          cases unread
          exact blames_of_fails (Chip.fails_head rfl)
      | ok first => exact (InitiatorFrame.framed_decode first e unread).framed.blames _
    · exact (Malformed.protocol detail).framed.blames _

end Opening

end TargetSide

inductive Call where
  | init (target : Target) (wait : Timeout)
  | receive (wait : Timeout)
  | send (payload : Bytes) (wait : Timeout)
  | requestTime (rtox : UInt8) (wait : Timeout)

namespace Call

/-- What a call that succeeds gives back. -/
abbrev Value : Call → Type
  | init .. | receive _ => Bytes
  | send .. | requestTime .. => Unit

def act : (c : Call) → Act Chip TargetSide c.Value
  | init target wait => TargetSide.init target wait
  | receive wait => TargetSide.receive wait
  | send payload wait => TargetSide.send payload wait
  | requestTime rtox wait => TargetSide.requestTime rtox wait

def Takes : Call → Turn → Prop
  | init .., _ => True
  | receive _, turn => turn = .receive
  | send .., turn => turn = .send
  | requestTime .., turn => turn = .send

end Call

/-- A call with what the chip was asked and answered, and with its outcome. -/
structure Episode where
  call : Call
  transcript : List Chip.Event
  outcome : Except Error call.Value

/-- Calls one after the other, each from the state in which the one before left the target. -/
inductive Run : TargetSide → List Episode → TargetSide → Prop
  | nil (s : TargetSide) : Run s [] s
  | cons {s s' s'' : TargetSide} {e : Episode} {rest : List Episode} :
      e.call.act.Yields s e.transcript e.outcome s' → Run s' rest s'' → Run s (e :: rest) s''

section Samples

def sampleId : Nfcid3 := ⟨[1, 2, 3, 4, 5, 6, 7, 8, 9, 10], rfl⟩

def sampleOwn : DepInfo :=
  ⟨sampleId, 0, allRates, allRates, standardTimeoutExponent, longestFrames, [], .passive, .baud106⟩

def sampleRequest : Bytes := [0x11, 0xd4, 0x00] ++ sampleId.toList ++ [0x00, 0x07, 0x07, 0x30]

def sampleAnswer : Bytes := [0x12, 0xd5, 0x01] ++ sampleId.toList ++ [0x00, 0x07, 0x07, 0x0e, 0x30]

def Episode.opening : Episode where
  call := .init (.dep sampleOwn) .forever
  transcript := [⟨.arm (.dep sampleOwn) .forever, .ok sampleRequest⟩,
    ⟨.send sampleAnswer .forever, .ok ()⟩]
  outcome := .ok sampleRequest

def TargetSide.fresh : TargetSide := .new ⟨{}, none⟩

def TargetSide.opened : TargetSide where
  device := ⟨{}, some (.dep sampleOwn)⟩
  description := some sampleOwn
  initiator := some { sampleOwn with timeoutExponent := 0 }
  turn := .receive
  pni := 0

theorem Run.of_opening {es : List Episode} {s : TargetSide} (rest : Run .opened es s) :
    Run .fresh (.opening :: es) s :=
  .cons ⟨0, .ask _ (.ask _ (.done _))⟩ rest

end Samples

end Contactless.Dep
