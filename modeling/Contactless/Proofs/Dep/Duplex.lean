import Contactless.Proofs.Dep.Discipline
import Contactless.Proofs.Duplex

/-! Targets of the data exchange protocol keep to half duplex. The turn to send begins with a frame
that was received, and each frame that is sent is followed by a reception unless it ends the turn,
so that an answer is due as long as a target has the turn. -/
namespace Contactless.Dep

open Chip (Answering HalfDuplex Event.failure)

namespace TargetSide

/-- Whoever has the turn owes an answer. -/
def Owing (s : TargetSide) (due : Bool) : Prop := s.turn = .send → due = true

variable {wait : Timeout} {n : Nat} {s : TargetSide} {due : Bool}

theorem owing_due (s : TargetSide) : s.Owing true := fun _ => rfl

theorem owing_of_turn (turn : s.turn ≠ .send) (due : Bool) : s.Owing due :=
  fun taken => absurd taken turn

theorem turn_of_reply {received : Bytes} {content : InitiatorFrame}
    {built after : Except Error Bytes} {next : TargetSide} (turn : s.turn ≠ .send)
    (reacts : s.react received content = .reply built after next) : next.turn ≠ .send := by
  have possible := react_reacts s received content
  rw [reacts] at possible
  cases possible with
  | attention => exact turn
  | acknowledge => exact turn
  | retune => exact turn
  | relink => exact Turn.noConfusion
  | release => exact Turn.noConfusion

/-- A target that listens hears a frame before each of its replies. -/
theorem duplex_receiving (fuel : Nat) (received : Bytes) (turn : s.turn ≠ .send) :
    (Act.steps (receiveStep wait) fuel received n s).Duplex (fun due r => r.2.Owing due) due := by
  induction fuel generalizing s received due with
  | zero => exact .cut due
  | succ fuel ih =>
      rw [steps_receive_succ]
      refine .receive fun frame => ?_
      cases decoded : InitiatorFrame.decode frame with
      | error e =>
          rw [hear_unreadable wait n s fuel received decoded]
          exact .done (owing_due s)
      | ok content =>
          rw [hear_ok wait n s fuel received decoded]
          cases reacts : s.react received content with
          | refuse e => exact .done (owing_due s)
          | complete payload => exact .done (owing_due _)
          | reply built after next =>
              have away := turn_of_reply turn reacts
              cases built with
              | error e => exact .done (owing_due s)
              | ok reply =>
                  refine .send ?_
                  cases after with
                  | error e => exact .done (owing_of_turn away false)
                  | ok pieces => exact ih pieces away

theorem duplex_receive (wait : Timeout) (owing : s.Owing due) :
    (receive wait).Duplex due s fun due _ s' => s'.Owing due := by
  by_cases turn : s.turn = .receive
  · intro n
    rw [receive_apply wait n s turn]
    refine duplex_receiving n [] ?_
    rw [turn]
    exact Turn.noConfusion
  · exact Act.duplex_done (fun n => receive_refused wait n s turn) owing

/-- What a target awaits is a frame to answer, whether it is the one that it wants or not. -/
theorem duplex_await {expected : InitiatorFrame → Bool} {refusal : InitiatorFrame → Error}
    {ends : Bool → Except Error Unit × TargetSide → Prop} (holds : ∀ r, ends true (r, s)) :
    (await wait s expected refusal).Duplex ends due :=
  .receive fun _ => .done (holds _)

theorem duplex_sendPiece (wait : Timeout) (piece : Bytes) (s : TargetSide) :
    (sendPiece wait true piece).Duplex true s fun due _ _ => due = true := by
  intro n
  rw [sendPiece_apply]
  cases (Pdu.information true s.pni piece).encode .answer with
  | error e => exact .done rfl
  | ok frame =>
      refine .send ?_
      change (expectAck wait n s.advanced).Duplex _ _
      rw [expectAck_apply]
      exact duplex_await fun _ => rfl

/-- No answer is due once the last piece is out. -/
theorem duplex_sendLast (wait : Timeout) (piece : Bytes) (s : TargetSide) :
    (sendPiece wait false piece).Duplex true s fun due r _ => (∃ e, r = .error e) → due = true := by
  intro n
  rw [sendPiece_apply]
  cases (Pdu.information false s.pni piece).encode .answer with
  | error e => exact .done fun _ => rfl
  | ok frame => exact .send (.done nofun)

theorem duplex_pieces (wait : Timeout) (head : List Bytes) (last : Bytes) (s : TargetSide) :
    (do
      head.forM (sendPiece wait true)
      sendPiece wait false last
      modify fun t => t.turned .receive : Act Chip TargetSide Unit).Duplex true s
      fun due _ s' => s'.Owing due := by
  apply (Act.duplex_forM (duplex_sendPiece wait) head s).bind
  · rintro due done s' rfl
    apply (duplex_sendLast wait last s').bind
    · intro due done s'' _
      exact Act.duplex_done (fun _ => rfl) (owing_of_turn Turn.noConfusion due)
    · intro due e s'' owed _
      exact owed ⟨e, rfl⟩
  · intro due e s' owed _
    exact owed

theorem duplex_send (payload : Bytes) (wait : Timeout) (owing : s.Owing due) :
    (send payload wait).Duplex due s fun due _ s' => s'.Owing due := by
  by_cases turn : s.turn = .send
  · rw [owing turn]
    intro n
    rw [send_apply wait n s turn rfl]
    exact duplex_pieces wait _ _ s n
  · exact Act.duplex_done (fun n => send_refused wait n s payload turn) owing

theorem duplex_requestTime (rtox : UInt8) (wait : Timeout) (owing : s.Owing due) :
    (requestTime rtox wait).Duplex due s fun due _ s' => s'.Owing due := by
  by_cases turn : s.turn = .send
  · rw [owing turn]
    intro n
    rw [requestTime_apply wait n s rtox turn]
    cases (Pdu.timeoutExtension rtox).encode .answer with
    | error e => exact .done (owing_due s)
    | ok frame => exact .send (duplex_await fun _ => owing_due s)
  · exact Act.duplex_done (fun n => requestTime_refused wait n s rtox turn) owing

theorem duplex_init (target : Target) (wait : Timeout) (owing : s.Owing due) :
    (init target wait).Duplex due s fun due _ s' => s'.Owing due := by
  by_cases dep : ∃ own, target = .dep own
  · obtain ⟨own, rfl⟩ := dep
    intro n
    rw [init_apply]
    refine .arm fun first => ?_
    by_cases greeted : ∃ request, InitiatorFrame.decode first = .ok (.atr request)
    · obtain ⟨request, decoded⟩ := greeted
      rw [greeting_atr wait n (s.prepared own) own rfl decoded]
      cases (answerTo own request).encode with
      | error e => exact .done (owing_due _)
      | ok frame => exact .send (.done (owing_of_turn Turn.noConfusion false))
    · obtain ⟨e, refused, -⟩ := greeting_refused wait n (s.prepared own) (r := .ok first)
        fun request decoded => greeted ⟨request, decoded⟩
      rw [refused]
      exact .done (owing_due _)
  · have other : ∀ own, target ≠ .dep own := fun own same => dep ⟨own, same⟩
    exact Act.duplex_done (fun n => init_refused wait n s other) owing

end TargetSide

section Runs

variable {s s' : TargetSide} {es : List Episode} {due : Bool}

theorem Call.duplex (call : Call) (owing : s.Owing due) :
    call.act.Duplex due s fun due _ s' => s'.Owing due := by
  cases call with
  | init target wait => exact TargetSide.duplex_init target wait owing
  | receive wait => exact TargetSide.duplex_receive wait owing
  | send payload wait => exact TargetSide.duplex_send payload wait owing
  | requestTime rtox wait => exact TargetSide.duplex_requestTime rtox wait owing

theorem Run.answering (run : Run s es s') (owing : s.Owing due)
    (accepted : ∀ event ∈ es.flatMap Episode.transcript, Event.failure event = none) :
    ∃ after, Answering due (es.flatMap Episode.transcript) after ∧ s'.Owing after := by
  induction run generalizing due with
  | nil s => exact ⟨due, .nil due, owing⟩
  | cons step _ ih =>
      rw [List.flatMap_cons] at accepted ⊢
      obtain ⟨first, rest⟩ := List.forall_mem_append.mp accepted
      obtain ⟨n, yields⟩ := step
      obtain ⟨between, here, owing⟩ := (Call.duplex _ owing n).yields yields first
      obtain ⟨after, later, owing⟩ := ih owing rest
      exact ⟨after, here.append later, owing⟩

/-- Any calls on a new target in any order, with one more call that may be under way, over a chip
that does not fail. -/
theorem calls_half_duplex {device : Device .target} (run : Run (.new device) es s) {call : Call}
    {n : Nat} {t : List Chip.Event} {d : Dialogue Chip (Except Error call.Value × TargetSide)}
    (under : (call.act n s).Reaches t d)
    (accepted : ∀ event ∈ es.flatMap Episode.transcript ++ t, Event.failure event = none) :
    HalfDuplex (es.flatMap Episode.transcript ++ t) := by
  obtain ⟨first, rest⟩ := List.forall_mem_append.mp accepted
  have unlinked : (TargetSide.new device).Owing false :=
    TargetSide.owing_of_turn Turn.noConfusion false
  obtain ⟨between, before, owing⟩ := run.answering unlinked first
  obtain ⟨after, here, -⟩ := (call.duplex owing n).reaches under rest
  exact (before.append here).halfDuplex

def Episode.unreadable : Episode :=
  ⟨.receive .forever, [⟨.receive .forever, .ok []⟩], .error (.invalidLength 3 0)⟩

/-- A request for more time that an attention frame answers. -/
def Episode.ungranted : Episode where
  call := .requestTime 7 .forever
  transcript := [⟨.send [0x05, 0xd5, 0x07, 0x90, 0x07] .forever, .ok ()⟩,
    ⟨.receive .forever, .ok [0x04, 0xd4, 0x06, 0x80]⟩]
  outcome := .error (TargetSide.notGranted 7 (.data .attention))

def Episode.answered : Episode :=
  ⟨.send [0xbb] .forever, [⟨.send [0x05, 0xd5, 0x07, 0x00, 0xbb] .forever, .ok ()⟩], .ok ()⟩

/-- A reception that has answered an attention frame and goes on. -/
def attended : List Chip.Event :=
  [⟨.receive .forever, .ok [0x04, 0xd4, 0x06, 0x80]⟩,
    ⟨.send [0x04, 0xd5, 0x07, 0x80] .forever, .ok ()⟩]

theorem calls_half_duplex_retried :
    HalfDuplex ([Episode.opening, .unreadable, .next, .ungranted, .answered].flatMap
      Episode.transcript ++ attended) := by
  have sent : Episode.answered.call.act.Yields (TargetSide.opened.turned .send)
      Episode.answered.transcript (.ok ()) TargetSide.opened.advanced := by
    refine ⟨0, ?_⟩
    change (TargetSide.send [0xbb] .forever 0 _).Yields _ _
    rw [TargetSide.send_apply .forever 0 _ rfl (pieces_of_le (by decide))]
    exact .ask _ (.done _)
  have run : Run .fresh [.opening, .unreadable, .next, .ungranted, .answered]
      TargetSide.opened.advanced :=
    .of_opening (.cons ⟨1, .ask _ (.done _)⟩ (.cons ⟨1, .ask _ (.done _)⟩
      (.cons ⟨0, .ask _ (.ask _ (.done _))⟩ (.cons sent (.nil _)))))
  have under : ((Call.receive .forever).act 2 TargetSide.opened.advanced).Reaches attended _ :=
    .ask _ (.ask _ (.refl _))
  exact calls_half_duplex run under (by decide)

end Runs

end Contactless.Dep
