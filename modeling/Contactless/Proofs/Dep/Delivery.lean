import Contactless.Proofs.Dep.Calls
import Contactless.Proofs.Dep.Numbered

/-! Answers of a target to an initiator that may say anything. The pieces of an answer go out in
order, each once the one before it was acknowledged with the number that is next. -/
namespace Contactless.Dep

open Act

/-- The frames that a target tried to send. -/
def offered (t : List Chip.Event) : List Bytes :=
  t.filterMap fun
    | ⟨.send frame _, _⟩ => some frame
    | _ => none

namespace TargetSide

section Sent

variable {wait : Timeout} {pni pni' : UInt8} {head : List Bytes} {last : Bytes}
  {t : List Chip.Event} {r : Except Error Unit}

theorem exists_ack_of_awaited {answer : Except Error Bytes}
    (acks : awaited pni answer = .ok ()) :
    ∃ frame pdu, answer = .ok frame ∧ InitiatorFrame.decode frame = .ok (.data pdu) ∧
      pdu.pfb = .ack pni := by
  cases answer with
  | error e => cases acks
  | ok frame =>
      cases decoded : InitiatorFrame.decode frame with
      | error e =>
          simp only [awaited, Except.bind, decoded] at acks
          cases acks
      | ok content =>
          simp only [awaited, Except.bind, decoded, demand] at acks
          cases content with
          | data pdu =>
              refine ⟨frame, pdu, rfl, decoded, ?_⟩
              apply eq_of_beq
              apply Decidable.byContradiction
              intro other
              rw [acknowledges, if_neg other] at acks
              cases acks
          | _ => cases acks

theorem awaited_of_ack {answer : Bytes} {pdu : Pdu}
    (decoded : InitiatorFrame.decode answer = .ok (.data pdu)) (number : pdu.pfb = .ack pni) :
    awaited pni (.ok answer) = .ok () := by
  have met : acknowledges pni (.data pdu) = true := beq_iff_eq.mpr number
  simp only [awaited, Except.bind, decoded, demand, met, if_true]

/-- The last thing that came in before a frame acknowledged all that was before its piece. -/
def Acked (wait : Timeout) (before : List Chip.Event) (frame : Bytes) : Prop :=
  ∃ (earlier : List Chip.Event) (sent answer : Bytes) (pdu : Pdu) (k : UInt8) (more : Bool)
      (piece : Bytes),
    before = earlier ++ [⟨.send sent wait, .ok ()⟩, ⟨.receive wait, .ok answer⟩] ∧
      InitiatorFrame.decode answer = .ok (.data pdu) ∧ pdu.pfb = .ack k ∧
      (Pdu.information more k piece).encode .answer = .ok frame

namespace Sends

theorem offered (sends : Sends wait pni head last t r pni') :
    (offered t).map .ok <+: (numbered pni head last).map fun pdu => pdu.encode .answer := by
  induction sends with
  | unsent e built | unacked built failed =>
      exact List.cons_prefix_cons.mpr ⟨built.symm, List.nil_prefix⟩
  | acked built acks _ ih => exact List.cons_prefix_cons.mpr ⟨built.symm, ih⟩
  | withheld e built | sent built => exact List.cons_prefix_cons.mpr ⟨built.symm, List.nil_prefix⟩

/-- An answer that succeeds has gone out as a whole. -/
theorem of_ok (sends : Sends wait pni head last t (.ok ()) pni') :
    (Dep.offered t).map .ok = (numbered pni head last).map (fun pdu => pdu.encode .answer) ∧
      (∀ e, ¬ Chip.Fails t e) ∧ pni' = nextPni^[head.length + 1] pni := by
  generalize came : Except.ok () = r at sends
  induction sends with
  | unsent => cases came
  | unacked => cases came
  | withheld => cases came
  | sent built =>
      refine ⟨congrArg (· :: []) built.symm, ?_, rfl⟩
      rintro e ⟨event, member, failed⟩
      rw [List.mem_singleton.mp member] at failed
      cases failed
  | @acked _ _ _ _ _ _ answer _ _ built acks _ ih =>
      obtain ⟨all, none, count⟩ := ih came
      refine ⟨?_, ?_, count⟩
      · exact congrArg₂ List.cons built.symm all
      · rintro e ⟨event, member, failed⟩
        obtain ⟨frame, -, rfl, -⟩ := exists_ack_of_awaited acks
        rcases List.mem_cons.mp member with rfl | later
        · cases failed
        · rcases List.mem_cons.mp later with rfl | later
          · cases failed
          · exact none e ⟨event, later, failed⟩

theorem first {frame : Bytes} {w : Timeout} {answer : Except Error Unit} {v : List Chip.Event}
    (sends : Sends wait pni head last (⟨.send frame w, answer⟩ :: v) r pni') :
    ∃ more piece, (Pdu.information more pni piece).encode .answer = .ok frame := by
  cases sends with
  | unsent e built => exact ⟨true, _, built⟩
  | unacked built failed => exact ⟨true, _, built⟩
  | acked built acks rest => exact ⟨true, _, built⟩
  | withheld e built => exact ⟨false, _, built⟩
  | sent built => exact ⟨false, _, built⟩

/-- A piece goes out first, or right after the acknowledgement of the one before it. -/
theorem spaced {frame : Bytes} {w : Timeout} {answer : Except Error Unit}
    {before after : List Chip.Event} (sends : Sends wait pni head last t r pni')
    (split : t = before ++ ⟨.send frame w, answer⟩ :: after) :
    before = [] ∨ Acked wait before frame := by
  induction sends generalizing before with
  | unsent e built | withheld e built | sent built =>
      cases before with
      | nil => exact .inl rfl
      | cons event before =>
          have nothing := (List.cons.inj split).2
          cases before <;> cases nothing
  | unacked built failed =>
      cases before with
      | nil => exact .inl rfl
      | cons event before =>
          have rest := (List.cons.inj split).2
          cases before with
          | nil => cases rest
          | cons event' before =>
              have nothing := (List.cons.inj rest).2
              cases before <;> cases nothing
  | @acked _ _ _ _ sent _ _ _ _ built acks sends ih =>
      cases before with
      | nil => exact .inl rfl
      | cons event before =>
          obtain ⟨rfl, rest⟩ := List.cons.inj split
          cases before with
          | nil => cases rest
          | cons event' before =>
              obtain ⟨rfl, rfl⟩ := List.cons.inj rest
              right
              rcases ih rfl with rfl | ⟨earlier, sent', answer', pdu, k, more, piece, rfl, holds⟩
              · obtain ⟨came, pdu, rfl, decoded, number⟩ := exists_ack_of_awaited acks
                obtain ⟨more, piece, next⟩ := sends.first
                exact ⟨[], sent, came, pdu, _, more, piece, rfl, decoded, number, next⟩
              · exact ⟨_ :: _ :: earlier, sent', answer', pdu, k, more, piece, rfl, holds⟩

end Sends

end Sent

/-- What an answer of a target comes to, given how its payload is cut. -/
structure Delivers (s : TargetSide) (payload : Bytes) (wait : Timeout) (head : List Bytes)
    (last : Bytes) (t : List Chip.Event) (r : Except Error Unit) (s' : TargetSide) : Prop where
  room : ∀ i, s.initiator = some i → s.limit = frameLimit i.pp - 3
  cut : Cut s.limit payload head last
  built : ∀ pdu ∈ numbered s.pni head last,
    ∃ frame, pdu.encode .answer = .ok frame ∧ frame.length ≤ s.limit + 4
  in_order : (offered t).map .ok <+: (numbered s.pni head last).map fun pdu => pdu.encode .answer
  /-- Each piece but the first waits for the acknowledgement with its own number. -/
  spaced : ∀ before frame w answer after, t = before ++ ⟨.send frame w, answer⟩ :: after →
    before = [] ∨ Acked wait before frame
  done : r = .ok () →
    (offered t).map .ok = (numbered s.pni head last).map (fun pdu => pdu.encode .answer) ∧
      (∀ e, ¬ Chip.Fails t e) ∧ s' = { s with turn := .receive, pni := s'.pni } ∧
      s'.pni.toNat = (s.pni.toNat + (head.length + 1)) % 4
  failed : ∀ e, r = .error e → s'.turn = .send ∧ s' = { s with pni := s'.pni }

theorem Sends.delivers {s s' : TargetSide} {payload last : Bytes} {head : List Bytes}
    {wait : Timeout} {t : List Chip.Event} {r : Except Error Unit} (turn : s.turn = .send)
    (small : s.pni ≤ 3) (cutting : pieces s.limit payload = (head, last))
    (sends : Sends wait s.pni head last t r s'.pni) (kept : s.Spent r s') :
    s.Delivers payload wait head last t r s' := by
  have most : s.limit ≤ 251 := by
    rw [limit_eq]
    exact payloadLimit_le _
  have some : 0 < s.limit := by
    rw [limit_eq]
    exact payloadLimit_pos _
  have cut := cut_pieces some payload
  rw [cutting] at cut
  constructor
  case room =>
    intro i recorded
    simp only [limit, recorded]
    rfl
  case cut => exact cut
  case built => exact cut.built most .answer
  case in_order => exact sends.offered
  case spaced =>
    intro before frame w answer after split
    exact sends.spaced split
  case done =>
    rintro rfl
    obtain ⟨all, none, count⟩ := sends.of_ok
    refine ⟨all, none, kept, ?_⟩
    rw [count, toNat_iterate_nextPni small]
  case failed =>
    rintro e rfl
    have same : s' = { s with pni := s'.pni } := kept
    refine ⟨?_, same⟩
    rw [same]
    exact turn

/-- Whatever an initiator makes of the pieces of an answer, they go out one by one, and the turn
changes once all of them are out. -/
theorem send_delivers {s : TargetSide} (turn : s.turn = .send) (small : s.pni ≤ 3)
    (payload : Bytes) (wait : Timeout) :
    ∃ head last, (send payload wait).Assures s (s.Delivers payload wait head last) := by
  obtain ⟨head, last, cutting⟩ : ∃ head last, pieces s.limit payload = (head, last) :=
    ⟨_, _, rfl⟩
  refine ⟨head, last, (assures_send wait s turn cutting).mono ?_⟩
  rintro t r s' ⟨sends, kept⟩
  exact sends.delivers turn small cutting kept

section Samples

/-- A target that owes an answer to an initiator with the smallest frames. -/
def owing : TargetSide :=
  { opened with
    initiator := some { sampleOwn with timeoutExponent := 0, pp := 0 }
    turn := .send
    pni := 3 }

/-- An answer in two pieces, with the acknowledgement of the first. -/
def twoPieces : List Chip.Event :=
  [⟨.send ([0x41, 0xd5, 0x07, 0x13] ++ List.replicate 61 0xaa) .forever, .ok ()⟩,
    ⟨.receive .forever, .ok [0x04, 0xd4, 0x06, 0x40]⟩,
    ⟨.send [0x05, 0xd5, 0x07, 0x00, 0xbb] .forever, .ok ()⟩]

theorem send_delivers_two_pieces :
    owing.turn = .send ∧ owing.pni ≤ 3 ∧ ∃ head last, owing.Delivers crowded .forever head last
      twoPieces (.ok ()) (owing.advanced.advanced.turned .receive) := by
  have small : owing.pni ≤ 3 := by decide
  obtain ⟨head, last, assures⟩ := send_delivers rfl small crowded .forever
  refine ⟨rfl, small, head, last, assures.accounts.yields ⟨0, ?_⟩⟩
  rw [send_apply .forever 0 owing rfl pieces_crowded]
  exact .ask _ (.ask _ (.ask _ (.done _)))

end Samples

section Completeness

/-- An initiator that is not in the way of a target: it takes what it is sent, and acknowledges each
piece that more are to follow. The states in which it waits for a piece go with the number of the
piece. -/
structure Acknowledges {τ : Type} (h : Handler Chip τ) (wait : Timeout)
    (awaits : UInt8 → τ → Prop) : Prop where
  more : ∀ pni piece frame p, awaits pni p →
    (Pdu.information true pni piece).encode .answer = .ok frame →
    ∃ p' answer pdu p'', h (.send frame wait) p = (.ok (), p') ∧
      h (.receive wait) p' = (.ok answer, p'') ∧
      InitiatorFrame.decode answer = .ok (.data pdu) ∧ pdu.pfb = .ack (nextPni pni) ∧
      awaits (nextPni pni) p''
  last : ∀ pni piece frame p, awaits pni p →
    (Pdu.information false pni piece).encode .answer = .ok frame →
    (h (.send frame wait) p).1 = .ok ()

variable {τ : Type} {h : Handler Chip τ} {wait : Timeout} {awaits : UInt8 → τ → Prop}
  {pni pni' : UInt8} {head : List Bytes} {last : Bytes} {t : List Chip.Event}
  {r : Except Error Unit} {p p' : τ}

theorem Sends.ok_of_acknowledges (peer : Acknowledges h wait awaits)
    (sends : Sends wait pni head last t r pni') (ready : awaits pni p)
    (answers : h.Answers p t p') : r = .ok () := by
  -- On the pieces: the initiator is asked for each of them in a state that awaits it.
  induction sends generalizing p with
  | unsent e built =>
      obtain ⟨p₁, _, _, _, takes, -⟩ := peer.more _ _ _ p ready built
      cases answers with
      | cons sent rest => cases takes.symm.trans sent
  | unacked built failed =>
      obtain ⟨p₁, _, pdu, _, takes, acks, decoded, number, -⟩ := peer.more _ _ _ p ready built
      cases answers with
      | cons sent rest =>
          cases takes.symm.trans sent
          cases rest with
          | cons came rest =>
              cases acks.symm.trans came
              cases (awaited_of_ack decoded number).symm.trans failed
  | acked built acks _ ih =>
      obtain ⟨p₁, _, pdu, _, takes, acks, decoded, number, next⟩ := peer.more _ _ _ p ready built
      cases answers with
      | cons sent rest =>
          cases takes.symm.trans sent
          cases rest with
          | cons came rest =>
              cases acks.symm.trans came
              exact ih next rest
  | withheld e built =>
      have takes := peer.last _ _ _ p ready built
      cases answers with
      | cons sent rest =>
          rw [sent] at takes
          cases takes
  | sent built => rfl

/-- An answer reaches an initiator that acknowledges its pieces. -/
theorem exists_delivered (peer : Acknowledges h wait awaits) {s : TargetSide}
    (turn : s.turn = .send) (small : s.pni ≤ 3) (ready : awaits s.pni p) (payload : Bytes)
    (n : Nat) :
    ∃ head last t s' p', Dialogue.Held h (send payload wait n s) p t (.ok (), s') p' ∧
      s.Delivers payload wait head last t (.ok ()) s' := by
  obtain ⟨head, last, cutting⟩ : ∃ head last, pieces s.limit payload = (head, last) :=
    ⟨_, _, rfl⟩
  obtain ⟨t, ⟨r, s'⟩, p', held, sends, kept⟩ := (assures_send wait s turn cutting n).held h p
  obtain rfl := sends.ok_of_acknowledges peer ready held.answers
  exact ⟨head, last, t, s', p', held, sends.delivers turn small cutting kept⟩

/-- An initiator that does nothing but acknowledge, and counts. -/
def acknowledging : Handler Chip UInt8
  | .receive _, k => ((Pdu.ack (nextPni k)).encode .request, nextPni k)
  | .bits .., k => (.error .rfTimeout, k)
  | .bytes .., k | .arm .., k => (.error .rfTimeout, k)
  | .configure .., k | .send .., k | .idle, k | .abortPending, k => (.ok (), k)
  | .checkAbort, k | .sleep _, k => (false, k)
  | .clearAbort, k => ((), k)

theorem acknowledges_acknowledging (wait : Timeout) :
    Acknowledges acknowledging wait fun pni k => pni = k := by
  constructor
  · rintro pni piece frame _ rfl built
    obtain ⟨answer, acks⟩ := (Pdu.ack (nextPni pni)).exists_encode .request (Nat.zero_le 251)
    have number : (Pdu.ack (nextPni pni)).normal.pfb = .ack (nextPni pni) :=
      congrArg Pdu.pfb (Pdu.normal_ack (nextPni_le pni))
    exact ⟨pni, answer, _, nextPni pni, rfl, congrArg (·, nextPni pni) acks,
      InitiatorFrame.decode_data acks, number, rfl⟩
  · intro pni piece frame k ready built
    rfl

end Completeness

end TargetSide

end Contactless.Dep
