import Contactless.Proofs.Dep.Payloads
import Contactless.Proofs.Dep.Trips

/-! Calls of the initiator, one round trip after the other. First it sends the pieces of its
payload, then it takes in those of the answer, and it ends with the first thing that is not in
order. -/
namespace Contactless.Dep

open Act

/-- All ways to take in an answer from a trip on, with the trips after it, with the outcome and with
the number that is next in the end. -/
inductive Collects : UInt8 → Bytes → Trip → List Trip → Except Error Bytes → UInt8 → Prop
  | lost {pni : UInt8} {received : Bytes} {x : Trip} {e : Error} : x.outcome = .error e →
      Collects pni received x [] (.error e) pni
  | unexpected {pni : UInt8} {received : Bytes} {x : Trip} {pdu : Pdu} (detail : String) :
      x.outcome = .ok pdu → (∀ more, pdu.pfb ≠ .information more pni) →
      Collects pni received x [] (.error (.rfProtocol detail)) pni
  | complete {pni : UInt8} {received payload : Bytes} {x : Trip} :
      x.outcome = .ok (.information false pni payload) →
      Collects pni received x [] (.ok (received ++ payload)) (nextPni pni)
  | more {pni pni' : UInt8} {received payload : Bytes} {x y : Trip} {rest : List Trip}
      {r : Except Error Bytes} :
      x.outcome = .ok (.information true pni payload) → y.asked = .ack (nextPni pni) →
      Collects (nextPni pni) (received ++ payload) y rest r pni' →
      Collects pni received x (y :: rest) r pni'

/-- All ways to send some pieces that are numbered from a packet number on, and to take in the
answer. -/
inductive Transmits :
    UInt8 → List Bytes → Bytes → List Trip → Except Error Bytes → UInt8 → Prop
  | lost {pni : UInt8} {piece last : Bytes} {head : List Bytes} {x : Trip} {e : Error} :
      x.asked = .information true pni piece → x.outcome = .error e →
      Transmits pni (piece :: head) last [x] (.error e) pni
  | unacked {pni : UInt8} {piece last : Bytes} {head : List Bytes} {x : Trip} {pdu : Pdu}
      (detail : String) : x.asked = .information true pni piece → x.outcome = .ok pdu →
      pdu.pfb ≠ .ack pni → Transmits pni (piece :: head) last [x] (.error (.rfProtocol detail)) pni
  | acked {pni pni' : UInt8} {piece last : Bytes} {head : List Bytes} {x : Trip} {pdu : Pdu}
      {rest : List Trip} {r : Except Error Bytes} : x.asked = .information true pni piece →
      x.outcome = .ok pdu → pdu.pfb = .ack pni → Transmits (nextPni pni) head last rest r pni' →
      Transmits pni (piece :: head) last (x :: rest) r pni'
  | said {pni pni' : UInt8} {last : Bytes} {x : Trip} {rest : List Trip}
      {r : Except Error Bytes} : x.asked = .information false pni last →
      Collects pni [] x rest r pni' → Transmits pni [] last (x :: rest) r pni'

section Courses

variable (s : Linked)

/-- What is said on a link, and what becomes of it, is told by some trips. -/
def Linked.Told {α : Type} (tells : List Trip → Except Error α → UInt8 → Prop)
    (t : List Chip.Event) (r : Except Error α) (s' : Linked) : Prop :=
  ∃ xs, t = xs.flatMap (Trip.events s.device.config.commandTimeout) ∧ tells xs r s'.link.pni ∧
    s' = { s with link := { s.link with pni := s'.link.pni } }

/-- What is made of a frame when a piece of the answer is due. -/
inductive Linked.Gathers :
    Bytes × Pdu → List Chip.Event → Except Error ((Bytes × Pdu) ⊕ Bytes) → Linked → Prop
  | unexpected {received : Bytes} {pdu : Pdu} (detail : String) :
      (∀ more, pdu.pfb ≠ .information more s.link.pni) →
      Gathers (received, pdu) [] (.error (.rfProtocol detail)) s
  | complete (received payload : Bytes) :
      Gathers (received, .information false s.link.pni payload) []
        (.ok (.inr (received ++ payload))) s.advanced
  | lost (received payload : Bytes) {y : Trip} {e : Error} :
      y.asked = .ack (nextPni s.link.pni) → y.outcome = .error e →
      Gathers (received, .information true s.link.pni payload)
        (y.events s.device.config.commandTimeout) (.error e) s.advanced
  | more (received payload : Bytes) {y : Trip} {next : Pdu} :
      y.asked = .ack (nextPni s.link.pni) → y.outcome = .ok next →
      Gathers (received, .information true s.link.pni payload)
        (y.events s.device.config.commandTimeout) (.ok (.inl (received ++ payload, next)))
        s.advanced

theorem Linked.accounts_collect (b : Bytes × Pdu) :
    (Linked.collect b).Accounts s (s.Gathers b) := by
  obtain ⟨received, pfb, payload⟩ := b
  refine accounts_get_bind ?_
  dsimp only
  cases pfb with
  | information more k =>
      dsimp only
      by_cases current : k = s.link.pni
      · subst current
        rw [if_pos rfl]
        refine accounts_modify_bind ?_
        cases more with
        | false => exact (assures_pure (.complete received payload)).accounts
        | true =>
            refine Accounts.bind (Linked.accounts_roundTrip s.advanced (Nat.zero_le 251)) ?_ ?_
            · rintro _ next _ ⟨y, asks, comes, rfl, rfl⟩
              refine (assures_pure ?_).accounts
              rw [List.append_nil]
              exact .more received payload asks comes
            · rintro _ e _ ⟨y, asks, comes, rfl, rfl⟩
              exact .lost received payload asks comes
      · rw [if_neg current]
        refine (assures_throw (.unexpected _ ?_)).accounts
        intro more same
        exact current (Pfb.information.inj same).2
  | _ => exact (assures_throw (.unexpected _ fun more => Pfb.noConfusion)).accounts

variable {s}

/-- The rest of a call whose answer began with this frame. -/
theorem Linked.told_of_loops {b : Bytes × Pdu} {t : List Chip.Event} {r : Except Error Bytes}
    {s' : Linked} (loops : Loops (fun b s => s.Gathers b) b s t r s') :
    s.Told (fun xs r pni => ∀ x : Trip, x.outcome = .ok b.2 → Collects s.link.pni b.1 x xs r pni)
      t r s' := by
  induction loops with
  | failed gathers =>
      cases gathers with
      | unexpected detail other =>
          exact ⟨[], rfl, fun x comes => .unexpected detail comes other, rfl⟩
      | lost received payload asks lost =>
          exact ⟨[_], (List.append_nil _).symm, fun x comes => .more comes asks (.lost lost), rfl⟩
  | ended gathers =>
      cases gathers with
      | complete received payload => exact ⟨[], rfl, fun x comes => .complete comes, rfl⟩
  | again gathers _ ih =>
      cases gathers with
      | more received payload asks came =>
          obtain ⟨xs, rfl, collects, kept⟩ := ih
          exact ⟨_ :: xs, rfl, fun x comes => .more comes asks (collects _ came), kept⟩

/-- The rest of a call that has said all pieces but the last. -/
def Linked.finish (last : Bytes) : Act Chip Linked Bytes := do
  let answer ← Linked.roundTrip (.information false (← get).link.pni last)
  Act.loop Linked.collect ([], answer)

variable (s)

theorem Linked.accounts_finish {last : Bytes} (short : last.length ≤ 251) :
    (Linked.finish last).Accounts s (s.Told (Transmits s.link.pni [] last)) := by
  have fits : (Pdu.information false s.link.pni last).payload.length ≤ 251 := short
  refine accounts_get_bind ((Linked.accounts_roundTrip s fits).bind ?_ ?_)
  · rintro _ answer s ⟨x, asks, comes, rfl, rfl⟩
    refine (Accounts.loop (fun b s => Linked.accounts_collect s b) ?_ ([], answer) s).mono ?_
    · intro b s t b' s' gathers
      cases gathers with
      | more received payload asks comes => exact Trip.taken_pos _ comes
    · rintro t r s' loops
      obtain ⟨xs, rfl, collects, kept⟩ := Linked.told_of_loops loops
      exact ⟨x :: xs, rfl, .said asks (collects x comes), kept⟩
  · rintro _ e _ ⟨x, asks, lost, rfl, rfl⟩
    exact ⟨[x], (List.append_nil _).symm, .said asks (.lost lost), rfl⟩

/-- A piece that is not the last goes out, and is acknowledged or ends the call. -/
theorem Linked.accounts_sendPiece {piece : Bytes} (short : piece.length ≤ 251) :
    (Linked.sendPiece piece).Accounts s fun t r s' => ∃ x : Trip,
      x.asked = .information true s.link.pni piece ∧
      t = x.events s.device.config.commandTimeout ∧
      ((∃ e, x.outcome = .error e ∧ r = .error e ∧ s' = s) ∨
        (∃ pdu detail, x.outcome = .ok pdu ∧ pdu.pfb ≠ .ack s.link.pni ∧
          r = .error (.rfProtocol detail) ∧ s' = s) ∨
        ∃ pdu, x.outcome = .ok pdu ∧ pdu.pfb = .ack s.link.pni ∧ r = .ok () ∧ s' = s.advanced) := by
  have fits : (Pdu.information true s.link.pni piece).payload.length ≤ 251 := short
  refine accounts_get_bind ((Linked.accounts_roundTrip s fits).bind ?_ ?_)
  · rintro _ pdu s ⟨x, asks, comes, rfl, rfl⟩
    by_cases acks : pdu.pfb = .ack s.link.pni
    · rw [if_pos acks]
      refine (assures_modifyGet ?_).accounts
      rw [List.append_nil]
      exact ⟨x, asks, rfl, .inr (.inr ⟨pdu, comes, acks, rfl, rfl⟩)⟩
    · rw [if_neg acks]
      refine (assures_throw ?_).accounts
      rw [List.append_nil]
      exact ⟨x, asks, rfl, .inr (.inl ⟨pdu, _, comes, acks, rfl, rfl⟩)⟩
  · rintro _ e _ ⟨x, asks, lost, rfl, rfl⟩
    exact ⟨x, asks, rfl, .inl ⟨e, lost, rfl, rfl⟩⟩

theorem Linked.accounts_transmits {head : List Bytes} {last : Bytes}
    (shortHead : ∀ piece ∈ head, piece.length ≤ 251) (short : last.length ≤ 251) :
    (head.forM Linked.sendPiece >>= fun _ => Linked.finish last).Accounts s
      (s.Told (Transmits s.link.pni head last)) := by
  induction head generalizing s with
  | nil => exact Linked.accounts_finish s short
  | cons piece head ih =>
      have rest (s : Linked) := ih s fun other member => shortHead other (.tail piece member)
      rw [forM_cons_bind]
      refine (Linked.accounts_sendPiece s (shortHead piece List.mem_cons_self)).bind ?_ ?_
      · rintro _ ⟨⟩ _ ⟨x, asks, rfl, ⟨e, -, came, -⟩ | ⟨pdu, detail, -, -, came, -⟩ |
          ⟨pdu, comes, acks, -, rfl⟩⟩
        · cases came
        · cases came
        · refine (rest s.advanced).mono ?_
          rintro t r s' ⟨xs, rfl, transmits, kept⟩
          exact ⟨x :: xs, rfl, .acked asks comes acks transmits, kept⟩
      · rintro _ e _ ⟨x, asks, rfl, ⟨e', lost, came, rfl⟩ | ⟨pdu, detail, comes, other, came, rfl⟩ |
          ⟨pdu, -, -, came, -⟩⟩
        · cases came
          exact ⟨[x], (List.append_nil _).symm, .lost asks lost, rfl⟩
        · cases came
          exact ⟨[x], (List.append_nil _).symm, .unacked detail asks comes other, rfl⟩
        · cases came

end Courses

section Calls

variable {payload last : Bytes} {head : List Bytes}

theorem Linked.transceive_eq {s : Linked}
    (cut : pieces (payloadLimit s.link.info.pp) payload = (head, last)) (n : Nat) :
    Linked.transceive payload n s =
      (head.forM Linked.sendPiece >>= fun _ => Linked.finish last) n s := by
  have same : Linked.transceive payload n s =
      ((pieces (payloadLimit s.link.info.pp) payload).1.forM Linked.sendPiece >>= fun _ =>
        Linked.finish (pieces (payloadLimit s.link.info.pp) payload).2) n s := rfl
  rw [same, cut]

namespace InitiatorSide

variable {i : InitiatorSide} {link : Link}

theorem transceive_apply (opened : i.link = some link) (n : Nat) :
    transceive payload n i = (Linked.transceive payload n ⟨i.device, link⟩).map
      fun r => (r.1, ⟨r.2.device, some r.2.link⟩) := by
  unfold transceive linked
  rw [opened]

theorem transceive_yields (opened : i.link = some link)
    (cut : pieces (payloadLimit link.info.pp) payload = (head, last)) {n : Nat}
    {t : List Chip.Event} {r : Except Error Bytes} {s' : Linked}
    (h : ((head.forM Linked.sendPiece >>= fun _ => Linked.finish last) n ⟨i.device, link⟩).Yields t
      (r, s')) :
    (transceive payload).Yields i t r ⟨s'.device, some s'.link⟩ := by
  rw [← Linked.transceive_eq (s := ⟨i.device, link⟩) cut] at h
  refine ⟨n, ?_⟩
  rw [transceive_apply opened]
  exact Dialogue.yields_bind_iff.mpr ⟨t, [], (r, s'), (List.append_nil t).symm, h, .done _⟩

/-- A call sends its pieces and takes in the answer, and nothing of the side but the packet number
of its link is any different afterwards. -/
theorem accounts_transceive (opened : i.link = some link)
    (cut : pieces (payloadLimit link.info.pp) payload = (head, last)) :
    (transceive payload).Accounts i fun t r i' => ∃ xs pni,
      t = xs.flatMap (Trip.events i.device.config.commandTimeout) ∧
      Transmits link.pni head last xs r pni ∧ i' = ⟨i.device, some { link with pni }⟩ := by
  obtain ⟨_, _, cut', -, -, short, shortLast⟩ := exists_pieces link.info.pp payload
  cases cut.symm.trans cut'
  have accounts := Linked.accounts_transmits ⟨i.device, link⟩ short shortLast
  intro n
  have same := Linked.transceive_eq (s := ⟨i.device, link⟩) cut n
  rw [transceive_apply opened, same]
  refine Dialogue.Accounts.bind ((accounts n).mono ?_ fun _ => id)
  rintro _ ⟨r, s'⟩ ⟨xs, rfl, transmits, kept⟩
  have side := congrArg (fun s : Linked => (⟨s.device, some s.link⟩ : InitiatorSide)) kept
  exact ⟨xs, s'.link.pni, List.append_nil _, transmits, side⟩

end InitiatorSide

end Calls

end Contactless.Dep
