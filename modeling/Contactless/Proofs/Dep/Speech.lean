import Contactless.Proofs.Dep.Transmission

/-! Everything that a call of the data exchange initiator can say, whatever it is answered. It sends
the pieces of its payload one by one, each once the one before was acknowledged; from where it has
to grant time or has said its last piece, its frames carry nothing. -/
namespace Contactless.Dep

section Frames

/-- A frame of an initiator that carries a piece of a payload, with more to come or not. -/
def Carries (more : Bool) (piece frame : Bytes) : Prop :=
  ∃ k, InitiatorFrame.decode frame = .ok (.data (.information more k piece))

/-- A frame of an initiator that acknowledges or grants time. -/
def Bare (frame : Bytes) : Prop :=
  ∃ pdu, InitiatorFrame.decode frame = .ok (.data pdu) ∧
    ((∃ k, pdu.pfb = .ack k) ∨ pdu.pfb = .timeoutExtension)

/-- An answer of a target that acknowledges a piece. -/
def Acks (answer : Bytes) : Prop :=
  ∃ pdu k, Pdu.decode answer .answer = .ok pdu ∧ pdu.pfb = .ack k

variable {frame : Bytes}

theorem carries_of_encode {more : Bool} {k : UInt8} {piece : Bytes}
    (encoded : (Pdu.information more k piece).encode .request = .ok frame) :
    Carries more piece frame :=
  ⟨_, InitiatorFrame.decode_data encoded⟩

theorem bare_ack {k : UInt8} (encoded : (Pdu.ack k).encode .request = .ok frame) : Bare frame :=
  ⟨_, InitiatorFrame.decode_data encoded, .inl ⟨_, rfl⟩⟩

theorem bare_timeoutExtension {rtox : UInt8}
    (encoded : (Pdu.timeoutExtension rtox).encode .request = .ok frame) : Bare frame :=
  ⟨_, InitiatorFrame.decode_data encoded, .inr rfl⟩

theorem not_acks_of_decode {answer : Bytes} {pdu : Pdu}
    (decoded : Pdu.decode answer .answer = .ok pdu) (other : ∀ k, pdu.pfb ≠ .ack k) :
    ¬ Acks answer := by
  rintro ⟨same, k, again, acks⟩
  cases decoded.symm.trans again
  exact other k acks

end Frames

section Rounds

/-- How a round goes on with an answer. Time is granted as long as it is asked for. -/
inductive Round : Except Error Bytes → List Chip.Event → Except Error Pdu → Prop
  | failed {r : Except Error Bytes} (e : Error) : Round r [] (.error e)
  | answered {answer : Bytes} {pdu : Pdu} : Pdu.decode answer .answer = .ok pdu →
      pdu.pfb ≠ .timeoutExtension → Round (.ok answer) [] (.ok pdu)
  | extended {answer echo : Bytes} {pdu : Pdu} {wait : Timeout} {r : Except Error Bytes}
      {t : List Chip.Event} {p : Except Error Pdu} : Pdu.decode answer .answer = .ok pdu →
      pdu.pfb = .timeoutExtension → Bare echo → Round r t p →
      Round (.ok answer) (⟨.bytes echo wait, r⟩ :: t) p

theorem Concludes.round {answer : Except Error Bytes} {r : Except Error Pdu}
    (concludes : Concludes answer r) : Round answer [] r := by
  cases concludes with
  | lost e | unreadable failed | excessive detail decodes asks outside => exact .failed _
  | answered decodes final => exact .answered decodes final

/-- A trip is a frame and the round that goes on with what comes in first. -/
theorem Trip.round (wait : Timeout) (x : Trip) :
    ∃ r u, x.events wait = ⟨.bytes x.frame wait, r⟩ :: u ∧ Round r u x.outcome := by
  have all (grants : List Grant) (frame : Bytes) (now : Timeout) :
      ∃ r u, granting wait frame now grants x.answer = ⟨.bytes frame now, r⟩ :: u ∧
        Round r u x.outcome := by
    induction grants generalizing frame now with
    | nil => exact ⟨x.answer, [], rfl, x.concludes.round⟩
    | cons g grants ih =>
        obtain ⟨r, u, same, round⟩ := ih g.echo (wait.scale g.rtox)
        refine ⟨.ok g.request, _, rfl, ?_⟩
        rw [same]
        exact .extended g.decodes g.asks (bare_timeoutExtension g.built) round
  exact all x.grants x.frame wait

end Rounds

section Speech

/-- Frames that carry nothing, at least up to an acknowledgement. -/
inductive Mutters : List Chip.Event → Prop
  | nil : Mutters []
  | acked {frame answer : Bytes} {wait : Timeout} {rest : List Chip.Event} : Bare frame →
      Acks answer → Mutters (⟨.bytes frame wait, .ok answer⟩ :: rest)
  | more {frame : Bytes} {wait : Timeout} {r : Except Error Bytes} {rest : List Chip.Event} :
      Bare frame → Mutters rest → Mutters (⟨.bytes frame wait, r⟩ :: rest)

/-- What a call says that comes to an outcome and still has these pieces and a last one to send. It
has to fail where it ends before the last piece. -/
inductive Speaks (outcome : Except Error Bytes) : List Bytes → Bytes → List Chip.Event → Prop
  | cut {piece last frame : Bytes} {head : List Bytes} {wait : Timeout} {r : Except Error Bytes}
      {e : Error} : Carries true piece frame → outcome = .error e →
      Speaks outcome (piece :: head) last [⟨.bytes frame wait, r⟩]
  | acked {piece last frame answer : Bytes} {head : List Bytes} {wait : Timeout}
      {rest : List Chip.Event} : Carries true piece frame → Acks answer →
      Speaks outcome head last rest →
      Speaks outcome (piece :: head) last (⟨.bytes frame wait, .ok answer⟩ :: rest)
  | delayed {piece last frame answer : Bytes} {head : List Bytes} {wait : Timeout}
      {rest : List Chip.Event} : Carries true piece frame → ¬ Acks answer → Mutters rest →
      Speaks outcome (piece :: head) last (⟨.bytes frame wait, .ok answer⟩ :: rest)
  | lost {last frame : Bytes} {wait : Timeout} {e e' : Error} : Carries false last frame →
      outcome = .error e → Speaks outcome [] last [⟨.bytes frame wait, .error e'⟩]
  | said {last frame answer : Bytes} {wait : Timeout} {rest : List Chip.Event} :
      Carries false last frame → Mutters rest →
      Speaks outcome [] last (⟨.bytes frame wait, .ok answer⟩ :: rest)

variable {t u : List Chip.Event} {r outcome : Except Error Bytes} {p : Except Error Pdu}

theorem Mutters.append (first : Mutters t) (rest : Mutters u) : Mutters (t ++ u) := by
  induction first with
  | nil => exact rest
  | acked bare acks => exact .acked bare acks
  | more bare _ ih => exact .more bare ih

theorem Round.mutters (round : Round r t p) : Mutters t := by
  induction round with
  | failed e => exact .nil
  | answered _ _ => exact .nil
  | extended _ _ bare _ ih => exact .more bare ih

theorem Round.of_error {e : Error} (round : Round (.error e) t p) :
    t = [] ∧ ∃ e', p = .error e' := by
  cases round with
  | failed e' => exact ⟨rfl, e', rfl⟩

/-- A round goes on only where more time was asked for. -/
theorem Round.extends (round : Round r t p) :
    t = [] ∨ ∃ answer, r = .ok answer ∧ ¬ Acks answer := by
  cases round with
  | failed e => exact .inl rfl
  | answered _ _ => exact .inl rfl
  | extended decoded asks _ _ =>
      refine .inr ⟨_, rfl, not_acks_of_decode decoded fun k acks => ?_⟩
      rw [asks] at acks
      cases acks

/-- An acknowledgement comes as the answer to the frame itself, or to a grant of time. -/
theorem Round.acked {pdu : Pdu} {k : UInt8} (round : Round r t (.ok pdu)) (acks : pdu.pfb = .ack k)
    (u : List Chip.Event) :
    (t = [] ∧ ∃ answer, r = .ok answer ∧ Acks answer) ∨
      (∃ answer, r = .ok answer ∧ ¬ Acks answer) ∧ Mutters (t ++ u) := by
  generalize outcome : (Except.ok pdu : Except Error Pdu) = p at round
  induction round with
  | failed e => cases outcome
  | answered decoded _ =>
      cases outcome
      exact .inl ⟨rfl, _, rfl, _, k, decoded, acks⟩
  | @extended answer echo other wait r t p decoded asks bare rest ih =>
      have waits : ¬ Acks answer := not_acks_of_decode decoded fun k acks => by
        rw [asks] at acks
        cases acks
      rcases ih outcome with ⟨rfl, later, rfl, acknowledged⟩ | ⟨-, mutters⟩
      · exact .inr ⟨⟨_, rfl, waits⟩, .acked bare acknowledged⟩
      · exact .inr ⟨⟨_, rfl, waits⟩, .more bare mutters⟩

theorem Trip.carries {more : Bool} {k : UInt8} {piece : Bytes} {x : Trip}
    (asks : x.asked = .information more k piece) : Carries more piece x.frame := by
  have built := x.built
  rw [asks] at built
  exact carries_of_encode built

/-- Once the last piece is said nothing but acknowledgements follow. -/
theorem Collects.mutters {pni pni' : UInt8} {received : Bytes} {x : Trip} {rest : List Trip}
    (collects : Collects pni received x rest outcome pni') (wait : Timeout) :
    Mutters (rest.flatMap (Trip.events wait)) := by
  induction collects with
  | lost | unexpected | complete => exact .nil
  | @more _ _ _ _ _ y _ _ _ asks _ ih =>
      have bare : Bare y.frame := by
        have built := y.built
        rw [asks] at built
        exact bare_ack built
      obtain ⟨r, u, same, round⟩ := y.round wait
      rw [List.flatMap_cons, same]
      exact .more bare (round.mutters.append ih)

theorem Transmits.speaks {pni pni' : UInt8} {head : List Bytes} {last : Bytes} {xs : List Trip}
    (transmits : Transmits pni head last xs outcome pni') (wait : Timeout) :
    Speaks outcome head last (xs.flatMap (Trip.events wait)) := by
  -- A call that ends before the last piece ends with the trip of that piece.
  have cut {x : Trip} {k : UInt8} {piece last : Bytes} {head : List Bytes} {e : Error}
      (asks : x.asked = .information true k piece) :
      Speaks (.error e) (piece :: head) last ([x].flatMap (Trip.events wait)) := by
    obtain ⟨r, u, same, round⟩ := x.round wait
    rw [List.flatMap_singleton, same]
    rcases round.extends with rfl | ⟨answer, rfl, waits⟩
    · exact .cut (Trip.carries asks) rfl
    · exact .delayed (Trip.carries asks) waits round.mutters
  induction transmits with
  | lost asks _ => exact cut asks
  | unacked detail asks _ _ => exact cut asks
  | @acked _ _ _ _ _ x pdu rest _ asks comes acks _ ih =>
      obtain ⟨r, u, same, round⟩ := x.round wait
      rw [comes] at round
      rw [List.flatMap_cons, same]
      -- After a grant of time it was the grant that was acknowledged, and what is said from then on
      -- is left open: a target acknowledges nothing but frames that carry a piece.
      rcases round.acked acks (rest.flatMap (Trip.events wait)) with
        ⟨rfl, answer, rfl, acknowledged⟩ | ⟨⟨answer, rfl, waits⟩, mutters⟩
      · exact .acked (Trip.carries asks) acknowledged ih
      · exact .delayed (Trip.carries asks) waits mutters
  | @said _ _ _ x rest _ asks collects =>
      obtain ⟨r, u, same, round⟩ := x.round wait
      rw [List.flatMap_cons, same]
      cases r with
      | ok answer => exact .said (Trip.carries asks) (round.mutters.append (collects.mutters wait))
      | error e =>
          obtain ⟨rfl, e', failed⟩ := round.of_error
          cases collects with
          | lost => exact .lost (Trip.carries asks) rfl
          | unexpected _ comes | complete comes | more comes => cases comes.symm.trans failed

end Speech

section Requests

/-- A call of an initiator with what its chip was asked and answered, and with its outcome. -/
structure Request where
  payload : Bytes
  transcript : List Chip.Event
  outcome : Except Error Bytes

inductive Talk : InitiatorSide → List Request → InitiatorSide → Prop
  | nil (i : InitiatorSide) : Talk i [] i
  | cons {i i' i'' : InitiatorSide} {c : Request} {rest : List Request} :
      (InitiatorSide.transceive c.payload).Yields i c.transcript c.outcome i' → Talk i' rest i'' →
      Talk i (c :: rest) i''

/-- All pieces of a payload but the last, and the last one, cut for a target with this parameter
byte. -/
def Request.cut (pp : UInt8) (c : Request) : List Bytes × Bytes :=
  pieces (payloadLimit pp) c.payload

def Request.Spoken (pp : UInt8) (c : Request) : Prop :=
  Speaks c.outcome (c.cut pp).1 (c.cut pp).2 c.transcript

theorem Request.flatten_cut (pp : UInt8) (c : Request) :
    (c.cut pp).1.flatten ++ (c.cut pp).2 = c.payload :=
  (cut_pieces (payloadLimit_pos pp) c.payload).whole

theorem InitiatorSide.transceive_spoken {c : Request} {i i' : InitiatorSide} {link : Link}
    (opened : i.link = some link)
    (h : (InitiatorSide.transceive c.payload).Yields i c.transcript c.outcome i') :
    c.Spoken link.info.pp ∧ ∃ link', i'.link = some link' ∧ link'.info = link.info := by
  have cut : pieces (payloadLimit link.info.pp) c.payload =
      ((c.cut link.info.pp).1, (c.cut link.info.pp).2) := rfl
  obtain ⟨xs, pni, told, transmits, rfl⟩ := (accounts_transceive opened cut).yields h
  unfold Request.Spoken
  rw [told]
  exact ⟨transmits.speaks _, _, rfl, rfl⟩

theorem Talk.spoken {i i' : InitiatorSide} {cs : List Request} {link : Link}
    (talk : Talk i cs i') (opened : i.link = some link) : ∀ c ∈ cs, c.Spoken link.info.pp := by
  induction talk generalizing link with
  | nil i =>
      intro c member
      cases member
  | cons call _ ih =>
      obtain ⟨spoken, link', stays, info⟩ := InitiatorSide.transceive_spoken opened call
      intro c member
      rcases List.mem_cons.mp member with rfl | later
      · exact spoken
      · rw [← info]
        exact ih stays c later

end Requests

end Contactless.Dep
