import Contactless.Proofs.Dep.Air
import Mathlib.Data.List.Forall2

/-! Payloads that a target gives back over a lossy link. An initiator whose call failed leaves the
link in place, and with it the pieces that the target has already accepted. -/
namespace Contactless.Dep

section Standing

/-- Leading pieces of a call that failed. -/
def Leaves (pp : UInt8) (c : Request) (left : Bytes) : Prop :=
  left = [] ∨
    (∃ e, c.outcome = .error e) ∧ ∃ chunks, chunks <+: (c.cut pp).1 ∧ left = chunks.flatten

/-- A payload is made of what some calls have left and of the payload of the one after them. -/
def Spliced (pp : UInt8) (cs : List Request) (payload : Bytes) : Prop :=
  ∃ before c after left, cs = before ++ c :: after ∧ List.Forall₂ (Leaves pp) before left ∧
    payload = left.flatten ++ c.payload

/-- What an initiator is still going to say and be answered. -/
def remaining (later : List Request) : List Chip.Event := later.flatMap Request.transcript

/-- Where an initiator stands with its calls, while a target holds some pieces. -/
inductive Standing (pp : UInt8) (cs : List Request) : Bytes → List Chip.Event → Prop
  | silent (pieces : Bytes) : Standing pp cs pieces []
  /-- The target holds what earlier calls have left, and what the present one has said. -/
  | speaking {before later : List Request} {c : Request} {left acked head : List Bytes}
      {last : Bytes} {t : List Chip.Event} : cs = before ++ c :: later →
      List.Forall₂ (Leaves pp) before left → c.cut pp = (acked ++ head, last) →
      Speaks c.outcome head last t →
      Standing pp cs (left.flatten ++ acked.flatten) (t ++ remaining later)
  | muttering {before later : List Request} {c : Request} {t : List Chip.Event} :
      cs = before ++ c :: later → Mutters t → Standing pp cs [] (t ++ remaining later)

variable {pp : UInt8} {cs before later : List Request} {left : List Bytes}

theorem spoken_of_split (spoken : ∀ c ∈ cs, c.Spoken pp) {c : Request}
    (split : cs = before ++ c :: later) : c.Spoken pp := by
  apply spoken
  rw [split]
  exact List.mem_append_right before List.mem_cons_self

/-- Before its next call, the target holds what the earlier ones have left. -/
theorem Standing.next (spoken : ∀ c ∈ cs, c.Spoken pp) (split : cs = before ++ later)
    (leaves : List.Forall₂ (Leaves pp) before left) :
    Standing pp cs left.flatten (remaining later) := by
  cases later with
  | nil => exact .silent _
  | cons c later =>
      have cut : c.cut pp = ([] ++ (c.cut pp).1, (c.cut pp).2) := rfl
      have stands := Standing.speaking split leaves cut (spoken_of_split spoken split)
      rw [List.flatten_nil, List.append_nil] at stands
      exact stands

theorem exists_leaves (pp : UInt8) (before : List Request) :
    ∃ left, List.Forall₂ (Leaves pp) before left ∧ left.flatten = [] := by
  induction before with
  | nil => exact ⟨[], .nil, rfl⟩
  | cons c before ih =>
      obtain ⟨left, leaves, nothing⟩ := ih
      exact ⟨[] :: left, .cons (.inl rfl) leaves, nothing⟩

theorem Standing.idle (spoken : ∀ c ∈ cs, c.Spoken pp) (split : cs = before ++ later) :
    Standing pp cs [] (remaining later) := by
  obtain ⟨left, leaves, nothing⟩ := exists_leaves pp before
  rw [← nothing]
  exact .next spoken split leaves

/-- After a call that failed, the target holds the pieces that it accepted of it as well. -/
theorem Standing.after (spoken : ∀ c ∈ cs, c.Spoken pp) {c : Request} {e : Error}
    (split : cs = before ++ c :: later) (leaves : List.Forall₂ (Leaves pp) before left)
    (failed : c.outcome = .error e) {chunks : List Bytes} (leading : chunks <+: (c.cut pp).1) :
    Standing pp cs (left.flatten ++ chunks.flatten) (remaining later) := by
  have more : List.Forall₂ (Leaves pp) (before ++ [c]) (left ++ [chunks.flatten]) :=
    List.rel_append leaves (.cons (.inr ⟨⟨e, failed⟩, chunks, leading, rfl⟩) .nil)
  have stands := Standing.next spoken (split.trans (List.append_cons before c later)) more
  rw [List.flatten_append, List.flatten_singleton] at stands
  exact stands

end Standing

section Hearing

variable {pp : UInt8} {cs : List Request} {held frame : Bytes} {wait : Timeout}
  {r : Except Error Bytes} {xs : List Chip.Event}

def Unacked (r : Except Error Bytes) : Prop := ∀ answer, r = .ok answer → ¬ Acks answer

theorem unacked_error (e : Error) : Unacked (.error e) := fun _ same => nomatch same

/-- What a frame of an initiator means to a target that holds some pieces, and where the initiator
stands once the exchange is over: if the target takes the piece, if it does not, and if it never
heard the frame. -/
inductive Heard (pp : UInt8) (cs : List Request) (held frame : Bytes) (r : Except Error Bytes)
    (xs : List Chip.Event) : Prop
  | bare : Bare frame → Heard pp cs held frame r xs
  | piece {piece : Bytes} : Carries true piece frame →
      ((∀ answer, r = .ok answer → Acks answer) → Standing pp cs (held ++ piece) xs) →
      Heard pp cs held frame r xs
  | last {piece : Bytes} : Carries false piece frame → Spliced pp cs (held ++ piece) →
      Heard pp cs held frame r xs

/-- A frame of an initiator that stands so, and what follows it. -/
structure Delivery (pp : UInt8) (cs : List Request) (held frame : Bytes) (r : Except Error Bytes)
    (xs : List Chip.Event) : Prop where
  heard : Heard pp cs held frame r xs
  refused : Unacked r → Standing pp cs [] xs
  missed : ∀ e, r = .error e → Standing pp cs held xs

theorem delivery_speaking (spoken : ∀ c ∈ cs, c.Spoken pp) {before later : List Request}
    {c : Request} {left acked head : List Bytes} {last : Bytes} {t : List Chip.Event}
    (split : cs = before ++ c :: later) (leaves : List.Forall₂ (Leaves pp) before left)
    (cut : c.cut pp = (acked ++ head, last)) (speaks : Speaks c.outcome head last t)
    (events : t ++ remaining later = ⟨.bytes frame wait, r⟩ :: xs) :
    Delivery pp cs (left.flatten ++ acked.flatten) frame r xs := by
  have idle : Standing pp cs [] (remaining later) :=
    .idle spoken (split.trans (List.append_cons before c later))
  have missed {e : Error} (failed : c.outcome = .error e) :
      Standing pp cs (left.flatten ++ acked.flatten) (remaining later) :=
    .after spoken split leaves failed (cut ▸ List.prefix_append acked head)
  have whole (full : head = []) :
      Spliced pp cs (left.flatten ++ acked.flatten ++ last) := by
    refine ⟨before, c, later, left, split, leaves, ?_⟩
    subst full
    have payload := c.flatten_cut pp
    rw [cut, List.append_nil] at payload
    rw [List.append_assoc, payload]
  cases speaks with
  | @cut piece _ _ head _ _ e carries failed =>
      -- The target may have taken this piece although the call did not hear of it.
      cases events
      have leading : acked ++ [piece] <+: (c.cut pp).1 := by
        rw [cut]
        exact ⟨head, (List.append_cons acked piece head).symm⟩
      have taken : Standing pp cs (left.flatten ++ (acked ++ [piece]).flatten) (remaining later) :=
        .after spoken split leaves failed leading
      rw [List.flatten_append, List.flatten_singleton, ← List.append_assoc] at taken
      exact ⟨.piece carries fun _ => taken, fun _ => idle, fun _ _ => missed failed⟩
  | @acked piece _ _ answer head _ rest carries acks speaks =>
      cases events
      have taken : Standing pp cs (left.flatten ++ (acked ++ [piece]).flatten)
          (rest ++ remaining later) :=
        .speaking split leaves (cut.trans (by rw [List.append_cons])) speaks
      rw [List.flatten_append, List.flatten_singleton, ← List.append_assoc] at taken
      exact ⟨.piece carries fun _ => taken, fun unacked => absurd acks (unacked _ rfl),
        fun _ same => nomatch same⟩
  | delayed carries waits mutters =>
      cases events
      exact ⟨.piece carries fun acks => absurd (acks _ rfl) waits,
        fun _ => .muttering split mutters, fun _ same => nomatch same⟩
  | lost carries failed =>
      -- The message is complete for the target, whether the call comes to know it or not.
      cases events
      exact ⟨.last carries (whole rfl), fun _ => idle, fun _ _ => missed failed⟩
  | said carries mutters =>
      cases events
      exact ⟨.last carries (whole rfl), fun _ => .muttering split mutters,
        fun _ same => nomatch same⟩

theorem delivery_next (spoken : ∀ c ∈ cs, c.Spoken pp) {before later : List Request}
    (split : cs = before ++ later) (events : remaining later = ⟨.bytes frame wait, r⟩ :: xs) :
    Delivery pp cs [] frame r xs := by
  obtain ⟨left, leaves, nothing⟩ := exists_leaves pp before
  cases later with
  | nil => cases events
  | cons c later =>
      have cut : c.cut pp = ([] ++ (c.cut pp).1, (c.cut pp).2) := rfl
      have delivery :=
        delivery_speaking spoken split leaves cut (spoken_of_split spoken split) events
      rw [nothing] at delivery
      exact delivery

theorem Standing.delivery (spoken : ∀ c ∈ cs, c.Spoken pp) {zs : List Chip.Event}
    (stands : Standing pp cs held zs) (events : zs = ⟨.bytes frame wait, r⟩ :: xs) :
    Delivery pp cs held frame r xs := by
  cases stands with
  | silent pieces => cases events
  | speaking split leaves cut speaks =>
      exact delivery_speaking spoken split leaves cut speaks events
  | @muttering before later c t split mutters =>
      cases mutters with
      | nil => exact delivery_next spoken (split.trans (List.append_cons before c later)) events
      | acked bare acks =>
          cases events
          exact ⟨.bare bare, fun unacked => absurd acks (unacked _ rfl), fun _ same => nomatch same⟩
      | more bare rest =>
          cases events
          exact ⟨.bare bare, fun _ => .muttering split rest, fun _ _ => .muttering split rest⟩

end Hearing

section Runs

variable {pp : UInt8} {cs : List Request} {held : Bytes} {p : Option (Except Error Bytes)}
  {xs ys : List Chip.Event}

/-- A target receives what the initiator says next that is not dropped. -/
theorem Air.receives (spoken : ∀ c ∈ cs, c.Spoken pp) {patience : Timeout}
    {x : Except Error Bytes} (air : Air none xs (⟨.receive patience, x⟩ :: ys))
    (stands : Standing pp cs held xs) :
    ∃ frame r xs', x = .ok frame ∧ Air (some r) xs' ys ∧ Delivery pp cs held frame r xs' := by
  generalize pending : (none : Option (Except Error Bytes)) = p at air
  generalize events : (⟨.receive patience, x⟩ :: ys : List Chip.Event) = zs at air
  -- On the dropped requests before the one that is heard; the target holds the same all along.
  induction air with
  | silence => cases events
  | unheard _ ih => exact ih ((stands.delivery spoken rfl).missed _ rfl) rfl events
  | heard air =>
      cases events
      exact ⟨_, _, _, rfl, air, stands.delivery spoken rfl⟩
  | answered _ => cases pending
  | unanswered _ => cases pending
  | unlistened _ => cases events

theorem Air.sends (spoken : ∀ c ∈ cs, c.Spoken pp) {answer : Bytes} {patience : Timeout}
    {x : Except Error Unit} (air : Air none xs (⟨.send answer patience, x⟩ :: ys))
    (stands : Standing pp cs held xs) : ∃ xs', Air none xs' ys ∧ Standing pp cs held xs' := by
  generalize pending : (none : Option (Except Error Bytes)) = p at air
  generalize events : (⟨.send answer patience, x⟩ :: ys : List Chip.Event) = zs at air
  induction air with
  | silence => cases events
  | unheard _ ih => exact ih ((stands.delivery spoken rfl).missed _ rfl) rfl events
  | heard _ => cases events
  | answered _ => cases pending
  | unanswered _ => cases pending
  | unlistened air =>
      cases events
      exact ⟨_, air, stands⟩

/-- The target holds no pieces, and does not acknowledge the exchange that is due. -/
def Resting (pp : UInt8) (cs : List Request) :
    Option (Except Error Bytes) → List Chip.Event → Prop
  | none, xs => Standing pp cs [] xs
  | some r, xs => Unacked r → Standing pp cs [] xs

/-- Once the target listens, no answer comes any more. -/
theorem Air.listens {patience : Timeout} {x : Except Error Bytes}
    (air : Air p xs (⟨.receive patience, x⟩ :: ys)) (rests : Resting pp cs p xs) :
    Air none xs (⟨.receive patience, x⟩ :: ys) ∧ Standing pp cs [] xs := by
  cases p with
  | none => exact ⟨air, rests⟩
  | some r =>
      cases air with
      | unanswered air => exact ⟨air, rests (unacked_error _)⟩

theorem Air.answers (spoken : ∀ c ∈ cs, c.Spoken pp) {answer : Bytes} {patience : Timeout}
    {x : Except Error Unit} (air : Air p xs (⟨.send answer patience, x⟩ :: ys))
    (other : ¬ Acks answer) (rests : Resting pp cs p xs) :
    ∃ xs', Air none xs' ys ∧ Standing pp cs [] xs' := by
  cases p with
  | none => exact air.sends spoken rests
  | some r =>
      cases air with
      | answered air =>
          refine ⟨xs, air, rests fun answer' same => ?_⟩
          cases same
          exact other
      | unanswered air => exact air.sends spoken (rests (unacked_error _))

/-- A call that acknowledges nothing takes no piece. -/
theorem Mute.rests (spoken : ∀ c ∈ cs, c.Spoken pp) {t : List Chip.Event} (mute : Mute t)
    (air : Air p xs (t ++ ys)) (rests : Resting pp cs p xs) :
    ∃ p' xs', Air p' xs' ys ∧ Resting pp cs p' xs' := by
  induction t generalizing p xs with
  | nil => exact ⟨p, xs, air, rests⟩
  | cons event t ih =>
      have later : Mute t := fun answer wait x member => mute answer wait x (.tail _ member)
      rcases air.target_event with ⟨patience, x, rfl⟩ | ⟨answer, patience, rfl⟩
      · obtain ⟨listening, stands⟩ := air.listens rests
        obtain ⟨frame, r, xs', rfl, goes, delivery⟩ := listening.receives spoken stands
        exact ih later goes delivery.refused
      · obtain ⟨xs', goes, stands⟩ :=
          air.answers spoken (mute answer patience _ List.mem_cons_self) rests
        exact ih later goes stands

end Runs

section Messages

variable {pp : UInt8} {cs : List Request} {held frame : Bytes} {r : Except Error Bytes}
  {p : Option (Except Error Bytes)} {content : InitiatorFrame} {s s' : TargetSide}
  {xs ys t : List Chip.Event}

theorem react_bare (s : TargetSide) (held : Bytes) {pdu : Pdu}
    (bare : (∃ k, pdu.pfb = .ack k) ∨ pdu.pfb = .timeoutExtension) :
    ∃ e, s.react held (.data pdu) = .refuse e := by
  obtain ⟨pfb, piece⟩ := pdu
  rcases bare with ⟨k, rfl⟩ | rfl
  · exact ⟨_, rfl⟩
  · exact ⟨_, rfl⟩

/-- A piece is taken if its number is the right one, and refused otherwise. -/
theorem react_piece (s : TargetSide) (held piece : Bytes) (more : Bool) (k : UInt8) :
    (∃ e, s.react held (.data ⟨.information more k, piece⟩) = .refuse e) ∨
      s.react held (.data ⟨.information more k, piece⟩) =
        if more then .reply ((Pdu.ack s.pni).encode .answer) (.ok (held ++ piece)) s.advanced
        else .complete (held ++ piece) := by
  by_cases current : k = s.pni
  · subst current
    exact .inr (react_information s held piece more)
  · exact .inl ⟨_, if_neg current⟩

/-- A target refuses the frame, takes a piece and acknowledges it, or completes a message. -/
theorem Heard.reacts (heard : Heard pp cs held frame r xs)
    (decoded : InitiatorFrame.decode frame = .ok content) (s : TargetSide) :
    (∃ e, s.react held content = .refuse e) ∨
      (∃ piece, s.react held content =
          .reply ((Pdu.ack s.pni).encode .answer) (.ok (held ++ piece)) s.advanced ∧
        ((∀ answer, r = .ok answer → Acks answer) → Standing pp cs (held ++ piece) xs)) ∨
      ∃ piece, s.react held content = .complete (held ++ piece) ∧
        Spliced pp cs (held ++ piece) := by
  cases heard with
  | bare bare =>
      obtain ⟨pdu, again, kind⟩ := bare
      cases decoded.symm.trans again
      exact .inl (react_bare s held kind)
  | @piece piece carries taken =>
      obtain ⟨k, again⟩ := carries
      cases decoded.symm.trans again
      exact (react_piece s held piece true k).imp id fun takes => .inl ⟨piece, takes, taken⟩
  | @last piece carries spliced =>
      obtain ⟨k, again⟩ := carries
      cases decoded.symm.trans again
      exact (react_piece s held piece false k).imp id fun takes => .inr ⟨piece, takes, spliced⟩

theorem Heard.completes (heard : Heard pp cs held frame r xs)
    (decoded : InitiatorFrame.decode frame = .ok content) {payload : Bytes}
    (completes : s.react held content = .complete payload) : Spliced pp cs payload := by
  rcases heard.reacts decoded s with ⟨e, refuses⟩ | ⟨piece, takes, -⟩ | ⟨piece, ends, spliced⟩
  · cases refuses.symm.trans completes
  · cases takes.symm.trans completes
  · cases ends.symm.trans completes
    exact spliced

theorem Heard.goes_on (heard : Heard pp cs held frame r xs)
    (decoded : InitiatorFrame.decode frame = .ok content) {answer : Bytes}
    {after : Except Error Bytes} {next : TargetSide}
    (replies : s.react held content = .reply (.ok answer) after next) :
    ∃ pieces, after = .ok pieces ∧ Acks answer ∧
      ((∀ a, r = .ok a → Acks a) → Standing pp cs pieces xs) := by
  rcases heard.reacts decoded s with ⟨e, refuses⟩ | ⟨piece, takes, taken⟩ | ⟨piece, ends, -⟩
  · cases refuses.symm.trans replies
  · obtain ⟨built, rfl, -⟩ := Reaction.reply.inj (takes.symm.trans replies)
    exact ⟨_, rfl, ⟨_, _, Pdu.decode_of_encode built, rfl⟩, taken⟩
  · cases ends.symm.trans replies

theorem Air.acknowledges (spoken : ∀ c ∈ cs, c.Spoken pp) {answer : Bytes} {patience : Timeout}
    {x : Except Error Unit} (air : Air (some r) xs (⟨.send answer patience, x⟩ :: ys))
    (acks : Acks answer) (taken : (∀ a, r = .ok a → Acks a) → Standing pp cs held xs) :
    ∃ xs', Air none xs' ys ∧ Standing pp cs held xs' := by
  cases air with
  | answered air =>
      refine ⟨xs, air, taken fun a same => ?_⟩
      cases same
      exact acks
  | unanswered air => exact air.sends spoken (taken fun _ same => nomatch same)

theorem TargetSide.Receiving.spliced (spoken : ∀ c ∈ cs, c.Spoken pp) {patience : Timeout}
    {outcome : Except Error Bytes}
    (receiving : TargetSide.Receiving patience s held t outcome s') (air : Air none xs (t ++ ys))
    (stands : Standing pp cs held xs) :
    (∀ payload, outcome = .ok payload → Spliced pp cs payload) ∧
      ∃ p xs', Air p xs' ys ∧ Resting pp cs p xs' := by
  -- On the frames of the reception. All that it accepted is gone with it once it ends, so that the
  -- initiator then stands with a target that holds nothing.
  induction receiving generalizing xs with
  | lost e =>
      obtain ⟨frame, r, xs', same, -⟩ := air.receives spoken stands
      cases same
  | unreadable _ =>
      obtain ⟨frame, r, xs', -, goes, delivery⟩ := air.receives spoken stands
      exact ⟨(fun _ same => nomatch same), some r, xs', goes, delivery.refused⟩
  | refused _ _ =>
      obtain ⟨frame, r, xs', -, goes, delivery⟩ := air.receives spoken stands
      exact ⟨(fun _ same => nomatch same), some r, xs', goes, delivery.refused⟩
  | unbuilt _ _ =>
      obtain ⟨frame, r, xs', -, goes, delivery⟩ := air.receives spoken stands
      exact ⟨(fun _ same => nomatch same), some r, xs', goes, delivery.refused⟩
  | completed decoded reacts =>
      obtain ⟨frame, r, xs', same, goes, delivery⟩ := air.receives spoken stands
      cases same
      refine ⟨fun payload same => ?_, some r, xs', goes, delivery.refused⟩
      cases same
      exact delivery.heard.completes decoded reacts
  | unsent e decoded reacts =>
      obtain ⟨frame, r, xs', same, goes, delivery⟩ := air.receives spoken stands
      cases goes.sent_ok
  | stopped decoded reacts =>
      obtain ⟨frame, r, xs', same, goes, delivery⟩ := air.receives spoken stands
      cases same
      obtain ⟨pieces, same, -⟩ := delivery.heard.goes_on decoded reacts
      cases same
  | replied decoded reacts _ ih =>
      obtain ⟨frame, r, xs', same, goes, delivery⟩ := air.receives spoken stands
      cases same
      obtain ⟨pieces, same, acks, taken⟩ := delivery.heard.goes_on decoded reacts
      cases same
      obtain ⟨xs'', on, stands⟩ := goes.acknowledges spoken acks taken
      exact ih on stands

theorem TargetSide.Receiving.starts {patience : Timeout} {outcome : Except Error Bytes}
    (receiving : TargetSide.Receiving patience s held t outcome s') :
    ∃ x u, t = ⟨.receive patience, x⟩ :: u := by
  cases receiving with
  | _ => exact ⟨_, _, rfl⟩

end Messages

section Sessions

variable {pp : UInt8} {cs : List Request} {p : Option (Except Error Bytes)} {s s' : TargetSide}
  {es : List Episode} {xs ys : List Chip.Event}

/-- What a call of a target comes to between a target that holds nothing and one that does not. -/
theorem Call.spliced (spoken : ∀ c ∈ cs, c.Spoken pp) {e : Episode}
    (step : e.call.act.Yields s e.transcript e.outcome s') (air : Air p xs (e.transcript ++ ys))
    (rests : Resting pp cs p xs) :
    (∀ wait t payload, e = ⟨.receive wait, t, .ok payload⟩ → Spliced pp cs payload) ∧
      ∃ p' xs', Air p' xs' ys ∧ Resting pp cs p' xs' := by
  obtain ⟨call, t, outcome⟩ := e
  obtain ⟨n, yields⟩ := step
  cases call with
  | init target wait =>
      refine ⟨(fun _ _ _ same => nomatch same), ?_⟩
      by_cases dep : ∃ own, target = .dep own
      · obtain ⟨own, rfl⟩ := dep
        change (TargetSide.init (.dep own) wait n s).Yields t (outcome, s') at yields
        rw [TargetSide.init_apply] at yields
        obtain ⟨heard, u, rfl, -⟩ := Dialogue.yields_ask_iff.mp yields
        rcases air.target_event with ⟨_, _, same⟩ | ⟨_, _, same⟩
        · cases same
        · cases same
      · change (TargetSide.init target wait n s).Yields t (outcome, s') at yields
        rw [TargetSide.init_refused wait n s fun own same => dep ⟨own, same⟩] at yields
        cases yields
        exact ⟨p, xs, air, rests⟩
  | send payload wait =>
      exact ⟨(fun _ _ _ same => nomatch same), (TargetSide.send_mute yields).rests spoken air rests⟩
  | requestTime rtox wait =>
      exact ⟨(fun _ _ _ same => nomatch same),
        (TargetSide.requestTime_mute yields).rests spoken air rests⟩
  | receive wait =>
      change (TargetSide.receive wait n s).Yields t (outcome, s') at yields
      by_cases turn : s.turn = .receive
      · rw [TargetSide.receive_apply wait n s turn] at yields
        have receiving := TargetSide.receiving_of_yields n yields
        obtain ⟨x, u, rfl⟩ := receiving.starts
        obtain ⟨listening, stands⟩ := air.listens rests
        obtain ⟨spliced, later⟩ := receiving.spliced spoken listening stands
        refine ⟨fun _ _ payload same => ?_, later⟩
        cases same
        exact spliced payload rfl
      · rw [TargetSide.receive_refused wait n s turn] at yields
        cases yields
        exact ⟨(fun _ _ _ same => nomatch same), p, xs, air, rests⟩

theorem Run.spliced (spoken : ∀ c ∈ cs, c.Spoken pp) (run : Run s es s')
    (air : Air p xs (es.flatMap Episode.transcript ++ ys)) (rests : Resting pp cs p xs)
    {wait : Timeout} {t : List Chip.Event} {payload : Bytes}
    (returned : ⟨.receive wait, t, .ok payload⟩ ∈ es) : Spliced pp cs payload := by
  induction run generalizing p xs with
  | nil s => cases returned
  | cons step _ ih =>
      rw [List.flatMap_cons, List.append_assoc] at air
      obtain ⟨spliced, p', xs', later, rests⟩ := Call.spliced spoken step air rests
      rcases List.mem_cons.mp returned with same | returned
      · exact spliced _ _ _ same.symm
      · exact ih later rests returned

/-- Only a call that failed leaves something, and only if its payload took several pieces. -/
theorem Leaves.eq_nil {c : Request} {left : Bytes} (leaves : Leaves pp c left)
    (harmless : (∃ answer, c.outcome = .ok answer) ∨ c.payload.length ≤ payloadLimit pp) :
    left = [] := by
  rcases leaves with nothing | ⟨⟨e, failed⟩, chunks, leading, rfl⟩
  · exact nothing
  · rcases harmless with ⟨answer, succeeded⟩ | fits
    · cases failed.symm.trans succeeded
    · have single : c.cut pp = ([], c.payload) := pieces_of_le fits
      rw [single, List.prefix_nil] at leading
      rw [leading, List.flatten_nil]

theorem flatten_leaves {before : List Request} {left : List Bytes}
    (leaves : List.Forall₂ (Leaves pp) before left)
    (harmless : ∀ c ∈ before,
      (∃ answer, c.outcome = .ok answer) ∨ c.payload.length ≤ payloadLimit pp) :
    left.flatten = [] := by
  induction leaves with
  | nil => rfl
  | cons leaf _ ih =>
      rw [List.flatten_cons, leaf.eq_nil (harmless _ List.mem_cons_self), List.nil_append]
      exact ih fun other member => harmless other (.tail _ member)

/-- Over a lossy link, a payload that the target gives back ends with the whole payload of one call.
Before it stand leading pieces of earlier calls, of such that failed on a chained payload. It is the
payload of that one call just when there are none. -/
theorem run_spliced {i i' : InitiatorSide} {link : Link} (opened : i.link = some link)
    (talk : Talk i cs i') (run : Run s es s')
    (air : Air none (cs.flatMap Request.transcript) (es.flatMap Episode.transcript ++ ys))
    {wait : Timeout} {t : List Chip.Event} {payload : Bytes}
    (returned : ⟨.receive wait, t, .ok payload⟩ ∈ es) :
    ∃ before c after left, cs = before ++ c :: after ∧
      List.Forall₂ (Leaves link.info.pp) before left ∧ payload = left.flatten ++ c.payload ∧
      (payload = c.payload ↔ left.flatten = []) ∧
      ((∀ b ∈ before, (∃ answer, b.outcome = .ok answer) ∨
        b.payload.length ≤ payloadLimit link.info.pp) → left.flatten = []) := by
  have spoken := talk.spoken opened
  have rests : Resting link.info.pp cs none (cs.flatMap Request.transcript) :=
    Standing.idle spoken (List.nil_append cs).symm
  obtain ⟨before, c, after, left, split, leaves, rfl⟩ := run.spliced spoken air rests returned
  exact ⟨before, c, after, left, split, leaves, rfl, List.append_left_eq_self,
    flatten_leaves leaves⟩

/-- An initiator whose link is open, at a packet number. -/
def InitiatorSide.sample (pni : UInt8) : InitiatorSide :=
  ⟨⟨{}, some (.dep sampleOwn)⟩, some ⟨sampleOwn, pni⟩⟩

/-- A call whose first piece is acknowledged and whose second one is dropped. -/
def Request.abandoned : Request where
  payload := List.replicate 252 0xaa
  transcript := [⟨.bytes ([0xff, 0xd4, 0x06, 0x10] ++ List.replicate 251 0xaa) .standard,
      .ok [0x04, 0xd5, 0x07, 0x40]⟩,
    ⟨.bytes [0x05, 0xd4, 0x06, 0x01, 0xaa] .standard, .error .rfTimeout⟩]
  outcome := .error .rfTimeout

/-- A call whose only piece is heard and not answered. -/
def Request.following : Request where
  payload := [0xbb]
  transcript := [⟨.bytes [0x05, 0xd4, 0x06, 0x01, 0xbb] .standard, .error .rfTimeout⟩]
  outcome := .error .rfTimeout

def Episode.mixed : Episode where
  call := .receive .forever
  transcript := [⟨.receive .forever, .ok ([0xff, 0xd4, 0x06, 0x10] ++ List.replicate 251 0xaa)⟩,
    ⟨.send [0x04, 0xd5, 0x07, 0x40] .forever, .ok ()⟩,
    ⟨.receive .forever, .ok [0x05, 0xd4, 0x06, 0x01, 0xbb]⟩]
  outcome := .ok (List.replicate 251 0xaa ++ [0xbb])

set_option maxRecDepth 2000 in
theorem talk_abandoned : Talk (.sample 0) [.abandoned, .following] (.sample 1) := by
  have long : pieces (payloadLimit sampleOwn.pp) Request.abandoned.payload =
      ([List.replicate 251 0xaa], [0xaa]) := by
    rw [pieces_of_lt (by decide) (by decide), pieces_of_le (by decide)]
    rfl
  have short : pieces (payloadLimit sampleOwn.pp) Request.following.payload = ([], [0xbb]) :=
    pieces_of_le (by decide)
  have first : (([List.replicate 251 0xaa].forM Linked.sendPiece >>= fun _ =>
      Linked.finish [0xaa]) 1 ⟨⟨{}, some (.dep sampleOwn)⟩, ⟨sampleOwn, 0⟩⟩).Yields
      Request.abandoned.transcript
      (.error .rfTimeout, ⟨⟨{}, some (.dep sampleOwn)⟩, ⟨sampleOwn, 1⟩⟩) :=
    .ask _ (.ask _ (.done _))
  have second : (([].forM Linked.sendPiece >>= fun _ => Linked.finish [0xbb]) 1
      ⟨⟨{}, some (.dep sampleOwn)⟩, ⟨sampleOwn, 1⟩⟩).Yields Request.following.transcript
      (.error .rfTimeout, ⟨⟨{}, some (.dep sampleOwn)⟩, ⟨sampleOwn, 1⟩⟩) := .ask _ (.done _)
  exact .cons (InitiatorSide.transceive_yields (i := .sample 0) rfl long first)
    (.cons (InitiatorSide.transceive_yields (i := .sample 1) rfl short second) (.nil _))

set_option maxRecDepth 2000 in
theorem run_mixed : Run .opened [.mixed] (TargetSide.opened.advanced.turned .send) :=
  .cons ⟨2, .ask _ (.ask _ (.ask _ (.done _)))⟩ (.nil _)

theorem air_mixed :
    Air none ([Request.abandoned, .following].flatMap Request.transcript)
      ([Episode.mixed].flatMap Episode.transcript ++ []) :=
  .heard (.answered (.unheard (.heard (.unanswered .silence))))

theorem run_spliced_mixed :
    ∃ before c after left, [Request.abandoned, .following] = before ++ c :: after ∧
      List.Forall₂ (Leaves longestFrames) before left ∧
      List.replicate 251 0xaa ++ [0xbb] = left.flatten ++ c.payload ∧
      (List.replicate 251 0xaa ++ [0xbb] = c.payload ↔ left.flatten = []) ∧
      ((∀ b ∈ before, (∃ answer, b.outcome = .ok answer) ∨
        b.payload.length ≤ payloadLimit longestFrames) → left.flatten = []) :=
  run_spliced (i := .sample 0) rfl talk_abandoned run_mixed air_mixed List.mem_cons_self

/-- The piece of a call that was given up stands before the payload of the next call. -/
theorem payloads_mixed :
    ¬ ∀ (i i' : InitiatorSide) (link : Link) (s s' : TargetSide) (cs : List Request)
      (es : List Episode) (ys : List Chip.Event) (wait : Timeout) (t : List Chip.Event)
      (payload : Bytes), i.link = some link → Aligned ⟨i.device, link⟩ s → s.turn = .receive →
      Talk i cs i' → Run s es s' →
      Air none (cs.flatMap Request.transcript) (es.flatMap Episode.transcript ++ ys) →
      ⟨.receive wait, t, .ok payload⟩ ∈ es → ∃ c ∈ cs, payload = c.payload := by
  intro whole
  obtain ⟨c, member, same⟩ := whole (.sample 0) _ _ _ _ _ _ _ _ _ _ rfl ⟨rfl, by decide⟩ rfl
    talk_abandoned run_mixed air_mixed List.mem_cons_self
  rcases List.mem_cons.mp member with rfl | later
  · have stray : (0xbb : UInt8) ∈ Request.abandoned.payload := same ▸ List.mem_concat_self
    cases List.eq_of_mem_replicate stray
  · cases List.mem_singleton.mp later
    have lengths := congrArg List.length same
    rw [List.length_append, List.length_replicate] at lengths
    cases lengths

end Sessions

end Contactless.Dep
