import Contactless.Proofs.Relay.Conduct

/-! How a half of a relay parts from the other one: it was told to stop, or it says goodbye as the
last thing it does with the link, or, and only the half of the tag does that, it stops without a
word where a call of the link failed. -/
namespace Contactless.Relay

section Calls

variable {t : List Link.Event} {call : Link.Event} {e : Error}

/-- The other half said goodbye. -/
def Told (t : List Link.Event) : Prop := ⟨.recv .forever, .ok .shutdown⟩ ∈ t

/-- No goodbye was given to the link. -/
def Silent (t : List Link.Event) : Prop := ∀ r, ⟨.send .shutdown, r⟩ ∉ t

/-- The last call of the link gives it the only goodbye. -/
def Goodbye (t : List Link.Event) : Prop := ∃ u r, t = u ++ [⟨.send .shutdown, r⟩] ∧ Silent u

/-- The last call of the link failed, and nothing was said about that. -/
def Broken (t : List Link.Event) (e : Error) : Prop :=
  Silent t ∧ ∃ u call, t = u ++ [call] ∧ Link.Event.failure call = some e

/-- A call that is no goodbye of either half. -/
def Plain : Link.Event → Bool
  | ⟨.send .shutdown, _⟩ => false
  | ⟨.recv .forever, .ok .shutdown⟩ => false
  | _ => true

theorem Silent.cons (plain : Plain call = true) (silent : Silent t) : Silent (call :: t) := by
  intro r member
  rcases List.mem_cons.mp member with rfl | later
  · cases plain
  · exact silent r later

theorem not_told_cons (plain : Plain call = true) (untold : ¬ Told t) : ¬ Told (call :: t) := by
  intro told
  rcases List.mem_cons.mp told with rfl | later
  · cases plain
  · exact untold later

theorem Goodbye.cons (plain : Plain call = true) (goodbye : Goodbye t) : Goodbye (call :: t) := by
  obtain ⟨u, r, rfl, silent⟩ := goodbye
  exact ⟨call :: u, r, rfl, silent.cons plain⟩

theorem Broken.cons (plain : Plain call = true) (broken : Broken t e) : Broken (call :: t) e := by
  obtain ⟨silent, u, last, rfl, failed⟩ := broken
  exact ⟨silent.cons plain, call :: u, last, rfl, failed⟩

/-- How the calls of the link go with a half that comes to a result. Where it is bare, a failed call
ends it at once. -/
inductive Parting (bare : Prop) : List Link.Event → Except Error Nat → Prop
  | told (count : Nat) : Parting bare [⟨.recv .forever, .ok .shutdown⟩] (.ok count)
  | goodbye (sent : Except Error Unit) (r : Except Error Nat) :
      Parting bare [⟨.send .shutdown, sent⟩] r
  | broken {last : Link.Event} {e : Error} : bare → Plain last = true →
      Link.Event.failure last = some e → Parting bare [last] (.error e)
  | later {first : Link.Event} {rest : List Link.Event} {r : Except Error Nat} :
      Plain first = true → Parting bare rest r → Parting bare (first :: rest) r

theorem Parting.cases {bare : Prop} {r : Except Error Nat} (h : Parting bare t r) :
    (Told t ∧ Silent t ∧ ∃ count, r = .ok count) ∨ (Goodbye t ∧ ¬ Told t) ∨
      (bare ∧ ∃ e, Broken t e ∧ ¬ Told t ∧ r = .error e) := by
  have nothing : Silent [] := fun _ => List.not_mem_nil
  have untold : ¬ Told [] := List.not_mem_nil
  induction h with
  | told count =>
      have silent : Silent [⟨.recv .forever, .ok .shutdown⟩] := fun r member => by
        cases List.mem_singleton.mp member
      exact .inl ⟨List.mem_cons_self, silent, count, rfl⟩
  | goodbye sent r =>
      have other : ¬ Told [⟨.send .shutdown, sent⟩] := fun told => by
        cases List.mem_singleton.mp told
      exact .inr (.inl ⟨⟨[], sent, rfl, nothing⟩, other⟩)
  | broken allowed plain failed =>
      exact .inr (.inr ⟨allowed, _, ⟨nothing.cons plain, [], _, rfl, failed⟩,
        not_told_cons plain untold, rfl⟩)
  | later plain _ ih =>
      rcases ih with ⟨told, silent, ok⟩ | ⟨goodbye, untold⟩ | ⟨allowed, e, broken, untold, failed⟩
      · exact .inl ⟨List.mem_cons_of_mem _ told, silent.cons plain, ok⟩
      · exact .inr (.inl ⟨goodbye.cons plain, not_told_cons plain untold⟩)
      · exact .inr (.inr ⟨allowed, e, broken.cons plain, not_told_cons plain untold, failed⟩)

end Calls

section Halves

variable {t : HalfLog} {r : Except Error Nat}

theorem plain_recv {frame : LinkFrame} (other : frame ≠ .shutdown) :
    Plain ⟨.recv .forever, .ok frame⟩ = true := by
  cases frame with
  | shutdown => exact absurd rfl other
  | target real => rfl
  | command c => rfl
  | response a => rfl

theorem Leaving.parting {σ : Type} {bare : Prop} {e : Error} {s s' : σ}
    (h : Leaving e s t (some (r, s'))) : Parting bare (rights t) r := by
  cases h with
  | gone sent => exact .goodbye sent _

theorem InitiatorHalf.Serving.parting {d d' : Device .initiator} {served : Nat}
    (h : Serving d served t (some (r, d'))) : Parting True (rights t) r := by
  generalize result : some (r, d') = o at h
  induction h with
  | listening => cases result
  | lost served e =>
      cases result
      exact .broken trivial rfl rfl
  | stopped served =>
      cases result
      exact .told served
  | stray served _ other leaving =>
      subst result
      exact .later (plain_recv other) leaving.parting
  | refused served _ leaving =>
      subst result
      exact .later rfl leaving.parting
  | asked => cases result
  | failed served leaving =>
      subst result
      exact .later rfl leaving.parting
  | answered => cases result
  | untold served command answer wait e =>
      cases result
      exact .later rfl (.broken trivial rfl rfl)
  | served _ ih => exact .later rfl (.later rfl (ih result))

theorem InitiatorHalf.Conduct.parting {n : Nat} {d d' : Device .initiator}
    (h : Conduct n d t (some (r, d'))) : Parting True (rights t) r := by
  generalize result : some (r, d') = o at h
  cases h with
  | searching => cases result
  | unfound _ leaving =>
      subst result
      rw [rights_append, rights_inLeft]
      exact leaving.parting
  | undescribed e =>
      cases result
      rw [rights_append, rights_inLeft]
      exact .broken trivial rfl rfl
  | described _ serving =>
      subst result
      rw [rights_append, rights_inLeft]
      exact .later rfl serving.parting

theorem TargetHalf.Closing.parting {e : Error} {s s' : TargetHalf}
    (h : Closing e s t (some (r, s'))) : Parting False (rights t) r := by
  cases h with
  | normal sent => exact .goodbye sent _
  | failed sent => exact .goodbye sent _

theorem TargetHalf.Passing.parting {wait : Timeout} {s s' : TargetHalf} {command : Bytes}
    (h : Passing wait s command t (some (r, s'))) : Parting False (rights t) r := by
  generalize result : some (r, s') = o at h
  induction h with
  | ready => cases result
  | unsent closing =>
      subst result
      exact .later rfl closing.parting
  | waiting => cases result
  | lost closing =>
      subst result
      exact .later rfl (.later rfl closing.parting)
  | stopped s command =>
      cases result
      exact .later rfl (.told _)
  | stray _ other closing =>
      subst result
      exact .later rfl (.later (plain_recv other) closing.parting)
  | answered => cases result
  | ungiven closing =>
      subst result
      exact .later rfl (.later rfl closing.parting)
  | given => cases result
  | released closing =>
      subst result
      exact .later rfl (.later rfl closing.parting)
  | passed _ ih => exact .later rfl (.later rfl (ih result))

theorem TargetHalf.Conduct.parting {s s' : TargetHalf} (h : Conduct s t (some (r, s'))) :
    Parting False (rights t) r := by
  generalize result : some (r, s') = o at h
  cases h with
  | begun => cases result
  | lost closing =>
      subst result
      exact .later rfl closing.parting
  | stopped =>
      cases result
      exact .told _
  | stray _ other closing =>
      subst result
      exact .later (plain_recv other) closing.parting
  | hidden _ closing =>
      subst result
      exact .later rfl closing.parting
  | introduced => cases result
  | unseen _ closing =>
      subst result
      exact .later rfl closing.parting
  | shown _ passing =>
      subst result
      exact .later rfl passing.parting

/-- The half of the reader stops because it was told to, or the last thing it does with its link is
to say goodbye, once. So does the half of the tag, unless its link fails it: then it stops with that
failure and says nothing. -/
theorem halves_part (t : HalfLog) :
    (∀ s r s', TargetHalf.run.Yields s t r s' →
      (Told (rights t) ∧ Silent (rights t)) ∨ (Goodbye (rights t) ∧ ¬ Told (rights t))) ∧
    ∀ d r d', InitiatorHalf.run.Yields d t r d' →
      (Told (rights t) ∧ Silent (rights t)) ∨ (Goodbye (rights t) ∧ ¬ Told (rights t)) ∨
        ∃ e, Broken (rights t) e ∧ ¬ Told (rights t) ∧ r = .error e := by
  constructor
  · intro s r s' ⟨n, yields⟩
    have parting := (TargetHalf.conduct_of_reaches yields.reaches).parting
    rcases parting.cases with ⟨told, silent, -⟩ | goodbye | ⟨bare, -⟩
    · exact .inl ⟨told, silent⟩
    · exact .inr goodbye
    · exact bare.elim
  · intro d r d' ⟨n, yields⟩
    have parting := (InitiatorHalf.conduct_of_reaches yields.reaches).parting
    rcases parting.cases with ⟨told, silent, -⟩ | goodbye | ⟨-, broken⟩
    · exact .inl ⟨told, silent⟩
    · exact .inr (.inl goodbye)
    · exact .inr (.inr broken)

end Halves

section Garbled

/-- The tag was found and described, and then a frame of no known kind comes over the link. -/
def garbled : HalfLog :=
  InitiatorHalf.sampleSearch.map Interface.Event.inLeft ++
    [⟨.inr (.send (.target InitiatorHalf.sampleTag)), .ok ()⟩,
      ⟨.inr (.recv .forever), LinkFrame.decode 0x09 []⟩]

theorem yields_garbled :
    InitiatorHalf.run.Yields ⟨{}, none⟩ garbled
      (.error (.rfProtocol s!"relay frame kind {Text.Hex.byte 0x09}"))
      ⟨{}, some InitiatorHalf.sampleTag⟩ := by
  refine ⟨1, ?_⟩
  exact .ask _ (.ask _ (.ask _ (.ask _ (.ask _ (.ask _ (.ask _ (.ask _ (.ask _ (.ask _
    (.done _))))))))))

theorem not_told_garbled : ¬ Told (rights garbled) := by
  intro told
  rcases List.mem_cons.mp told with same | later
  · cases same
  · cases List.mem_singleton.mp later

theorem not_goodbye_garbled : ¬ Goodbye (rights garbled) := by
  rintro ⟨u, r, ends, -⟩
  have last := congrArg List.getLast? ends
  rw [List.getLast?_concat] at last
  cases last

/-- The half of the tag stops on a frame of no known kind, and the other half is not told. -/
theorem garbled_unannounced :
    ¬ ∀ d t r d', InitiatorHalf.run.Yields d t r d' → ¬ Told (rights t) → Goodbye (rights t) := by
  intro announced
  exact not_goodbye_garbled (announced _ _ _ _ yields_garbled not_told_garbled)

def released : HalfLog :=
  [⟨.inr (.recv .forever), .ok (.target InitiatorHalf.sampleTag)⟩,
    ⟨.inl (.arm InitiatorHalf.sampleTag .forever), .ok [0x30, 0x00]⟩,
    ⟨.inr (.send (.command [0x30, 0x00])), .ok ()⟩,
    ⟨.inr (.recv .forever), .ok (.response [0xaa])⟩,
    ⟨.inl (.send [0xaa] .forever), .ok ()⟩,
    ⟨.inl (.receive .forever), .error .targetReleased⟩,
    ⟨.inr (.send .shutdown), .ok ()⟩, ⟨.inl .clearAbort, ()⟩]

theorem yields_released :
    (TargetHalf.run 2 ⟨⟨{}, none⟩, 0⟩).Yields released
      (.ok 1, ⟨⟨{}, some InitiatorHalf.sampleTag⟩, 1⟩) :=
  .ask _ (.ask _ (.ask _ (.ask _ (.ask _ (.ask _ (.ask _ (.ask _ (.done _))))))))

theorem halves_part_released_garbled :
    (TargetHalf.run.Yields ⟨⟨{}, none⟩, 0⟩ released (.ok 1)
        ⟨⟨{}, some InitiatorHalf.sampleTag⟩, 1⟩ ∧ Goodbye (rights released)) ∧
      ∃ r d', InitiatorHalf.run.Yields ⟨{}, none⟩ garbled r d' ∧
        ∃ e, Broken (rights garbled) e := by
  refine ⟨⟨⟨2, yields_released⟩, ?_⟩, _, _, yields_garbled, ?_⟩
  · rcases (halves_part released).1 _ _ _ ⟨2, yields_released⟩ with ⟨-, silent⟩ | ⟨goodbye, -⟩
    · exact absurd (.tail _ (.tail _ (.tail _ (.head _)))) (silent (.ok ()))
    · exact goodbye
  · rcases (halves_part garbled).2 _ _ _ yields_garbled with
      ⟨told, -⟩ | ⟨goodbye, -⟩ | ⟨e, broken, -⟩
    · exact absurd told not_told_garbled
    · exact absurd goodbye not_goodbye_garbled
    · exact ⟨e, broken⟩

end Garbled

end Contactless.Relay
