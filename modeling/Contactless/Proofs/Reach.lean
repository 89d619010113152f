import Contactless.Proofs.Transcript

/-! Dialogues on their way. What a dialogue was asked and answered so far says where it stands, also
when it has not come to a result yet or never will. -/
namespace Contactless

namespace Dialogue

variable {I J : Interface} {α β : Type}

theorem ask_congr {q : I.Query} {f g : I.Answer q → Dialogue I α} (same : ∀ r, f r = g r) :
    ask q f = ask q g :=
  congrArg (ask q) (funext same)

/-- A dialogue has become another one after the questions and answers of a transcript. -/
inductive Reaches : Dialogue I α → List I.Event → Dialogue I α → Prop
  | refl (d : Dialogue I α) : Reaches d [] d
  | ask {q : I.Query} {next : I.Answer q → Dialogue I α} {t : List I.Event} {d : Dialogue I α}
      (r : I.Answer q) : Reaches (next r) t d → Reaches (.ask q next) (⟨q, r⟩ :: t) d

theorem reaches_done {a : α} {t : List I.Event} {d : Dialogue I α} (h : (done a).Reaches t d) :
    t = [] ∧ d = done a := by
  cases h
  exact ⟨rfl, rfl⟩

theorem reaches_ask {q : I.Query} {next : I.Answer q → Dialogue I α} {t : List I.Event}
    {d : Dialogue I α} (h : (ask q next).Reaches t d) :
    t = [] ∧ d = ask q next ∨ ∃ r u, t = ⟨q, r⟩ :: u ∧ (next r).Reaches u d := by
  cases h with
  | refl => exact .inl ⟨rfl, rfl⟩
  | ask r h => exact .inr ⟨r, _, rfl, h⟩

theorem Reaches.trans {d e f : Dialogue I α} {t u : List I.Event} (first : d.Reaches t e)
    (rest : e.Reaches u f) : d.Reaches (t ++ u) f := by
  induction first with
  | refl d => exact rest
  | ask r _ ih => exact .ask r (ih rest)

/-- One more question and its answer. -/
theorem Reaches.answer {d : Dialogue I α} {t : List I.Event} {q : I.Query}
    {next : I.Answer q → Dialogue I α} (h : d.Reaches t (.ask q next)) (r : I.Answer q) :
    d.Reaches (t ++ [⟨q, r⟩]) (next r) :=
  h.trans (.ask r (.refl _))

theorem Yields.reaches {d : Dialogue I α} {t : List I.Event} {a : α} (h : d.Yields t a) :
    d.Reaches t (.done a) := by
  induction h with
  | done a => exact .refl _
  | ask r _ ih => exact .ask r ih

theorem Reaches.yields {d : Dialogue I α} {t : List I.Event} {a : α} (h : d.Reaches t (.done a)) :
    d.Yields t a := by
  generalize ends : Dialogue.done a = e at h
  induction h with
  | refl d =>
      subst ends
      exact .done a
  | ask r _ ih => exact .ask r (ih ends)

/-- A sequence goes on where its first part came to a result. -/
theorem Yields.reaches_bind {d : Dialogue I α} {f : α → Dialogue I β} {t : List I.Event} {a : α}
    (h : d.Yields t a) : (d.bind f).Reaches t (f a) := by
  induction h with
  | done a => exact .refl _
  | ask r _ ih => exact .ask r ih

/-- A sequence is still at its first part, or that has come to a result. -/
theorem reaches_bind {d : Dialogue I α} {f : α → Dialogue I β} {t : List I.Event}
    {e : Dialogue I β} (h : (d.bind f).Reaches t e) :
    (∃ d', d.Reaches t d' ∧ e = d'.bind f) ∨
      ∃ u v a, t = u ++ v ∧ d.Yields u a ∧ (f a).Reaches v e := by
  induction d generalizing t with
  | done a => exact .inr ⟨[], t, a, rfl, .done a, h⟩
  | cut =>
      cases h
      exact .inl ⟨cut, .refl cut, rfl⟩
  | ask q next ih =>
      rcases reaches_ask h with ⟨rfl, rfl⟩ | ⟨r, u, rfl, rest⟩
      · exact .inl ⟨ask q next, .refl _, rfl⟩
      · rcases ih r rest with ⟨d', first, rfl⟩ | ⟨u, v, a, rfl, first, rest⟩
        · exact .inl ⟨d', .ask r first, rfl⟩
        · exact .inr ⟨⟨q, r⟩ :: u, v, a, rfl, .ask r first, rest⟩

/-- A question of a sequence is one of its first part, or one of what follows its result. -/
theorem reaches_bind_ask {d : Dialogue I α} {f : α → Dialogue I β} {t : List I.Event} {q : I.Query}
    {next : I.Answer q → Dialogue I β} (h : (d.bind f).Reaches t (.ask q next)) :
    (∃ next', d.Reaches t (.ask q next') ∧ next = fun r => (next' r).bind f) ∨
      ∃ u v a, t = u ++ v ∧ d.Yields u a ∧ (f a).Reaches v (.ask q next) := by
  rcases reaches_bind h with ⟨d', first, same⟩ | later
  · cases d' with
    | done a => exact .inr ⟨t, [], a, (List.append_nil t).symm, first.yields, same ▸ .refl _⟩
    | cut => cases same
    | ask q next' =>
        cases same
        exact .inl ⟨next', first, rfl⟩
  · exact .inr later

end Dialogue

namespace Interface.Event

variable {I J : Interface}

/-- An event at the left of two counterparts, as an event of both. -/
def inLeft (e : I.Event) : (I.sum J).Event := ⟨.inl e.1, e.2⟩

def ofLeft : (I.sum J).Event → Option I.Event
  | ⟨.inl q, a⟩ => some ⟨q, a⟩
  | ⟨.inr _, _⟩ => none

def ofRight : (I.sum J).Event → Option J.Event
  | ⟨.inl _, _⟩ => none
  | ⟨.inr q, a⟩ => some ⟨q, a⟩

end Interface.Event

/-- What the left one of two counterparts was asked and answered. -/
def lefts {I J : Interface} (t : List (I.sum J).Event) : List I.Event :=
  t.filterMap Interface.Event.ofLeft

def rights {I J : Interface} (t : List (I.sum J).Event) : List J.Event :=
  t.filterMap Interface.Event.ofRight

section Sides

variable {I J : Interface}

@[simp] theorem lefts_append (t u : List (I.sum J).Event) :
    lefts (t ++ u) = lefts t ++ lefts u := List.filterMap_append

@[simp] theorem rights_append (t u : List (I.sum J).Event) :
    rights (t ++ u) = rights t ++ rights u := List.filterMap_append

@[simp] theorem lefts_inLeft (t : List I.Event) :
    lefts (t.map (Interface.Event.inLeft (J := J))) = t := by
  induction t with
  | nil => rfl
  | cons e t ih => exact congrArg (e :: ·) ih

@[simp] theorem rights_inLeft (t : List I.Event) :
    rights (t.map (Interface.Event.inLeft (J := J))) = [] := by
  induction t with
  | nil => rfl
  | cons e t ih => exact ih

end Sides

namespace Dialogue

variable {I J : Interface} {α : Type}

/-- A dialogue with the left one of two counterparts asks only that one. -/
theorem reaches_left {d : Dialogue I α} {t : List (I.sum J).Event} {e : Dialogue (I.sum J) α}
    (h : d.left.Reaches t e) :
    ∃ u d', t = u.map Interface.Event.inLeft ∧ e = d'.left ∧ d.Reaches u d' := by
  induction d generalizing t with
  | done a =>
      obtain ⟨rfl, rfl⟩ := reaches_done h
      exact ⟨[], done a, rfl, rfl, .refl _⟩
  | cut =>
      cases h
      exact ⟨[], cut, rfl, rfl, .refl _⟩
  | ask q next ih =>
      rcases reaches_ask h with ⟨rfl, rfl⟩ | ⟨(r : I.Answer q), u, rfl, rest⟩
      · exact ⟨[], ask q next, rfl, rfl, .refl _⟩
      · obtain ⟨v, d', rfl, rfl, later⟩ := ih r rest
        exact ⟨⟨q, r⟩ :: v, d', rfl, rfl, .ask r later⟩

/-- The right one of two counterparts is not asked. -/
theorem not_reaches_left {d : Dialogue I α} {t : List (I.sum J).Event} {q : J.Query}
    {next : J.Answer q → Dialogue (I.sum J) α} : ¬ d.left.Reaches t (.ask (.inr q) next) := by
  intro h
  obtain ⟨u, d', -, same, -⟩ := reaches_left h
  cases d' <;> cases same

theorem yields_left {d : Dialogue I α} {t : List (I.sum J).Event} {a : α}
    (h : d.left.Yields t a) : ∃ u, t = u.map Interface.Event.inLeft ∧ d.Yields u a := by
  obtain ⟨u, d', rfl, ends, rest⟩ := reaches_left h.reaches
  cases d' with
  | done b =>
      cases ends
      exact ⟨u, rfl, rest.yields⟩
  | cut => cases ends
  | ask q next => cases ends

end Dialogue

/-- Asked the questions of a transcript in their order, a handler gives the answers. -/
inductive Handler.Answers {I : Interface} {τ : Type} (h : Handler I τ) :
    τ → List I.Event → τ → Prop
  | nil (p : τ) : Answers h p [] p
  | cons {q : I.Query} {r : I.Answer q} {p p' p'' : τ} {t : List I.Event} : h q p = (r, p') →
      Answers h p' t p'' → Answers h p (⟨q, r⟩ :: t) p''

namespace Handler.Answers

variable {I : Interface} {τ : Type} {h : Handler I τ} {p p' p'' : τ} {t u : List I.Event}

/-- One question has one answer, and leads on from one state. -/
theorem head {q : I.Query} {r r' : I.Answer q} (answers : h.Answers p (⟨q, r⟩ :: t) p')
    (answers' : h.Answers p (⟨q, r'⟩ :: u) p'') :
    r = r' ∧ ∃ p₁, h.Answers p₁ t p' ∧ h.Answers p₁ u p'' := by
  cases answers with
  | cons first rest =>
      cases answers' with
      | cons first' rest' =>
          cases first.symm.trans first'
          exact ⟨rfl, _, rest, rest'⟩

theorem exists_left (answers : h.Answers p (t ++ u) p') : ∃ p₁, h.Answers p t p₁ := by
  induction t generalizing p with
  | nil => exact ⟨p, .nil p⟩
  | cons event t ih =>
      cases answers with
      | cons first rest =>
          obtain ⟨p₁, front⟩ := ih rest
          exact ⟨p₁, .cons first front⟩

end Handler.Answers

namespace Dialogue

section Held

variable {I J : Interface} {α β τ υ : Type} {h : Handler I τ} {g : Handler J υ}

/-- A dialogue that a handler answers comes to a result, with a transcript, and leaves a state. -/
inductive Held (h : Handler I τ) : Dialogue I α → τ → List I.Event → α → τ → Prop
  | done (a : α) (p : τ) : Held h (.done a) p [] a p
  | ask {q : I.Query} {next : I.Answer q → Dialogue I α} {p p' p'' : τ} {r : I.Answer q}
      {t : List I.Event} {a : α} : h q p = (r, p') → Held h (next r) p' t a p'' →
      Held h (.ask q next) p (⟨q, r⟩ :: t) a p''

theorem Held.run {d : Dialogue I α} {p p' : τ} {t : List I.Event} {a : α}
    (held : Held h d p t a p') : d.run h p = (some a, p') := by
  induction held with
  | done a p => rfl
  | ask answers _ ih =>
      unfold Dialogue.run
      rw [answers]
      exact ih

theorem Held.yields {d : Dialogue I α} {p p' : τ} {t : List I.Event} {a : α}
    (held : Held h d p t a p') : d.Yields t a := by
  induction held with
  | done a p => exact .done a
  | ask _ _ ih => exact .ask _ ih

theorem Held.answers {d : Dialogue I α} {p p' : τ} {t : List I.Event} {a : α}
    (held : Held h d p t a p') : h.Answers p t p' := by
  induction held with
  | done a p => exact .nil p
  | ask answers _ ih => exact .cons answers ih

theorem Held.of_nil {d : Dialogue I α} {p p' : τ} {a : α} (held : Held h d p [] a p') :
    p' = p := by
  cases held
  rfl

theorem Held.of_singleton {d : Dialogue I α} {p p' : τ} {q : I.Query} {r : I.Answer q} {a : α}
    (held : Held h d p [⟨q, r⟩] a p') : h q p = (r, p') := by
  cases held with
  | ask answers rest =>
      rw [rest.of_nil]
      exact answers

theorem held_of_run {d : Dialogue I α} {p p' : τ} {a : α} (run : d.run h p = (some a, p')) :
    ∃ t, Held h d p t a p' := by
  induction d generalizing p with
  | done b =>
      cases run
      exact ⟨[], .done a _⟩
  | cut => cases run
  | ask q next ih =>
      obtain ⟨t, held⟩ := ih _ run
      exact ⟨_, .ask rfl held⟩

theorem Held.bind {d : Dialogue I α} {f : α → Dialogue I β} {p p' p'' : τ} {t u : List I.Event}
    {a : α} {b : β} (first : Held h d p t a p') (rest : Held h (f a) p' u b p'') :
    Held h (d.bind f) p (t ++ u) b p'' := by
  induction first with
  | done a p => exact rest
  | ask answers _ ih => exact .ask answers (ih rest)

theorem pair_left {call : I.Query} {r : I.Answer call} {p p' : τ} (answers : h call p = (r, p'))
    (q : υ) : h.pair g (.inl call) (p, q) = (r, p', q) :=
  congrArg (fun (x : I.Answer call × τ) => (x.1, x.2, q)) answers

theorem pair_right {call : J.Query} {r : J.Answer call} {q q' : υ} (answers : g call q = (r, q'))
    (p : τ) : h.pair g (.inr call) (p, q) = (r, p, q') :=
  congrArg (fun (x : J.Answer call × υ) => (x.1, p, x.2)) answers

theorem Held.left {d : Dialogue I α} {p p' : τ} {t : List I.Event} {a : α}
    (held : Held h d p t a p') (q : υ) :
    Held (h.pair g) d.left (p, q) (t.map Interface.Event.inLeft) a (p', q) := by
  induction held with
  | done a p => exact .done a (p, q)
  | ask answers _ ih => exact .ask (pair_left answers q) ih

end Held

end Dialogue

end Contactless
