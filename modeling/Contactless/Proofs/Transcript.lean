import Contactless.Proofs.Act

/-! Transcripts: what a dialogue was asked and answered on its way to a result. A statement about
every transcript holds whatever the counterpart answers, failures included. -/
namespace Contactless

abbrev Interface.Event (I : Interface) := (q : I.Query) × I.Answer q

namespace Dialogue

variable {I : Interface} {α β : Type}

/-- A dialogue comes to a result after the questions and answers of a transcript. A dialogue that
is cut comes to none. -/
inductive Yields : Dialogue I α → List I.Event → α → Prop
  | done (a : α) : Yields (.done a) [] a
  | ask {q : I.Query} {next : I.Answer q → Dialogue I α} {t : List I.Event} {a : α}
      (r : I.Answer q) : Yields (next r) t a → Yields (.ask q next) (⟨q, r⟩ :: t) a

@[simp] theorem not_yields_cut {t : List I.Event} {b : α} :
    ¬ (cut : Dialogue I α).Yields t b := by
  intro h
  cases h

theorem yields_ask_iff {q : I.Query} {next : I.Answer q → Dialogue I α} {t : List I.Event}
    {b : α} :
    (ask q next).Yields t b ↔ ∃ r u, t = ⟨q, r⟩ :: u ∧ (next r).Yields u b := by
  constructor
  · intro h
    cases h with
    | ask r h => exact ⟨r, _, rfl, h⟩
  · rintro ⟨r, u, rfl, h⟩
    exact .ask r h

theorem Yields.bind {d : Dialogue I α} {f : α → Dialogue I β} {t u : List I.Event} {a : α}
    {b : β} (first : d.Yields t a) (rest : (f a).Yields u b) : (d.bind f).Yields (t ++ u) b := by
  induction first with
  | done a => exact rest
  | ask r _ ih => exact .ask r (ih rest)

/-- A result of a sequence comes from a result of its first part. -/
theorem yields_bind_iff {d : Dialogue I α} {f : α → Dialogue I β} {t : List I.Event} {b : β} :
    (d.bind f).Yields t b ↔ ∃ u v a, t = u ++ v ∧ d.Yields u a ∧ (f a).Yields v b := by
  constructor
  · intro h
    induction d generalizing t with
    | done a => exact ⟨[], t, a, rfl, .done a, h⟩
    | cut => cases h
    | ask q next ih =>
        obtain ⟨r, w, rfl, tail⟩ := yields_ask_iff.mp h
        obtain ⟨u, v, a, rfl, first, rest⟩ := ih r tail
        exact ⟨⟨q, r⟩ :: u, v, a, rfl, .ask r first, rest⟩
  · rintro ⟨u, v, a, rfl, first, rest⟩
    exact first.bind rest

section Results

variable {J : Interface} {right : α → Prop}

/-- Whatever a dialogue is answered, its results are among these. -/
def Gives (right : α → Prop) (d : Dialogue I α) : Prop := ∀ t a, d.Yields t a → right a

theorem gives_done {a : α} (holds : right a) : (done a : Dialogue I α).Gives right := by
  intro t b yields
  cases yields
  exact holds

theorem Gives.answer {q : I.Query} {next : I.Answer q → Dialogue I α}
    (gives : (ask q next).Gives right) (r : I.Answer q) : (next r).Gives right :=
  fun _ _ yields => gives _ _ (.ask r yields)

theorem Gives.bind {d : Dialogue I α} {k : α → Dialogue I β} {right' : β → Prop}
    (gives : d.Gives right) (rest : ∀ a, right a → (k a).Gives right') :
    (d.bind k).Gives right' := by
  intro t b yields
  obtain ⟨u, v, a, rfl, first, last⟩ := yields_bind_iff.mp yields
  exact rest a (gives u a first) v b last

theorem Gives.left {d : Dialogue I α} (gives : d.Gives right) :
    (d.left : Dialogue (I.sum J) α).Gives right := by
  induction d with
  | done a => exact gives_done (gives _ a (.done a))
  | cut => exact fun _ _ yields => nomatch yields
  | ask q next ih =>
      intro t a yields
      obtain ⟨r, u, rfl, rest⟩ := yields_ask_iff.mp yields
      exact ih r (gives.answer r) u a rest

end Results

end Dialogue

namespace Act

variable {I : Interface} {σ α β : Type}

/-- An action that started in a state comes to an outcome and a state after a transcript, at some
horizon. -/
def Yields (x : Act I σ α) (s : σ) (t : List I.Event) (r : Except Error α) (s' : σ) : Prop :=
  ∃ n, (x n s).Yields t (r, s')

/-- A sequence fails with its first part, or goes on from where that ended. -/
theorem yields_bind_cases {x : Act I σ α} {f : α → Act I σ β} {n : Nat} {s s' : σ}
    {t : List I.Event} {r : Except Error β} (h : ((x >>= f) n s).Yields t (r, s')) :
    (∃ e, r = .error e ∧ (x n s).Yields t (.error e, s')) ∨
      ∃ u v a s₁, t = u ++ v ∧ (x n s).Yields u (.ok a, s₁) ∧ (f a n s₁).Yields v (r, s') := by
  rw [bind_apply, Dialogue.yields_bind_iff] at h
  obtain ⟨u, v, ⟨outcome, s₁⟩, rfl, first, rest⟩ := h
  cases outcome with
  | error e =>
      cases rest
      rw [List.append_nil]
      exact .inl ⟨e, rfl, first⟩
  | ok a => exact .inr ⟨u, v, a, s₁, rfl, first, rest⟩

end Act

namespace Chip

def Event.failure : Chip.Event → Option Error
  | ⟨.bits .., .error e⟩ => some e
  | ⟨.bytes .., .error e⟩ => some e
  | ⟨.configure .., .error e⟩ => some e
  | ⟨.arm .., .error e⟩ => some e
  | ⟨.receive _, .error e⟩ => some e
  | ⟨.send .., .error e⟩ => some e
  | ⟨.idle, .error e⟩ => some e
  | ⟨.abortPending, .error e⟩ => some e
  | _ => none

def Fails (t : List Chip.Event) (e : Error) : Prop := ∃ event ∈ t, Event.failure event = some e

theorem Fails.mono {t u : List Chip.Event} {e : Error} (fails : Fails t e)
    (h : ∀ event ∈ t, event ∈ u) : Fails u e := by
  obtain ⟨event, member, failed⟩ := fails
  exact ⟨event, h event member, failed⟩

theorem fails_head {event : Chip.Event} {t : List Chip.Event} {e : Error}
    (failed : Event.failure event = some e) : Fails (event :: t) e :=
  ⟨event, List.mem_cons_self, failed⟩

end Chip

end Contactless
