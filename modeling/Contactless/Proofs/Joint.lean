import Contactless.Proofs.Reach
import Mathlib.Logic.Relation

/-! Two programs side by side in common surroundings. Which of them moves next is left open, and so
is what the surroundings answer, as far as they may. -/
namespace Contactless

/-- What may be answered to a question, and what becomes of the surroundings then. A question to
which nothing may be answered waits. -/
abbrev Surroundings (I : Interface) (ε : Type) := (q : I.Query) → ε → I.Answer q → ε → Prop

/-- Both programs with what they were asked and answered so far. -/
structure Joint (I J : Interface) (ε α β : Type) where
  near : Dialogue I α
  far : Dialogue J β
  around : ε
  nearLog : List I.Event
  farLog : List J.Event

namespace Joint

variable {I J : Interface} {ε α β : Type} {A : Surroundings I ε} {B : Surroundings J ε}

def start (near : Dialogue I α) (far : Dialogue J β) (around : ε) : Joint I J ε α β :=
  ⟨near, far, around, [], []⟩

inductive Move (A : Surroundings I ε) (B : Surroundings J ε) :
    Joint I J ε α β → Joint I J ε α β → Prop
  | near {q : I.Query} {next : I.Answer q → Dialogue I α} {far : Dialogue J β} {e e' : ε}
      {t : List I.Event} {u : List J.Event} (r : I.Answer q) : A q e r e' →
      Move A B ⟨.ask q next, far, e, t, u⟩ ⟨next r, far, e', t ++ [⟨q, r⟩], u⟩
  | far {near : Dialogue I α} {q : J.Query} {next : J.Answer q → Dialogue J β} {e e' : ε}
      {t : List I.Event} {u : List J.Event} (r : J.Answer q) : B q e r e' →
      Move A B ⟨near, .ask q next, e, t, u⟩ ⟨near, next r, e', t, u ++ [⟨q, r⟩]⟩

abbrev Moves (A : Surroundings I ε) (B : Surroundings J ε) :
    Joint I J ε α β → Joint I J ε α β → Prop :=
  Relation.ReflTransGen (Move A B)

/-- The logs tell where both programs stand, whatever the order of their moves was. -/
theorem Moves.reaches {x : Dialogue I α} {y : Dialogue J β} {e : ε} {w : Joint I J ε α β}
    (run : Moves A B (start x y e) w) :
    x.Reaches w.nearLog w.near ∧ y.Reaches w.farLog w.far := by
  induction run with
  | refl => exact ⟨.refl x, .refl y⟩
  | tail _ move ih =>
      obtain ⟨near, far⟩ := ih
      cases move with
      | near r _ => exact ⟨near.answer r, far⟩
      | far r _ => exact ⟨near, far.answer r⟩

/-- An order of moves that the surroundings allow, told by what either program is asked and
answered. -/
inductive Allowed (A : Surroundings I ε) (B : Surroundings J ε) :
    ε → List (I.Event ⊕ J.Event) → ε → Prop
  | nil (e : ε) : Allowed A B e [] e
  | near {q : I.Query} {r : I.Answer q} {e e' e'' : ε} {rest : List (I.Event ⊕ J.Event)} :
      A q e r e' → Allowed A B e' rest e'' → Allowed A B e (.inl ⟨q, r⟩ :: rest) e''
  | far {q : J.Query} {r : J.Answer q} {e e' e'' : ε} {rest : List (I.Event ⊕ J.Event)} :
      B q e r e' → Allowed A B e' rest e'' → Allowed A B e (.inr ⟨q, r⟩ :: rest) e''

/-- Both programs can be led through their logs in any order that is allowed. -/
theorem Allowed.moves {e e' : ε} {order : List (I.Event ⊕ J.Event)}
    (allowed : Allowed A B e order e') {x x' : Dialogue I α} {y y' : Dialogue J β}
    {t : List I.Event} {u : List J.Event}
    (near : x.Reaches (order.filterMap Sum.getLeft?) x')
    (far : y.Reaches (order.filterMap Sum.getRight?) y') :
    ∃ t' u', Moves A B ⟨x, y, e, t, u⟩ ⟨x', y', e', t', u'⟩ := by
  -- A program that has to answer for the next event of its log stands at that question.
  induction allowed generalizing x y t u with
  | nil e =>
      cases near
      cases far
      exact ⟨t, u, .refl⟩
  | near answers _ ih =>
      cases near with
      | ask r rest =>
          obtain ⟨t', u', run⟩ := ih rest far
          exact ⟨t', u', .head (.near _ answers) run⟩
  | far answers _ ih =>
      cases far with
      | ask r rest =>
          obtain ⟨t', u', run⟩ := ih near rest
          exact ⟨t', u', .head (.far _ answers) run⟩

end Joint

/-- Every run comes to a goal, whatever its moves are, and none gets stuck before. -/
inductive Inevitable {σ : Type} (R : σ → σ → Prop) (goal : σ → Prop) : σ → Prop
  | here {s : σ} : goal s → Inevitable R goal s
  | later {s s' : σ} : R s s' → (∀ s', R s s' → Inevitable R goal s') → Inevitable R goal s

theorem Inevitable.mono {σ : Type} {R : σ → σ → Prop} {goal goal' : σ → Prop} {s : σ}
    (h : Inevitable R goal s) (more : ∀ s, goal s → goal' s) : Inevitable R goal' s := by
  induction h with
  | here reached => exact .here (more _ reached)
  | later move _ ih => exact .later move ih

/-- Answers that leave nothing open. -/
abbrev Answers (I : Interface) (ε : Type) := (q : I.Query) → ε → Option (I.Answer q × ε)

def Answers.surroundings {I : Interface} {ε : Type} (f : Answers I ε) : Surroundings I ε :=
  fun q e r e' => f q e = some (r, e')

namespace Joint

section Determined

variable {I J : Interface} {ε α β : Type} {f : Answers I ε} {g : Answers J ε}
  {goal : Joint I J ε α β → Prop} {e e' : ε} {t : List I.Event} {u : List J.Event}

/-- A program cannot go on. -/
def Waits (f : Answers I ε) (d : Dialogue I α) (e : ε) : Prop :=
  ∀ q next, d = .ask q next → f q e = none

theorem waits_done (a : α) : Waits f (.done a) e := by
  intro q next same
  cases same

theorem waits_ask {q : I.Query} {next : I.Answer q → Dialogue I α} (none : f q e = none) :
    Waits f (.ask q next) e := by
  intro q' next' same
  cases same
  exact none

theorem inevitable_near {q : I.Query} {next : I.Answer q → Dialogue I α} {far : Dialogue J β}
    {r : I.Answer q} (answers : f q e = some (r, e')) (waits : Waits g far e)
    (later : Inevitable (Move f.surroundings g.surroundings) goal
      ⟨next r, far, e', t ++ [⟨q, r⟩], u⟩) :
    Inevitable (Move f.surroundings g.surroundings) goal ⟨.ask q next, far, e, t, u⟩ := by
  -- Answers are determined, so the near program has one move, and the far one has none.
  refine .later (.near r answers) fun w move => ?_
  cases move with
  | near r' answers' =>
      cases answers.symm.trans answers'
      exact later
  | far r' answers' =>
      rw [Answers.surroundings, waits _ _ rfl] at answers'
      cases answers'

theorem inevitable_far {near : Dialogue I α} {q : J.Query} {next : J.Answer q → Dialogue J β}
    {r : J.Answer q} (answers : g q e = some (r, e')) (waits : Waits f near e)
    (later : Inevitable (Move f.surroundings g.surroundings) goal
      ⟨near, next r, e', t, u ++ [⟨q, r⟩]⟩) :
    Inevitable (Move f.surroundings g.surroundings) goal ⟨near, .ask q next, e, t, u⟩ := by
  refine .later (.far r answers) fun w move => ?_
  cases move with
  | near r' answers' =>
      rw [Answers.surroundings, waits _ _ rfl] at answers'
      cases answers'
  | far r' answers' =>
      cases answers.symm.trans answers'
      exact later

theorem inevitable_either {q : I.Query} {next : I.Answer q → Dialogue I α} {q' : J.Query}
    {next' : J.Answer q' → Dialogue J β} {r : I.Answer q} {r' : J.Answer q'} {e'' : ε}
    (nearAnswers : f q e = some (r, e')) (farAnswers : g q' e = some (r', e''))
    (near : Inevitable (Move f.surroundings g.surroundings) goal
      ⟨next r, .ask q' next', e', t ++ [⟨q, r⟩], u⟩)
    (far : Inevitable (Move f.surroundings g.surroundings) goal
      ⟨.ask q next, next' r', e'', t, u ++ [⟨q', r'⟩]⟩) :
    Inevitable (Move f.surroundings g.surroundings) goal
      ⟨.ask q next, .ask q' next', e, t, u⟩ := by
  refine .later (.near r nearAnswers) fun w move => ?_
  cases move with
  | near r₁ answers =>
      cases nearAnswers.symm.trans answers
      exact near
  | far r₁ answers =>
      cases farAnswers.symm.trans answers
      exact far

end Determined

end Joint

end Contactless
