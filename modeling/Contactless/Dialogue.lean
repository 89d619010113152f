import Contactless.Error

/-!
Programs that talk to something outside: trees of questions whose branches are the possible
answers. A tree is finite along every branch; a program that would go on forever is cut where its
horizon ends, and what was asked before the cut stays visible.
-/
namespace Contactless

structure Interface where
  Query : Type
  Answer : Query → Type

namespace Interface

/-- Two counterparts side by side. -/
def sum (I J : Interface) : Interface where
  Query := I.Query ⊕ J.Query
  Answer
    | .inl q => I.Answer q
    | .inr q => J.Answer q

end Interface

inductive Dialogue (I : Interface) (α : Type) where
  | done (a : α)
  /-- The horizon ended before the program did. -/
  | cut
  | ask (q : I.Query) (next : I.Answer q → Dialogue I α)

namespace Dialogue

variable {I J : Interface} {α β : Type}

def bind (d : Dialogue I α) (f : α → Dialogue I β) : Dialogue I β :=
  match d with
  | done a => f a
  | cut => cut
  | ask q next => ask q fun r => (next r).bind f

def map (f : α → β) (d : Dialogue I α) : Dialogue I β := d.bind fun a => done (f a)

def left : Dialogue I α → Dialogue (I.sum J) α
  | done a => done a
  | cut => cut
  | ask q next => ask (.inl q) fun r => (next r).left

def right : Dialogue J α → Dialogue (I.sum J) α
  | done a => done a
  | cut => cut
  | ask q next => ask (.inr q) fun r => (next r).right

theorem bind_done (d : Dialogue I α) : d.bind done = d := by
  induction d with
  | done a => rfl
  | cut => rfl
  | ask q next ih => simp only [bind, ih]

theorem bind_bind {γ : Type} (d : Dialogue I α) (f : α → Dialogue I β) (g : β → Dialogue I γ) :
    (d.bind f).bind g = d.bind fun a => (f a).bind g := by
  induction d with
  | done a => rfl
  | cut => rfl
  | ask q next ih => simp only [bind, ih]

end Dialogue

/-- Answers questions out of a state. -/
abbrev Handler (I : Interface) (τ : Type) := (q : I.Query) → τ → I.Answer q × τ

/-- Both counterparts of a sum, each with a state of its own. -/
def Handler.pair {I J : Interface} {τ υ : Type} (h : Handler I τ) (g : Handler J υ) :
    Handler (I.sum J) (τ × υ)
  | .inl q, s =>
    let (a, t) := h q s.1
    (a, t, s.2)
  | .inr q, s =>
    let (a, u) := g q s.2
    (a, s.1, u)

/-- Hold a dialogue. The result is absent when the dialogue was cut. -/
def Dialogue.run {I : Interface} {α τ : Type} (h : Handler I τ) : Dialogue I α → τ → Option α × τ
  | done a, t => (some a, t)
  | cut, t => (none, t)
  | ask q next, t =>
    let (a, t) := h q t
    (next a).run h t

/-- A dialogue with the left counterpart leaves the right one as it is. -/
theorem Dialogue.run_left {I J : Interface} {α τ υ : Type} (h : Handler I τ) (g : Handler J υ)
    (d : Dialogue I α) (t : τ) (u : υ) :
    d.left.run (h.pair g) (t, u) = ((d.run h t).1, (d.run h t).2, u) := by
  induction d generalizing t with
  | done a => rfl
  | cut => rfl
  | ask q next ih => exact ih _ _

theorem Dialogue.run_bind {I : Interface} {α β τ : Type} (h : Handler I τ) (d : Dialogue I α)
    (f : α → Dialogue I β) (t : τ) :
    (d.bind f).run h t =
      match d.run h t with
      | (some a, t) => (f a).run h t
      | (none, t) => (none, t) := by
  induction d generalizing t with
  | done a => rfl
  | cut => rfl
  | ask q next ih => exact ih _ _

end Contactless
