import Contactless.Dialogue

/-!
Actions: dialogues with a state of their own that may fail. What an action did to its state stays
when it fails. An action also has a horizon, which bounds each of its open-ended loops.
-/
namespace Contactless

def Act (I : Interface) (σ α : Type) := Nat → σ → Dialogue I (Except Error α × σ)

namespace Act

variable {I J : Interface} {σ τ α β : Type}

protected def pure (a : α) : Act I σ α := fun _ s => .done (.ok a, s)

protected def bind (x : Act I σ α) (f : α → Act I σ β) : Act I σ β := fun n s =>
  (x n s).bind fun
    | (.ok a, t) => f a n t
    | (.error e, t) => .done (.error e, t)

instance : Monad (Act I σ) where
  pure := Act.pure
  bind := Act.bind

theorem bind_pure (x : Act I σ α) : Act.bind x Act.pure = x := by
  have passed : (fun r : Except Error α × σ =>
      match r with
      | (.ok a, t) => Act.pure (I := I) a 0 t
      | (.error e, t) => Dialogue.done (.error e, t)) = Dialogue.done := by
    funext r
    obtain ⟨outcome, t⟩ := r
    cases outcome <;> rfl
  funext n s
  exact (congrArg (x n s).bind passed).trans (Dialogue.bind_done (x n s))

theorem bind_assoc {γ : Type} (x : Act I σ α) (f : α → Act I σ β) (g : β → Act I σ γ) :
    Act.bind (Act.bind x f) g = Act.bind x fun a => Act.bind (f a) g := by
  funext n s
  refine (Dialogue.bind_bind (x n s) _ _).trans (congrArg (x n s).bind ?_)
  funext r
  obtain ⟨outcome, t⟩ := r
  cases outcome <;> rfl

/-- The laws by which sequences of actions may be regrouped. -/
instance : LawfulMonad (Act I σ) :=
  LawfulMonad.mk' _ bind_pure (fun _ _ => rfl) bind_assoc

/-- Go on after a failure with the state it left. -/
protected def tryCatch (x : Act I σ α) (f : Error → Act I σ α) : Act I σ α := fun n s =>
  (x n s).bind fun
    | (.ok a, t) => .done (.ok a, t)
    | (.error e, t) => f e n t

instance : MonadExceptOf Error (Act I σ) where
  throw e := fun _ s => .done (.error e, s)
  tryCatch := Act.tryCatch

instance : MonadStateOf σ (Act I σ) where
  get := fun _ s => .done (.ok s, s)
  set t := fun _ _ => .done (.ok (), t)
  modifyGet f := fun _ s => .done (.ok (f s).1, (f s).2)

def ask (q : I.Query) : Act I σ (I.Answer q) := fun _ s => .ask q fun a => .done (.ok a, s)

def ofExcept (r : Except Error α) : Act I σ α := fun _ s => .done (r, s)

/-- The outcome of an action as a value; the attempt itself does not fail. -/
def attempt (x : Act I σ α) : Act I σ (Except Error α) := fun n s =>
  (x n s).map fun r => (.ok r.1, r.2)

def zoom (part : σ → τ) (put : τ → σ → σ) (x : Act I τ α) : Act I σ α := fun n s =>
  (x n (part s)).map fun r => (r.1, put r.2 s)

/-- An action on a state of its own, which is given up at the end. -/
def within (t : τ) (x : Act I τ α) : Act I σ α := fun n s =>
  (x n t).map fun r => (r.1, s)

def left (x : Act I σ α) : Act (I.sum J) σ α := fun n s => (x n s).left

def right (x : Act J σ α) : Act (I.sum J) σ α := fun n s => (x n s).right

/-- At most `fuel` steps. Each step ends the loop with a result or goes on with a value. -/
def steps (body : β → Act I σ (β ⊕ α)) : Nat → β → Act I σ α
  | 0, _ => fun _ _ => .cut
  | fuel + 1, b => do
    match ← body b with
    | .inl b => steps body fuel b
    | .inr a => pure a

/-- Steps without an end of their own, as many as the horizon allows. -/
def loop (body : β → Act I σ (β ⊕ α)) (b : β) : Act I σ α := fun n s => steps body n b n s

end Act

end Contactless
