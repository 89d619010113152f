import Contactless.Chip

/-! Evaluation of actions. Each law says which dialogue an action is, at a horizon and a state, so
that a program can be followed question by question without opening the way actions are built. -/
namespace Contactless

section Outcomes

variable {ε α β : Type}

@[simp] theorem ok_bind (a : α) (f : α → Except ε β) : (Except.ok a >>= f) = f a := rfl

theorem bind_eq_ok_iff {r : Except ε α} {f : α → Except ε β} {b : β} :
    (r >>= f) = .ok b ↔ ∃ a, r = .ok a ∧ f a = .ok b := by
  cases r with
  | error e => exact ⟨nofun, nofun⟩
  | ok a =>
      constructor
      · intro goes
        exact ⟨a, rfl, goes⟩
      · rintro ⟨_, ⟨⟩, goes⟩
        exact goes

theorem map_eq_ok_iff {r : Except ε α} {f : α → β} {b : β} :
    r.map f = .ok b ↔ ∃ a, r = .ok a ∧ f a = b := by
  cases r with
  | error e => exact ⟨nofun, nofun⟩
  | ok a =>
      constructor
      · rintro ⟨⟩
        exact ⟨a, rfl, rfl⟩
      · rintro ⟨_, ⟨⟩, rfl⟩
        rfl

theorem map_eq_error_iff {r : Except ε α} {f : α → β} {e : ε} :
    r.map f = .error e ↔ r = .error e := by
  cases r with
  | error _ => exact ⟨fun same => congrArg Except.error (Except.error.inj same),
      fun same => congrArg Except.error (Except.error.inj same)⟩
  | ok a => exact ⟨nofun, nofun⟩

end Outcomes

namespace Dialogue

variable {I : Interface} {α β : Type}

@[simp] theorem bind_done_left (a : α) (f : α → Dialogue I β) : (done a).bind f = f a := rfl

@[simp] theorem bind_ask (q : I.Query) (next : I.Answer q → Dialogue I α)
    (f : α → Dialogue I β) : (ask q next).bind f = ask q fun r => (next r).bind f := rfl

end Dialogue

namespace Act

variable {I : Interface} {σ τ α β : Type} (n : Nat) (s : σ)

/-- How a sequence of actions goes on with what the first of them came to. -/
def resume (f : α → Act I σ β) (n : Nat) : Except Error α × σ → Dialogue I (Except Error β × σ)
  | (.ok a, t) => f a n t
  | (.error e, t) => .done (.error e, t)

@[simp] theorem resume_ok (f : α → Act I σ β) (a : α) : resume f n (.ok a, s) = f a n s := rfl

@[simp] theorem bind_apply (x : Act I σ α) (f : α → Act I σ β) :
    (x >>= f) n s = (x n s).bind (resume f n) := by
  have same : (fun r : Except Error α × σ =>
      match r with
      | (.ok a, t) => f a n t
      | (.error e, t) => Dialogue.done (.error e, t)) = resume f n := by
    funext r
    obtain ⟨outcome, t⟩ := r
    cases outcome <;> rfl
  exact congrArg (x n s).bind same

@[simp] theorem pure_apply (a : α) : (pure a : Act I σ α) n s = .done (.ok a, s) := rfl

@[simp] theorem get_apply : (get : Act I σ σ) n s = .done (.ok s, s) := rfl

@[simp] theorem modify_apply (f : σ → σ) :
    (modify f : Act I σ PUnit) n s = .done (.ok ⟨⟩, f s) := rfl

@[simp] theorem ofExcept_apply (r : Except Error α) :
    (ofExcept r : Act I σ α) n s = .done (r, s) := rfl

@[simp] theorem attempt_apply (x : Act I σ α) :
    attempt x n s = (x n s).bind fun r => .done (.ok r.1, r.2) := rfl

/-- What follows an attempt sees its outcome as a value. -/
theorem attempt_bind (x : Act I σ α) (f : Except Error α → Act I σ β) :
    (attempt x >>= f) n s = (x n s).bind fun r => f r.1 n r.2 := by
  rw [bind_apply, attempt_apply, Dialogue.bind_bind]
  rfl

@[simp] theorem zoom_apply (part : σ → τ) (put : τ → σ → σ) (x : Act I τ α) :
    zoom part put x n s = (x n (part s)).bind fun r => .done (r.1, put r.2 s) := rfl

/-- How a loop goes on with what one of its steps came to. -/
def again (body : β → Act I σ (β ⊕ α)) (fuel : Nat) : β ⊕ α → Act I σ α
  | .inl b => steps body fuel b
  | .inr a => pure a

@[simp] theorem again_inr (body : β → Act I σ (β ⊕ α)) (fuel : Nat) (a : α) :
    again body fuel (.inr a) = pure a := rfl

theorem forM_cons_apply (f : β → Act I σ PUnit) (b : β) (rest : List β) :
    (b :: rest).forM f n s = (f b n s).bind (resume (fun _ => rest.forM f) n) := by
  rw [← bind_apply]
  rfl

theorem forM_cons_bind (f : β → Act I σ PUnit) (b : β) (rest : List β) (g : PUnit → Act I σ α) :
    ((b :: rest).forM f >>= g) = (f b >>= fun _ => rest.forM f >>= g) :=
  LawfulMonad.bind_assoc (f b) _ g

theorem steps_succ (body : β → Act I σ (β ⊕ α)) (fuel : Nat) (b : β) :
    steps body (fuel + 1) b n s = (body b n s).bind (resume (again body fuel) n) := by
  rw [← bind_apply]
  rfl

@[simp] theorem request_apply (call : Chip.Call) (value : call.Answer → Except Error α) :
    (Chip.request call value : Act Chip σ α) n s = .ask call fun a => .done (value a, s) := rfl

end Act

end Contactless
