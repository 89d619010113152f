import Contactless.Proofs.Act

/-! Actions held with a handler. One rule for each way of building an action says how it ends, so
that a program can be followed through the states of its counterpart. -/
namespace Contactless.Act

variable {I : Interface} {σ τ α β : Type} {h : Handler I τ} {n : Nat} {s s' s'' : σ}
  {p p' p'' : τ}

/-- An action ends with an outcome, and leaves its own state and that of its counterpart so. -/
def Ends (h : Handler I τ) (x : Act I σ α) (n : Nat) (s : σ) (p : τ) (r : Except Error α) (s' : σ)
    (p' : τ) : Prop :=
  (x n s).run h p = (some (r, s'), p')

theorem Ends.bind {x : Act I σ α} {f : α → Act I σ β} {a : α} {r : Except Error β}
    (first : Ends h x n s p (.ok a) s' p') (rest : Ends h (f a) n s' p' r s'' p'') :
    Ends h (x >>= f) n s p r s'' p'' := by
  unfold Ends at *
  rw [bind_apply, Dialogue.run_bind, first]
  exact rest

theorem Ends.bind_error {x : Act I σ α} {f : α → Act I σ β} {e : Error}
    (first : Ends h x n s p (.error e) s' p') : Ends h (x >>= f) n s p (.error e) s' p' := by
  unfold Ends at *
  rw [bind_apply, Dialogue.run_bind, first]
  rfl

theorem ends_pure (a : α) : Ends h (pure a) n s p (.ok a) s p := rfl

theorem ends_get : Ends h (get : Act I σ σ) n s p (.ok s) s p := rfl

theorem ends_modify (f : σ → σ) : Ends h (modify f : Act I σ PUnit) n s p (.ok ⟨⟩) (f s) p := rfl

theorem ends_modifyGet (f : σ → α × σ) :
    Ends h (modifyGet f : Act I σ α) n s p (.ok (f s).1) (f s).2 p := rfl

theorem ends_throw (e : Error) : Ends h (throw e : Act I σ α) n s p (.error e) s p := rfl

theorem ends_ofExcept (r : Except Error α) : Ends h (ofExcept r : Act I σ α) n s p r s p := rfl

theorem Ends.attempt {x : Act I σ α} {r : Except Error α} (ends : Ends h x n s p r s' p') :
    Ends h (Act.attempt x) n s p (.ok r) s' p' := by
  unfold Ends at *
  rw [attempt_apply, Dialogue.run_bind, ends]
  rfl

theorem Ends.within {υ : Type} {t t' : υ} {x : Act I υ α} {r : Except Error α}
    (ends : Ends h x n t p r t' p') : Ends h (Act.within t x) n s p r s p' := by
  unfold Ends Act.within Dialogue.map at *
  rw [Dialogue.run_bind, ends]
  rfl

theorem ends_request {h : Handler Chip τ} {call : Chip.Call} (value : call.Answer → Except Error α)
    {answer : call.Answer} (answers : h call p = (answer, p')) :
    Ends h (Chip.request call value) n s p (value answer) s p' := by
  unfold Ends Chip.request Dialogue.run
  rw [answers]
  rfl

end Contactless.Act
