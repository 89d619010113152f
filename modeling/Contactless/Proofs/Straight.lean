import Contactless.Proofs.Accounts

/-! Actions without open-ended loops. No horizon makes a difference to such an action, so it comes
to an outcome whatever it is answered, and a sequence goes on with any outcome that it has. -/
namespace Contactless

theorem Dialogue.Assures.self {I : Interface} {α : Type} {d : Dialogue I α}
    {Q : List I.Event → α → Prop} (assures : d.Assures Q) : d.Assures d.Yields := by
  induction d generalizing Q with
  | done a => exact .done a
  | cut => exact assures
  | ask q next ih => exact fun r => (ih r (assures r)).mono fun t a yields => .ask r yields

namespace Act

variable {I : Interface} {σ τ α β : Type}

/-- An action that is the same at every horizon and is never cut. -/
structure Straight (x : Act I σ α) : Prop where
  same : ∀ n s, x n s = x 0 s
  whole : ∀ s, (x 0 s).Assures fun _ _ => True

section Rules

variable {x : Act I σ α} {f : α → Act I σ β}

theorem straight_pure (a : α) : (pure a : Act I σ α).Straight := ⟨fun _ _ => rfl, fun _ => trivial⟩

theorem straight_throw (e : Error) : (throw e : Act I σ α).Straight :=
  ⟨fun _ _ => rfl, fun _ => trivial⟩

theorem straight_ofExcept (r : Except Error α) : (ofExcept r : Act I σ α).Straight :=
  ⟨fun _ _ => rfl, fun _ => trivial⟩

theorem straight_get : (get : Act I σ σ).Straight := ⟨fun _ _ => rfl, fun _ => trivial⟩

theorem straight_modifyGet (g : σ → α × σ) : (modifyGet g : Act I σ α).Straight :=
  ⟨fun _ _ => rfl, fun _ => trivial⟩

theorem straight_modify (g : σ → σ) : (modify g : Act I σ PUnit).Straight :=
  ⟨fun _ _ => rfl, fun _ => trivial⟩

theorem straight_request (call : Chip.Call) (value : call.Answer → Except Error α) :
    (Chip.request call value : Act Chip σ α).Straight :=
  ⟨fun _ _ => rfl, fun _ _ => trivial⟩

theorem Straight.bind (first : x.Straight) (rest : ∀ a, (f a).Straight) : (x >>= f).Straight := by
  constructor
  · intro n s
    rw [bind_apply, bind_apply, first.same n]
    refine congrArg _ (funext fun (r, s') => ?_)
    cases r with
    | ok a => exact (rest a).same n s'
    | error e => rfl
  · intro s
    rw [bind_apply]
    refine Dialogue.Assures.bind ((first.whole s).mono fun t (r, s') _ => ?_)
    cases r with
    | ok a => exact (rest a).whole s'
    | error e => trivial

theorem Straight.attempt (straight : x.Straight) : (attempt x).Straight := by
  constructor
  · intro n s
    rw [attempt_apply, attempt_apply, straight.same n]
  · intro s
    rw [attempt_apply]
    exact Dialogue.Assures.bind ((straight.whole s).mono fun _ _ _ => trivial)

theorem Straight.within {x : Act I τ α} (straight : x.Straight) (s₀ : τ) :
    (within s₀ x : Act I σ α).Straight := by
  constructor
  · intro n s
    exact congrArg (Dialogue.map _) (straight.same n s₀)
  · intro s
    exact Dialogue.Assures.bind ((straight.whole s₀).mono fun _ _ _ => trivial)

end Rules

section Outcomes

variable {x : Act I σ α} {f : α → Act I σ β} {s s' : σ} {t : List I.Event}

/-- It comes to something that it can come to. -/
theorem Straight.assures (straight : x.Straight) (s : σ) : x.Assures s (x.Yields s) := by
  intro n
  have whole := (straight.whole s).self
  rw [← straight.same n s] at whole
  exact whole.mono fun t r yields => ⟨n, yields⟩

theorem Straight.yields_at (straight : x.Straight) {r : Except Error α} (n : Nat)
    (yields : x.Yields s t r s') : (x n s).Yields t (r, s') := by
  obtain ⟨m, yields⟩ := yields
  rw [straight.same n s, ← straight.same m s]
  exact yields

theorem Yields.bind_error {e : Error} (failed : x.Yields s t (.error e) s') :
    (x >>= f).Yields s t (.error e) s' := by
  obtain ⟨n, failed⟩ := failed
  refine ⟨n, ?_⟩
  rw [bind_apply, ← List.append_nil t]
  exact failed.bind (.done _)

theorem Straight.yields_bind (straight : x.Straight) {u : List I.Event} {a : α} {s₁ : σ}
    {r : Except Error β} (first : x.Yields s t (.ok a) s₁) (rest : (f a).Yields s₁ u r s') :
    (x >>= f).Yields s (t ++ u) r s' := by
  obtain ⟨n, rest⟩ := rest
  refine ⟨n, ?_⟩
  rw [bind_apply]
  exact (straight.yields_at n first).bind rest

/-- What follows asks nothing more. -/
theorem Straight.yields_bind_silent (straight : x.Straight) {a : α} {s₁ : σ} {r : Except Error β}
    (first : x.Yields s t (.ok a) s₁) (rest : (f a).Yields s₁ [] r s') :
    (x >>= f).Yields s t r s' :=
  List.append_nil t ▸ straight.yields_bind first rest

/-- A sequence fails with its first part, or goes on from where that ended. -/
theorem Yields.of_bind {r : Except Error β} (yields : (x >>= f).Yields s t r s') :
    (∃ e, r = .error e ∧ x.Yields s t (.error e) s') ∨
      ∃ u v a s₁, t = u ++ v ∧ x.Yields s u (.ok a) s₁ ∧ (f a).Yields s₁ v r s' := by
  obtain ⟨n, yields⟩ := yields
  rcases yields_bind_cases yields with ⟨e, rfl, failed⟩ | ⟨u, v, a, s₁, rfl, first, rest⟩
  · exact .inl ⟨e, rfl, n, failed⟩
  · exact .inr ⟨u, v, a, s₁, rfl, ⟨n, first⟩, n, rest⟩

theorem yields_pure (a : α) (s : σ) : (pure a : Act I σ α).Yields s [] (.ok a) s := ⟨0, .done _⟩

theorem Yields.of_pure {a : α} {r : Except Error α}
    (yields : (pure a : Act I σ α).Yields s t r s') : t = [] ∧ r = .ok a ∧ s' = s := by
  obtain ⟨n, yields⟩ := yields
  cases yields
  exact ⟨rfl, rfl, rfl⟩

theorem yields_request_iff {t : List Chip.Event} {call : Chip.Call}
    {value : call.Answer → Except Error α} {r : Except Error α} :
    (Chip.request call value : Act Chip σ α).Yields s t r s' ↔
      ∃ answer, t = [⟨call, answer⟩] ∧ r = value answer ∧ s' = s := by
  constructor
  · rintro ⟨n, yields⟩
    obtain ⟨answer, u, rfl, rest⟩ := Dialogue.yields_ask_iff.mp yields
    generalize came : value answer = outcome at rest
    cases rest
    exact ⟨answer, rfl, came.symm, rfl⟩
  · rintro ⟨answer, rfl, rfl, rfl⟩
    exact ⟨0, .ask answer (.done _)⟩

theorem map_apply (g : α → β) (x : Act I σ α) (n : Nat) (s : σ) :
    (g <$> x) n s = (x n s).bind fun r => .done (r.1.map g, r.2) := by
  rw [map_eq_pure_bind, bind_apply]
  refine congrArg _ (funext fun (r, s') => ?_)
  cases r <;> rfl

theorem yields_map_iff {g : α → β} {r : Except Error β} :
    (g <$> x).Yields s t r s' ↔ ∃ outcome, r = outcome.map g ∧ x.Yields s t outcome s' := by
  constructor
  · rintro ⟨n, yields⟩
    rw [map_apply] at yields
    obtain ⟨u, v, ⟨outcome, s₁⟩, rfl, first, rest⟩ := Dialogue.yields_bind_iff.mp yields
    cases rest
    rw [List.append_nil]
    exact ⟨outcome, rfl, n, first⟩
  · rintro ⟨outcome, rfl, n, yields⟩
    refine ⟨n, ?_⟩
    rw [map_apply, ← List.append_nil t]
    exact yields.bind (.done _)

/-- A loop of such steps comes to all that they come to one after the other. -/
theorem yields_loop {body : β → Act Chip σ (β ⊕ α)}
    {step : β → σ → List Chip.Event → Except Error (β ⊕ α) → σ → Prop}
    (straight : ∀ b, (body b).Straight)
    (gives : ∀ b s t r s', step b s t r s' → (body b).Yields s t r s') {b : β} {s s' : σ}
    {t : List Chip.Event} {r : Except Error α} (loops : Loops step b s t r s') :
    (loop body b).Yields s t r s' := by
  have run : ∃ k, ∀ n, (steps body k b n s).Yields t (r, s') := by
    induction loops with
    | @failed _ _ _ t _ ends | @ended _ _ _ t _ ends =>
        refine ⟨1, fun n => ?_⟩
        rw [steps_succ, ← List.append_nil t]
        exact ((straight _).yields_at n (gives _ _ _ _ _ ends)).bind (.done _)
    | again goes _ ih =>
        obtain ⟨k, rest⟩ := ih
        refine ⟨k + 1, fun n => ?_⟩
        rw [steps_succ]
        exact ((straight _).yields_at n (gives _ _ _ _ _ goes)).bind (rest n)
  obtain ⟨k, yields⟩ := run
  exact ⟨k, yields k⟩

end Outcomes

end Act

namespace Chip

open Act

variable {σ α : Type} {x : Act Chip σ α}

theorem straight_configure (switch : Switch) (on : Bool) :
    (configure switch on : Act Chip σ Unit).Straight :=
  straight_request _ _

theorem straight_exchangeFrame (frame : BitFrame) (wait : Timeout) :
    (exchangeFrame frame wait : Act Chip σ BitFrame).Straight := by
  unfold exchangeFrame
  split
  · exact straight_throw _
  · exact straight_request _ _

theorem straight_exchangeBytes (frame : Bytes) (wait : Timeout) :
    (exchangeBytes frame wait : Act Chip σ Bytes).Straight := by
  unfold exchangeBytes
  split
  · exact straight_throw _
  · split
    · exact straight_throw _
    · exact straight_request _ _

theorem straight_exchangeChecked (crc : Crc) (data : Bytes) (wait : Timeout) :
    (exchangeChecked crc data wait : Act Chip σ Bytes).Straight :=
  (straight_request _ _).bind fun _ => straight_ofExcept _

theorem straight_silentAsNone (straight : x.Straight) : (silentAsNone x).Straight := by
  refine straight.attempt.bind fun outcome => ?_
  cases outcome with
  | ok a => exact straight_pure _
  | error e =>
      dsimp only
      split
      · exact straight_pure none
      · exact straight_throw e

theorem straight_withoutHardwareCrc (straight : x.Straight) :
    (withoutHardwareCrc x).Straight :=
  (straight_configure _ _).bind fun _ => straight.attempt.bind fun _ =>
    (straight_configure _ _).attempt.bind fun _ => straight_ofExcept _

theorem straight_withRawFraming (straight : x.Straight) : (withRawFraming x).Straight := by
  have restoring : (restoreFraming : Act Chip σ Unit).Straight :=
    (straight_configure _ _).bind fun _ => straight_configure _ _
  exact (straight_configure _ _).bind fun _ => (straight_configure _ _).bind fun _ =>
    straight.attempt.bind fun _ => restoring.attempt.bind fun _ => straight_ofExcept _

end Chip

end Contactless
