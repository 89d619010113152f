import Contactless.Proofs.Transcript
import Mathlib.Order.Defs.Unbundled

/-! What actions leave behind whatever they are answered. One rule for each way of building an
action carries a statement about outcomes and states through a program, loops included. -/
namespace Contactless.Act

variable {I : Interface} {σ τ α β : Type}

/-- Whatever an action is answered, its outcome and the state it leaves go together. -/
def Ensures (x : Act I σ α) (s : σ) (post : Except Error α → σ → Prop) : Prop :=
  ∀ t r s', x.Yields s t r s' → post r s'

section Rules

variable {s : σ} {x : Act I σ α} {f : α → Act I σ β} {post : Except Error α → σ → Prop}
  {last : Except Error β → σ → Prop}

theorem Ensures.mono {weaker : Except Error α → σ → Prop} (ensures : x.Ensures s post)
    (le : ∀ r s', post r s' → weaker r s') : x.Ensures s weaker :=
  fun t r s' yields => le r s' (ensures t r s' yields)

theorem ensures_any : x.Ensures s fun _ _ => True := fun _ _ _ _ => trivial

theorem Ensures.gives (ensures : x.Ensures s post) (n : Nat) :
    (x n s).Gives fun r => post r.1 r.2 :=
  fun t r yields => ensures t r.1 r.2 ⟨n, yields⟩

theorem ensures_done {r : Except Error α} {s' : σ} (same : ∀ n, x n s = .done (r, s'))
    (holds : post r s') : x.Ensures s post := by
  rintro t r' s'' ⟨n, yields⟩
  rw [same n] at yields
  cases yields
  exact holds

theorem ensures_pure {a : α} (holds : post (.ok a) s) : (pure a : Act I σ α).Ensures s post :=
  ensures_done (fun _ => rfl) holds

theorem ensures_throw {e : Error} (holds : post (.error e) s) :
    (throw e : Act I σ α).Ensures s post :=
  ensures_done (fun _ => rfl) holds

theorem ensures_ofExcept {r : Except Error α} (holds : post r s) :
    (ofExcept r : Act I σ α).Ensures s post :=
  ensures_done (fun _ => rfl) holds

theorem ensures_modify {g : σ → σ} {post : Except Error PUnit → σ → Prop}
    (holds : post (.ok ⟨⟩) (g s)) : (modify g : Act I σ PUnit).Ensures s post :=
  ensures_done (fun _ => rfl) holds

theorem ensures_request {call : Chip.Call} {value : call.Answer → Except Error α}
    (holds : ∀ r, post r s) : (Chip.request call value : Act Chip σ α).Ensures s post := by
  rintro t r s' ⟨n, yields⟩
  obtain ⟨answer, u, rfl, rest⟩ := Dialogue.yields_ask_iff.mp yields
  cases rest
  exact holds _

theorem Ensures.bind (first : x.Ensures s post)
    (rest : ∀ a s', post (.ok a) s' → (f a).Ensures s' last)
    (fails : ∀ e s', post (.error e) s' → last (.error e) s') : (x >>= f).Ensures s last := by
  rintro t r s' ⟨n, yields⟩
  rcases yields_bind_cases yields with ⟨e, rfl, failed⟩ | ⟨u, v, a, s₁, rfl, went, goes⟩
  · exact fails e s' (first t _ s' ⟨n, failed⟩)
  · exact rest a s₁ (first u _ s₁ ⟨n, went⟩) v r s' ⟨n, goes⟩

/-- What follows a look at the state knows it. -/
theorem ensures_get_bind {f : σ → Act I σ β} (rest : (f s).Ensures s last) :
    ((get : Act I σ σ) >>= f).Ensures s last := by
  rintro t r s' ⟨n, yields⟩
  exact rest t r s' ⟨n, yields⟩

theorem ensures_modify_bind {g : σ → σ} {f : PUnit → Act I σ β}
    (rest : (f ⟨⟩).Ensures (g s) last) : ((modify g : Act I σ PUnit) >>= f).Ensures s last := by
  rintro t r s' ⟨n, yields⟩
  exact rest t r s' ⟨n, yields⟩

theorem Ensures.attempt {last : Except Error (Except Error α) → σ → Prop}
    (ensures : x.Ensures s fun r s' => last (.ok r) s') : (attempt x).Ensures s last := by
  rintro t r s' ⟨n, yields⟩
  rw [attempt_apply, Dialogue.yields_bind_iff] at yields
  obtain ⟨u, v, ⟨outcome, s₁⟩, rfl, went, goes⟩ := yields
  cases goes
  exact ensures u outcome s₁ ⟨n, went⟩

theorem Ensures.zoom {y : Act I τ α} {part : σ → τ} {put : τ → σ → σ}
    (ensures : y.Ensures (part s) fun r u => post r (put u s)) :
    (zoom part put y).Ensures s post := by
  rintro t r s' ⟨n, yields⟩
  rw [zoom_apply, Dialogue.yields_bind_iff] at yields
  obtain ⟨u, v, ⟨outcome, part'⟩, rfl, went, goes⟩ := yields
  cases goes
  exact ensures u outcome part' ⟨n, went⟩

end Rules

/-- Whatever an action is answered and comes to, it goes from each state to a related one. -/
def Follows (R : σ → σ → Prop) (x : Act I σ α) : Prop := ∀ s, x.Ensures s fun _ s' => R s s'

section Related

variable {R : σ → σ → Prop} {x : Act I σ α} {f : α → Act I σ β}

theorem follows_modify {g : σ → σ} (related : ∀ s, R s (g s)) :
    (modify g : Act I σ PUnit).Follows R :=
  fun s => ensures_modify (related s)

theorem Follows.attempt (follows : x.Follows R) : (attempt x).Follows R :=
  fun s => (follows s).attempt

theorem Follows.zoom {Q : τ → τ → Prop} {y : Act I τ α} {part : σ → τ} {put : τ → σ → σ}
    (follows : y.Follows Q) (related : ∀ s u, Q (part s) u → R s (put u s)) :
    (zoom part put y).Follows R :=
  fun s => ((follows (part s)).mono fun _ u => related s u).zoom

variable [IsPreorder σ R]

theorem follows_pure (a : α) : (pure a : Act I σ α).Follows R := fun s => ensures_pure (refl s)

theorem follows_throw (e : Error) : (throw e : Act I σ α).Follows R :=
  fun s => ensures_throw (refl s)

theorem follows_ofExcept (r : Except Error α) : (ofExcept r : Act I σ α).Follows R :=
  fun s => ensures_ofExcept (refl s)

theorem follows_get : (get : Act I σ σ).Follows R := fun s => ensures_done (fun _ => rfl) (refl s)

/-- An action that leaves every state as it is. -/
theorem Follows.of_eq (follows : x.Follows Eq) : x.Follows R :=
  fun s => (follows s).mono fun _ _ same => same ▸ refl s

theorem follows_request {call : Chip.Call} {value : call.Answer → Except Error α} :
    (Chip.request call value : Act Chip σ α).Follows R :=
  fun s => ensures_request fun _ => refl s

theorem Follows.bind (first : x.Follows R) (rest : ∀ a, (f a).Follows R) :
    (x >>= f).Follows R :=
  fun s => (first s).bind
    (fun a s' related => (rest a s').mono fun _ _ later => trans_of R related later)
    fun _ _ related => related

theorem Follows.forM {f : β → Act I σ PUnit} (each : ∀ b, (f b).Follows R) (l : List β) :
    (l.forM f).Follows R := by
  induction l with
  | nil => exact follows_pure PUnit.unit
  | cons b l ih => exact (each b).bind fun _ => ih

theorem Follows.loop {body : β → Act I σ (β ⊕ α)} (each : ∀ b, (body b).Follows R) (b : β) :
    (loop body b).Follows R := by
  have turns (fuel : Nat) (b : β) : (steps body fuel b).Follows R := by
    induction fuel generalizing b with
    | zero =>
        rintro s t r s' ⟨n, yields⟩
        exact absurd yields Dialogue.not_yields_cut
    | succ fuel ih =>
        refine (each b).bind fun next => ?_
        cases next with
        | inl b => exact ih b
        | inr a => exact follows_pure a
  rintro s t r s' ⟨n, yields⟩
  exact turns n b s t r s' ⟨n, yields⟩

end Related

end Contactless.Act
