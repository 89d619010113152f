import Contactless.Proofs.Assures

/-! What actions with open-ended loops come to. Such an action comes to an outcome that goes with
what was said, unless its horizon cuts it; and then at least as many frames have come in as the
horizon allows steps. Whoever stops answering thus always gets an outcome. -/
namespace Contactless

namespace Chip

/-- A frame has come in. -/
def Event.incoming : Chip.Event → Bool
  | ⟨.bits .., .ok _⟩ => true
  | ⟨.bytes .., .ok _⟩ => true
  | ⟨.arm .., .ok _⟩ => true
  | ⟨.receive _, .ok _⟩ => true
  | _ => false

def taken (t : List Chip.Event) : Nat := t.countP Event.incoming

variable {t u : List Chip.Event}

@[simp] theorem taken_append : taken (t ++ u) = taken t + taken u := List.countP_append

theorem taken_le_append_left : taken u ≤ taken (t ++ u) := by
  rw [taken_append]
  omega

theorem taken_pos {event : Chip.Event} (incoming : Event.incoming event = true) :
    0 < taken (event :: t) := by
  rw [taken, List.countP_cons_of_pos incoming]
  omega

end Chip

namespace Dialogue

variable {I : Interface} {α β : Type} {Q R : List I.Event → α → Prop} {C D : List I.Event → Prop}

/-- Whatever a dialogue is answered, it comes to a result that goes with its transcript, or it is
cut after one of certain transcripts. -/
def Accounts (Q : List I.Event → α → Prop) (C : List I.Event → Prop) : Dialogue I α → Prop
  | done a => Q [] a
  | cut => C []
  | ask q next => ∀ r : I.Answer q,
      (next r).Accounts (fun t => Q (⟨q, r⟩ :: t)) fun t => C (⟨q, r⟩ :: t)

theorem Accounts.mono {d : Dialogue I α} (accounts : d.Accounts Q C)
    (le : ∀ t a, Q t a → R t a) (later : ∀ t, C t → D t) : d.Accounts R D := by
  induction d generalizing Q R C D with
  | done a => exact le [] a accounts
  | cut => exact later [] accounts
  | ask q next ih =>
      intro r
      exact ih r (accounts r) (fun t => le (⟨q, r⟩ :: t)) fun t => later (⟨q, r⟩ :: t)

theorem Assures.accounts {d : Dialogue I α} (assures : d.Assures Q) : d.Accounts Q C := by
  induction d generalizing Q C with
  | done a => exact assures
  | cut => exact assures.elim
  | ask q next ih =>
      intro r
      exact ih r (assures r)

theorem Accounts.bind {d : Dialogue I α} {k : α → Dialogue I β} {S : List I.Event → β → Prop}
    (accounts : d.Accounts
      (fun t a => (k a).Accounts (fun u => S (t ++ u)) fun u => C (t ++ u)) C) :
    (d.bind k).Accounts S C := by
  induction d generalizing S C with
  | done a => exact accounts
  | cut => exact accounts
  | ask q next ih =>
      intro r
      exact ih r (accounts r)

theorem Accounts.yields {d : Dialogue I α} {t : List I.Event} {a : α} (accounts : d.Accounts Q C)
    (yields : d.Yields t a) : Q t a := by
  induction yields generalizing Q C with
  | done a => exact accounts
  | ask r _ ih => exact ih (accounts r)

end Dialogue

namespace Act

variable {σ τ α β : Type}

/-- An action comes to what goes with its transcript, if it is not cut for its horizon. -/
def Accounts (x : Act Chip σ α) (s : σ) (post : List Chip.Event → Except Error α → σ → Prop) :
    Prop :=
  ∀ n, (x n s).Accounts (fun t r => post t r.1 r.2) fun t => n ≤ Chip.taken t

variable {s : σ} {x : Act Chip σ α} {f : α → Act Chip σ β}
  {post : List Chip.Event → Except Error α → σ → Prop}
  {last : List Chip.Event → Except Error β → σ → Prop}

theorem Accounts.mono {weaker : List Chip.Event → Except Error α → σ → Prop}
    (accounts : x.Accounts s post) (le : ∀ t r s', post t r s' → weaker t r s') :
    x.Accounts s weaker := by
  intro n
  exact (accounts n).mono (fun t r => le t r.1 r.2) fun _ => id

theorem Assures.accounts (assures : x.Assures s post) : x.Accounts s post := by
  intro n
  exact (assures n).accounts

theorem Accounts.yields {t : List Chip.Event} {r : Except Error α} {s' : σ}
    (accounts : x.Accounts s post) (yields : x.Yields s t r s') : post t r s' := by
  obtain ⟨n, yields⟩ := yields
  exact (accounts n).yields yields

theorem Accounts.bind (first : x.Accounts s post)
    (rest : ∀ t a s', post t (.ok a) s' → (f a).Accounts s' fun u => last (t ++ u))
    (fails : ∀ t e s', post t (.error e) s' → last t (.error e) s') :
    (x >>= f).Accounts s last := by
  intro n
  rw [bind_apply]
  apply Dialogue.Accounts.bind
  refine (first n).mono ?_ fun _ => id
  rintro t ⟨r, s'⟩ holds
  cases r with
  | ok a =>
      refine (rest t a s' holds n).mono (fun _ _ => id) ?_
      intro u enough
      exact Nat.le_trans enough Chip.taken_le_append_left
  | error e =>
      change last (t ++ []) (.error e) s'
      rw [List.append_nil]
      exact fails t e s' holds

theorem accounts_get_bind {f : σ → Act Chip σ β} (rest : (f s).Accounts s last) :
    ((get : Act Chip σ σ) >>= f).Accounts s last :=
  rest

theorem accounts_modify_bind {g : σ → σ} {f : PUnit → Act Chip σ β}
    (rest : (f ⟨⟩).Accounts (g s) last) :
    ((modify g : Act Chip σ PUnit) >>= f).Accounts s last :=
  rest

theorem Accounts.zoom {x : Act Chip τ α} {part : σ → τ} {put : τ → σ → σ}
    (accounts : x.Accounts (part s) fun t r s' => post t r (put s' s)) :
    (zoom part put x).Accounts s post := by
  intro n
  rw [zoom_apply]
  apply Dialogue.Accounts.bind
  refine (accounts n).mono ?_ fun _ => id
  rintro t ⟨r, s'⟩ holds
  change post (t ++ []) r (put s' s)
  rw [List.append_nil]
  exact holds

section Loops

variable {step : β → σ → List Chip.Event → Except Error (β ⊕ α) → σ → Prop}

/-- What the steps of a loop come to one after the other, until one of them ends it. -/
inductive Loops (step : β → σ → List Chip.Event → Except Error (β ⊕ α) → σ → Prop) :
    β → σ → List Chip.Event → Except Error α → σ → Prop
  | failed {b : β} {s s' : σ} {t : List Chip.Event} {e : Error} : step b s t (.error e) s' →
      Loops step b s t (.error e) s'
  | ended {b : β} {s s' : σ} {t : List Chip.Event} {a : α} : step b s t (.ok (.inr a)) s' →
      Loops step b s t (.ok a) s'
  | again {b b' : β} {s s' s'' : σ} {t u : List Chip.Event} {r : Except Error α} :
      step b s t (.ok (.inl b')) s' → Loops step b' s' u r s'' →
      Loops step b s (t ++ u) r s''

/-- Steps of a loop that all go on, so many of them. -/
inductive Continues (step : β → σ → List Chip.Event → Except Error (β ⊕ α) → σ → Prop) :
    Nat → β → σ → List Chip.Event → β → σ → Prop
  | start (b : β) (s : σ) : Continues step 0 b s [] b s
  | again {k : Nat} {b b' b'' : β} {s s' s'' : σ} {t u : List Chip.Event} :
      step b s t (.ok (.inl b')) s' → Continues step k b' s' u b'' s'' →
      Continues step (k + 1) b s (t ++ u) b'' s''

theorem Continues.taken {b b' : β} {s s' : σ} {k : Nat} {t : List Chip.Event}
    (takes : ∀ b s t b' s', step b s t (.ok (.inl b')) s' → 0 < Chip.taken t)
    (continues : Continues step k b s t b' s') : k ≤ Chip.taken t := by
  induction continues with
  | start b s => exact Nat.zero_le _
  | again holds _ ih =>
      have some := takes _ _ _ _ _ holds
      rw [Chip.taken_append]
      omega

/-- Steps are cut when as many as they may be have gone on, or within the one that follows. -/
theorem accounts_steps {body : β → Act Chip σ (β ⊕ α)} {n : Nat} {C : List Chip.Event → Prop}
    (accounts : ∀ b s, (body b n s).Accounts (fun t r => step b s t r.1 r.2) C) (fuel : Nat)
    (b : β) (s : σ) :
    (steps body fuel b n s).Accounts (fun t r => Loops step b s t r.1 r.2) fun t =>
      ∃ k b' s' u v, Continues step k b s u b' s' ∧ t = u ++ v ∧ (k = fuel ∧ v = [] ∨ C v) := by
  induction fuel generalizing b s with
  | zero => exact ⟨0, b, s, [], [], .start b s, rfl, .inl ⟨rfl, rfl⟩⟩
  | succ fuel ih =>
      rw [steps_succ]
      apply Dialogue.Accounts.bind
      refine (accounts b s).mono ?_ fun t cut => ⟨0, b, s, [], t, .start b s, rfl, .inr cut⟩
      rintro t ⟨r, s'⟩ holds
      cases r with
      | error e =>
          change Loops step b s (t ++ []) (.error e) s'
          rw [List.append_nil]
          exact .failed holds
      | ok next =>
          cases next with
          | inr a =>
              change Loops step b s (t ++ []) (.ok a) s'
              rw [List.append_nil]
              exact .ended holds
          | inl b' =>
              refine (ih b' s').mono ?_ ?_
              · intro u r rest
                exact .again holds rest
              · rintro _ ⟨k, b'', s'', u, v, rest, rfl, cut⟩
                refine ⟨k + 1, b'', s'', t ++ u, v, .again holds rest,
                  (List.append_assoc t u v).symm, ?_⟩
                exact cut.imp (fun ended => ⟨congrArg (· + 1) ended.1, ended.2⟩) id

/-- A loop is only cut while it goes on, so each step that goes on has to take in a frame. -/
theorem Accounts.loop {body : β → Act Chip σ (β ⊕ α)}
    (accounts : ∀ b s, (body b).Accounts s (step b s))
    (takes : ∀ b s t b' s', step b s t (.ok (.inl b')) s' → 0 < Chip.taken t) (b : β) (s : σ) :
    (loop body b).Accounts s (Loops step b s) := by
  intro n
  refine (accounts_steps (fun b s => accounts b s n) n b s).mono (fun _ _ => id) ?_
  rintro _ ⟨k, b', s', u, v, continues, rfl, cut⟩
  have gone := continues.taken takes
  rw [Chip.taken_append]
  omega

/-- A loop whose steps are never cut is itself cut only after as many of them as its horizon
allows. -/
theorem Assures.loop {body : β → Act Chip σ (β ⊕ α)}
    (assures : ∀ b s, (body b).Assures s (step b s)) (b : β) (s : σ) (n : Nat) :
    (loop body b n s).Accounts (fun t r => Loops step b s t r.1 r.2)
      fun t => ∃ b' s', Continues step n b s t b' s' := by
  refine (accounts_steps (C := fun _ => False) (fun b s => (assures b s n).accounts) n b s).mono
    (fun _ _ => id) ?_
  rintro _ ⟨_, b', s', u, _, continues, rfl, ⟨rfl, rfl⟩ | ⟨⟨⟩⟩⟩
  rw [List.append_nil]
  exact ⟨b', s', continues⟩

end Loops

end Act

end Contactless
