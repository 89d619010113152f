import Contactless.Proofs.Act

/-! What programs ask at all, whatever they are answered. One rule for each way of building a
program says that it asks no more than its parts. -/
namespace Contactless

namespace Dialogue

variable {I J : Interface} {α β : Type} {allowed : I.Query → Prop}

/-- Whatever a dialogue is answered, it asks only such questions. -/
def Asks (allowed : I.Query → Prop) : Dialogue I α → Prop
  | done _ => True
  | cut => True
  | ask q next => allowed q ∧ ∀ r : I.Answer q, (next r).Asks allowed

theorem Asks.bind {d : Dialogue I α} {k : α → Dialogue I β} (first : d.Asks allowed)
    (rest : ∀ a, (k a).Asks allowed) : (d.bind k).Asks allowed := by
  induction d with
  | done a => exact rest a
  | cut => trivial
  | ask q next ih => exact ⟨first.1, fun r => ih r (first.2 r)⟩

theorem Asks.left {d : Dialogue I α} (asks : d.Asks allowed) (others : J.Query → Prop) :
    (d.left : Dialogue (I.sum J) α).Asks (Sum.elim allowed others) := by
  induction d with
  | done a => trivial
  | cut => trivial
  | ask q next ih => exact ⟨asks.1, fun (r : I.Answer q) => ih r (asks.2 r)⟩

theorem Asks.right {d : Dialogue J α} {allowed : J.Query → Prop} (asks : d.Asks allowed)
    (others : I.Query → Prop) :
    (d.right : Dialogue (I.sum J) α).Asks (Sum.elim others allowed) := by
  induction d with
  | done a => trivial
  | cut => trivial
  | ask q next ih => exact ⟨asks.1, fun (r : J.Answer q) => ih r (asks.2 r)⟩

end Dialogue

namespace Act

variable {I J : Interface} {σ τ α β : Type} {allowed : I.Query → Prop} {x : Act I σ α}

def Asks (allowed : I.Query → Prop) (x : Act I σ α) : Prop := ∀ n s, (x n s).Asks allowed

theorem asks_ofExcept (r : Except Error α) : (ofExcept r : Act I σ α).Asks allowed :=
  fun _ _ => trivial

theorem asks_pure (a : α) : (pure a : Act I σ α).Asks allowed := asks_ofExcept (.ok a)

theorem asks_throw (e : Error) : (throw e : Act I σ α).Asks allowed := asks_ofExcept (.error e)

theorem asks_get : (get : Act I σ σ).Asks allowed := fun _ _ => trivial

theorem asks_modify (f : σ → σ) : (modify f : Act I σ PUnit).Asks allowed := fun _ _ => trivial

theorem asks_request {allowed : Chip.Call → Prop} {call : Chip.Call}
    {value : call.Answer → Except Error α} (asked : allowed call) :
    (Chip.request call value : Act Chip σ α).Asks allowed :=
  fun _ _ => ⟨asked, fun _ => trivial⟩

theorem Asks.bind {f : α → Act I σ β} (first : x.Asks allowed) (rest : ∀ a, (f a).Asks allowed) :
    (x >>= f).Asks allowed := by
  intro n s
  rw [bind_apply]
  refine (first n s).bind fun (r, s) => ?_
  cases r with
  | error e => trivial
  | ok a => exact rest a n s

theorem Asks.attempt (asks : x.Asks allowed) : x.attempt.Asks allowed := by
  intro n s
  rw [attempt_apply]
  exact (asks n s).bind fun _ => trivial

theorem Asks.zoom {x : Act I τ α} (asks : x.Asks allowed) (part : σ → τ) (put : τ → σ → σ) :
    (zoom part put x).Asks allowed := by
  intro n s
  rw [zoom_apply]
  exact (asks n (part s)).bind fun _ => trivial

theorem Asks.left (asks : x.Asks allowed) (others : J.Query → Prop) :
    (x.left : Act (I.sum J) σ α).Asks (Sum.elim allowed others) :=
  fun n s => (asks n s).left others

theorem Asks.right {allowed : J.Query → Prop} {x : Act J σ α} (asks : x.Asks allowed)
    (others : I.Query → Prop) : (x.right : Act (I.sum J) σ α).Asks (Sum.elim others allowed) :=
  fun n s => (asks n s).right others

/-- However often a loop goes on, it asks no more than its steps. -/
theorem Asks.loop {body : β → Act I σ (β ⊕ α)} (each : ∀ b, (body b).Asks allowed) (b : β) :
    (loop body b).Asks allowed := by
  have turns (fuel : Nat) (b : β) : (steps body fuel b).Asks allowed := by
    induction fuel generalizing b with
    | zero => exact fun _ _ => trivial
    | succ fuel ih =>
        refine (each b).bind fun next => ?_
        cases next with
        | inl b => exact ih b
        | inr a => exact asks_pure a
  exact fun n s => turns n b n s

end Act

end Contactless
