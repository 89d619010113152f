import Contactless.Proofs.Transcript

/-! Why actions fail: because the chip did, which is passed on, or for a reason of their own. One
rule for each way of building an action. -/
namespace Contactless

namespace Act

variable {σ τ α β : Type} {own : Error → Prop}

/-- An action that fails only with failures of its own and with those of the chip. -/
def Faults (own : Error → Prop) (x : Act Chip σ α) : Prop :=
  ∀ n s t e s', (x n s).Yields t (.error e, s') → own e ∨ Chip.Fails t e

theorem faults_ofExcept {r : Except Error α} (owned : ∀ e, r = .error e → own e) :
    Faults own (ofExcept r : Act Chip σ α) := by
  intro n s t e s' h
  cases h
  exact .inl (owned e rfl)

theorem faults_pure (a : α) : Faults own (pure a : Act Chip σ α) :=
  faults_ofExcept fun _ same => nomatch same

theorem faults_throw {e : Error} (owned : own e) : Faults own (throw e : Act Chip σ α) :=
  faults_ofExcept fun _ same => by
    cases same
    exact owned

theorem faults_get : Faults own (get : Act Chip σ σ) := by
  intro n s t e s' h
  cases h

theorem faults_modify (f : σ → σ) : Faults own (modify f : Act Chip σ PUnit) := by
  intro n s t e s' h
  cases h

theorem faults_modifyGet (f : σ → α × σ) : Faults own (modifyGet f : Act Chip σ α) := by
  intro n s t e s' h
  cases h

theorem faults_request {call : Chip.Call} {value : call.Answer → Except Error α}
    (blamed : ∀ a e, value a = .error e → own e ∨ Chip.Event.failure ⟨call, a⟩ = some e) :
    Faults own (Chip.request call value : Act Chip σ α) := by
  intro n s t e s' h
  obtain ⟨a, u, rfl, rest⟩ := Dialogue.yields_ask_iff.mp h
  generalize failed : value a = r at rest
  cases rest
  rcases blamed a e failed with owned | failure
  · exact .inl owned
  · exact .inr (Chip.fails_head failure)

/-- What follows an action knows which values it comes to. -/
theorem Faults.bind_of {x : Act Chip σ α} {f : α → Act Chip σ β} {right : α → Prop}
    (first : Faults own x) (gives : ∀ s t a s', x.Yields s t (.ok a) s' → right a)
    (rest : ∀ a, right a → Faults own (f a)) : Faults own (x >>= f) := by
  intro n s t e s' h
  rcases yields_bind_cases h with ⟨e', same, failed⟩ | ⟨u, v, a, s₁, rfl, came, later⟩
  · cases same
    exact first n s t e s' failed
  · rcases rest a (gives s u a s₁ ⟨n, came⟩) n s₁ v e s' later with owned | fails
    · exact .inl owned
    · exact .inr (fails.mono fun _ => List.mem_append_right u)

theorem Faults.bind {x : Act Chip σ α} {f : α → Act Chip σ β} (first : Faults own x)
    (rest : ∀ a, Faults own (f a)) : Faults own (x >>= f) :=
  first.bind_of (fun _ _ _ _ _ => trivial) fun a _ => rest a

theorem faults_ofExcept_bind {r : Except Error α} {f : α → Act Chip σ β}
    (owned : ∀ e, r = .error e → own e) (rest : ∀ a, r = .ok a → Faults own (f a)) :
    Faults own (ofExcept r >>= f) := by
  cases r with
  | ok a => exact rest a rfl
  | error e => exact faults_throw (owned e rfl)

theorem faults_forM {f : β → Act Chip σ PUnit} (each : ∀ b, Faults own (f b)) (bs : List β) :
    Faults own (bs.forM f) := by
  induction bs with
  | nil => exact faults_pure _
  | cons b bs ih => exact (each b).bind fun _ => ih

/-- What follows an attempt may pass its failure on. -/
theorem Faults.attempt_bind {x : Act Chip σ α} {f : Except Error α → Act Chip σ β}
    (first : Faults own x) (rest : ∀ r, Faults (fun e => own e ∨ r = .error e) (f r)) :
    Faults own (attempt x >>= f) := by
  intro n s t e s' h
  rw [Act.attempt_bind, Dialogue.yields_bind_iff] at h
  obtain ⟨u, v, ⟨r, s₁⟩, rfl, attempted, later⟩ := h
  have mine : ∀ event ∈ u, event ∈ u ++ v := fun _ => List.mem_append_left v
  rcases rest r n s₁ v e s' later with (owned | same) | fails
  · exact .inl owned
  · subst same
    rcases first n s u e s₁ attempted with owned | fails
    · exact .inl owned
    · exact .inr (fails.mono mine)
  · exact .inr (fails.mono fun _ => List.mem_append_right u)

theorem Faults.mono {own' : Error → Prop} {x : Act Chip σ α} (faults : Faults own x)
    (more : ∀ e, own e → own' e) : Faults own' x := by
  intro n s t e s' h
  exact (faults n s t e s' h).imp_left (more e)

theorem Faults.within {x : Act Chip τ α} (faults : Faults own x) (s₀ : τ) :
    Faults own (within s₀ x : Act Chip σ α) := by
  intro n s t e s' h
  obtain ⟨u, v, ⟨r, s₁⟩, rfl, first, last⟩ := Dialogue.yields_bind_iff.mp h
  cases last
  rw [List.append_nil]
  exact faults n s₀ u e s₁ first

theorem Faults.loop {body : β → Act Chip σ (β ⊕ α)} (faults : ∀ b, Faults own (body b)) (b : β) :
    Faults own (loop body b) := by
  have turns : ∀ fuel b, Faults own (steps body fuel b) := by
    intro fuel
    induction fuel with
    | zero => exact fun b n s t e s' h => absurd h Dialogue.not_yields_cut
    | succ fuel ih =>
        intro b
        refine (faults b).bind fun next => ?_
        cases next with
        | inl b => exact ih b
        | inr a => exact faults_pure a
  exact fun n s t e s' h => turns n b n s t e s' h

end Act

namespace Chip

variable {σ α : Type} {own : Error → Prop}

theorem faults_bits (frame : BitFrame) (wait : Timeout) :
    Act.Faults own (bits frame wait : Act Chip σ BitFrame) :=
  Act.faults_request fun a e same => by
    obtain rfl : a = .error e := same
    exact .inr rfl

theorem faults_bytes (frame : Bytes) (wait : Timeout) :
    Act.Faults own (bytes frame wait : Act Chip σ Bytes) :=
  Act.faults_request fun a e same => by
    obtain rfl : a = .error e := same
    exact .inr rfl

theorem faults_configure (switch : Switch) (on : Bool) :
    Act.Faults own (configure switch on : Act Chip σ Unit) :=
  Act.faults_request fun a e same => by
    obtain rfl : a = .error e := same
    exact .inr rfl

theorem faults_silentAsNone {x : Act Chip σ α} (faults : Act.Faults own x) :
    Act.Faults own (silentAsNone x) := by
  refine faults.attempt_bind fun outcome => ?_
  cases outcome with
  | ok a => exact Act.faults_pure _
  | error e =>
      dsimp only
      split
      · exact Act.faults_pure _
      · exact Act.faults_throw (.inr rfl)

/-- Raw framing adds no failure of its own to those of an action. -/
theorem faults_withRawFraming {x : Act Chip σ α} (faults : Act.Faults own x) :
    Act.Faults own (withRawFraming x) := by
  refine (faults_configure _ _).bind fun _ => (faults_configure _ _).bind fun _ =>
    faults.attempt_bind fun outcome => Act.Faults.attempt_bind ?_ fun restored => ?_
  · exact (faults_configure _ _).bind fun _ => faults_configure _ _
  · refine Act.faults_ofExcept fun e same => ?_
    cases outcome with
    | error e' => exact .inl (.inr same)
    | ok a =>
        cases restored with
        | error e' =>
            cases same
            exact .inr rfl
        | ok done => cases same

end Chip

end Contactless
