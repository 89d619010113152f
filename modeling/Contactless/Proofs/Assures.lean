import Contactless.Proofs.Reach

/-! What actions come to, with what was said on the way. An action that assures something comes to
an outcome whatever it is answered; one that may be cut assures nothing. -/
namespace Contactless

namespace Dialogue

variable {I : Interface} {α β : Type}

/-- Whatever a dialogue is answered, it comes to a result that goes with its transcript. -/
def Assures (Q : List I.Event → α → Prop) : Dialogue I α → Prop
  | done a => Q [] a
  | cut => False
  | ask q next => ∀ r : I.Answer q, (next r).Assures fun t => Q (⟨q, r⟩ :: t)

theorem Assures.mono {Q R : List I.Event → α → Prop} {d : Dialogue I α} (assures : d.Assures Q)
    (le : ∀ t a, Q t a → R t a) : d.Assures R := by
  induction d generalizing Q R with
  | done a => exact le [] a assures
  | cut => exact assures
  | ask q next ih => exact fun r => ih r (assures r) fun t => le (⟨q, r⟩ :: t)

theorem Assures.bind {Q : List I.Event → β → Prop} {d : Dialogue I α} {k : α → Dialogue I β}
    (assures : d.Assures fun t a => (k a).Assures fun u => Q (t ++ u)) :
    (d.bind k).Assures Q := by
  induction d generalizing Q with
  | done a => exact assures
  | cut => exact assures
  | ask q next ih => exact fun r => ih r (assures r)

theorem Assures.of_yields {Q : List I.Event → α → Prop} {d : Dialogue I α} {t : List I.Event}
    {a : α} (assures : d.Assures Q) (yields : d.Yields t a) : Q t a := by
  induction yields generalizing Q with
  | done a => exact assures
  | ask r _ ih => exact ih (assures r)

/-- Nobody can keep a dialogue from what it assures. -/
theorem Assures.held {τ : Type} {Q : List I.Event → α → Prop} {d : Dialogue I α}
    (assures : d.Assures Q) (h : Handler I τ) (p : τ) :
    ∃ t a p', Held h d p t a p' ∧ Q t a := by
  induction d generalizing Q p with
  | done a => exact ⟨[], a, p, .done a p, assures⟩
  | cut => exact assures.elim
  | ask q next ih =>
      obtain ⟨t, a, p', held, holds⟩ := ih (h q p).1 (assures (h q p).1) (h q p).2
      exact ⟨_, a, p', .ask rfl held, holds⟩

end Dialogue

namespace Act

variable {I : Interface} {σ τ α β : Type}

def Assures (x : Act I σ α) (s : σ) (post : List I.Event → Except Error α → σ → Prop) : Prop :=
  ∀ n, (x n s).Assures fun t r => post t r.1 r.2

variable {s : σ} {x : Act I σ α} {f : α → Act I σ β}
  {post : List I.Event → Except Error α → σ → Prop}
  {last : List I.Event → Except Error β → σ → Prop}

theorem Assures.mono {weaker : List I.Event → Except Error α → σ → Prop}
    (assures : x.Assures s post) (le : ∀ t r s', post t r s' → weaker t r s') :
    x.Assures s weaker :=
  fun n => (assures n).mono fun t r => le t r.1 r.2

theorem Assures.of_yields {t : List I.Event} {r : Except Error α} {s' : σ}
    (assures : x.Assures s post) (yields : x.Yields s t r s') : post t r s' := by
  obtain ⟨n, yields⟩ := yields
  exact Dialogue.Assures.of_yields (assures n) yields

theorem assures_ofExcept {r : Except Error α} (holds : post [] r s) :
    (ofExcept r : Act I σ α).Assures s post :=
  fun _ => holds

theorem assures_pure {a : α} (holds : post [] (.ok a) s) : (pure a : Act I σ α).Assures s post :=
  fun _ => holds

theorem assures_throw {e : Error} (holds : post [] (.error e) s) :
    (throw e : Act I σ α).Assures s post :=
  fun _ => holds

theorem assures_modifyGet {g : σ → α × σ} (holds : post [] (.ok (g s).1) (g s).2) :
    (modifyGet g : Act I σ α).Assures s post :=
  fun _ => holds

theorem assures_request {post : List Chip.Event → Except Error α → σ → Prop} {call : Chip.Call}
    {value : call.Answer → Except Error α} (holds : ∀ r, post [⟨call, r⟩] (value r) s) :
    (Chip.request call value : Act Chip σ α).Assures s post :=
  fun _ => holds

theorem Assures.bind (first : x.Assures s post)
    (rest : ∀ t a s', post t (.ok a) s' → (f a).Assures s' fun u => last (t ++ u))
    (fails : ∀ t e s', post t (.error e) s' → last t (.error e) s') :
    (x >>= f).Assures s last := by
  intro n
  rw [bind_apply]
  refine Dialogue.Assures.bind ((first n).mono fun t (r, s') holds => ?_)
  cases r with
  | ok a => exact rest t a s' holds n
  | error e =>
      change last (t ++ []) (.error e) s'
      rw [List.append_nil]
      exact fails t e s' holds

/-- What follows a value that there may be no good one of. -/
theorem assures_ofExcept_bind {r : Except Error α}
    (rest : ∀ a, r = .ok a → (f a).Assures s last)
    (fails : ∀ e, r = .error e → last [] (.error e) s) : (ofExcept r >>= f).Assures s last := by
  cases r with
  | ok a => exact rest a rfl
  | error e => exact assures_ofExcept (fails e rfl)

theorem assures_get_bind {f : σ → Act I σ β} (rest : (f s).Assures s last) :
    ((get : Act I σ σ) >>= f).Assures s last :=
  rest

theorem assures_modify_bind {g : σ → σ} {f : PUnit → Act I σ β}
    (rest : (f ⟨⟩).Assures (g s) last) : ((modify g : Act I σ PUnit) >>= f).Assures s last :=
  rest

/-- What follows an attempt sees its outcome as a value. -/
theorem Assures.attempt_bind {f : Except Error α → Act I σ β} (first : x.Assures s post)
    (rest : ∀ t r s', post t r s' → (f r).Assures s' fun u => last (t ++ u)) :
    (attempt x >>= f).Assures s last := by
  intro n
  rw [Act.attempt_bind]
  exact Dialogue.Assures.bind ((first n).mono fun t (r, s') holds => rest t r s' holds n)

theorem Assures.zoom {x : Act I τ α} {part : σ → τ} {put : τ → σ → σ}
    (assures : x.Assures (part s) fun t r s' => post t r (put s' s)) :
    (zoom part put x).Assures s post := by
  intro n
  rw [zoom_apply]
  refine Dialogue.Assures.bind ((assures n).mono fun t (r, s') holds => ?_)
  change post (t ++ []) r (put s' s)
  rw [List.append_nil]
  exact holds

end Act

namespace Chip

open Dialogue (Held)

variable {σ τ α β : Type} {h : Handler Chip τ}

/-- Switches as it is told, whatever it has seen. -/
def Obliging (h : Handler Chip τ) : Prop := ∀ switch on p, (h (.configure switch on) p).1 = .ok ()

/-- What is said between the switches of a section with raw framing. -/
def rawly (t : List Chip.Event) : List Chip.Event :=
  ⟨.configure .handleCrc false, .ok ()⟩ :: ⟨.configure .easyFraming false, .ok ()⟩ ::
    (t ++ [⟨.configure .handleCrc true, .ok ()⟩, ⟨.configure .easyFraming true, .ok ()⟩])

theorem Obliging.held (obliging : Obliging h) {switch : Switch} {on : Bool} {p p' : τ}
    {next : Except Error Unit → Dialogue Chip β} {t : List Chip.Event} {b : β}
    (rest : Held h (next (.ok ())) (h (.configure switch on) p).2 t b p') :
    Held h (.ask (.configure switch on) next) p (⟨.configure switch on, .ok ()⟩ :: t) b p' :=
  .ask (Prod.ext (obliging switch on p) rfl) rest

/-- A section with raw framing comes to what its body comes to. -/
theorem held_withRawFraming (obliging : Obliging h) {x : Act Chip σ α} {s : σ}
    {post : List Chip.Event → Except Error α → σ → Prop} (assures : x.Assures s post) (n : Nat)
    (p : τ) :
    ∃ t r s' p', Held h (withRawFraming x n s) p (rawly t) (r, s') p' ∧ post t r s' := by
  obtain ⟨t, ⟨r, s'⟩, p', held, holds⟩ := (assures n).held h
    (h (.configure .easyFraming false) (h (.configure .handleCrc false) p).2).2
  let restored : τ := (h (.configure .easyFraming true) (h (.configure .handleCrc true) p').2).2
  refine ⟨t, r, s', restored, obliging.held (obliging.held ?_), holds⟩
  change Held h ((Act.attempt x >>= fun outcome => Act.attempt restoreFraming >>= fun restored =>
    Act.ofExcept (firstFailure outcome restored)) n s) _ _ _ _
  rw [Act.attempt_bind]
  refine held.bind (obliging.held (obliging.held ?_))
  cases r with
  | ok a => exact .done _ _
  | error e => exact .done _ _

/-- What a section with raw framing says and comes to, given the same of its body. A refused switch
ends it, or fails it where the body did not. -/
inductive Bracketed (body : List Chip.Event → Except Error α → Prop) :
    List Chip.Event → Except Error α → Prop
  | refused (e : Error) : Bracketed body [⟨.configure .handleCrc false, .error e⟩] (.error e)
  | half (e : Error) :
      Bracketed body
        [⟨.configure .handleCrc false, .ok ()⟩, ⟨.configure .easyFraming false, .error e⟩]
        (.error e)
  | stuck {t : List Chip.Event} {outcome : Except Error α} (e : Error) : body t outcome →
      Bracketed body (⟨.configure .handleCrc false, .ok ()⟩ ::
        ⟨.configure .easyFraming false, .ok ()⟩ :: (t ++ [⟨.configure .handleCrc true, .error e⟩]))
        (firstFailure outcome (.error e))
  | through {t : List Chip.Event} {outcome : Except Error α} (r : Except Error Unit) :
      body t outcome →
      Bracketed body (⟨.configure .handleCrc false, .ok ()⟩ ::
        ⟨.configure .easyFraming false, .ok ()⟩ ::
          (t ++ [⟨.configure .handleCrc true, .ok ()⟩, ⟨.configure .easyFraming true, r⟩]))
        (firstFailure outcome r)

namespace Bracketed

variable {body : List Chip.Event → Except Error α → Prop} {t said : List Chip.Event}
  {r : Except Error α}

/-- A section that succeeds has said all that its body and the switches say. -/
theorem of_ok {a : α} (bracketed : Bracketed body t (.ok a)) :
    ∃ u, t = rawly u ∧ body u (.ok a) := by
  generalize came : Except.ok a = r at bracketed
  cases bracketed with
  | refused e => cases came
  | half e => cases came
  | @stuck u outcome e held => cases outcome <;> cases came
  | @through u outcome r held =>
      cases outcome with
      | error e => cases came
      | ok a' =>
          cases r with
          | error e => cases came
          | ok done =>
              cases came
              exact ⟨u, rfl, held⟩

end Bracketed

/-- What switching comes to is the answer to it. -/
theorem assures_configure (switch : Switch) (on : Bool) (s : σ) :
    (configure switch on : Act Chip σ Unit).Assures s fun t r s' =>
      t = [⟨.configure switch on, r⟩] ∧ s' = s :=
  Act.assures_request fun _ => ⟨rfl, rfl⟩

theorem assures_restoreFraming (s : σ) :
    (restoreFraming : Act Chip σ Unit).Assures s fun t r s' =>
      ((∃ e, t = [⟨.configure .handleCrc true, .error e⟩] ∧ r = .error e) ∨
        t = [⟨.configure .handleCrc true, .ok ()⟩, ⟨.configure .easyFraming true, r⟩]) ∧
          s' = s := by
  refine (assures_configure .handleCrc true s).bind ?_ ?_
  · rintro _ ⟨⟩ _ ⟨rfl, rfl⟩
    refine (assures_configure .easyFraming true _).mono ?_
    rintro _ r _ ⟨rfl, rfl⟩
    exact ⟨.inr rfl, rfl⟩
  · rintro _ e _ ⟨rfl, rfl⟩
    exact ⟨.inl ⟨e, rfl, rfl⟩, rfl⟩

/-- A section with raw framing says what its body says, between the switches, and keeps what its
body keeps. -/
theorem assures_withRawFraming_kept {x : Act Chip σ α} {s : σ}
    {body : List Chip.Event → Except Error α → Prop} {kept : σ → Prop}
    (assures : x.Assures s fun t r s' => body t r ∧ kept s') (before : kept s) :
    (withRawFraming x).Assures s fun t r s' => Bracketed body t r ∧ kept s' := by
  refine (assures_configure .handleCrc false s).bind ?_ ?_
  · rintro _ ⟨⟩ _ ⟨rfl, rfl⟩
    refine (assures_configure .easyFraming false _).bind ?_ ?_
    · rintro _ ⟨⟩ _ ⟨rfl, rfl⟩
      refine assures.attempt_bind ?_
      rintro t outcome s' ⟨said, after⟩
      refine (assures_restoreFraming s').attempt_bind ?_
      rintro _ _ _ ⟨⟨e, rfl, rfl⟩ | rfl, rfl⟩
      · exact Act.assures_ofExcept ⟨.stuck e said, after⟩
      · exact Act.assures_ofExcept ⟨.through _ said, after⟩
    · rintro _ e _ ⟨rfl, rfl⟩
      exact ⟨.half e, before⟩
  · rintro _ e _ ⟨rfl, rfl⟩
    exact ⟨.refused e, before⟩

theorem assures_withRawFraming {x : Act Chip σ α} {s : σ}
    {body : List Chip.Event → Except Error α → Prop}
    (assures : x.Assures s fun t r _ => body t r) :
    (withRawFraming x).Assures s fun t r _ => Bracketed body t r := by
  have kept : (withRawFraming x).Assures s fun t r _ => Bracketed body t r ∧ True :=
    assures_withRawFraming_kept (assures.mono fun _ _ _ said => ⟨said, trivial⟩) trivial
  exact kept.mono fun _ _ _ => And.left

end Chip

end Contactless
