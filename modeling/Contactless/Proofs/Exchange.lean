import Contactless.Device
import Contactless.Proofs.Assures
import Contactless.Proofs.Run

/-! Single exchanges of a reader: what is said, and what is made of the answer. -/
namespace Contactless

open Act

namespace Act

variable {σ α β : Type} {s : σ}

theorem ofExcept_bind {I : Interface} (r : Except Error α) (f : α → Except Error β) :
    (ofExcept r >>= fun a => ofExcept (f a) : Act I σ β) = ofExcept (r >>= f) := by
  cases r <;> rfl

/-- A question whose answer is read. -/
theorem Assures.read {x : Act Chip σ α} {event : Except Error α → Chip.Event}
    (asked : x.Assures s fun t r s' => t = [event r] ∧ s' = s) (f : α → Except Error β) :
    (x >>= fun a => ofExcept (f a)).Assures s fun t r s' =>
      ∃ answer, t = [event answer] ∧ r = (answer >>= f) ∧ s' = s := by
  refine asked.bind ?_ ?_
  · rintro _ a _ ⟨rfl, rfl⟩
    exact assures_ofExcept ⟨.ok a, rfl, rfl, rfl⟩
  · rintro _ e _ ⟨rfl, rfl⟩
    exact ⟨.error e, rfl, rfl, rfl⟩

end Act

namespace Chip

variable {σ α : Type} {s : σ} {frame : Bytes} {wait : Timeout}

/-- A frame that the chip can hold goes out. -/
theorem assures_exchangeBytes (some : frame ≠ []) (short : frame.length ≤ frameLimit) :
    (exchangeBytes frame wait : Act Chip σ Bytes).Assures s fun t r s' =>
      t = [⟨.bytes frame wait, r⟩] ∧ s' = s := by
  unfold exchangeBytes
  rw [if_neg (fun none => some (List.isEmpty_iff.mp none)), if_neg (Nat.not_lt.mpr short)]
  exact assures_request fun r => ⟨rfl, rfl⟩

theorem assures_sleep : (sleep wait : Act Chip σ Unit).Assures s fun t r s' =>
    ∃ cut, t = [⟨.sleep wait, cut⟩] ∧ (r = .ok () ↔ cut = false) ∧ s' = s := by
  refine assures_request fun (cut : Bool) => ?_
  cases cut with
  | false => exact ⟨false, rfl, ⟨fun _ => rfl, fun _ => rfl⟩, rfl⟩
  | true => exact ⟨true, rfl, ⟨nofun, nofun⟩, rfl⟩

theorem assures_exchangeChecked (crc : Crc) (data : Bytes) :
    (exchangeChecked crc data wait : Act Chip σ Bytes).Assures s fun t r s' =>
      ∃ answer, t = [⟨.bytes (crc.append data) wait, answer⟩] ∧ r = (answer >>= crc.strip) ∧
        s' = s :=
  Assures.read (assures_request fun _ => ⟨rfl, rfl⟩) _

/-- Silence is told from other failures. -/
theorem assures_silentAsNone {x : Act Chip σ α}
    {post : List Chip.Event → Except Error α → σ → Prop}
    {last : List Chip.Event → Except Error (Option α) → σ → Prop} (assures : x.Assures s post)
    (answered : ∀ t a s', post t (.ok a) s' → last t (.ok (some a)) s')
    (silent : ∀ t e s', post t (.error e) s' → e.isTimeout = true → last t (.ok none) s')
    (loud : ∀ t e s', post t (.error e) s' → e.isTimeout = false → last t (.error e) s') :
    (silentAsNone x).Assures s last := by
  refine assures.attempt_bind ?_
  intro t r s' holds
  have ends (u : List Chip.Event) : u = u ++ [] := (List.append_nil u).symm
  cases r with
  | ok a => exact assures_pure (ends t ▸ answered t a s' holds)
  | error e =>
      dsimp only
      split
      · rename_i timeout
        exact assures_pure (ends t ▸ silent t e s' holds timeout)
      · rename_i other
        exact assures_throw (ends t ▸ loud t e s' holds (Bool.eq_false_iff.mpr other))

/-- What is said in a section whose checks are left to it, when the chip lets it be. -/
def uncheckedly (t : List Chip.Event) : List Chip.Event :=
  ⟨.configure .handleCrc false, .ok ()⟩ :: (t ++ [⟨.configure .handleCrc true, .ok ()⟩])

/-- What a section whose checks are left to it says and comes to, given the same of its body. -/
inductive Unchecked (body : List Chip.Event → Except Error α → Prop) :
    List Chip.Event → Except Error α → Prop
  | refused (e : Error) : Unchecked body [⟨.configure .handleCrc false, .error e⟩] (.error e)
  | through {t : List Chip.Event} {outcome : Except Error α} (restored : Except Error Unit) :
      body t outcome → Unchecked body
        (⟨.configure .handleCrc false, .ok ()⟩ :: (t ++ [⟨.configure .handleCrc true, restored⟩]))
        (firstFailure outcome restored)

namespace Unchecked

variable {body : List Chip.Event → Except Error α → Prop} {t : List Chip.Event}
  {r : Except Error α}

theorem of_ok {a : α} (unchecked : Unchecked body t (.ok a)) :
    ∃ u, t = uncheckedly u ∧ body u (.ok a) := by
  generalize came : Except.ok a = r at unchecked
  cases unchecked with
  | refused e => cases came
  | @through u outcome restored held =>
      cases outcome with
      | error e => cases came
      | ok a' =>
          cases restored with
          | error e => cases came
          | ok done =>
              cases came
              exact ⟨u, rfl, held⟩

theorem of_uncheckedly (unchecked : Unchecked body (uncheckedly t) r) : body t r := by
  generalize whole : uncheckedly t = said at unchecked
  cases unchecked with
  | refused e => cases whole
  | @through u outcome restored held =>
      obtain ⟨rfl, ends⟩ := List.append_inj' (List.cons.inj whole).2 rfl
      cases ends
      cases outcome with
      | ok a => exact held
      | error e => exact held

end Unchecked

theorem assures_withoutHardwareCrc {x : Act Chip σ α}
    {body : List Chip.Event → Except Error α → Prop}
    (assures : x.Assures s fun t r s' => body t r ∧ s' = s) :
    (withoutHardwareCrc x).Assures s fun t r s' => Unchecked body t r ∧ s' = s := by
  refine (assures_configure .handleCrc false s).bind ?_ ?_
  · rintro _ ⟨⟩ _ ⟨rfl, rfl⟩
    refine assures.attempt_bind ?_
    rintro t outcome _ ⟨said, rfl⟩
    refine (assures_configure .handleCrc true _).attempt_bind ?_
    rintro _ restored _ ⟨rfl, rfl⟩
    exact assures_ofExcept ⟨.through restored said, rfl⟩
  · rintro _ e _ ⟨rfl, rfl⟩
    exact ⟨.refused e, rfl⟩

section Held

variable {τ : Type} {h : Handler Chip τ} {x : Act Chip σ α} {n : Nat} {s' : σ} {p p' : τ}

/-- A section whose checks are left to it ends as its body does, on a chip that lets it be. -/
theorem ends_withoutHardwareCrc (obliging : Obliging h) {r : Except Error α}
    (ends : Ends h x n s (h (.configure .handleCrc false) p).2 r s' p') :
    Ends h (withoutHardwareCrc x) n s p r s' (h (.configure .handleCrc true) p').2 := by
  have switched (on : Bool) (s : σ) (p : τ) : Ends h (configure .handleCrc on) n s p (.ok ()) s
      (h (.configure .handleCrc on) p).2 :=
    ends_request _ (Prod.ext (obliging _ _ _) rfl)
  refine (switched false s p).bind (ends.attempt.bind ((switched true s' p').attempt.bind ?_))
  cases r with
  | ok a => exact ends_ofExcept _
  | error e => exact ends_ofExcept _

theorem ends_exchangeChecked {crc : Crc} {data : Bytes}
    {answer : Except Error Bytes} (answers : h (.bytes (crc.append data) wait) p = (answer, p')) :
    Ends h (exchangeChecked crc data wait) n s p (answer >>= crc.strip) s p' := by
  have asked : Ends h (bytes (crc.append data) wait) n s p answer s p' := by
    unfold bytes
    exact ends_request id answers
  cases answer with
  | ok frame => exact asked.bind (ends_ofExcept _)
  | error e => exact asked.bind_error

theorem ends_silentAsNone {e : Error} (ends : Ends h x n s p (.error e) s' p')
    (silent : e.isTimeout = true) : Ends h (silentAsNone x) n s p (.ok none) s' p' := by
  refine ends.attempt.bind ?_
  dsimp only
  rw [if_pos silent]
  exact ends_pure none

end Held

end Chip

theorem Device.assures_timeout_bind {α : Type} {d : Device .initiator}
    {f : Timeout → Act Chip (Device .initiator) α}
    {last : List Chip.Event → Except Error α → Device .initiator → Prop}
    (rest : (f d.config.commandTimeout).Assures d last) : (Device.timeout >>= f).Assures d last :=
  rest

theorem Device.ends_timeout {τ : Type} {h : Handler Chip τ} {n : Nat} {d : Device .initiator}
    {p : τ} : Act.Ends h Device.timeout n d p (.ok d.config.commandTimeout) d p := rfl

theorem Device.assures_exchangeFrame {d : Device .initiator} {frame : Bytes} (some : frame ≠ [])
    (short : frame.length ≤ Chip.frameLimit) :
    (Device.exchange frame).Assures d fun t r d' =>
      t = [⟨.bytes frame d.config.commandTimeout, r⟩] ∧ d' = d :=
  Act.assures_get_bind (Chip.assures_exchangeBytes some short)

end Contactless
