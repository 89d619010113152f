import Contactless.Proofs.Reach

/-! Half duplex. A target sends nothing of its own accord: each frame that it sends answers one that
it received, and it received that one after the frame that it sent before. One rule for each way of
building a program says that it keeps to this as long as the chip does not fail. -/
namespace Contactless

namespace Chip

/-- A frame came in, the first one of an initiator or a later one. -/
inductive Heard : Chip.Event → Prop
  | armed (target : Target) (wait : Timeout) (frame : Bytes) : Heard ⟨.arm target wait, .ok frame⟩
  | received (wait : Timeout) (frame : Bytes) : Heard ⟨.receive wait, .ok frame⟩

/-- A frame went out, or was to. -/
inductive Said : Chip.Event → Prop
  | sent (frame : Bytes) (wait : Timeout) (r : Except Error Unit) : Said ⟨.send frame wait, r⟩

structure HalfDuplex (log : List Chip.Event) : Prop where
  /-- Each frame that goes out answers the one that came in just before it. -/
  answers : ∀ before event after, log = before ++ event :: after → Said event →
    ∃ earlier asked, before = earlier ++ [asked] ∧ Heard asked
  /-- Between two frames that go out, one comes in. -/
  apart : ∀ before first between second after,
    log = before ++ first :: (between ++ second :: after) → Said first → Said second →
      ∃ asked ∈ between, Heard asked

/-- The log of a chip that does not fail, in which frames go out only as answers. The marks tell
whether an answer is due before it and after it. -/
inductive Answering : Bool → List Chip.Event → Bool → Prop
  | nil (due : Bool) : Answering due [] due
  | hear {due last : Bool} {event : Chip.Event} {t : List Chip.Event} : Heard event →
      Answering true t last → Answering due (event :: t) last
  | send {last : Bool} {frame : Bytes} {wait : Timeout} {t : List Chip.Event} :
      Answering false t last → Answering true (⟨.send frame wait, .ok ()⟩ :: t) last

section Logs

variable {due between last : Bool} {t u : List Chip.Event}

theorem Heard.not_said {event : Chip.Event} (heard : Heard event) : ¬ Said event := by
  intro said
  cases said
  cases heard

theorem Answering.append (first : Answering due t between) (rest : Answering between u last) :
    Answering due (t ++ u) last := by
  induction first with
  | nil => exact rest
  | hear heard _ ih => exact .hear heard (ih rest)
  | send _ ih => exact .send (ih rest)

/-- The first frame that goes out may answer one from before the log. -/
theorem Answering.asked (answering : Answering due t last) {before after : List Chip.Event}
    {event : Chip.Event} (whole : t = before ++ event :: after) (said : Said event) :
    before = [] ∧ due = true ∨ ∃ earlier asked, before = earlier ++ [asked] ∧ Heard asked := by
  induction answering generalizing before with
  | nil due => cases before <;> cases whole
  | @hear due last head t heard _ ih =>
      cases before with
      | nil =>
          cases whole
          exact absurd said heard.not_said
      | cons first before =>
          obtain ⟨rfl, rest⟩ := List.cons.inj whole
          rcases ih rest with ⟨rfl, -⟩ | ⟨earlier, asked, rfl, came⟩
          · exact .inr ⟨[], head, rfl, heard⟩
          · exact .inr ⟨head :: earlier, asked, rfl, came⟩
  | send _ ih =>
      cases before with
      | nil => exact .inl ⟨rfl, rfl⟩
      | cons first before =>
          obtain ⟨rfl, rest⟩ := List.cons.inj whole
          rcases ih rest with ⟨-, none⟩ | ⟨earlier, asked, rfl, came⟩
          · cases none
          · exact .inr ⟨_ :: earlier, asked, rfl, came⟩

theorem Answering.halfDuplex (answering : Answering false t last) : HalfDuplex t where
  answers before event after whole said := by
    rcases answering.asked whole said with ⟨-, none⟩ | asked
    · cases none
    · exact asked
  apart before first between second after whole began said := by
    rw [← List.cons_append, ← List.append_assoc] at whole
    rcases answering.asked whole said with ⟨-, none⟩ | ⟨earlier, asked, same, heard⟩
    · cases none
    · rcases List.eq_nil_or_concat between with rfl | ⟨start, final, rfl⟩
      · obtain ⟨-, here⟩ := List.append_inj' same rfl
        cases here
        exact absurd began heard.not_said
      · simp only [List.concat_eq_append, ← List.cons_append, ← List.append_assoc] at same ⊢
        obtain ⟨-, here⟩ := List.append_inj' same rfl
        cases here
        exact ⟨asked, List.mem_concat_self, heard⟩

end Logs

end Chip

namespace Dialogue

open Chip (Answering Heard Event.failure)

variable {α β : Type} {ends : Bool → α → Prop} {last : Bool → β → Prop} {due : Bool}

/-- As long as the chip does not fail, a dialogue sends only what answers a frame. The mark tells
whether an answer is due. -/
inductive Duplex (ends : Bool → α → Prop) : Bool → Dialogue Chip α → Prop
  | done {due : Bool} {a : α} : ends due a → Duplex ends due (.done a)
  | cut (due : Bool) : Duplex ends due .cut
  | hear {due : Bool} {call : Chip.Call} {next : call.Answer → Dialogue Chip α} :
      (∀ r, Event.failure ⟨call, r⟩ = none → Heard ⟨call, r⟩) →
      (∀ r, Event.failure ⟨call, r⟩ = none → Duplex ends true (next r)) →
      Duplex ends due (.ask call next)
  | send {frame : Bytes} {wait : Timeout} {next : Except Error Unit → Dialogue Chip α} :
      Duplex ends false (next (.ok ())) → Duplex ends true (.ask (.send frame wait) next)

variable {d : Dialogue Chip α}

theorem Duplex.arm {target : Target} {wait : Timeout} {next : Except Error Bytes → Dialogue Chip α}
    (goes : ∀ frame, (next (.ok frame)).Duplex ends true) :
    Duplex ends due (.ask (.arm target wait) next) := by
  apply Duplex.hear
  · intro r accepted
    cases r with
    | error e => cases accepted
    | ok frame => exact .armed target wait frame
  · intro r accepted
    cases r with
    | error e => cases accepted
    | ok frame => exact goes frame

theorem Duplex.receive {wait : Timeout} {next : Except Error Bytes → Dialogue Chip α}
    (goes : ∀ frame, (next (.ok frame)).Duplex ends true) :
    Duplex ends due (.ask (.receive wait) next) := by
  apply Duplex.hear
  · intro r accepted
    cases r with
    | error e => cases accepted
    | ok frame => exact .received wait frame
  · intro r accepted
    cases r with
    | error e => cases accepted
    | ok frame => exact goes frame

theorem Duplex.bind {k : α → Dialogue Chip β} (first : d.Duplex ends due)
    (rest : ∀ due a, ends due a → (k a).Duplex last due) : (d.bind k).Duplex last due := by
  induction first with
  | done holds => exact rest _ _ holds
  | cut due => exact .cut due
  | hear heard _ ih => exact .hear heard ih
  | send _ ih => exact .send ih

/-- What was said so far, and where the dialogue stands. -/
theorem Duplex.reaches (duplex : d.Duplex ends due) {t : List Chip.Event} {e : Dialogue Chip α}
    (reaches : d.Reaches t e) (accepted : ∀ event ∈ t, Event.failure event = none) :
    ∃ after, Answering due t after ∧ e.Duplex ends after := by
  induction duplex generalizing t with
  | @done due a holds =>
      obtain ⟨rfl, rfl⟩ := reaches_done reaches
      exact ⟨due, .nil due, .done holds⟩
  | cut due =>
      cases reaches
      exact ⟨due, .nil due, .cut due⟩
  | @hear due call next heard goes ih =>
      rcases reaches_ask reaches with ⟨rfl, rfl⟩ | ⟨r, u, rfl, rest⟩
      · exact ⟨due, .nil due, .hear heard goes⟩
      · obtain ⟨here, later⟩ := List.forall_mem_cons.mp accepted
        obtain ⟨after, answering, stands⟩ := ih r here rest later
        exact ⟨after, .hear (heard r here) answering, stands⟩
  | @send frame wait next goes ih =>
      rcases reaches_ask reaches with ⟨rfl, rfl⟩ | ⟨r, u, rfl, rest⟩
      · exact ⟨true, .nil true, .send goes⟩
      · obtain ⟨here, later⟩ := List.forall_mem_cons.mp accepted
        cases r with
        | error e => cases here
        | ok done =>
            obtain ⟨after, answering, stands⟩ := ih rest later
            exact ⟨after, .send answering, stands⟩

theorem Duplex.yields (duplex : d.Duplex ends due) {t : List Chip.Event} {a : α}
    (yields : d.Yields t a) (accepted : ∀ event ∈ t, Event.failure event = none) :
    ∃ after, Answering due t after ∧ ends after a := by
  obtain ⟨after, answering, stands⟩ := duplex.reaches yields.reaches accepted
  cases stands with
  | done holds => exact ⟨after, answering, holds⟩

end Dialogue

namespace Act

variable {σ α β : Type} {due : Bool} {s : σ} {x : Act Chip σ α} {f : α → Act Chip σ β}
  {post : Bool → Except Error α → σ → Prop} {last : Bool → Except Error β → σ → Prop}

/-- From a state in which an answer may be due, an action keeps to half duplex as long as the chip
does not fail. -/
def Duplex (due : Bool) (x : Act Chip σ α) (s : σ) (post : Bool → Except Error α → σ → Prop) :
    Prop :=
  ∀ n, (x n s).Duplex (fun due r => post due r.1 r.2) due

theorem duplex_done {r : Except Error α} {s' : σ} (same : ∀ n, x n s = .done (r, s'))
    (holds : post due r s') : x.Duplex due s post := by
  intro n
  rw [same n]
  exact .done holds

theorem Duplex.bind (first : x.Duplex due s post)
    (rest : ∀ due a s', post due (.ok a) s' → (f a).Duplex due s' last)
    (fails : ∀ due e s', post due (.error e) s' → last due (.error e) s') :
    (x >>= f).Duplex due s last := by
  intro n
  rw [bind_apply]
  refine (first n).bind fun due (r, s') holds => ?_
  cases r with
  | error e => exact .done (fails due e s' holds)
  | ok a => exact rest due a s' holds n

/-- A loop over actions that each take an answer that is due and leave one due. -/
theorem duplex_forM {f : β → Act Chip σ PUnit}
    (each : ∀ b s, (f b).Duplex true s fun due _ _ => due = true) (l : List β) (s : σ) :
    (l.forM f).Duplex true s fun due _ _ => due = true := by
  induction l generalizing s with
  | nil => exact duplex_done (fun _ => rfl) rfl
  | cons b l ih =>
      refine (each b s).bind ?_ fun _ _ _ owed => owed
      rintro due done s' rfl
      exact ih s'

end Act

end Contactless
