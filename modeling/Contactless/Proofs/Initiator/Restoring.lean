import Contactless.Proofs.Initiator.Manners
import Contactless.Proofs.Initiator.Operation

/-! Framing given back to a chip that may refuse any switch. A section with raw framing gives up at
the first refusal: before its frames this leaves checks switched off, after them it leaves framing
switched off. -/
namespace Contactless

/-- Whenever a switch went off, somebody has later told it to go on. -/
def Restored (switch : Switch) (t : List Chip.Event) : Prop :=
  ∀ u v, t = u ++ ⟨.configure switch false, .ok ()⟩ :: v → ∃ r, ⟨.configure switch true, r⟩ ∈ v

/-- What was asked has not touched the switches. -/
def Still (t : List Chip.Event) : Prop := ∀ event ∈ t, event.1.isSwitch = false

section Transcripts

variable {switch : Switch} {event : Chip.Event} {t u v : List Chip.Event}

@[simp] theorem restored_nil : Restored switch [] := by
  intro u v same
  cases u <;> cases same

@[simp] theorem restored_cons :
    Restored switch (event :: t) ↔ (event = ⟨.configure switch false, .ok ()⟩ →
      ∃ r, ⟨.configure switch true, r⟩ ∈ t) ∧ Restored switch t := by
  constructor
  · intro restored
    refine ⟨fun off => restored [] t (congrArg (· :: t) off), fun u v same => ?_⟩
    exact restored (event :: u) v (congrArg (event :: ·) same)
  · rintro ⟨head, tail⟩ u v same
    cases u with
    | nil =>
        obtain ⟨off, rfl⟩ := List.cons.inj same
        exact head off
    | cons event' u => exact tail u v (List.cons.inj same).2

theorem Restored.append (first : Restored switch u) (rest : Restored switch v) :
    Restored switch (u ++ v) := by
  induction u with
  | nil => exact rest
  | cons event u ih =>
      obtain ⟨head, tail⟩ := restored_cons.mp first
      refine restored_cons.mpr ⟨fun off => ?_, ih tail⟩
      obtain ⟨r, on⟩ := head off
      exact ⟨r, List.mem_append_left v on⟩

theorem Restored.right (restored : Restored switch (u ++ v)) : Restored switch v := by
  intro w x same
  refine restored (u ++ w) x ?_
  rw [same, List.append_assoc]

theorem Still.restored (still : Still t) : Restored switch t := by
  rintro u v rfl
  cases still _ (List.mem_append_right u List.mem_cons_self)

theorem Still.restored_append_iff (still : Still u) :
    Restored switch (u ++ v) ↔ Restored switch v :=
  ⟨Restored.right, still.restored.append⟩

theorem Still.mem_append_iff (still : Still u) {on : Bool} {r : Except Error Unit} :
    ⟨.configure switch on, r⟩ ∈ u ++ v ↔ (⟨.configure switch on, r⟩ : Chip.Event) ∈ v := by
  refine List.mem_append.trans (or_iff_right fun member => ?_)
  cases still _ member

end Transcripts

/-- All that a section with raw framing does to the switches, and what it comes to. -/
inductive Section {α : Type} : List Chip.Event → Except Error α → Prop
  | refused (e : Error) : Section [⟨.configure .handleCrc false, .error e⟩] (.error e)
  | half (e : Error) :
      Section [⟨.configure .handleCrc false, .ok ()⟩, ⟨.configure .easyFraming false, .error e⟩]
        (.error e)
  | stuck {body : List Chip.Event} (outcome : Except Error α) (e : Error) : Still body →
      Section (⟨.configure .handleCrc false, .ok ()⟩ :: ⟨.configure .easyFraming false, .ok ()⟩ ::
        body ++ [⟨.configure .handleCrc true, .error e⟩]) (Chip.firstFailure outcome (.error e))
  | through {body : List Chip.Event} (outcome : Except Error α) (r : Except Error Unit) :
      Still body →
      Section (⟨.configure .handleCrc false, .ok ()⟩ :: ⟨.configure .easyFraming false, .ok ()⟩ ::
        body ++ [⟨.configure .handleCrc true, .ok ()⟩, ⟨.configure .easyFraming true, r⟩])
        (Chip.firstFailure outcome r)

/-- Each switch is told to go on again, unless one certain refusal prevents it. -/
structure Reverts (t : List Chip.Event) : Prop where
  checks : Restored .handleCrc t ↔ ∀ e, ⟨.configure .easyFraming false, .error e⟩ ∉ t
  easy : Restored .easyFraming t ↔ ∀ e, ⟨.configure .handleCrc true, .error e⟩ ∉ t

section Sections

variable {σ α : Type} {t u : List Chip.Event} {r : Except Error α}

theorem Section.reverts (sect : Section t r) : Reverts t := by
  cases sect with
  | refused e | half e => exact ⟨by simp, by simp⟩
  | stuck _ _ still | through _ _ still =>
      exact ⟨by simp [still.restored_append_iff, still.mem_append_iff],
        by simp [still.restored_append_iff, still.mem_append_iff]⟩

/-- A section that succeeds gives both switches back. -/
theorem Section.restored {a : α} (sect : Section t (.ok a)) :
    Restored .handleCrc t ∧ Restored .easyFraming t := by
  generalize came : (Except.ok a : Except Error α) = r at sect
  cases sect with
  | refused e | half e => cases came
  | stuck outcome e still => cases outcome <;> cases came
  | through outcome r still =>
      exact ⟨by simp [still.restored_append_iff, still.mem_append_iff],
        by simp [still.restored_append_iff, still.mem_append_iff]⟩

/-- Where a switch was given back, it is for what follows to give it back again. -/
theorem Restored.append_iff_refused {switch : Switch} {refused : Error → Chip.Event}
    (restored : Restored switch t) (first : Restored switch t ↔ ∀ e, refused e ∉ t)
    (rest : Restored switch u ↔ ∀ e, refused e ∉ u) :
    Restored switch (t ++ u) ↔ ∀ e, refused e ∉ t ++ u := by
  have accepted := first.mp restored
  constructor
  · intro both e member
    exact (List.mem_append.mp member).elim (accepted e) (rest.mp both.right e)
  · intro none
    exact restored.append (rest.mpr fun e member => none e (List.mem_append_right t member))

theorem Reverts.append (first : Reverts t) (checks : Restored .handleCrc t)
    (easy : Restored .easyFraming t) (rest : Reverts u) : Reverts (t ++ u) where
  checks := checks.append_iff_refused first.checks rest.checks
  easy := easy.append_iff_refused first.easy rest.easy

theorem Chip.section_withRawFraming {m : Manner} {x : Act Chip σ α} (minds : x.Minds m)
    (exchanges : ∀ call, m.asks call → call.isExchange = true) {n : Nat} {s s' : σ}
    (yields : (withRawFraming x n s).Yields t (r, s')) : Section t r := by
  -- Every switch may be refused, and a refused one is the last that is touched.
  obtain ⟨unchecked, u, rfl, framing⟩ := Dialogue.yields_ask_iff.mp yields
  cases unchecked with
  | error e =>
      cases framing
      exact .refused e
  | ok =>
      obtain ⟨raw, v, rfl, running⟩ := Dialogue.yields_ask_iff.mp framing
      cases raw with
      | error e =>
          cases running
          exact .half e
      | ok =>
          change ((x.attempt >>= _) n s).Yields v (r, s') at running
          rw [Act.attempt_bind] at running
          obtain ⟨body, w, ⟨outcome, s₁⟩, rfl, ran, ending⟩ := Dialogue.yields_bind_iff.mp running
          have still : Still body := fun event member =>
            isSwitch_of_isExchange (exchanges _ ((minds n s).asked ran event member))
          obtain ⟨checked, w, rfl, last⟩ := Dialogue.yields_ask_iff.mp ending
          cases checked with
          | error e =>
              cases last
              exact .stuck outcome e still
          | ok =>
              obtain ⟨framed, w, rfl, rest⟩ := Dialogue.yields_ask_iff.mp last
              cases rest
              exact .through outcome framed still

end Sections

namespace TypeA

theorem Activator.section_activate {wanted : Option Uid} {a a' : Activator} {t : List Chip.Event}
    {r : Except Error (Option Activation)} (yields : (activate wanted).Yields a t r a') :
    Section t r := by
  obtain ⟨n, yields⟩ := yields
  exact Chip.section_withRawFraming (minds_attempt wanted) Chip.searching_exchanges yields

namespace Magic

variable {x : Timeout → Act Chip (Device .initiator) Unit} {n : Nat} {d d' : Device .initiator}
  {t : List Chip.Event} {r : Except Error Unit}

theorem section_raw (minds : ∀ wait, (x wait).Minds Chip.obeyed.sized)
    (yields : (raw x n d).Yields t (r, d')) : Section t r :=
  Chip.section_withRawFraming (minds _) (fun _ => And.left) yields

/-- An identifier is set in two sections, the second of which is begun only when the first has
given both switches back. -/
theorem reverts_operation {operation : Operation} (yields : operation.run.Yields d t r d') :
    Reverts t := by
  obtain ⟨n, yields⟩ := yields
  cases operation with
  | unlock => exact (section_raw minds_unlocking yields).reverts
  | wipe => exact (section_raw minds_wiping yields).reverts
  | writeBlockZero data => exact (section_raw (minds_writing data) yields).reverts
  | setUid uid sak atqa =>
      rcases Act.yields_bind_cases yields with ⟨e, rfl, fails⟩ | ⟨u, v, _, d₁, rfl, opens, writes⟩
      · exact (section_raw minds_unlocking fails).reverts
      · have opened := section_raw minds_unlocking opens
        exact opened.reverts.append opened.restored.1 opened.restored.2
          (section_raw (minds_writing _) writes).reverts

end Magic

end TypeA

section Refusals

open TypeA (Activator)

/-- What an activation, or an operation on a card with a back door, asked and was answered. -/
inductive RanRaw : List Chip.Event → Prop
  | activate {wanted : Option Uid} {a a' : Activator} {t : List Chip.Event}
      {r : Except Error (Option TypeA.Activation)} :
      (Activator.activate wanted).Yields a t r a' → RanRaw t
  | magic {operation : TypeA.Magic.Operation} {d d' : Device .initiator} {t : List Chip.Event}
      {r : Except Error Unit} : operation.run.Yields d t r d' → RanRaw t

/-- Checks stay switched off exactly when framing could not be switched off after them. Framing
stays switched off exactly when checks could not be switched on before it. -/
theorem switches_restored_iff {t : List Chip.Event} (ran : RanRaw t) :
    (Restored .handleCrc t ↔ ∀ e, ⟨.configure .easyFraming false, .error e⟩ ∉ t) ∧
      (Restored .easyFraming t ↔ ∀ e, ⟨.configure .handleCrc true, .error e⟩ ∉ t) := by
  have reverts : Reverts t := by
    cases ran with
    | activate yields => exact (Activator.section_activate yields).reverts
    | magic yields => exact TypeA.Magic.reverts_operation yields
  exact ⟨reverts.checks, reverts.easy⟩

/-- Framing cannot be switched off. -/
def sampleHalf : List Chip.Event :=
  [⟨.configure .handleCrc false, .ok ()⟩,
    ⟨.configure .easyFraming false, .error (.deviceNotSupported "configure EasyFraming")⟩]

/-- Nobody answers, and checks cannot be switched on again. -/
def sampleStuck : List Chip.Event :=
  [⟨.configure .handleCrc false, .ok ()⟩, ⟨.configure .easyFraming false, .ok ()⟩,
    ⟨.bits (.ofBytes [0x41]) .standard, .error .timeout⟩,
    ⟨.configure .handleCrc true, .error (.deviceNotSupported "configure HandleCrc")⟩]

theorem switches_restored_samples :
    (¬ Restored .handleCrc sampleHalf ∧ Restored .easyFraming sampleHalf) ∧
      Restored .handleCrc sampleStuck ∧ ¬ Restored .easyFraming sampleStuck := by
  have half : (Activator.activate none).Yields (.ofConfig {}) sampleHalf
      (.error (.deviceNotSupported "configure EasyFraming")) (.ofConfig {}) :=
    ⟨0, .ask _ (.ask _ (.done _))⟩
  have stuck : (TypeA.Magic.Operation.run .wipe).Yields ⟨{}, none⟩ sampleStuck (.error .timeout)
      ⟨{}, none⟩ :=
    ⟨0, .ask _ (.ask _ (.ask _ (.ask _ (.done _))))⟩
  obtain ⟨checksHalf, easyHalf⟩ := switches_restored_iff (.activate half)
  obtain ⟨checksStuck, easyStuck⟩ := switches_restored_iff (.magic stuck)
  refine ⟨⟨fun restored => ?_, easyHalf.mpr ?_⟩, checksStuck.mpr ?_, fun restored => ?_⟩
  · exact checksHalf.mp restored _ (.tail _ (.head _))
  · simp [sampleHalf]
  · simp [sampleStuck]
  · exact easyStuck.mp restored _ (.tail _ (.tail _ (.tail _ (.head _))))

/-- An activation leaves checks switched off, and a wipe leaves framing switched off. -/
theorem switches_left_off :
    ((Activator.activate none).Yields (.ofConfig {}) sampleHalf
        (.error (.deviceNotSupported "configure EasyFraming")) (.ofConfig {}) ∧
      ¬ Restored .handleCrc sampleHalf) ∧
    (TypeA.Magic.Operation.run .wipe).Yields ⟨{}, none⟩ sampleStuck (.error .timeout) ⟨{}, none⟩ ∧
      ¬ Restored .easyFraming sampleStuck := by
  refine ⟨⟨⟨0, .ask _ (.ask _ (.done _))⟩, ?_⟩,
    ⟨0, .ask _ (.ask _ (.ask _ (.ask _ (.done _))))⟩, ?_⟩
  · simp [sampleHalf]
  · simp [sampleStuck]

end Refusals

end Contactless
