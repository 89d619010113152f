import Contactless.Relay.Session
import Contactless.Proofs.Relay.Half

/-! A relay in one process followed question by question, and the course of what it does to the tag
and to the reader. -/
namespace Contactless.Relay

open Dialogue (ask_congr)

namespace Devices

variable (n fuel : Nat) (wait : Timeout) (s : Devices)

/-- The session failed. Abort requests are taken back, and some failures are no failure. -/
def stopping (e : Error) (s : Devices) : Dialogue Chips (Except Error Stats × Devices) :=
  .ask (.inl .clearAbort) fun _ => .ask (.inr .clearAbort) fun _ =>
    .done (if isNormalStop e then .ok s.stats else .error e, s)

def ended : Except Error Empty × Devices → Dialogue Chips (Except Error Stats × Devices)
  | (.ok nothing, _) => nomatch nothing
  | (.error e, s) => stopping e s

def counted (s : Devices) : Devices :=
  { s with stats := { s.stats with exchanges := s.stats.exchanges + 1 } }

/-- A command of the reader is to be passed on. -/
def passing (command : Bytes) : Dialogue Chips (Except Error Stats × Devices) :=
  (Act.steps (passOn wait) fuel command n s).bind ended

def called : Except Error Bytes → Dialogue Chips (Except Error Stats × Devices)
  | .error e => stopping e s
  | .ok command => passing n fuel wait s command

def given : Except Error Unit → Dialogue Chips (Except Error Stats × Devices)
  | .error e => stopping e s
  | .ok () => .ask (.inr (.receive wait)) (called n fuel wait s.counted)

def answered : Except Error Bytes → Dialogue Chips (Except Error Stats × Devices)
  | .error e => stopping e s
  | .ok answer => .ask (.inr (.send answer wait)) (given n fuel wait s)

def asked (command : Bytes) : Dialogue Chips (Except Error Stats × Devices) :=
  match refusal command with
  | some e => stopping e s
  | none =>
    .ask (.inl (.bytes command s.initiator.config.commandTimeout)) (answered n fuel wait s)

theorem asked_of_refused {command : Bytes} {e : Error} (refused : refusal command = some e) :
    asked n fuel wait s command = stopping e s := by
  unfold asked
  rw [refused]

theorem asked_of_passes {command : Bytes} (passes : refusal command = none) :
    asked n fuel wait s command =
      .ask (.inl (.bytes command s.initiator.config.commandTimeout)) (answered n fuel wait s) := by
  unfold asked
  rw [passes]

theorem passing_succ (command : Bytes) :
    passing n (fuel + 1) wait s command = asked n fuel wait s command := by
  unfold passing
  rw [Act.steps_succ]
  change (((((Device.exchange command n s.initiator).left).bind _).bind _).bind _).bind ended = _
  rw [exchange_eq]
  unfold asked
  cases refusal command with
  | some e => rfl
  | none =>
      refine ask_congr fun (r : Except Error Bytes) => ?_
      cases r with
      | error e => rfl
      | ok answer =>
          refine ask_congr fun (sent : Except Error Unit) => ?_
          cases sent with
          | error e => rfl
          | ok done =>
              refine ask_congr fun (next : Except Error Bytes) => ?_
              cases next <;> rfl

/-- The tag was found, and it can be shown to the reader or not. -/
def revealed (target : Device .target) (d : Device .initiator) (real : Target) :
    Except Error Target → Dialogue Chips (Except Error Stats × Devices)
  | .error e => stopping e ⟨d, target, {}⟩
  | .ok shown =>
    .ask (.inr (.arm shown target.config.targetTimeout))
      (called n n target.config.targetTimeout
        ⟨d, { target with selected := some shown }, { target := some real }⟩)

def found (target : Device .target) :
    Except Error Target × Device .initiator → Dialogue Chips (Except Error Stats × Devices)
  | (.error e, d) => stopping e ⟨d, target, {}⟩
  | (.ok real, d) => revealed n target d real (emulatedBy target.config real)

theorem run_eq_session : run n s = (session n { s with stats := {} }).bind ended := by
  change ((session n { s with stats := {} }).map _).bind _ = _
  unfold Dialogue.map
  rw [Dialogue.bind_bind]
  congr 1
  funext r
  obtain ⟨outcome, t⟩ := r
  cases outcome with
  | ok nothing => exact nomatch nothing
  | error e =>
      refine ask_congr fun _ => ask_congr fun _ => ?_
      change (if isNormalStop e then _ else _ : Act Chips Devices Stats) n t = _
      cases isNormalStop e <;> rfl

theorem run_eq : run n s = ((waitForTag n s.initiator).left).bind (found n s.target) := by
  rw [run_eq_session]
  change ((((waitForTag n s.initiator).left.bind _).bind _).bind _) = _
  rw [Dialogue.bind_bind, Dialogue.bind_bind]
  congr 1
  funext r
  obtain ⟨outcome, d⟩ := r
  cases outcome with
  | error e => rfl
  | ok real =>
      change ((Act.ofExcept (emulatedBy s.target.config real) >>= fun _ => _ :
        Act Chips Devices Empty) n ⟨d, s.target, {}⟩).bind ended =
          revealed n s.target d real (emulatedBy s.target.config real)
      rw [Act.bind_apply, Act.ofExcept_apply]
      cases emulatedBy s.target.config real with
      | error e => rfl
      | ok shown =>
          refine ask_congr fun (first : Except Error Bytes) => ?_
          cases first <;> rfl

end Devices

section Course

variable {τ υ : Type} {h : Handler Chip τ} {g : Handler Chip υ} {patience wait : Timeout}

/-- What becomes of a command of the reader and of the ones that follow it: what the chips of the
tag and of the reader are asked and answered, the number of answers handed to the reader, and the
failure that ends it. -/
inductive Course (h : Handler Chip τ) (g : Handler Chip υ) (patience wait : Timeout) :
    τ → υ → Bytes → List Chip.Event → List Chip.Event → Nat → Error → τ → υ → Prop
  | refused {p q command e} : refusal command = some e →
      Course h g patience wait p q command [] [] 0 e p q
  | failed {p p' q command e} : refusal command = none →
      h (.bytes command patience) p = (.error e, p') →
      Course h g patience wait p q command [⟨.bytes command patience, .error e⟩] [] 0 e p' q
  | ungiven {p p' q q' command answer e} : refusal command = none →
      h (.bytes command patience) p = (.ok answer, p') → g (.send answer wait) q = (.error e, q') →
      Course h g patience wait p q command [⟨.bytes command patience, .ok answer⟩]
        [⟨.send answer wait, .error e⟩] 0 e p' q'
  | released {p p' q q₁ q' command answer e} : refusal command = none →
      h (.bytes command patience) p = (.ok answer, p') → g (.send answer wait) q = (.ok (), q₁) →
      g (.receive wait) q₁ = (.error e, q') →
      Course h g patience wait p q command [⟨.bytes command patience, .ok answer⟩]
        [⟨.send answer wait, .ok ()⟩, ⟨.receive wait, .error e⟩] 1 e p' q'
  | passed {p p₁ p' q q₁ q₂ q' command answer next tag reader count e} : refusal command = none →
      h (.bytes command patience) p = (.ok answer, p₁) → g (.send answer wait) q = (.ok (), q₁) →
      g (.receive wait) q₁ = (.ok next, q₂) →
      Course h g patience wait p₁ q₂ next tag reader count e p' q' →
      Course h g patience wait p q command (⟨.bytes command patience, .ok answer⟩ :: tag)
        (⟨.send answer wait, .ok ()⟩ :: ⟨.receive wait, .ok next⟩ :: reader) (count + 1) e p' q'

/-- A reader that has only so many frames left to send. -/
structure Ending (g : Handler Chip υ) (left : υ → Nat) : Prop where
  keeps : ∀ call q, left (g call q).2 ≤ left q
  spends : ∀ {wait q frame q'}, g (.receive wait) q = (.ok frame, q') → left q' < left q

theorem exists_course {left : υ → Nat} (ending : Ending g left) (patience wait : Timeout) (p : τ)
    (q : υ) (command : Bytes) :
    ∃ tag reader count e p' q', Course h g patience wait p q command tag reader count e p' q' ∧
      count ≤ left q + 1 := by
  induction bound : left q using Nat.strongRecOn generalizing p q command with
  | ind bound ih =>
      subst bound
      cases refused : refusal command with
      | some e => exact ⟨_, _, _, _, _, _, .refused refused, Nat.zero_le _⟩
      | none =>
          rcases exchanged : h (.bytes command patience) p with ⟨e | answer, p₁⟩
          · exact ⟨_, _, _, _, _, _, .failed refused exchanged, Nat.zero_le _⟩
          rcases sent : g (.send answer wait) q with ⟨e | done, q₁⟩
          · exact ⟨_, _, _, _, _, _, .ungiven refused exchanged sent, Nat.zero_le _⟩
          rcases called : g (.receive wait) q₁ with ⟨e | next, q₂⟩
          · exact ⟨_, _, _, _, _, _, .released refused exchanged sent called,
              Nat.succ_le_succ (Nat.zero_le _)⟩
          have kept := ending.keeps (.send answer wait) q
          rw [sent] at kept
          have fewer := Nat.lt_of_lt_of_le (ending.spends called) kept
          obtain ⟨tag, reader, count, e, p', q', course, most⟩ := ih _ fewer p₁ q₂ next rfl
          exact ⟨_, _, _, _, _, _, .passed refused exchanged sent called course, by omega⟩

namespace Devices

def exchanged (s : Devices) (count : Nat) : Devices :=
  { s with stats := { s.stats with exchanges := s.stats.exchanges + count } }

theorem counted_exchanged (s : Devices) (count : Nat) :
    s.counted.exchanged count = s.exchanged (count + 1) := by
  unfold counted exchanged
  rw [Nat.add_comm count 1, ← Nat.add_assoc]

/-- What a relay comes to that failed so. -/
def outcome (e : Error) (s : Devices) : Except Error Stats :=
  if isNormalStop e then .ok s.stats else .error e

theorem held_stopping (e : Error) (s : Devices) (p : τ) (q : υ) :
    ∃ p' q', Dialogue.Held (h.pair g) (stopping e s) (p, q)
      [⟨.inl .clearAbort, ()⟩, ⟨.inr .clearAbort, ()⟩] (outcome e s, s) (p', q') :=
  ⟨_, _, .ask rfl (.ask rfl (.done _ _))⟩

theorem held_passing {p p' : τ} {q q' : υ} {command : Bytes} {tag reader : List Chip.Event}
    {count : Nat} {e : Error}
    (course : Course h g patience wait p q command tag reader count e p' q') (n : Nat) {fuel : Nat}
    (enough : count < fuel) {s : Devices} (patient : s.initiator.config.commandTimeout = patience) :
    ∃ t p'' q'', Dialogue.Held (h.pair g) (passing n fuel wait s command) (p, q) t
        (outcome e (s.exchanged count), s.exchanged count) (p'', q'') ∧
      lefts t = tag ++ [⟨.clearAbort, ()⟩] ∧ rights t = reader ++ [⟨.clearAbort, ()⟩] := by
  induction course generalizing fuel s with
  | @refused p q command e refused =>
      obtain ⟨fuel, rfl⟩ := Nat.exists_eq_succ_of_ne_zero (Nat.ne_zero_of_lt enough)
      obtain ⟨p', q', stops⟩ := held_stopping (h := h) (g := g) e s p q
      rw [passing_succ, asked_of_refused n fuel wait s refused]
      exact ⟨_, _, _, stops, rfl, rfl⟩
  | @failed p p' q command e passes answers =>
      subst patient
      obtain ⟨fuel, rfl⟩ := Nat.exists_eq_succ_of_ne_zero (Nat.ne_zero_of_lt enough)
      obtain ⟨p'', q'', stops⟩ := held_stopping (h := h) (g := g) e s p' q
      rw [passing_succ, asked_of_passes n fuel wait s passes]
      have asks := Dialogue.pair_left (h := h) (g := g) answers q
      exact ⟨_, _, _, .ask asks stops, rfl, rfl⟩
  | @ungiven p p' q q' command answer e passes answers sends =>
      subst patient
      obtain ⟨fuel, rfl⟩ := Nat.exists_eq_succ_of_ne_zero (Nat.ne_zero_of_lt enough)
      obtain ⟨p'', q'', stops⟩ := held_stopping (h := h) (g := g) e s p' q'
      rw [passing_succ, asked_of_passes n fuel wait s passes]
      exact ⟨_, _, _, .ask (Dialogue.pair_left answers _)
        (.ask (Dialogue.pair_right sends _) stops), rfl, rfl⟩
  | @released p p' q q₁ q' command answer e passes answers sends receives =>
      subst patient
      obtain ⟨fuel, rfl⟩ := Nat.exists_eq_succ_of_ne_zero (Nat.ne_zero_of_lt enough)
      obtain ⟨p'', q'', stops⟩ := held_stopping (h := h) (g := g) e s.counted p' q'
      rw [passing_succ, asked_of_passes n fuel wait s passes]
      exact ⟨_, _, _, .ask (Dialogue.pair_left answers _) (.ask (Dialogue.pair_right sends _)
        (.ask (Dialogue.pair_right receives _) stops)), rfl, rfl⟩
  | passed passes answers sends receives _ ih =>
      subst patient
      obtain ⟨fuel, rfl⟩ := Nat.exists_eq_succ_of_ne_zero (Nat.ne_zero_of_lt enough)
      obtain ⟨t, p'', q'', held, tag, reader⟩ :=
        ih (Nat.lt_of_succ_lt_succ enough) (s := s.counted) rfl
      rw [counted_exchanged] at held
      rw [passing_succ, asked_of_passes n fuel wait s passes]
      refine ⟨_, _, _, .ask (Dialogue.pair_left answers _) (.ask (Dialogue.pair_right sends _)
        (.ask (Dialogue.pair_right receives _) held)), ?_, ?_⟩
      · exact congrArg (_ :: ·) tag
      · exact congrArg (_ :: _ :: ·) reader

end Devices

/-- What becomes of a tag that was found, shown by a device with these settings. -/
inductive Relayed (h : Handler Chip τ) (g : Handler Chip υ) (d : Device .initiator)
    (target : Device .target) (real : Target) :
    τ → υ → List Chip.Event → List Chip.Event → Nat → Error → Prop
  | hidden {p q e} : emulatedBy target.config real = .error e →
      Relayed h g d target real p q [] [] 0 e
  | unseen {p q q' shown e} : emulatedBy target.config real = .ok shown →
      g (.arm shown target.config.targetTimeout) q = (.error e, q') →
      Relayed h g d target real p q [] [⟨.arm shown target.config.targetTimeout, .error e⟩] 0 e
  | seen {p p' q q₁ q' shown first tag reader count e} :
      emulatedBy target.config real = .ok shown →
      g (.arm shown target.config.targetTimeout) q = (.ok first, q₁) →
      Course h g d.config.commandTimeout target.config.targetTimeout p q₁ first tag reader count e
        p' q' →
      Relayed h g d target real p q tag
        (⟨.arm shown target.config.targetTimeout, .ok first⟩ :: reader) count e

theorem exists_relayed {left : υ → Nat} (ending : Ending g left) (d : Device .initiator)
    (target : Device .target) (real : Target) (p : τ) (q : υ) :
    ∃ tag reader count e, Relayed h g d target real p q tag reader count e ∧
      count ≤ left q + 1 := by
  cases shows : emulatedBy target.config real with
  | error e => exact ⟨_, _, _, _, .hidden shows, Nat.zero_le _⟩
  | ok shown =>
      rcases arms : g (.arm shown target.config.targetTimeout) q with ⟨e | first, q₁⟩
      · exact ⟨_, _, _, _, .unseen shows arms, Nat.zero_le _⟩
      · have kept := ending.keeps (.arm shown target.config.targetTimeout) q
        rw [arms] at kept
        obtain ⟨tag, reader, count, e, p', q', course, most⟩ :=
          exists_course (h := h) ending d.config.commandTimeout target.config.targetTimeout p q₁
            first
        exact ⟨_, _, _, _, .seen shows arms course, Nat.le_trans most (Nat.succ_le_succ kept)⟩

theorem held_revealed {n : Nat} {d : Device .initiator} {target : Device .target} {real : Target}
    {p : τ} {q : υ} {tag reader : List Chip.Event} {count : Nat} {e : Error}
    (relayed : Relayed h g d target real p q tag reader count e) (enough : count < n) :
    ∃ t r s' p' q',
      Dialogue.Held (h.pair g) (Devices.revealed n target d real (emulatedBy target.config real))
        (p, q) t (r, s') (p', q') ∧
      lefts t = tag ++ [⟨.clearAbort, ()⟩] ∧ rights t = reader ++ [⟨.clearAbort, ()⟩] ∧
      s'.stats.exchanges = count := by
  cases relayed with
  | hidden hides =>
      obtain ⟨p', q', stops⟩ := Devices.held_stopping (h := h) (g := g) e ⟨d, target, {}⟩ p q
      rw [hides]
      exact ⟨_, _, _, _, _, stops, rfl, rfl, rfl⟩
  | @unseen _ q₁ shown _ shows arms =>
      obtain ⟨p', q', stops⟩ := Devices.held_stopping (h := h) (g := g) e
        ⟨d, { target with selected := some shown }, { target := some real }⟩ p q₁
      have appears := Dialogue.pair_right (h := h) (g := g) arms p
      rw [shows]
      exact ⟨_, _, _, _, _, .ask appears stops, rfl, rfl, rfl⟩
  | @seen _ _ q₁ _ shown first _ reader _ _ shows arms course =>
      obtain ⟨t, p', q', held, tagSide, readerSide⟩ := Devices.held_passing course n enough
        (s := ⟨d, { target with selected := some shown }, { target := some real }⟩) rfl
      have appears := Dialogue.pair_right (h := h) (g := g) arms p
      rw [shows]
      refine ⟨_, _, _, _, _, .ask appears held, tagSide, ?_, Nat.zero_add _⟩
      exact congrArg (_ :: ·) readerSide

theorem held_run {n : Nat} {s : Devices} {p p₁ : τ} {q : υ} {search : List Chip.Event}
    {real : Target} {d : Device .initiator}
    (finds : Dialogue.Held h (waitForTag n s.initiator) p search (.ok real, d) p₁)
    {tag reader : List Chip.Event} {count : Nat} {e : Error}
    (relayed : Relayed h g d s.target real p₁ q tag reader count e) (enough : count < n) :
    ∃ t r s' p' q', Dialogue.Held (h.pair g) (run n s) (p, q) t (r, s') (p', q') ∧
      lefts t = search ++ tag ++ [⟨.clearAbort, ()⟩] ∧ rights t = reader ++ [⟨.clearAbort, ()⟩] ∧
      s'.stats.exchanges = count := by
  obtain ⟨t, r, s', p', q', held, tagSide, readerSide, counts⟩ :=
    held_revealed (n := n) relayed enough
  rw [Devices.run_eq]
  refine ⟨_, r, s', p', q', (finds.left q).bind held, ?_, ?_, counts⟩
  · rw [lefts_append, lefts_inLeft, tagSide, List.append_assoc]
  · rw [rights_append, rights_inLeft, readerSide, List.nil_append]

end Course

end Contactless.Relay
