import Contactless.Relay.Half
import Contactless.Proofs.Reach

/-! The two halves of a relay followed question by question. Each name says what a half goes on with
once it was given an answer. -/
namespace Contactless.Relay

open Dialogue (ask_congr)

/-- Why a device does not pass a command on to its chip. -/
def refusal (command : Bytes) : Option Error :=
  if command.isEmpty then some (.invalidParameter "empty frame")
  else if Chip.frameLimit < command.length then
    some (.bufferOverflow Chip.frameLimit command.length)
  else none

theorem exchange_eq (command : Bytes) (n : Nat) (d : Device .initiator) :
    Device.exchange command n d =
      match refusal command with
      | some e => .done (.error e, d)
      | none => .ask (.bytes command d.config.commandTimeout) fun r => .done (r, d) := by
  change Chip.exchangeBytes command d.config.commandTimeout n d = _
  unfold Chip.exchangeBytes refusal
  split
  · rfl
  · split <;> rfl

/-- Stop with a failure once the other half was told. -/
def leaving {σ α : Type} (e : Error) (s : σ) : Dialogue ChipAndLink (Except Error α × σ) :=
  .ask (.inr (.send .shutdown)) fun _ => .done (.error e, s)

namespace InitiatorHalf

variable (n fuel served : Nat) (d : Device .initiator)

/-- A half that serves commands, so many already. -/
def serving : Dialogue ChipAndLink (Except Error Nat × Device .initiator) :=
  Act.steps serve fuel served n d

def told : Except Error Unit → Dialogue ChipAndLink (Except Error Nat × Device .initiator)
  | .error e => .done (.error e, d)
  | .ok () => serving n fuel (served + 1) d

def answered : Except Error Bytes → Dialogue ChipAndLink (Except Error Nat × Device .initiator)
  | .error e => leaving e d
  | .ok answer => .ask (.inr (.send (.response answer))) (told n fuel served d)

def asked (command : Bytes) : Dialogue ChipAndLink (Except Error Nat × Device .initiator) :=
  match refusal command with
  | some e => leaving e d
  | none => .ask (.inl (.bytes command d.config.commandTimeout)) (answered n fuel served d)

theorem asked_of_refused {command : Bytes} {e : Error} (refused : refusal command = some e) :
    asked n fuel served d command = leaving e d := by
  unfold asked
  rw [refused]

theorem asked_of_passes {command : Bytes} (passes : refusal command = none) :
    asked n fuel served d command =
      .ask (.inl (.bytes command d.config.commandTimeout)) (answered n fuel served d) := by
  unfold asked
  rw [passes]

def heard : Except Error LinkFrame → Dialogue ChipAndLink (Except Error Nat × Device .initiator)
  | .error e => .done (.error e, d)
  | .ok (.command command) => asked n fuel served d command
  | .ok .shutdown => .done (.ok served, d)
  | .ok other => leaving (unexpected other) d

theorem serving_succ :
    serving n (fuel + 1) served d = .ask (.inr (.recv .forever)) (heard n fuel served d) := by
  unfold serving
  rw [Act.steps_succ]
  refine ask_congr fun (r : Except Error LinkFrame) => ?_
  cases r with
  | error e => rfl
  | ok frame =>
      cases frame with
      | target t => rfl
      | response a => rfl
      | shutdown => rfl
      | command c =>
          change (((Device.exchange c n d).left.bind _).bind _).bind _ = asked n fuel served d c
          rw [exchange_eq]
          unfold asked
          cases refusal c with
          | some e => rfl
          | none =>
              refine ask_congr fun (a : Except Error Bytes) => ?_
              cases a with
              | error e => rfl
              | ok answer =>
                  refine ask_congr fun (sent : Except Error Unit) => ?_
                  cases sent <;> rfl

def described : Except Error Unit → Dialogue ChipAndLink (Except Error Nat × Device .initiator)
  | .error e => .done (.error e, d)
  | .ok () => serving n n 0 d

def found : Except Error Target × Device .initiator →
    Dialogue ChipAndLink (Except Error Nat × Device .initiator)
  | (.error e, d) => leaving e d
  | (.ok real, d) => .ask (.inr (.send (.target real))) (described n d)

theorem run_eq : run n d = ((waitForTag n d).left).bind (found n) := by
  unfold run
  rw [Act.bind_apply]
  change (((waitForTag n d).left.bind _).bind _) = _
  rw [Dialogue.bind_bind]
  congr 1
  funext r
  obtain ⟨outcome, d'⟩ := r
  cases outcome with
  | error e => rfl
  | ok real =>
      refine ask_congr fun (sent : Except Error Unit) => ?_
      cases sent <;> rfl

end InitiatorHalf

namespace TargetHalf

/-- The other half is told of a failure. After a normal one, nothing stays pending. -/
def closing (e : Error) (s : TargetHalf) : Dialogue ChipAndLink (Except Error Nat × TargetHalf) :=
  .ask (.inr (.send .shutdown)) fun _ =>
    if isNormalStop e then .ask (.inl .clearAbort) fun _ => .done (.ok s.exchanged, s)
    else .done (.error e, s)

/-- How a half ends with what its session came to. -/
def ended : Except Error Unit × TargetHalf → Dialogue ChipAndLink (Except Error Nat × TargetHalf)
  | (.ok (), s) => .done (.ok s.exchanged, s)
  | (.error e, s) => closing e s

def counted (s : TargetHalf) : TargetHalf := { s with exchanged := s.exchanged + 1 }

def showing (shown : Target) (s : TargetHalf) : TargetHalf :=
  { s with device := { s.device with selected := some shown } }

variable (wait : Timeout) (n fuel : Nat) (s : TargetHalf)

def passing (command : Bytes) : Dialogue ChipAndLink (Except Error Nat × TargetHalf) :=
  (Act.steps (passOn wait) fuel command n s).bind ended

def called : Except Error Bytes → Dialogue ChipAndLink (Except Error Nat × TargetHalf)
  | .error e => closing e s
  | .ok command => passing wait n fuel s command

def handed : Except Error Unit → Dialogue ChipAndLink (Except Error Nat × TargetHalf)
  | .error e => closing e s
  | .ok () => .ask (.inl (.receive wait)) (called wait n fuel s.counted)

def replied : Except Error LinkFrame → Dialogue ChipAndLink (Except Error Nat × TargetHalf)
  | .error e => closing e s
  | .ok (.response answer) => .ask (.inl (.send answer wait)) (handed wait n fuel s)
  | .ok .shutdown => .done (.ok s.exchanged, s)
  | .ok other => closing (unexpected other) s

def passed : Except Error Unit → Dialogue ChipAndLink (Except Error Nat × TargetHalf)
  | .error e => closing e s
  | .ok () => .ask (.inr (.recv .forever)) (replied wait n fuel s)

theorem passing_succ (command : Bytes) :
    passing wait n (fuel + 1) s command =
      .ask (.inr (.send (.command command))) (passed wait n fuel s) := by
  unfold passing
  rw [Act.steps_succ]
  refine ask_congr fun (sent : Except Error Unit) => ?_
  cases sent with
  | error e => rfl
  | ok done =>
      refine ask_congr fun (r : Except Error LinkFrame) => ?_
      cases r with
      | error e => rfl
      | ok frame =>
          cases frame with
          | target t => rfl
          | command c => rfl
          | shutdown => rfl
          | response answer =>
              refine ask_congr fun (given : Except Error Unit) => ?_
              cases given with
              | error e => rfl
              | ok done =>
                  refine ask_congr fun (next : Except Error Bytes) => ?_
                  cases next <;> rfl

/-- The half knows what to show to the reader, or that it cannot be shown. -/
def revealed : Except Error Target → Dialogue ChipAndLink (Except Error Nat × TargetHalf)
  | .error e => closing e s
  | .ok shown =>
    .ask (.inl (.arm shown s.device.config.targetTimeout))
      (called s.device.config.targetTimeout n n (s.showing shown))

def introduced : Except Error LinkFrame → Dialogue ChipAndLink (Except Error Nat × TargetHalf)
  | .error e => closing e s
  | .ok (.target real) => revealed n s (emulatedBy s.device.config real)
  | .ok .shutdown => .done (.ok s.exchanged, s)
  | .ok other => closing (unexpected other) s

theorem emulate_bind (real : Target) :
    (emulate real n s).bind ended = revealed n s (emulatedBy s.device.config real) := by
  change ((Act.ofExcept (emulatedBy s.device.config real) >>= fun _ => _ :
    Act ChipAndLink TargetHalf Unit) n s).bind ended = _
  rw [Act.bind_apply, Act.ofExcept_apply]
  cases emulatedBy s.device.config real with
  | error e => rfl
  | ok shown =>
      refine ask_congr fun (first : Except Error Bytes) => ?_
      cases first <;> rfl

theorem run_eq_session : run n s = (session n { s with exchanged := 0 }).bind ended := by
  change ((session n { s with exchanged := 0 }).map _).bind _ = _
  unfold Dialogue.map
  rw [Dialogue.bind_bind]
  congr 1
  funext r
  obtain ⟨outcome, t⟩ := r
  cases outcome with
  | ok done => rfl
  | error e =>
      refine ask_congr fun (told : Except Error Unit) => ?_
      change (if isNormalStop e then _ else _ : Act ChipAndLink TargetHalf Nat) n t = _
      cases isNormalStop e <;> rfl

theorem run_eq :
    run n s = .ask (.inr (.recv .forever)) (introduced n { s with exchanged := 0 }) := by
  rw [run_eq_session]
  refine ask_congr fun (r : Except Error LinkFrame) => ?_
  cases r with
  | error e => rfl
  | ok frame =>
      cases frame with
      | target real => exact emulate_bind n _ real
      | command c => rfl
      | shutdown => rfl
      | response a => rfl

end TargetHalf

end Contactless.Relay
