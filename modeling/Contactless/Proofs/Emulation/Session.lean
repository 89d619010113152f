import Contactless.Emulation
import Contactless.Proofs.Act

/-! What an emulated tag asks of its chip, call by call, while its card has an answer to every
command. -/
namespace Contactless

namespace Card

variable {κ : Type}

/-- The card after commands, whatever it replied to them. -/
def after (card : Card κ) (k : κ) (commands : List Bytes) : κ :=
  commands.foldl (fun k command => (card command k).2) k

/-- What the card replies to commands one after the other. -/
def replies (card : Card κ) : κ → List Bytes → List Reply
  | _, [] => []
  | k, command :: rest => (card command k).1 :: replies card (card command k).2 rest

theorem after_append (card : Card κ) (k : κ) (commands more : List Bytes) :
    card.after k (commands ++ more) = card.after (card.after k commands) more := List.foldl_append

end Card

namespace Emulation

variable {κ : Type} {card : Card κ} {wait : Timeout} {n fuel : Nat} {s : Session κ}

/-- The rest of a session that has received a command. -/
def serving (card : Card κ) (wait : Timeout) (n fuel : Nat) (s : Session κ) (command : Bytes) :
    Dialogue Chip (Except Error Exit × Session κ) :=
  Act.steps (step card wait) fuel command n s

theorem emulate_eq (card : Card κ) (wait : Timeout) (n : Nat) (s : Session κ) :
    ∃ hearing s', emulate card wait n s = .ask (.arm s.target wait) hearing ∧ s'.card = s.card ∧
      (∀ command, hearing (.ok command) = serving card wait n n s' command) ∧
      ∃ ended, hearing (.error .timeout) = .done ended :=
  ⟨_, { s with stage := .active, device := { s.device with selected := some s.target } }, rfl, rfl,
    fun _ => rfl, _, rfl⟩

variable (wait n fuel) in
theorem serving_eq {command reply : Bytes} {next : κ}
    (answers : card command s.card = (.answer reply, next)) (given : reply ≠ []) :
    ∃ hearing, serving card wait n (fuel + 1) s command = .ask (.send reply wait) hearing ∧
      ∃ listening s', hearing (.ok ()) = .ask (.receive wait) listening ∧ s'.card = next ∧
        (∀ command, listening (.ok command) = serving card wait n fuel s' command) ∧
        ∃ ended, listening (.error .timeout) = .done ended := by
  have processed : process card command n s = .done (.ok (.answer reply),
      { s with card := next, stage := .receivedCommand, commands := s.commands + 1 }) := by
    change Dialogue.done (Except.ok (card command s.card).1, { s with
      card := (card command s.card).2, stage := .receivedCommand, commands := s.commands + 1 }) = _
    rw [answers]
  unfold serving
  rw [Act.steps_succ]
  unfold step
  rw [Act.bind_apply, processed, Dialogue.bind_done_left, Act.resume_ok]
  match reply, given with
  | first :: rest, _ =>
    exact ⟨_, rfl, _, { s with card := next, stage := .active, commands := s.commands + 1 }, rfl,
      rfl, fun _ => rfl, _, rfl⟩

end Emulation

end Contactless
