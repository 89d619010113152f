import Contactless.Proofs.Accounts
import Contactless.Proofs.Emulation.Session

/-! A session over any card and any reader. Each command goes to the card once and in order, its
answer goes out before the next command is waited for, and the first thing that ends the session
ends it at once. -/
namespace Contactless.Emulation

open Act

variable {κ : Type}

/-- The frames that came in, in order. -/
def received (t : List Chip.Event) : List Bytes :=
  t.filterMap fun
    | ⟨.receive _, .ok frame⟩ => some frame
    | _ => none

/-- The frames that were given to the chip to send, in order. -/
def sent (t : List Chip.Event) : List Bytes :=
  t.filterMap fun
    | ⟨.send frame _, _⟩ => some frame
    | _ => none

/-- The frame that a reply has sent. -/
def frameOf : Reply → Option Bytes
  | .answer [] => none
  | .answer (b :: frame) => some (b :: frame)
  | _ => none

/-- A command's answer, and the command that came next. -/
structure Turn where
  answer : Bytes
  next : Bytes

namespace Turn

/-- What is said when a frame is sent; nothing when it is empty. -/
def sending (frame : Bytes) (wait : Timeout) : List Chip.Event :=
  if frame = [] then [] else [⟨.send frame wait, .ok ()⟩]

def said (wait : Timeout) (turn : Turn) : List Chip.Event :=
  sending turn.answer wait ++ [⟨.receive wait, .ok turn.next⟩]

def log (wait : Timeout) (turns : List Turn) : List Chip.Event := turns.flatMap (said wait)

def answers (turns : List Turn) : List Reply := turns.map fun turn => .answer turn.answer

/-- The commands of a session up to one that is not yet answered. -/
def commands (first : Bytes) (turns : List Turn) : List Bytes := first :: turns.map next

end Turn

/-- The stage of a session that is over. -/
def stageAfter : Except Error Exit → Stage
  | .ok _ => .halted
  | .error _ => .failed

/-- How a session ends: by which reply to the last command, with what said after it, to which
outcome and in which stage. -/
inductive Closes (wait : Timeout) : Reply → List Chip.Event → Except Error Exit → Stage → Prop
  | halted : Closes wait .halt [] (.ok .halted) .halted
  | refused (e : Error) : Closes wait (.failure e) [] (.error e) .failed
  | unsent {frame : Bytes} (e : Error) : frame ≠ [] →
      Closes wait (.answer frame) [⟨.send frame wait, .error e⟩] (.error e) .failed
  | released (frame : Bytes) : Closes wait (.answer frame)
      (Turn.sending frame wait ++ [⟨.receive wait, .error .targetReleased⟩]) (.ok .released)
      .halted
  | unheard (frame : Bytes) {e : Error} : e ≠ .targetReleased → Closes wait (.answer frame)
      (Turn.sending frame wait ++ [⟨.receive wait, .error e⟩]) (.error e) .failed

/-- The session after the card has processed a command. -/
def Session.pass (s : Session κ) (card : Card κ) (command : Bytes) (stage : Stage) : Session κ :=
  { s with card := (card command s.card).2, stage, commands := s.commands + 1 }

/-- One command from the card's reply to the next command, or to the end. -/
inductive Steps (card : Card κ) (wait : Timeout) (command : Bytes) (s : Session κ) :
    List Chip.Event → Except Error (Bytes ⊕ Exit) → Session κ → Prop
  | again (turn : Turn) : (card command s.card).1 = .answer turn.answer →
      Steps card wait command s (turn.said wait) (.ok (.inl turn.next))
        (s.pass card command .active)
  | ends {t : List Chip.Event} {r : Except Error Exit} {stage : Stage} :
      Closes wait (card command s.card).1 t r stage →
      Steps card wait command s t (r.map .inr) (s.pass card command stage)

section Turns

variable {card : Card κ} {wait : Timeout} {s : Session κ}

theorem assures_guarded_send (frame : Bytes) : (guarded (Chip.send frame wait)).Assures s
    fun t r s' => t = [⟨.send frame wait, r⟩] ∧
      match r with
      | .ok () => s' = s
      | .error _ => s' = { s with stage := .failed } := by
  rintro n (e | done)
  · exact ⟨rfl, rfl⟩
  · exact ⟨rfl, rfl⟩

theorem assures_nextCommand : (nextCommand wait : Act Chip (Session κ) (Option Bytes)).Assures s
    fun t r s' => ∃ heard : Except Error Bytes, t = [⟨.receive wait, heard⟩] ∧
      match heard with
      | .ok command => r = .ok (some command) ∧ s' = { s with stage := .active }
      | .error .targetReleased => r = .ok none ∧ s' = { s with stage := .halted }
      | .error e => r = .error e ∧ s' = { s with stage := .failed } := by
  rintro n (e | command)
  · cases e <;> exact ⟨_, rfl, rfl, rfl⟩
  · exact ⟨_, rfl, rfl, rfl⟩

theorem assures_process (command : Bytes) : (process card command).Assures s fun t r s' =>
    t = [] ∧ r = .ok (card command s.card).1 ∧ s' = s.pass card command .receivedCommand :=
  assures_modifyGet ⟨rfl, rfl, rfl⟩

/-- What a session comes to that has sent its answer. -/
theorem assures_listening {command frame : Bytes}
    (replied : (card command s.card).1 = .answer frame) (stage : Stage) :
    (enter .dispatchedResponse >>= fun _ => nextCommand wait >>= fun heard =>
      match heard with
      | some command => pure (.inl command)
      | none => pure (.inr .released) : Act Chip (Session κ) (Bytes ⊕ Exit)).Assures
        (s.pass card command stage)
        fun t => Steps card wait command s (Turn.sending frame wait ++ t) := by
  refine assures_modify_bind (assures_nextCommand.bind ?_ ?_)
  · rintro _ heard s' ⟨answer, rfl, came⟩
    cases answer with
    | ok next =>
        obtain ⟨⟨⟩, rfl⟩ := came
        exact assures_pure (.again ⟨frame, next⟩ replied)
    | error e =>
        -- Of all that may go wrong while it listens, only a release is no failure.
        cases e
        case targetReleased =>
          obtain ⟨⟨⟩, rfl⟩ := came
          exact assures_pure (.ends (replied ▸ Closes.released frame))
        all_goals cases came.1
  · rintro _ e s' ⟨answer, rfl, came⟩
    cases answer with
    | ok next => cases came.1
    | error e =>
        cases e
        case targetReleased => cases came.1
        all_goals
          obtain ⟨⟨⟩, rfl⟩ := came
          exact .ends (r := .error _) (replied ▸ Closes.unheard frame nofun)

theorem assures_step (card : Card κ) (wait : Timeout) (command : Bytes) (s : Session κ) :
    (step card wait command).Assures s (Steps card wait command s) := by
  refine (assures_process command).bind ?_ ?_
  · rintro _ reply _ ⟨rfl, replied, rfl⟩
    replace replied := (Except.ok.inj replied).symm
    cases reply with
    | answer frame =>
        cases frame with
        | nil => exact assures_listening replied _
        | cons b frame =>
            refine (assures_guarded_send (b :: frame)).bind ?_ ?_
            · rintro _ ⟨⟩ _ ⟨rfl, rfl⟩
              exact assures_listening replied _
            · rintro _ e _ ⟨rfl, rfl⟩
              exact .ends (r := .error e) (replied ▸ Closes.unsent e (List.cons_ne_nil _ _))
    | halt => exact assures_modify_bind (assures_pure (.ends (replied ▸ Closes.halted)))
    | failure e => exact assures_modify_bind (assures_throw (.ends (replied ▸ Closes.refused e)))
  · rintro _ e _ ⟨-, ⟨⟩, -⟩

end Turns

section Sessions

variable {card : Card κ} {wait : Timeout} {t u : List Chip.Event} {turns : List Turn}

@[simp] theorem received_append : received (t ++ u) = received t ++ received u :=
  List.filterMap_append

@[simp] theorem sent_append : sent (t ++ u) = sent t ++ sent u := List.filterMap_append

theorem received_sending (frame : Bytes) : received (Turn.sending frame wait) = [] := by
  unfold Turn.sending
  split <;> rfl

theorem sent_sending (frame : Bytes) :
    sent (Turn.sending frame wait) = (frameOf (.answer frame)).toList := by
  cases frame <;> rfl

theorem received_log : received (Turn.log wait turns) = turns.map Turn.next := by
  induction turns with
  | nil => rfl
  | cons turn turns ih =>
      change received (Turn.sending _ wait ++ [_] ++ Turn.log wait turns) = _
      rw [received_append, received_append, received_sending, ih]
      rfl

theorem sent_log : sent (Turn.log wait turns) = (Turn.answers turns).filterMap frameOf := by
  induction turns with
  | nil => rfl
  | cons turn turns ih =>
      change sent (Turn.sending _ wait ++ [_] ++ Turn.log wait turns) = _
      rw [sent_append, sent_append, sent_sending, ih]
      change _ ++ [] ++ _ = (Reply.answer turn.answer :: Turn.answers turns).filterMap frameOf
      rw [List.append_nil, List.filterMap_cons]
      cases frameOf (.answer turn.answer) <;> rfl

/-- How a session ends that has gone through turns to a last command. -/
structure Ended (card : Card κ) (wait : Timeout) (first : Bytes) (s : Session κ)
    (turns : List Turn) (t : List Chip.Event) (r : Except Error Exit) (s' : Session κ) : Prop where
  closes : ∃ final last, t = Turn.log wait turns ++ last ∧ Closes wait final last r s'.stage ∧
    card.replies s.card (Turn.commands first turns) = Turn.answers turns ++ [final]
  processed : s'.card = card.after s.card (Turn.commands first turns)
  counted : s'.commands = s.commands + (Turn.commands first turns).length
  kept : s'.device = s.device ∧ s'.target = s.target

theorem Steps.closes {command : Bytes} {s s' : Session κ} {r : Except Error Exit}
    (steps : Steps card wait command s t (r.map .inr) s') :
    ∃ stage, Closes wait (card command s.card).1 t r stage ∧ s' = s.pass card command stage := by
  generalize came : r.map Sum.inr = outcome at steps
  cases steps with
  | again turn replied => cases r <;> cases came
  | @ends _ r' stage closes =>
      obtain rfl : r = r' := by cases r <;> cases r' <;> cases came <;> rfl
      exact ⟨stage, closes, rfl⟩

theorem Steps.turn {command next : Bytes} {s s' : Session κ}
    (steps : Steps card wait command s t (.ok (.inl next)) s') :
    ∃ answer, (card command s.card).1 = .answer answer ∧ t = Turn.said wait ⟨answer, next⟩ ∧
      s' = s.pass card command .active := by
  generalize came : Except.ok (Sum.inl next) = outcome at steps
  cases steps with
  | again turn replied =>
      cases came
      exact ⟨turn.answer, replied, rfl, rfl⟩
  | @ends _ r' stage closes => cases r' <;> cases came

theorem Closes.ended {first : Bytes} {s : Session κ} {r : Except Error Exit} {stage : Stage}
    (closes : Closes wait (card first s.card).1 t r stage) :
    Ended card wait first s [] t r (s.pass card first stage) where
  closes := ⟨_, t, rfl, closes, rfl⟩
  processed := rfl
  counted := rfl
  kept := ⟨rfl, rfl⟩

/-- A turn goes before those that follow it. -/
theorem Ended.turn {first next answer : Bytes} {s s' : Session κ} {r : Except Error Exit}
    (replied : (card first s.card).1 = .answer answer)
    (ended : Ended card wait next (s.pass card first .active) turns t r s') :
    Ended card wait first s (⟨answer, next⟩ :: turns) (Turn.said wait ⟨answer, next⟩ ++ t) r
      s' := by
  obtain ⟨⟨final, last, rfl, closes, replies⟩, processed, counted, kept⟩ := ended
  refine ⟨⟨final, last, ?_, closes, ?_⟩, processed, ?_, kept⟩
  · change _ = Turn.said wait _ ++ Turn.log wait turns ++ last
    rw [List.append_assoc]
  · change (card first s.card).1 :: card.replies (card first s.card).2
      (Turn.commands next turns) = _
    rw [replied]
    exact congrArg (Reply.answer answer :: ·) replies
  · rw [counted]
    change s.commands + 1 + (Turn.commands next turns).length = s.commands + (_ + 1)
    rw [Nat.add_right_comm, Nat.add_assoc]
    rfl

theorem ended_of_loops {first : Bytes} {s s' : Session κ} {r : Except Error Exit}
    (loops : Loops (Steps card wait) first s t r s') :
    ∃ turns, Ended card wait first s turns t r s' := by
  -- Each step that goes on is a turn, and the one that does not closes the session.
  induction loops with
  | failed steps =>
      obtain ⟨stage, closes, rfl⟩ := Steps.closes (r := .error _) steps
      exact ⟨[], closes.ended⟩
  | ended steps =>
      obtain ⟨stage, closes, rfl⟩ := Steps.closes (r := .ok _) steps
      exact ⟨[], closes.ended⟩
  | again steps _ ih =>
      obtain ⟨answer, replied, rfl, rfl⟩ := steps.turn
      obtain ⟨turns, ended⟩ := ih
      exact ⟨_, ended.turn replied⟩

theorem underway_of_continues {k : Nat} {first command : Bytes} {s s' : Session κ}
    (continues : Continues (Steps card wait) k first s t command s') :
    ∃ turns, turns.length = k ∧ t = Turn.log wait turns ∧
      card.replies s.card (Turn.commands first turns).dropLast = Turn.answers turns := by
  induction continues with
  | start first s => exact ⟨[], rfl, rfl, rfl⟩
  | again steps _ ih =>
      obtain ⟨answer, replied, rfl, rfl⟩ := steps.turn
      obtain ⟨turns, rfl, rfl, replies⟩ := ih
      refine ⟨⟨answer, _⟩ :: turns, rfl, rfl, ?_⟩
      change (card _ _).1 :: card.replies _ (Turn.commands _ turns).dropLast = _
      rw [replied]
      exact congrArg (Reply.answer answer :: ·) replies

end Sessions

section Ends

variable {wait : Timeout} {last : List Chip.Event} {final : Reply} {r : Except Error Exit}
  {reached : Stage} {e : Error}

theorem failure_sending {frame : Bytes} {event : Chip.Event}
    (member : event ∈ Turn.sending frame wait) : Chip.Event.failure event = none := by
  unfold Turn.sending at member
  split at member
  · cases member
  · rw [List.mem_singleton.mp member]
    rfl

theorem failure_log {turns : List Turn} {event : Chip.Event}
    (member : event ∈ Turn.log wait turns) : Chip.Event.failure event = none := by
  obtain ⟨turn, -, member⟩ := List.mem_flatMap.mp member
  rcases List.mem_append.mp member with member | member
  · exact failure_sending member
  · rw [List.mem_singleton.mp member]
    rfl

theorem answers_answer {turns : List Turn} {reply : Reply} (member : reply ∈ Turn.answers turns) :
    ∃ frame, reply = .answer frame := by
  obtain ⟨turn, -, rfl⟩ := List.mem_map.mp member
  exact ⟨turn.answer, rfl⟩

theorem Closes.received (closes : Closes wait final last r reached) : received last = [] := by
  cases closes with
  | halted | refused | unsent => rfl
  | released frame | unheard frame => rw [received_append, received_sending]; rfl

theorem Closes.sent (closes : Closes wait final last r reached) :
    sent last = (frameOf final).toList := by
  cases closes with
  | halted | refused => rfl
  | @unsent frame e some =>
      cases frame with
      | nil => exact absurd rfl some
      | cons b frame => rfl
  | released frame | unheard frame =>
      rw [sent_append, sent_sending]
      exact List.append_nil _

theorem Closes.stage (closes : Closes wait final last r reached) :
    reached = stageAfter r := by
  cases closes <;> rfl

theorem Closes.halts_iff (closes : Closes wait final last r reached) :
    r = .ok .halted ↔ final = .halt := by
  cases closes <;> simp

/-- Once an answer is out, only what is heard next can be a failure. -/
theorem mem_closing {frame : Bytes} {event : Chip.Event} {heard : Except Error Bytes}
    (failed : Chip.Event.failure event = some e) :
    event ∈ Turn.sending frame wait ++ [⟨.receive wait, heard⟩] ↔
      event = ⟨.receive wait, heard⟩ := by
  refine ⟨fun member => ?_, fun same => List.mem_append_right _ (List.mem_singleton.mpr same)⟩
  rcases List.mem_append.mp member with member | member
  · rw [failure_sending member] at failed
    cases failed
  · exact List.mem_singleton.mp member

theorem unheard_mem_closing {frame : Bytes} {e' : Error} :
    ⟨.receive wait, .error e⟩ ∈ Turn.sending frame wait ++ [⟨.receive wait, .error e'⟩] ↔
      e = e' := by
  rw [mem_closing rfl]
  refine ⟨fun same => ?_, fun same => same ▸ rfl⟩
  cases same
  rfl

theorem Closes.releases_iff (closes : Closes wait final last r reached) :
    r = .ok .released ↔ ⟨.receive wait, .error .targetReleased⟩ ∈ last := by
  cases closes with
  | halted | refused | unsent => simp
  | released frame => exact ⟨fun _ => unheard_mem_closing.mpr rfl, fun _ => rfl⟩
  | unheard frame other =>
      exact ⟨nofun, fun member => absurd (unheard_mem_closing.mp member).symm other⟩

theorem Closes.fails_iff (closes : Closes wait final last r reached) :
    r = .error e ↔ final = .failure e ∨ (∃ frame, ⟨.send frame wait, .error e⟩ ∈ last) ∨
      e ≠ .targetReleased ∧ ⟨.receive wait, .error e⟩ ∈ last := by
  cases closes with
  | halted | refused => simp
  | unsent => simp [eq_comm]
  | released frame =>
      refine ⟨nofun, ?_⟩
      rintro (⟨⟨⟩⟩ | ⟨sent, member⟩ | ⟨other, member⟩)
      · cases (mem_closing rfl).mp member
      · exact absurd (unheard_mem_closing.mp member) other
  | unheard frame other =>
      constructor
      · rintro ⟨⟩
        exact .inr (.inr ⟨other, unheard_mem_closing.mpr rfl⟩)
      · rintro (⟨⟨⟩⟩ | ⟨sent, member⟩ | ⟨-, member⟩)
        · cases (mem_closing rfl).mp member
        · rw [unheard_mem_closing.mp member]

theorem mem_replies {turns : List Turn} {reply : Reply} (other : ∀ frame, reply ≠ .answer frame) :
    reply ∈ Turn.answers turns ++ [final] ↔ final = reply := by
  refine ⟨fun member => ?_, fun same => same ▸ List.mem_append_right _ List.mem_cons_self⟩
  rcases List.mem_append.mp member with member | member
  · obtain ⟨frame, same⟩ := answers_answer member
    exact absurd same (other frame)
  · exact (List.mem_singleton.mp member).symm

theorem mem_log {turns : List Turn} {event : Chip.Event}
    (failed : Chip.Event.failure event = some e) :
    event ∈ Turn.log wait turns ++ last ↔ event ∈ last := by
  refine ⟨fun member => ?_, List.mem_append_right _⟩
  rcases List.mem_append.mp member with member | member
  · rw [failure_log member] at failed
    cases failed
  · exact member

end Ends

variable {card : Card κ} {first : Bytes} {wait : Timeout} {s : Session κ}

/-- What a session has done that has come to an end, told from the frames that came in. -/
structure Dispatched (card : Card κ) (first : Bytes) (wait : Timeout) (s : Session κ)
    (t : List Chip.Event) (r : Except Error Exit) (s' : Session κ) : Prop where
  /-- Each command but the last is answered, and the next one is waited for only then. -/
  ordered : ∃ turns final last, t = Turn.log wait turns ++ last ∧
    Closes wait final last r s'.stage ∧ first :: received t = Turn.commands first turns ∧
    card.replies s.card (first :: received t) = Turn.answers turns ++ [final]
  sends : sent t = (card.replies s.card (first :: received t)).filterMap frameOf
  /-- The card has processed the first command and every frame that came in, and no others. -/
  processed : s'.card = card.after s.card (first :: received t)
  counted : s'.commands = s.commands + (first :: received t).length
  halts : r = .ok .halted ↔ .halt ∈ card.replies s.card (first :: received t)
  releases : r = .ok .released ↔ ⟨.receive wait, .error .targetReleased⟩ ∈ t
  fails (e : Error) : r = .error e ↔ .failure e ∈ card.replies s.card (first :: received t) ∨
    (∃ frame, ⟨.send frame wait, .error e⟩ ∈ t) ∨
      e ≠ .targetReleased ∧ ⟨.receive wait, .error e⟩ ∈ t
  stage : s'.stage = stageAfter r
  kept : s'.device = s.device ∧ s'.target = s.target

theorem Ended.dispatched {turns : List Turn} {t : List Chip.Event} {r : Except Error Exit}
    {s' : Session κ} (ended : Ended card wait first s turns t r s') :
    Dispatched card first wait s t r s' := by
  obtain ⟨⟨final, last, rfl, closes, replies⟩, processed, counted, kept⟩ := ended
  have commands : first :: received (Turn.log wait turns ++ last) =
      Turn.commands first turns := by
    rw [received_append, received_log, closes.received, List.append_nil]
    rfl
  refine ⟨⟨turns, final, last, rfl, closes, commands, ?_⟩, ?_, ?_, ?_, ?_, ?_, fun e => ?_,
    closes.stage, kept⟩
  · rw [commands, replies]
  · rw [commands, replies, sent_append, sent_log, closes.sent, List.filterMap_append]
    cases final with
    | answer frame => cases frame <;> rfl
    | halt | failure => rfl
  · rw [commands, processed]
  · rw [commands, counted]
  · have halt : .halt ∈ Turn.answers turns ++ [final] ↔ final = .halt := mem_replies fun _ => nofun
    rw [commands, replies, halt]
    exact closes.halts_iff
  · rw [mem_log rfl]
    exact closes.releases_iff
  · have failure : .failure e ∈ Turn.answers turns ++ [final] ↔ final = .failure e :=
      mem_replies fun _ => nofun
    have unsent (frame : Bytes) : ⟨.send frame wait, .error e⟩ ∈ Turn.log wait turns ++ last ↔
        ⟨.send frame wait, .error e⟩ ∈ last := mem_log rfl
    rw [commands, replies, failure, mem_log rfl]
    simp only [unsent]
    exact closes.fails_iff

/-- A session over any card, whatever it hears, comes to what it dispatched, or has answered as many
commands as its horizon allows, each one before the next was waited for. -/
theorem run_dispatched (card : Card κ) (first : Bytes) (wait : Timeout) (s : Session κ) (n : Nat) :
    (run card first wait n s).Accounts (fun t r => Dispatched card first wait s t r.1 r.2)
      fun t => ∃ turns, turns.length = n ∧ t = Turn.log wait turns ∧
        first :: received t = Turn.commands first turns ∧
        card.replies s.card (first :: received t).dropLast = Turn.answers turns := by
  refine (Assures.loop (assures_step card wait) first s n).mono ?_ ?_
  · intro t r loops
    obtain ⟨turns, ended⟩ := ended_of_loops loops
    exact ended.dispatched
  · rintro t ⟨command, s', continues⟩
    obtain ⟨turns, rfl, rfl, replies⟩ := underway_of_continues continues
    have commands : first :: received (Turn.log wait turns) = Turn.commands first turns :=
      congrArg (first :: ·) received_log
    exact ⟨turns, rfl, rfl, commands, commands ▸ replies⟩

end Contactless.Emulation
