import Contactless.Loopback.Schedule

/-! Two programs at the ends of a simulated field, which go on in any order, and what can be seen of
their goes. Whatever a program is and wherever it stands, one go changes the field in one of a few
ways. -/
namespace Contactless.Loopback

/-- What happens to frames between the hosts, and to exchanges of the initiator. -/
inductive Event where
  /-- The initiator begins to exchange a frame. -/
  | started
  /-- Its frame is given to the host of the target end. -/
  | forwarded (frame : Bytes)
  /-- The exchange ends with a reply of that host, as the initiator sees it. -/
  | returned (reply : Bytes) (seen : BitFrame)
  /-- The exchange ends without one. -/
  | settled (result : Except Error BitFrame)
  | armed
  | idled
  | sent (reply : Bytes)
  | received (frame : Bytes)

namespace Event

/-- What a call is, as it begins. -/
def ofCall (p : Pair) : Role → Chip.Call → Option Event
  | .initiator, .bits .. | .initiator, .bytes .. => some started
  | .target, .arm .. => some armed
  | .target, .idle => some idled
  | .target, .send reply wait =>
    match p.begin .target (.send reply wait) with
    | .settled (.ok ()) _ => some (sent reply)
    | _ => none
  | _, _ => none

/-- What a look at a pair is that came to something, or was the last one before a deadline. -/
def ofLook (p : Pair) : Wait → Look × Pair → Option Event
  | .presence .., (.forwarded _, next) => some (forwarded (next.field.toTarget.getLastD []))
  | .presence .., (.found result, _) => some (settled result)
  | .presence .., (.nothing, _) => some (settled (.error .timeout))
  | .reply, (.found (.ok seen), _) => some (returned (p.field.toInitiator.headD []) seen)
  | .reply, (.found (.error e), _) => some (settled (.error e))
  | .reply, (_, _) => some (settled (.error .rfTimeout))
  | .frame, (.found (.ok frame), _) => some (received frame.data)
  | _, _ => none

end Event

/-- What the next go of a program is. -/
def Thread.event {α : Type} (role : Role) (p : Pair) : Thread α → Option Event
  | running (.ask (.inl call) _) => Event.ofCall p role call
  | blocked w _ _ => Event.ofLook p w (p.look role w)
  | _ => none

theorem event_blocked {α : Type} (role : Role) (p : Pair) (w : Wait) (deadline : Option Nat)
    (resume : Except Error BitFrame → Dialogue Terminal α) :
    (Thread.blocked w deadline resume).event role p = Event.ofLook p w (p.look role w) := rfl

/-- What one go of a program comes to, by where it stands. -/
inductive Thread.Go {α : Type} (role : Role) (now : Nat) (p : Pair) :
    Thread α → Thread α → Pair → Prop
  | done (a : α) : Go role now p (running (.done a)) (finished (some a)) p
  | cut : Go role now p (running .cut) (finished none) p
  | signal (next : Unit → Dialogue Terminal α) :
      Go role now p (running (.ask (.inr ()) next)) (running (next ())) (p.abort role.other)
  | settled {call : Chip.Call} {next : call.Answer → Dialogue Terminal α} {answer : call.Answer}
      {p' : Pair} : p.begin role call = .settled answer p' →
      Go role now p (running (.ask (.inl call) next)) (running (next answer)) p'
  | waits {call : Chip.Call} {next : call.Answer → Dialogue Terminal α} {w : Wait}
      {timeout : Timeout} {finish : Except Error BitFrame → call.Answer} {p' : Pair} :
      p.begin role call = .wait w timeout finish p' →
      Go role now p (running (.ask (.inl call) next))
        (blocked w (deadlineOf now timeout) fun r => next (finish r)) p'
  | found {w : Wait} {deadline : Option Nat}
      {resume : Except Error BitFrame → Dialogue Terminal α} {result : Except Error BitFrame}
      {p' : Pair} : p.look role w = (.found result, p') →
      Go role now p (blocked w deadline resume) (running (resume result)) p'
  | forwarded {w : Wait} {deadline : Option Nat}
      {resume : Except Error BitFrame → Dialogue Terminal α} {again : Timeout} {p' : Pair} :
      p.look role w = (.forwarded again, p') →
      Go role now p (blocked w deadline resume) (blocked .reply (deadlineOf now again) resume) p'
  | expired {w : Wait} {deadline : Option Nat}
      {resume : Except Error BitFrame → Dialogue Terminal α} {p' : Pair} :
      p.look role w = (.nothing, p') → Thread.expired now deadline →
      Go role now p (blocked w deadline resume) (running (resume w.expiry)) p'

theorem Thread.go_of_step {α : Type} {role : Role} {now : Nat} {p p' : Pair} {t t' : Thread α}
    (steps : t.step role now p = some (t', p')) : Go role now p t t' p' := by
  cases t with
  | finished result => cases steps
  | running d =>
      cases d with
      | done a =>
          cases steps
          exact .done a
      | cut =>
          cases steps
          exact .cut
      | ask q next =>
          cases q with
          | inr signal =>
              cases steps
              exact .signal next
          | inl call =>
              unfold step at steps
              dsimp only at steps
              cases begins : p.begin role call with
              | settled answer after =>
                  rw [begins] at steps
                  cases steps
                  exact .settled begins
              | wait w timeout finish after =>
                  rw [begins] at steps
                  cases steps
                  exact .waits begins
  | blocked w deadline resume =>
      unfold step at steps
      dsimp only at steps
      cases looks : p.look role w with
      | mk seen after =>
          rw [looks] at steps
          cases seen with
          | found result =>
              cases steps
              exact .found looks
          | forwarded again =>
              cases steps
              exact .forwarded looks
          | nothing =>
              dsimp only at steps
              by_cases late : Thread.expired now deadline
              · rw [if_pos late] at steps
                cases steps
                exact .expired looks late
              · rw [if_neg late] at steps
                cases steps

/-- Two programs and the chips between them. -/
structure Play (α β : Type) where
  initiator : Thread α
  target : Thread β
  pair : Pair

namespace Play

variable {α β : Type}

/-- Both programs before they begin, with nobody in the field. -/
def start (initiator : Dialogue Terminal α) (target : Dialogue Terminal β) : Play α β :=
  ⟨.running initiator, .running target, {}⟩

/-- One of the programs goes on, at a time at which it may. -/
inductive Move (times : Nat → Prop) : Play α β → Option Event → Play α β → Prop
  | initiator {s : Play α β} {n : Nat} {t : Thread α} {p : Pair} : times n →
      s.initiator.step .initiator n s.pair = some (t, p) →
      Move times s (s.initiator.event .initiator s.pair) ⟨t, s.target, p⟩
  | target {s : Play α β} {n : Nat} {t : Thread β} {p : Pair} : times n →
      s.target.step .target n s.pair = some (t, p) →
      Move times s (s.target.event .target s.pair) ⟨s.initiator, t, p⟩

/-- Moves in any order and at any time, with abort requests from outside in between. A deadline
may pass whenever its wait finds nothing. -/
inductive Run : Play α β → List Event → Play α β → Prop
  | nil (s : Play α β) : Run s [] s
  | move {s s' s'' : Play α β} {log : List Event} {e : Option Event} :
      Run s log s' → Move (fun _ => True) s' e s'' → Run s (log ++ e.toList) s''
  | abort {s s' : Play α β} {log : List Event} (role : Role) :
      Run s log s' → Run s log { s' with pair := s'.pair.abort role }

theorem Run.trans {s s' s'' : Play α β} {log more : List Event} (first : Run s log s')
    (later : Run s' more s'') : Run s (log ++ more) s'' := by
  induction later with
  | nil => rwa [List.append_nil]
  | move _ move ih =>
      rw [← List.append_assoc]
      exact ih.move move
  | abort role _ ih => exact ih.abort role

end Play

section Schedules

variable {α β : Type}

def Schedule.play (s : Schedule α β) : Play α β := ⟨s.initiator, s.target, s.pair⟩

/-- A step of a schedule is a move, or passes the turn or the time. -/
theorem Schedule.move_of_step {s s' : Schedule α β} (steps : s.step = some s') :
    s'.play = s.play ∨ ∃ e, Play.Move (fun _ => True) s.play e s'.play := by
  unfold Schedule.step at steps
  cases goes : s.proceed with
  | some after =>
      rw [goes] at steps
      cases steps
      unfold Schedule.proceed at goes
      cases turn : s.turn with
      | initiator =>
          rw [turn] at goes
          obtain ⟨⟨t, p⟩, went, rfl⟩ := Option.map_eq_some_iff.mp goes
          exact .inr ⟨_, .initiator trivial went⟩
      | target =>
          rw [turn] at goes
          obtain ⟨⟨t, p⟩, went, rfl⟩ := Option.map_eq_some_iff.mp goes
          exact .inr ⟨_, .target trivial went⟩
  | none =>
      rw [goes] at steps
      dsimp only at steps
      by_cases stuck : s.otherStuck
      · rw [if_pos stuck] at steps
        obtain ⟨moment, _, rfl⟩ := Option.map_eq_some_iff.mp steps
        exact .inl rfl
      · rw [if_neg stuck] at steps
        cases steps
        exact .inl rfl

/-- What a schedule does is one of the runs. -/
theorem Schedule.exists_run (fuel : Nat) (s : Schedule α β) :
    ∃ log, Play.Run s.play log (s.run fuel).play := by
  induction fuel generalizing s with
  | zero => exact ⟨[], .nil _⟩
  | succ fuel ih =>
      unfold Schedule.run
      cases steps : s.step with
      | none => exact ⟨[], .nil _⟩
      | some s' =>
          obtain ⟨log, later⟩ := ih s'
          rcases Schedule.move_of_step steps with same | ⟨e, move⟩
          · exact ⟨log, same ▸ later⟩
          · exact ⟨_, ((Play.Run.nil _).move move).trans later⟩

end Schedules

section Changes

/-- The call by which the target end came to be present as it is. -/
def Presence.origin : Presence → Option Event
  | .absent => none
  | .armed _ => some .armed
  | .idle => some .idled

/-- Nothing happens to a frame between the hosts. -/
def Event.Aside : Event → Prop
  | started | settled _ => True
  | _ => False

/-- All that one go can do to the field. -/
inductive Change : Field → Option Event → Field → Prop
  | aside {f f' : Field} {e : Option Event} (aside : ∀ x ∈ e, x.Aside)
      (origin : f'.presence.origin = f.presence.origin) (toTarget : f'.toTarget = f.toTarget)
      (toInitiator : f'.toInitiator = f.toInitiator) : Change f e f'
  | forwarded (a a' : Armed) (frame : Bytes) (frames replies : List Bytes) :
      Change ⟨.armed a, frames, replies⟩ (some (.forwarded frame))
        ⟨.armed a', frames ++ [frame], []⟩
  | returned (a : Armed) (reply : Bytes) (crc : Bool) (frames replies : List Bytes) :
      Change ⟨.armed a, frames, reply :: replies⟩
        (some (.returned reply (delivered crc reply))) ⟨.armed a, frames, replies⟩
  | received (a : Armed) (frame : Bytes) (frames replies : List Bytes) :
      Change ⟨.armed a, frame :: frames, replies⟩ (some (.received frame))
        ⟨.armed a, frames, replies⟩
  | sent (a : Armed) (reply : Bytes) (frames replies : List Bytes) :
      Change ⟨.armed a, frames, replies⟩ (some (.sent reply))
        ⟨.armed a, frames, replies ++ [reply]⟩
  | armed (f : Field) (target : Target) : Change f (some .armed) (f.arm target)
  | idled (f : Field) : Change f (some .idled) f.idle

variable {p p' : Pair} {role : Role}

theorem Change.same (f : Field) : Change f none f := .aside nofun rfl rfl rfl

theorem Change.quiet {f f' : Field} {e : Event} (aside : e.Aside)
    (origin : f'.presence.origin = f.presence.origin) (toTarget : f'.toTarget = f.toTarget)
    (toInitiator : f'.toInitiator = f.toInitiator) : Change f (some e) f' := by
  refine .aside ?_ origin toTarget toInitiator
  rintro _ ⟨⟩
  exact aside

@[simp] theorem field_set (p : Pair) (role : Role) (e : End) : (p.set role e).field = p.field := by
  cases role <;> rfl

/-- A look with no abort request pending. -/
theorem change_peek (p : Pair) (role : Role) (w : Wait) :
    Change p.field (Event.ofLook p w (p.peek role w)) (p.peek role w).2.field := by
  obtain ⟨⟨presence, toTarget, toInitiator⟩, initiator, target⟩ := p
  cases w with
  | presence frame again =>
      cases presence with
      | absent => exact .quiet trivial rfl rfl rfl
      | idle => exact .quiet trivial rfl rfl rfl
      | armed a =>
          unfold Pair.peek Field.offer
          dsimp only
          obtain ⟨reaction, a'⟩ := a.react frame _
          cases reaction with
          | forward bytes =>
              have last : (toTarget ++ [bytes]).getLastD [] = bytes := by simp
              dsimp only [Event.ofLook]
              rw [last]
              exact .forwarded a a' bytes toTarget toInitiator
          | _ => exact .quiet trivial rfl rfl rfl
  | reply =>
      cases presence with
      | armed a =>
          cases toInitiator with
          | nil => exact .quiet trivial rfl rfl rfl
          | cons reply replies => exact .returned a reply _ toTarget replies
      | _ => exact .quiet trivial rfl rfl rfl
  | frame =>
      cases presence with
      | armed a =>
          cases toTarget with
          | nil => exact .same _
          | cons frame frames => exact .received a frame frames toInitiator
      | _ => exact .same _
  | pause => exact .same _

theorem change_look (p : Pair) (role : Role) (w : Wait) :
    Change p.field (Event.ofLook p w (p.look role w)) (p.look role w).2.field := by
  unfold Pair.look
  by_cases aborted : (p.ofRole role).aborted
  · rw [if_pos aborted]
    have kept : (p.clearAbort role).field = p.field := field_set _ _ _
    cases w with
    | presence | reply => exact .quiet trivial (by rw [kept]) (by rw [kept]) (by rw [kept])
    | frame | pause =>
        rw [kept]
        exact .same _
  · rw [if_neg aborted]
    exact change_peek p role w

/-- The pair that a call leaves as it begins. -/
def Start.next {γ : Type} : Start γ → Pair
  | settled _ next | wait _ _ _ next => next

theorem field_configure (p : Pair) (role : Role) (switch : Switch) (on : Bool) :
    (p.begin role (.configure switch on)).next.field = p.field := by
  change (if switch = .handleCrc then p.set role _ else p).field = p.field
  split
  · exact field_set _ _ _
  · rfl

theorem begin_send (p : Pair) (reply : Bytes) (wait : Timeout) :
    p.begin .target (.send reply wait) =
      if p.target.aborted then .settled (.error .aborted) (p.clearAbort .target)
      else .settled (p.field.putReply reply).1 { p with field := (p.field.putReply reply).2 } :=
  rfl

theorem change_begin (p : Pair) (role : Role) (call : Chip.Call) :
    Change p.field (Event.ofCall p role call) (p.begin role call).next.field := by
  cases role with
  | initiator =>
      cases call with
      | bits | bytes => exact .quiet trivial rfl rfl rfl
      | configure switch on =>
          rw [field_configure]
          exact .same _
      | _ => exact .same _
  | target =>
      cases call with
      | configure switch on =>
          rw [field_configure]
          exact .same _
      | arm target wait => exact .armed p.field target
      | idle => exact .idled p.field
      | send reply wait =>
          dsimp only [Event.ofCall]
          rw [begin_send]
          by_cases aborted : p.target.aborted
          · rw [if_pos aborted]
            exact .same _
          · rw [if_neg aborted]
            obtain ⟨⟨presence, toTarget, toInitiator⟩, initiator, target⟩ := p
            cases presence with
            | armed a => exact .sent a reply toTarget toInitiator
            | _ => exact .same _
      | _ => exact .same _

/-- One go of any program, at any time, changes the field as its event tells. -/
theorem change_step {γ : Type} {t t' : Thread γ} {now : Nat}
    (steps : t.step role now p = some (t', p')) : Change p.field (t.event role p) p'.field := by
  have called {call : Chip.Call} {next : call.Answer → Dialogue Terminal γ} {s : Start call.Answer}
      (begins : p.begin role call = s) :
      Change p.field ((Thread.running (.ask (.inl call) next)).event role p) s.next.field :=
    begins ▸ change_begin p role call
  have looked {w : Wait} {deadline : Option Nat}
      {resume : Except Error BitFrame → Dialogue Terminal γ} {l : Look} {after : Pair}
      (looks : p.look role w = (l, after)) :
      Change p.field ((Thread.blocked w deadline resume).event role p) after.field := by
    have change := change_look p role w
    rw [event_blocked]
    rw [looks] at change ⊢
    exact change
  cases Thread.go_of_step steps with
  | done a => exact .same _
  | cut => exact .same _
  | signal next =>
      change Change p.field none (p.abort role.other).field
      rw [Pair.abort, field_set]
      exact .same _
  | settled begins => exact called begins
  | waits begins => exact called begins
  | found looks => exact looked looks
  | forwarded looks => exact looked looks
  | expired looks _ => exact looked looks

end Changes

end Contactless.Loopback
