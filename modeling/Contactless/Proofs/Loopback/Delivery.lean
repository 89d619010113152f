import Contactless.Proofs.Loopback.Interleaving
import Mathlib.Data.List.DropRight

/-! What becomes of frames between two hosts of a simulated field, whatever order their programs go
on in. Each queue holds what was put into it and not taken out since it was last emptied. -/
namespace Contactless.Loopback

/-- What happened after the last event of a kind. -/
def since (kind : Event → Bool) (log : List Event) : List Event :=
  log.rtakeWhile fun e => !kind e

theorem since_concat (kind : Event → Bool) (log : List Event) (e : Event) :
    since kind (log ++ [e]) = if kind e then [] else since kind log ++ [e] := by
  unfold since
  rw [List.rtakeWhile_concat]
  cases kind e <;> rfl

/-- A queue between the hosts, told by the events that change it. -/
structure Queue where
  put : Event → Option Bytes
  take : Event → Option Bytes
  empties : Event → Bool

namespace Queue

/-- Frames of the initiator for the host of the target end. -/
def frames : Queue where
  put
    | .forwarded frame => some frame
    | _ => none
  take
    | .received frame => some frame
    | _ => none
  empties
    | .armed | .idled => true
    | _ => false

/-- Replies of that host. A frame that is forwarded makes older ones void. -/
def replies : Queue where
  put
    | .sent reply => some reply
    | _ => none
  take
    | .returned reply _ => some reply
    | _ => none
  empties
    | .forwarded _ | .armed | .idled => true
    | _ => false

variable {q : Queue} {log : List Event} {held held' : List Bytes} {e : Event}

def puts (q : Queue) (log : List Event) : List Bytes := log.filterMap q.put

def takes (q : Queue) (log : List Event) : List Bytes := log.filterMap q.take

/-- An event puts at the end, takes from the front, or empties. -/
def After (q : Queue) (e : Event) (held held' : List Bytes) : Prop :=
  if q.empties e then held' = [] ∧ q.put e = none ∧ q.take e = none
  else held ++ (q.put e).toList = (q.take e).toList ++ held'

theorem puts_append (q : Queue) (log more : List Event) :
    q.puts (log ++ more) = q.puts log ++ q.puts more := List.filterMap_append

theorem takes_append (q : Queue) (log more : List Event) :
    q.takes (log ++ more) = q.takes log ++ q.takes more := List.filterMap_append

theorem puts_singleton (q : Queue) (e : Event) : q.puts [e] = (q.put e).toList := by
  unfold puts
  cases put : q.put e with
  | none => exact List.filterMap_cons_none put
  | some frame => exact List.filterMap_cons_some put

theorem takes_singleton (q : Queue) (e : Event) : q.takes [e] = (q.take e).toList := by
  unfold takes
  cases take : q.take e with
  | none => exact List.filterMap_cons_none take
  | some frame => exact List.filterMap_cons_some take

/-- What a log tells of a queue. -/
structure Holds (q : Queue) (log : List Event) (held : List Bytes) : Prop where
  current : q.puts (since q.empties log) = q.takes (since q.empties log) ++ held
  once : (q.takes log ++ held).Sublist (q.puts log)

theorem Holds.after (holds : q.Holds log held) (after : q.After e held held') :
    q.Holds (log ++ [e]) held' := by
  obtain ⟨current, once⟩ := holds
  unfold After at after
  by_cases empties : q.empties e
  · rw [if_pos empties] at after
    obtain ⟨rfl, put, take⟩ := after
    constructor
    · rw [since_concat, if_pos empties]
      rfl
    · rw [takes_append, puts_append, takes_singleton, puts_singleton, put, take]
      simp only [Option.toList_none, List.append_nil]
      exact (List.sublist_append_left _ _).trans once
  · rw [if_neg empties] at after
    constructor
    · rw [since_concat, if_neg empties, puts_append, takes_append, puts_singleton,
        takes_singleton, current, List.append_assoc, after, List.append_assoc]
    · rw [takes_append, puts_append, takes_singleton, puts_singleton, List.append_assoc, ← after,
        ← List.append_assoc]
      exact once.append_right _

end Queue

section Changes

variable {f f' : Field} {e : Event}

theorem Change.of_none (change : Change f none f') :
    f'.presence.origin = f.presence.origin ∧ f'.toTarget = f.toTarget ∧
      f'.toInitiator = f.toInitiator := by
  cases change with
  | aside _ origin toTarget toInitiator => exact ⟨origin, toTarget, toInitiator⟩

theorem Change.of_returned {reply : Bytes} {seen : BitFrame}
    (change : Change f (some (.returned reply seen)) f') :
    ∃ crc rest, seen = delivered crc reply ∧ f.toInitiator = reply :: rest := by
  cases change with
  | aside quiet => exact (quiet _ rfl).elim
  | returned a _ crc _ rest => exact ⟨crc, rest, rfl, rfl⟩

theorem Change.frames (change : Change f (some e) f') :
    Queue.frames.After e f.toTarget f'.toTarget := by
  cases change with
  | aside quiet _ toTarget _ =>
      rw [toTarget]
      have aside := quiet e rfl
      cases e <;> first | exact aside.elim | exact List.append_nil _
  | forwarded => rfl
  | returned => exact List.append_nil _
  | received => exact List.append_nil _
  | sent => exact List.append_nil _
  | armed => exact ⟨rfl, rfl, rfl⟩
  | idled => exact ⟨rfl, rfl, rfl⟩

theorem Change.replies (change : Change f (some e) f') :
    Queue.replies.After e f.toInitiator f'.toInitiator := by
  cases change with
  | aside quiet _ _ toInitiator =>
      rw [toInitiator]
      have aside := quiet e rfl
      cases e <;> first | exact aside.elim | exact List.append_nil _
  | forwarded => exact ⟨rfl, rfl, rfl⟩
  | returned => exact List.append_nil _
  | received => exact List.append_nil _
  | sent => rfl
  | armed => exact ⟨rfl, rfl, rfl⟩
  | idled => exact ⟨rfl, rfl, rfl⟩

end Changes

/-- The last time the target end appeared or went. -/
def lastReset (log : List Event) : Option Event := (log.filter Queue.frames.empties).getLast?

theorem lastReset_concat (log : List Event) (e : Event) :
    lastReset (log ++ [e]) = if Queue.frames.empties e then some e else lastReset log := by
  unfold lastReset
  rw [List.filter_append]
  by_cases resets : Queue.frames.empties e
  · rw [List.filter_cons_of_pos resets, if_pos resets, List.filter_nil, List.getLast?_concat]
  · rw [List.filter_cons_of_neg resets, if_neg resets, List.filter_nil, List.append_nil]

theorem Change.origin {f f' : Field} {e : Event} (change : Change f (some e) f') :
    f'.presence.origin = if Queue.frames.empties e then some e else f.presence.origin := by
  cases change with
  | aside quiet origin _ _ =>
      rw [origin]
      have aside := quiet e rfl
      cases e <;> first | exact aside.elim | rfl
  | _ => rfl

section Exchanges

variable {γ : Type} {t t' : Thread γ} {now : Nat} {p p' : Pair} {role : Role} {w : Wait}

/-- A wait of an exchange of the initiator. -/
def Wait.exchanges : Wait → Bool
  | .presence .. | .reply => true
  | .frame | .pause => false

/-- An event that a program at the target end causes. -/
def Event.ofHost : Event → Bool
  | armed | idled | sent _ | received _ => true
  | _ => false

/-- The event begins an exchange. -/
def Event.begins : Event → Bool
  | started => true
  | _ => false

theorem Event.not_begins_of_ofHost {e : Event} (host : e.ofHost) : ¬ e.begins := by
  cases e with
  | started => cases host
  | _ => exact Bool.false_ne_true

/-- The program is in no exchange. -/
def Thread.Hosts (t : Thread γ) : Prop :=
  ∀ w deadline resume, t = .blocked w deadline resume → w.exchanges = false

theorem not_forwarded_of_peek (waits : ∀ frame again, w ≠ .presence frame again)
    (again : Timeout) (after : Pair) : p.peek role w ≠ (.forwarded again, after) := by
  cases w with
  | presence frame wait => exact absurd rfl (waits frame wait)
  | reply =>
      unfold Pair.peek
      dsimp only
      split <;> nofun
  | frame =>
      unfold Pair.peek
      dsimp only
      split <;> nofun
  | pause => nofun

theorem presence_of_forwarded {again : Timeout}
    (looks : p.look role w = (.forwarded again, p')) : ∃ frame wait, w = .presence frame wait := by
  unfold Pair.look at looks
  by_cases aborted : (p.ofRole role).aborted
  · rw [if_pos aborted] at looks
    cases looks
  · rw [if_neg aborted] at looks
    by_contra other
    exact not_forwarded_of_peek (fun frame wait same => other ⟨frame, wait, same⟩) again p' looks

theorem waits_of_begin {call : Chip.Call} {timeout : Timeout}
    {finish : Except Error BitFrame → call.Answer}
    (begins : p.begin role call = .wait w timeout finish p') :
    w ≠ .reply ∧ (role = .target → w.exchanges = false) := by
  cases role with
  | initiator => cases call <;> cases begins <;> exact ⟨nofun, nofun⟩
  | target =>
      cases call with
      | send reply wait =>
          rw [begin_send] at begins
          split at begins <;> cases begins
      | _ => cases begins <;> exact ⟨nofun, fun _ => rfl⟩

/-- An exchange waits for a reply from the moment its frame was forwarded. -/
theorem forwarded_of_step {deadline : Option Nat}
    {resume : Except Error BitFrame → Dialogue Terminal γ}
    (steps : t.step role now p = some (.blocked .reply deadline resume, p')) :
    ∃ frame, t.event role p = some (.forwarded frame) := by
  generalize waiting : Thread.blocked .reply deadline resume = t' at steps
  cases Thread.go_of_step steps with
  | waits begins =>
      cases waiting
      exact absurd rfl (waits_of_begin begins).1
  | forwarded looks =>
      obtain ⟨frame, wait, rfl⟩ := presence_of_forwarded looks
      rw [event_blocked, looks]
      exact ⟨_, rfl⟩
  | _ => cases waiting

theorem Thread.Hosts.step (hosts : t.Hosts) (steps : t.step .target now p = some (t', p')) :
    t'.Hosts := by
  cases Thread.go_of_step steps with
  | waits begins =>
      rintro _ _ _ ⟨⟩
      exact (waits_of_begin begins).2 rfl
  | forwarded looks =>
      obtain ⟨frame, wait, rfl⟩ := presence_of_forwarded looks
      exact nomatch hosts _ _ _ rfl
  | _ => nofun

theorem kind_of_call {call : Chip.Call} {e : Event} (told : Event.ofCall p role call = some e) :
    (role = .initiator ∧ e = .started) ∨ (role = .target ∧ e.ofHost) := by
  cases role with
  | initiator =>
      cases call with
      | bits | bytes =>
          cases told
          exact .inl ⟨rfl, rfl⟩
      | _ => cases told
  | target =>
      cases call with
      | send reply wait =>
          unfold Event.ofCall at told
          dsimp only at told
          split at told <;> cases told
          exact .inr ⟨rfl, rfl⟩
      | arm | idle =>
          cases told
          exact .inr ⟨rfl, rfl⟩
      | _ => cases told

theorem kind_of_look {seen : Look × Pair} {e : Event} (told : Event.ofLook p w seen = some e) :
    match w with
    | .presence .. => (∃ frame, e = .forwarded frame) ∨ ∃ result, e = .settled result
    | .reply => (∃ reply seen, e = .returned reply seen) ∨ ∃ result, e = .settled result
    | .frame => ∃ frame, e = .received frame
    | .pause => False := by
  obtain ⟨look, after⟩ := seen
  cases w with
  | presence frame again =>
      cases look with
      | forwarded =>
          cases told
          exact .inl ⟨_, rfl⟩
      | _ =>
          cases told
          exact .inr ⟨_, rfl⟩
  | reply =>
      cases look with
      | found result =>
          cases result with
          | ok seen =>
              cases told
              exact .inl ⟨_, _, rfl⟩
          | error e =>
              cases told
              exact .inr ⟨_, rfl⟩
      | _ =>
          cases told
          exact .inr ⟨_, rfl⟩
  | frame =>
      cases look with
      | found result =>
          cases result with
          | ok frame =>
              cases told
              exact ⟨_, rfl⟩
          | error e => cases told
      | _ => cases told
  | pause => cases told

/-- What is seen of a program is seen of a call that begins, or of a look of a wait. -/
theorem call_or_look {e : Event} (told : t.event role p = some e) :
    (∃ call next, t = .running (.ask (.inl call) next) ∧ Event.ofCall p role call = some e) ∨
      ∃ w deadline resume, t = .blocked w deadline resume ∧
        Event.ofLook p w (p.look role w) = some e := by
  cases t with
  | finished => cases told
  | running d =>
      cases d with
      | done | cut => cases told
      | ask q next =>
          cases q with
          | inr => cases told
          | inl call => exact .inl ⟨call, next, rfl, told⟩
  | blocked w deadline resume => exact .inr ⟨w, deadline, resume, rfl, told⟩

theorem ofHost_of_event (hosts : t.Hosts) {e : Event} (told : t.event .target p = some e) :
    e.ofHost := by
  rcases call_or_look told with ⟨call, next, rfl, begins⟩ | ⟨w, deadline, resume, rfl, looks⟩
  · rcases kind_of_call begins with ⟨other, _⟩ | ⟨_, host⟩
    · cases other
    · exact host
  · have idle := hosts w deadline resume rfl
    have kind := kind_of_look looks
    cases w with
    | presence | reply => cases idle
    | frame =>
        obtain ⟨frame, rfl⟩ := kind
        rfl
    | pause => exact kind.elim

/-- Only a wait for a reply returns one. -/
theorem reply_of_returned {reply : Bytes} {seen : BitFrame}
    (told : t.event role p = some (.returned reply seen)) :
    ∃ deadline resume, t = .blocked .reply deadline resume := by
  rcases call_or_look told with ⟨call, next, rfl, begins⟩ | ⟨w, deadline, resume, rfl, looks⟩
  · rcases kind_of_call begins with ⟨_, other⟩ | ⟨_, other⟩ <;> cases other
  · have kind := kind_of_look looks
    cases w with
    | reply => exact ⟨deadline, resume, rfl⟩
    | presence => rcases kind with ⟨_, other⟩ | ⟨_, other⟩ <;> cases other
    | frame =>
        obtain ⟨_, other⟩ := kind
        cases other
    | pause => exact kind.elim

end Exchanges

section Runs

variable {α β : Type} {s s' : Play α β} {log : List Event}

/-- What holds after any run: the log tells what the queues hold, and how an exchange stands. -/
structure Held (log : List Event) (s : Play α β) : Prop where
  frames : Queue.frames.Holds log s.pair.field.toTarget
  replies : Queue.replies.Holds log s.pair.field.toInitiator
  origin : lastReset log = s.pair.field.presence.origin
  hosts : s.target.Hosts
  own : ∀ deadline resume, s.initiator = .blocked .reply deadline resume →
    ∃ frame, .forwarded frame ∈ since Event.begins log

theorem held_start (x : Dialogue Terminal α) (y : Dialogue Terminal β) :
    Held [] (Play.start x y) :=
  ⟨⟨rfl, .slnil⟩, ⟨rfl, .slnil⟩, rfl, nofun, nofun⟩

theorem Play.Move.change {times : Nat → Prop} {e : Option Event} (move : Move times s e s') :
    Change s.pair.field e s'.pair.field := by
  cases move with
  | initiator _ steps => exact change_step steps
  | target _ steps => exact change_step steps

theorem Held.move {times : Nat → Prop} {e : Option Event} (held : Held log s)
    (move : Play.Move times s e s') : Held (log ++ e.toList) s' := by
  have change := move.change
  have hosts : s'.target.Hosts := by
    cases move with
    | initiator _ _ => exact held.hosts
    | target _ steps => exact held.hosts.step steps
  have own : ∀ deadline resume, s'.initiator = .blocked .reply deadline resume →
      ∃ frame, .forwarded frame ∈ since Event.begins (log ++ e.toList) := by
    intro deadline resume waits
    cases move with
    | @initiator _ t _ _ steps =>
        obtain rfl : t = _ := waits
        obtain ⟨frame, told⟩ := forwarded_of_step steps
        rw [told, Option.toList_some, since_concat]
        exact ⟨frame, List.mem_concat_self⟩
    | target _ _ =>
        obtain ⟨frame, member⟩ := held.own deadline resume waits
        cases told : s.target.event .target s.pair with
        | none =>
            rw [Option.toList_none, List.append_nil]
            exact ⟨frame, member⟩
        | some x =>
            have host := ofHost_of_event held.hosts told
            rw [Option.toList_some, since_concat, if_neg (Event.not_begins_of_ofHost host)]
            exact ⟨frame, List.mem_append_left _ member⟩
  cases e with
  | none =>
      rw [Option.toList_none, List.append_nil] at own ⊢
      obtain ⟨origin, toTarget, toInitiator⟩ := change.of_none
      exact ⟨toTarget ▸ held.frames, toInitiator ▸ held.replies, held.origin.trans origin.symm,
        hosts, own⟩
  | some x =>
      rw [Option.toList_some] at own ⊢
      refine ⟨held.frames.after change.frames, held.replies.after change.replies, ?_, hosts, own⟩
      rw [lastReset_concat, change.origin, held.origin]

theorem Held.run (held : Held log s) {more : List Event} (run : Play.Run s more s') :
    Held (log ++ more) s' := by
  induction run with
  | nil =>
      rw [List.append_nil]
      exact held
  | move _ move ih =>
      rw [← List.append_assoc]
      exact ih.move move
  | @abort s₁ log₁ role _ ih =>
      have kept : (s₁.pair.abort role).field = s₁.pair.field := field_set _ _ _
      exact ⟨kept ▸ ih.frames, kept ▸ ih.replies, kept ▸ ih.origin, ih.hosts, ih.own⟩

/-- A run can be stopped right before any event of its log. -/
theorem Play.Run.split (run : Run s log s') {before after : List Event} {e : Event}
    (same : log = before ++ e :: after) :
    ∃ s₁ s₂, Run s before s₁ ∧ Move (fun _ => True) s₁ (some e) s₂ := by
  induction run generalizing after with
  | nil => cases List.append_eq_nil_iff.mp same.symm |>.2
  | @move s₁ s₂ log x run move ih =>
      cases x with
      | none =>
          rw [Option.toList_none, List.append_nil] at same
          exact ih same
      | some x =>
          rw [Option.toList_some] at same
          rcases List.eq_nil_or_concat after with rfl | ⟨after, y, rfl⟩
          · obtain ⟨rfl, rfl⟩ := List.append_singleton_inj.mp same
            exact ⟨s₁, s₂, run, move⟩
          · rw [List.concat_eq_append, ← List.cons_append, ← List.append_assoc] at same
            exact ih (List.append_singleton_inj.mp same).1
  | abort role _ ih => exact ih same

theorem Play.Run.of_prefix (run : Run s log s') {past : List Event} (leads : past <+: log) :
    ∃ s₁, Run s past s₁ := by
  obtain ⟨rest, same⟩ := leads
  cases rest with
  | nil =>
      rw [List.append_nil] at same
      exact ⟨s', same ▸ run⟩
  | cons e after =>
      obtain ⟨s₁, _, first, _⟩ := run.split same.symm
      exact ⟨s₁, first⟩

/-- Since the last event of a kind, something happened after an event that is of this kind. -/
theorem precedes {first last : Event} {kind other : Event → Bool} (of_kind : kind first)
    (begun : first ∈ since other log) (later : last ∈ since kind log) :
    ∃ a b c, log = a ++ first :: (b ++ last :: c) ∧ ∀ e ∈ b ++ c, ¬ other e := by
  obtain ⟨front, back⟩ : since other log <:+ log ∧ since kind log <:+ log :=
    ⟨List.rtakeWhile_suffix _ _, List.rtakeWhile_suffix _ _⟩
  obtain ⟨u, v, split⟩ := List.append_of_mem begun
  rw [split] at front
  have tail : first :: v <:+ log := (List.suffix_append u _).trans front
  have absent : first ∉ since kind log := by
    intro member
    have stops := List.mem_rtakeWhile_imp member
    rw [of_kind] at stops
    cases stops
  have inside : since kind log <:+ v := by
    rcases List.suffix_or_suffix_of_suffix tail back with longer | shorter
    · exact absurd (longer.subset List.mem_cons_self) absent
    · rcases List.suffix_cons_iff.mp shorter with whole | inside
      · exact absurd (whole ▸ List.mem_cons_self) absent
      · exact inside
  obtain ⟨b, c, rfl⟩ := List.append_of_mem (inside.subset later)
  obtain ⟨a, same⟩ := tail
  refine ⟨a, b, c, same.symm, fun e member => ?_⟩
  have member : e ∈ since other log := by
    rw [split]
    simp only [List.mem_append, List.mem_cons] at member ⊢
    tauto
  have kept := List.mem_rtakeWhile_imp member
  simpa using kept

/-- What the field does with frames and replies, whatever the programs at its ends are. -/
structure Delivery (log : List Event) (s : Play α β) : Prop where
  /-- Between two resets of the target end frames come out as they went in, the first one first. -/
  frames : ∀ past, past <+: log →
    Queue.frames.takes (since Queue.frames.empties past) <+:
      Queue.frames.puts (since Queue.frames.empties past)
  framesOnce : (Queue.frames.takes log).Sublist (Queue.frames.puts log)
  /-- So do replies, between two resets or frames that are forwarded. -/
  replies : ∀ past, past <+: log →
    Queue.replies.takes (since Queue.replies.empties past) <+:
      Queue.replies.puts (since Queue.replies.empties past)
  repliesOnce : (Queue.replies.takes log).Sublist (Queue.replies.puts log)
  /-- A reply that an exchange returns was sent after the same exchange forwarded its frame. -/
  fresh : ∀ before reply seen after, log = before ++ .returned reply seen :: after →
    (∃ crc, seen = delivered crc reply) ∧
      ∃ a frame b c, before = a ++ .forwarded frame :: (b ++ .sent reply :: c) ∧
        ∀ e ∈ b ++ c, ¬ e.begins
  /-- While the target end is idle an exchange fails as soon as the initiator goes on. -/
  idle : lastReset log = some .idled → ∀ w deadline resume,
    s.initiator = .blocked w deadline resume → w.exchanges → ∀ now,
      let failure := .error (if s.pair.initiator.aborted then .aborted else .rfTimeout)
      s.initiator.event .initiator s.pair = some (.settled failure) ∧
        ∃ p, s.initiator.step .initiator now s.pair = some (.running (resume failure), p)

theorem Queue.Holds.in_order {q : Queue} {held : List Bytes} (holds : q.Holds log held) :
    q.takes (since q.empties log) <+: q.puts (since q.empties log) := by
  rw [holds.current]
  exact List.prefix_append _ _

theorem Queue.Holds.at_most_once {q : Queue} {held : List Bytes} (holds : q.Holds log held) :
    (q.takes log).Sublist (q.puts log) :=
  (List.sublist_append_left _ _).trans holds.once

theorem sent_of_puts {reply : Bytes} (member : reply ∈ Queue.replies.puts log) :
    .sent reply ∈ log := by
  obtain ⟨e, member, put⟩ := List.mem_filterMap.mp member
  cases e with
  | sent _ =>
      cases put
      exact member
  | _ => cases put

theorem Held.fresh (held : Held log s) {times : Nat → Prop} {reply : Bytes} {seen : BitFrame}
    (move : Play.Move times s (some (.returned reply seen)) s') :
    (∃ crc, seen = delivered crc reply) ∧
      ∃ a frame b c, log = a ++ .forwarded frame :: (b ++ .sent reply :: c) ∧
        ∀ e ∈ b ++ c, ¬ e.begins := by
  obtain ⟨deadline, resume, waits⟩ :
      ∃ deadline resume, s.initiator = .blocked .reply deadline resume := by
    generalize told : some (Event.returned reply seen) = e at move
    cases move with
    | initiator _ _ => exact reply_of_returned told.symm
    | target _ _ => cases ofHost_of_event held.hosts told.symm
  obtain ⟨frame, begun⟩ := held.own deadline resume waits
  obtain ⟨crc, rest, same, front⟩ := move.change.of_returned
  refine ⟨⟨crc, same⟩, ?_⟩
  have later : .sent reply ∈ since Queue.replies.empties log := by
    refine sent_of_puts ?_
    rw [held.replies.current, front]
    exact List.mem_append_right _ List.mem_cons_self
  obtain ⟨a, b, c, same, none⟩ := precedes rfl begun later
  exact ⟨a, frame, b, c, same, none⟩

theorem Held.idle (held : Held log s) (gone : lastReset log = some .idled) {w : Wait}
    {deadline : Option Nat} {resume : Except Error BitFrame → Dialogue Terminal α}
    (waits : s.initiator = .blocked w deadline resume) (exchanges : w.exchanges) (now : Nat) :
    let failure := .error (if s.pair.initiator.aborted then .aborted else .rfTimeout)
    s.initiator.event .initiator s.pair = some (.settled failure) ∧
      ∃ p, s.initiator.step .initiator now s.pair = some (.running (resume failure), p) := by
  have presence : s.pair.field.presence = .idle := by
    have origin := held.origin.symm.trans gone
    cases presence : s.pair.field.presence with
    | idle => rfl
    | _ =>
        rw [presence] at origin
        cases origin
  obtain ⟨initiator, target, ⟨field, ⟨aborted, crc⟩, other⟩⟩ := s
  obtain ⟨at_, toTarget, toInitiator⟩ := field
  dsimp only at waits presence
  subst waits presence
  cases w with
  | presence frame again => cases aborted <;> exact ⟨rfl, _, rfl⟩
  | reply => cases aborted <;> exact ⟨rfl, _, rfl⟩
  | _ => cases exchanges

/-- Whatever two programs do at the ends of a field, and in whatever order, no frame and no reply is
delivered twice, out of order or too late. -/
theorem run_delivers {x : Dialogue Terminal α} {y : Dialogue Terminal β}
    (run : Play.Run (.start x y) log s) : Delivery log s := by
  have holds {past : List Event} {s₁ : Play α β} (run : Play.Run (.start x y) past s₁) :
      Held past s₁ := (held_start x y).run run
  have held := holds run
  refine ⟨fun past leads => ?_, held.frames.at_most_once, fun past leads => ?_,
    held.replies.at_most_once, fun before reply seen after same => ?_,
    fun gone w deadline resume waits exchanges now => held.idle gone waits exchanges now⟩
  · obtain ⟨s₁, first⟩ := run.of_prefix leads
    exact (holds first).frames.in_order
  · obtain ⟨s₁, first⟩ := run.of_prefix leads
    exact (holds first).replies.in_order
  · obtain ⟨s₁, s₂, first, move⟩ := run.split same
    exact (holds first).fresh move

section Sample

def sampleReader : Dialogue Terminal (Except Error Bytes × Except Error Bytes) :=
  .ask (.inl (.bytes [0x01] .standard)) fun first =>
    .ask (.inl (.bytes [0x02] .standard)) fun second => .done (first, second)

def sampleHost : Dialogue Terminal Unit :=
  .ask (.inl (.arm (.jewel ⟨[0x0c, 0x00], rfl⟩ ⟨[1, 2, 3, 4], rfl⟩) .standard)) fun _ =>
    .ask (.inl (.send [0x03] .standard)) fun _ => .ask (.inl .idle) fun _ => .done ()

/-- One exchange that is answered, and one that finds the target end gone. -/
def sampleLog : List Event :=
  [.started, .armed, .forwarded [0x01], .received [0x01], .sent [0x03], .returned [0x03]
    (.ofBytes [0x03]), .started, .idled, .settled (.error .rfTimeout)]

theorem run_delivers_sample :
    ∃ s, Play.Run (.start sampleReader sampleHost) sampleLog s ∧ Delivery sampleLog s := by
  have exchanged := Play.Run.nil (.start sampleReader sampleHost)
    |>.move (.initiator (n := 0) trivial rfl) |>.move (.target (n := 0) trivial rfl)
    |>.move (.initiator (n := 0) trivial rfl) |>.move (.target (n := 0) trivial rfl)
    |>.move (.target (n := 0) trivial rfl) |>.move (.initiator (n := 0) trivial rfl)
    |>.move (.initiator (n := 0) trivial rfl) |>.move (.target (n := 0) trivial rfl)
    |>.move (.initiator (n := 0) trivial rfl)
  exact ⟨_, exchanged, run_delivers exchanged⟩

end Sample

end Runs

end Contactless.Loopback
