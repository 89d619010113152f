import Contactless.Bench
import Contactless.Proofs.Transcript
import Mathlib.Data.List.Basic

/-! What becomes of the answers and frames that are laid out for a bench chip, however laying out,
calling and aborting follow each other. Nothing that was laid out is lost, told twice or told out of
turn, an abort request ends one call at most and that call takes nothing, and every frame of an
initiator is kept with the settings it went out with. -/
namespace Contactless.Bench

/-- What is done with a bench: something is laid out, an abort is requested from outside, or the
chip is called. -/
inductive Step where
  | layAnswer (answer : Except Error BitFrame)
  | layFrame (frame : Except Error Bytes)
  | abort
  | call (call : Chip.Call)

/-- Steps that come to an end by themselves. Looking for an abort request outside of a call is none
of them. -/
def Step.Bounded : Step → Prop
  | .call (.bits _ wait) => wait ≠ .forever
  | .call (.bytes _ wait) => wait ≠ .forever
  | .call (.arm _ wait) => wait ≠ .forever
  | .call (.receive wait) => wait ≠ .forever
  | .call .checkAbort | .call .clearAbort | .call (.sleep _) => False
  | _ => True

/-- A step that was done, a call together with its answer. -/
inductive Entry where
  | laidAnswer (answer : Except Error BitFrame)
  | laidFrame (frame : Except Error Bytes)
  | aborted
  | called (event : Chip.Event)

def perform (b : Bench) : Step → Entry × Bench
  | .layAnswer answer => (.laidAnswer answer, b.pushAnswer answer)
  | .layFrame frame => (.laidFrame frame, b.pushFrame frame)
  | .abort => (.aborted, b.abort)
  | .call call => (.called ⟨call, (handler call b).1⟩, (handler call b).2)

/-- All steps in order: what was done, and the bench afterwards. -/
def play (b : Bench) : List Step → List Entry × Bench
  | [] => ([], b)
  | step :: rest =>
    ((b.perform step).1 :: ((b.perform step).2.play rest).1, ((b.perform step).2.play rest).2)

namespace Entry

def Requests : Entry → Prop
  | aborted | called ⟨.abortPending, _⟩ => True
  | _ => False

/-- A call that is ended by an abort request. -/
def Looks : Entry → Prop
  | called ⟨.bits .., _⟩ | called ⟨.bytes .., _⟩ | called ⟨.arm .., _⟩ | called ⟨.receive _, _⟩
  | called ⟨.send .., _⟩ => True
  | _ => False

def Sends : Entry → Prop
  | called ⟨.send .., _⟩ => True
  | _ => False

/-- A call that failed as one does when it is aborted. -/
def Ended : Entry → Prop
  | called event => Chip.Event.failure event = some .aborted
  | _ => False

/-- The frame that goes out with a call as an initiator. -/
def frame : Entry → Option BitFrame
  | called ⟨.bits frame _, _⟩ => some frame
  | called ⟨.bytes frame _, _⟩ => some (.ofBytes frame)
  | _ => none

/-- What a call sets a switch to. -/
def setting (switch : Switch) : Entry → Option Bool
  | called ⟨.configure other on, _⟩ => if switch = other then some on else none
  | _ => none

end Entry

/-- The value that each switch was last set to. -/
def settingsIn (log : List Entry) : Settings := fun switch =>
  (log.filterMap (Entry.setting switch)).getLast?

/-- The frames that went out as an initiator, each with the settings in force before it. -/
def sentIn (log : List Entry) : List (BitFrame × Settings) :=
  (List.range log.length).filterMap fun i =>
    (log[i]?.bind Entry.frame).map fun frame => (frame, settingsIn (log.take i))

/-- A request at a place of a log, and no call behind it that could have been ended by it. -/
structure Waits (log : List Entry) (i : Nat) : Prop where
  request : ∃ e, log[i]? = some e ∧ e.Requests
  unseen : ∀ k e, i < k → log[k]? = some e → ¬ e.Looks

def Pending (log : List Entry) : Prop := ∃ i, Waits log i

/-- The call at the second place is the one that the request at the first place ends. -/
structure Spends (log : List Entry) (i j : Nat) : Prop where
  waits : Waits (log.take j) i
  call : ∃ e, log[j]? = some e ∧ e.Looks

/-- Something that is laid out, and the calls that give it away. -/
structure Supply (β : Type) where
  laid : Entry → Option (Except Error β)
  gives : Entry → Except Error β → Prop
  apart : ∀ {e a}, gives e a → laid e = none

namespace Supply

inductive Exchanged : Entry → Except Error BitFrame → Prop
  | bits (frame : BitFrame) (wait : Timeout) (a : Except Error BitFrame) :
      Exchanged (.called ⟨.bits frame wait, a⟩) a
  | bytes (frame : Bytes) (wait : Timeout) (a : Except Error BitFrame) :
      Exchanged (.called ⟨.bytes frame wait, a.map BitFrame.data⟩) a

inductive Received : Entry → Except Error Bytes → Prop
  | arm (target : Target) (wait : Timeout) (a : Except Error Bytes) :
      Received (.called ⟨.arm target wait, a⟩) a
  | receive (wait : Timeout) (a : Except Error Bytes) : Received (.called ⟨.receive wait, a⟩) a

/-- The answers to exchanges. -/
def answers : Supply BitFrame where
  laid
    | .laidAnswer answer => some answer
    | _ => none
  gives := Exchanged
  apart := by
    rintro _ _ (_ | _) <;> rfl

/-- The frames for a target. -/
def frames : Supply Bytes where
  laid
    | .laidFrame frame => some frame
    | _ => none
  gives := Received
  apart := by
    rintro _ _ (_ | _) <;> rfl

end Supply

/-- What a log has given away of a supply. A call gives the first thing that was laid out before and
is not given away yet, a timeout when there is nothing left, and nothing but the abort when a
request is pending. -/
inductive Delivers {β : Type} (q : Supply β) : List Entry → List (Except Error β) → Prop
  | nil : Delivers q [] []
  | give {log : List Entry} {given : List (Except Error β)} {e : Entry} {a : Except Error β} :
      Delivers q log given → ¬ Pending log → q.gives e a →
      given ++ [a] <+: log.filterMap q.laid → Delivers q (log ++ [e]) (given ++ [a])
  | empty {log : List Entry} {e : Entry} : Delivers q log (log.filterMap q.laid) →
      ¬ Pending log → q.gives e (.error .timeout) →
      Delivers q (log ++ [e]) (log.filterMap q.laid)
  | aborted {log : List Entry} {given : List (Except Error β)} {e : Entry} :
      Delivers q log given → Pending log → q.gives e (.error .aborted) →
      Delivers q (log ++ [e]) given
  | other {log : List Entry} {given : List (Except Error β)} {e : Entry} :
      Delivers q log given → (∀ a, ¬ q.gives e a) → Delivers q (log ++ [e]) given

section Requests

variable {log : List Entry} {e : Entry} {i j k : Nat}

theorem not_looks_of_requests (requests : e.Requests) : ¬ e.Looks := by
  cases e with
  | called event =>
      obtain ⟨call, answer⟩ := event
      cases call <;> first | exact id | exact requests.elim
  | _ => exact id

theorem getElem?_snoc_iff {x : Entry} :
    (log ++ [e])[k]? = some x ↔ log[k]? = some x ∨ k = log.length ∧ e = x := by
  by_cases inside : k < log.length
  · rw [List.getElem?_append_left inside]
    exact ⟨.inl, fun held => held.resolve_right fun last => absurd inside (by omega)⟩
  · have outside : log[k]? = none := List.getElem?_eq_none (by omega)
    rw [outside]
    by_cases last : k = log.length
    · subst last
      simp
    · rw [List.getElem?_eq_none (by rw [List.length_append, List.length_singleton]; omega)]
      exact iff_of_false nofun fun held => held.elim nofun fun here => last here.1

theorem pending_append_iff : Pending (log ++ [e]) ↔ e.Requests ∨ Pending log ∧ ¬ e.Looks := by
  constructor
  · rintro ⟨i, ⟨r, found, requests⟩, unseen⟩
    rcases getElem?_snoc_iff.mp found with held | ⟨-, rfl⟩
    · have inside : i < log.length := (List.getElem?_eq_some_iff.mp held).1
      refine .inr ⟨⟨i, ⟨r, held, requests⟩, ?_⟩, ?_⟩
      · intro k x later held
        exact unseen k x later (getElem?_snoc_iff.mpr (.inl held))
      · exact unseen log.length e inside (getElem?_snoc_iff.mpr (.inr ⟨rfl, rfl⟩))
    · exact .inl requests
  · rintro (requests | ⟨⟨i, ⟨r, held, requests⟩, unseen⟩, blind⟩)
    · refine ⟨log.length, ⟨e, getElem?_snoc_iff.mpr (.inr ⟨rfl, rfl⟩), requests⟩, ?_⟩
      intro k x later found
      rcases getElem?_snoc_iff.mp found with held | ⟨rfl, -⟩
      · exact absurd (List.getElem?_eq_some_iff.mp held).1 (Nat.not_lt.mpr (Nat.le_of_lt later))
      · exact absurd later (Nat.lt_irrefl _)
    · refine ⟨i, ⟨r, getElem?_snoc_iff.mpr (.inl held), requests⟩, ?_⟩
      intro k x later found
      rcases getElem?_snoc_iff.mp found with earlier | ⟨-, rfl⟩
      · exact unseen k x later earlier
      · exact blind

theorem Spends.not_lt (first : Spends log i j) (second : Spends log i k) : ¬ j < k := by
  intro before
  obtain ⟨e, called, looks⟩ := first.call
  obtain ⟨r, found, -⟩ := first.waits.request
  have earlier : i < j := by
    have inside := (List.getElem?_eq_some_iff.mp found).1
    rw [List.length_take] at inside
    omega
  have seen : (log.take k)[j]? = some e := by rw [List.getElem?_take_of_lt before, called]
  exact second.waits.unseen j e earlier seen looks

/-- A request ends no second call. -/
theorem Spends.unique (first : Spends log i j) (second : Spends log i k) : j = k := by
  have order := first.not_lt second
  have reverse := second.not_lt first
  omega

end Requests

section Sending

variable (log : List Entry) (e : Entry)

theorem settingsIn_append : settingsIn (log ++ [e]) = fun switch =>
    (e.setting switch).or (settingsIn log switch) := by
  funext switch
  unfold settingsIn
  rw [List.filterMap_append, List.getLast?_append]
  cases set : e.setting switch with
  | none => rw [List.filterMap_cons_none set, List.filterMap_nil, List.getLast?_nil]
  | some on => rw [List.filterMap_cons_some set, List.filterMap_nil, List.getLast?_singleton]

theorem sentIn_append : sentIn (log ++ [e]) =
    sentIn log ++ (e.frame.map fun frame => (frame, settingsIn log)).toList := by
  unfold sentIn
  rw [List.length_append, List.length_singleton, List.range_succ, List.filterMap_append]
  congr 1
  · refine List.filterMap_congr fun i member => ?_
    have inside : i < log.length := List.mem_range.mp member
    rw [List.getElem?_append_left inside, List.take_append_of_le_length (Nat.le_of_lt inside)]
  · have last : (log ++ [e])[log.length]? = some e := List.getElem?_concat_length
    simp only [List.filterMap_cons, List.filterMap_nil, last, Option.bind_some, List.take_left]
    cases e.frame with
    | none => rfl
    | some frame => rfl

end Sending

/-- What comes of asking for the next thing that is laid out, with a request pending or not. -/
inductive Draws {β : Type} : Bool → List (Except Error β) → Except Error β →
    List (Except Error β) → Prop
  | next (a : Except Error β) (left : List (Except Error β)) : Draws false (a :: left) a left
  | empty : Draws false [] (.error .timeout) []
  | aborted (left : List (Except Error β)) : Draws true left (.error .aborted) left

/-- What both queues of a bench do when they are asked. -/
def drawn {β : Type} (aborted : Bool) (wait : Timeout) (left : List (Except Error β)) :
    Except Error β × List (Except Error β) :=
  if aborted then (.error .aborted, left)
  else
    match left with
    | [] => (.error (exhausted wait), [])
    | a :: rest => (a, rest)

/-- How a step uses a supply of which this is left. -/
inductive Turn {β : Type} (q : Supply β) (aborted : Bool) (left : List (Except Error β))
    (e : Entry) : List (Except Error β) → Prop
  | draw {a : Except Error β} {left' : List (Except Error β)} : q.gives e a →
      Draws aborted left a left' → Turn q aborted left e left'
  | other : (∀ a, ¬ q.gives e a) → Turn q aborted left e (left ++ (q.laid e).toList)

/-- All that a step does to a bench. -/
inductive Effect (b : Bench) : Entry → Bench → Prop
  | laidAnswer (answer : Except Error BitFrame) : Effect b (.laidAnswer answer)
      { b with answers := b.answers ++ [answer] }
  | laidFrame (frame : Except Error Bytes) : Effect b (.laidFrame frame)
      { b with frames := b.frames ++ [frame] }
  | aborted : Effect b .aborted { b with aborted := true }
  | abortPending : Effect b (.called ⟨.abortPending, .ok ()⟩) { b with aborted := true }
  | configure (switch : Switch) (on : Bool) : Effect b (.called ⟨.configure switch on, .ok ()⟩)
      { b with settings := b.settings.set switch on }
  | idle (calls : Nat) : Effect b (.called ⟨.idle, .ok ()⟩) { b with idleCalls := calls }
  | exchange {e : Entry} {a : Except Error BitFrame} {frame : BitFrame}
      {left : List (Except Error BitFrame)} : Supply.Exchanged e a → e.frame = some frame →
      Draws b.aborted b.answers a left → Effect b e
        { b with sent := b.sent ++ [(frame, b.settings)], answers := left, aborted := false }
  | receive {e : Entry} {a : Except Error Bytes} {left : List (Except Error Bytes)}
      (armed : List Target) : Supply.Received e a → Draws b.aborted b.frames a left → Effect b e
        { b with armed := armed, frames := left, aborted := false }
  | send (frame : Bytes) (wait : Timeout) {answer : Except Error Unit} (replied : List Bytes) :
      (answer = .error .aborted ↔ b.aborted = true) → Effect b (.called ⟨.send frame wait, answer⟩)
        { b with replied := replied, aborted := false }

section Performing

variable {b : Bench} {wait : Timeout} {step : Step}

theorem exhausted_of_bounded (bounded : wait ≠ .forever) : exhausted wait = .timeout := by
  cases wait with
  | forever => exact absurd rfl bounded
  | _ => rfl

theorem draws_drawn {β : Type} (bounded : wait ≠ .forever) (aborted : Bool)
    (left : List (Except Error β)) :
    Draws aborted left (drawn aborted wait left).1 (drawn aborted wait left).2 := by
  unfold drawn
  rw [exhausted_of_bounded bounded]
  cases aborted with
  | true => exact .aborted left
  | false =>
      cases left with
      | nil => exact .empty
      | cons a rest => exact .next a rest

theorem takeAnswer_eq (b : Bench) (wait : Timeout) :
    b.takeAnswer wait = ((drawn b.aborted wait b.answers).1,
      { b with answers := (drawn b.aborted wait b.answers).2, aborted := false }) := by
  rcases b with ⟨_ | ⟨a, rest⟩, frames, sent, replied, armed, settings, idleCalls, _ | _⟩ <;> rfl

theorem takeFrame_eq (b : Bench) (wait : Timeout) :
    b.takeFrame wait = ((drawn b.aborted wait b.frames).1,
      { b with frames := (drawn b.aborted wait b.frames).2, aborted := false }) := by
  rcases b with ⟨answers, _ | ⟨f, rest⟩, sent, replied, armed, settings, idleCalls, _ | _⟩ <;> rfl

theorem effect_send (b : Bench) (frame : Bytes) (wait : Timeout) :
    Effect b (b.perform (.call (.send frame wait))).1
      (b.perform (.call (.send frame wait))).2 := by
  obtain ⟨answers, frames, sent, replied, armed, settings, idleCalls, aborted⟩ := b
  cases aborted with
  | true => exact .send frame wait replied (iff_of_true rfl rfl)
  | false => exact .send frame wait (replied ++ [frame]) (iff_of_false nofun nofun)

/-- Nothing else comes of a step that ends by itself. -/
theorem effect_perform (bounded : step.Bounded) :
    Effect b (b.perform step).1 (b.perform step).2 := by
  cases step with
  | layAnswer answer => exact .laidAnswer answer
  | layFrame frame => exact .laidFrame frame
  | abort => exact .aborted
  | call call =>
      cases call with
      | bits frame wait =>
          simp only [perform, handler, takeAnswer_eq]
          exact .exchange (.bits frame wait _) rfl (draws_drawn bounded _ _)
      | bytes frame wait =>
          simp only [perform, handler, takeAnswer_eq]
          exact .exchange (.bytes frame wait _) rfl (draws_drawn bounded _ _)
      | configure switch on => exact .configure switch on
      | arm target wait =>
          simp only [perform, handler, takeFrame_eq]
          exact .receive _ (.arm target wait _) (draws_drawn bounded _ _)
      | receive wait =>
          simp only [perform, handler, takeFrame_eq]
          exact .receive _ (.receive wait _) (draws_drawn bounded _ _)
      | send frame wait => exact effect_send b frame wait
      | idle => exact .idle _
      | abortPending => exact .abortPending
      | checkAbort | clearAbort | sleep wait => exact bounded.elim

end Performing

section Effects

variable {β : Type} {q : Supply β} {b b' : Bench} {e : Entry} {aborted : Bool}
  {left : List (Except Error β)}

theorem Turn.idle (silent : ∀ a, ¬ q.gives e a) (nothing : q.laid e = none) :
    Turn q aborted left e left := by
  have turn : Turn q aborted left e (left ++ (q.laid e).toList) := .other silent
  rwa [nothing, Option.toList_none, List.append_nil] at turn

theorem Effect.answers (effect : Effect b e b') :
    Turn .answers b.aborted b.answers e b'.answers := by
  cases effect with
  | laidAnswer answer => exact .other nofun
  | exchange exchanged _ draws => exact .draw exchanged draws
  | receive armed received draws => cases received <;> exact .idle nofun rfl
  | _ => exact .idle nofun rfl

theorem Effect.frames (effect : Effect b e b') :
    Turn .frames b.aborted b.frames e b'.frames := by
  cases effect with
  | laidFrame frame => exact .other nofun
  | exchange exchanged _ _ => cases exchanged <;> exact .idle nofun rfl
  | receive armed received draws => exact .draw received draws
  | _ => exact .idle nofun rfl

theorem cleared_of_looks (looks : e.Looks) :
    false = true ↔ e.Requests ∨ aborted = true ∧ ¬ e.Looks := by
  refine iff_of_false nofun ?_
  rintro (requests | ⟨-, blind⟩)
  · exact not_looks_of_requests requests looks
  · exact blind looks

theorem Effect.aborted_iff (effect : Effect b e b') :
    b'.aborted = true ↔ e.Requests ∨ b.aborted = true ∧ ¬ e.Looks := by
  cases effect with
  | aborted | abortPending => exact iff_of_true rfl (.inl trivial)
  | exchange exchanged _ _ => cases exchanged <;> exact cleared_of_looks trivial
  | receive armed received _ => cases received <;> exact cleared_of_looks trivial
  | send frame wait replied _ => exact cleared_of_looks trivial
  | _ => exact ⟨fun waits => .inr ⟨waits, id⟩, fun held => held.elim False.elim And.left⟩

theorem Effect.settings (effect : Effect b e b') :
    b'.settings = fun switch => (e.setting switch).or (b.settings switch) := by
  cases effect with
  | configure switch on =>
      funext other
      simp only [Settings.set, Entry.setting]
      split <;> rfl
  | exchange exchanged _ _ => cases exchanged <;> rfl
  | receive armed received _ => cases received <;> rfl
  | _ => rfl

theorem Effect.sent (effect : Effect b e b') :
    b'.sent = b.sent ++ (e.frame.map fun frame => (frame, b.settings)).toList := by
  cases effect with
  | exchange exchanged frame _ => rw [frame, Option.map_some, Option.toList_some]
  | receive armed received _ => cases received <;> exact (List.append_nil _).symm
  | _ => exact (List.append_nil _).symm

/-- A pending request ends a call that looks for one. -/
theorem Effect.ended (effect : Effect b e b') (waits : b.aborted = true) (looks : e.Looks) :
    e.Ended := by
  cases effect with
  | exchange exchanged _ draws =>
      rw [waits] at draws
      cases draws
      cases exchanged <;> rfl
  | receive armed received draws =>
      rw [waits] at draws
      cases draws
      cases received <;> rfl
  | send frame wait replied ends =>
      rw [ends.mpr waits]
      rfl
  | _ => exact looks.elim

/-- Nothing but a request ends a reply. -/
theorem Effect.aborted_of_ended (effect : Effect b e b') (sends : e.Sends) (ended : e.Ended) :
    b.aborted = true := by
  cases effect with
  | exchange exchanged _ _ => cases exchanged <;> exact sends.elim
  | receive armed received _ => cases received <;> exact sends.elim
  | @send frame wait answer replied ends =>
      cases answer with
      | ok => cases ended
      | error failure =>
          obtain rfl : failure = .aborted := Option.some.inj ended
          exact ends.mp rfl
  | _ => exact sends.elim

end Effects

section Histories

variable {β : Type} {q : Supply β} {b b' : Bench} {log : List Entry} {e : Entry}
  {aborted : Bool} {left left' given : List (Except Error β)}

theorem filterMap_laid_append : (log ++ [e]).filterMap q.laid =
    log.filterMap q.laid ++ (q.laid e).toList := by
  rw [List.filterMap_append]
  rfl

/-- What was laid out is given away or left over, and a step keeps it so. -/
theorem Turn.delivers (turn : Turn q aborted left e left') (pending : aborted = true ↔ Pending log)
    (delivers : Delivers q log given) (held : log.filterMap q.laid = given ++ left) :
    ∃ given', Delivers q (log ++ [e]) given' ∧
      (log ++ [e]).filterMap q.laid = given' ++ left' := by
  cases turn with
  | other silent =>
      refine ⟨given, .other delivers silent, ?_⟩
      rw [filterMap_laid_append, held, List.append_assoc]
  | @draw a _ gives draws =>
      have same : (log ++ [e]).filterMap q.laid = log.filterMap q.laid := by
        rw [filterMap_laid_append, q.apart gives, Option.toList_none, List.append_nil]
      rw [same, held]
      cases draws with
      | next =>
          have calm : ¬ Pending log := fun waits => nomatch pending.mpr waits
          refine ⟨given ++ [a], .give delivers calm gives ⟨left', ?_⟩, ?_⟩
          · rw [held, List.append_assoc, List.singleton_append]
          · rw [List.append_assoc, List.singleton_append]
      | empty =>
          have calm : ¬ Pending log := fun waits => nomatch pending.mpr waits
          rw [List.append_nil] at held
          subst held
          exact ⟨_, .empty delivers calm gives, rfl⟩
      | aborted => exact ⟨given, .aborted delivers (pending.mp rfl) gives, rfl⟩

/-- A bench has kept account of what was done with it. -/
structure Accounted (log : List Entry) (b : Bench) : Prop where
  aborted : b.aborted = true ↔ Pending log
  answers : ∃ given, Delivers .answers log given ∧
    log.filterMap Supply.answers.laid = given ++ b.answers
  frames : ∃ given, Delivers .frames log given ∧
    log.filterMap Supply.frames.laid = given ++ b.frames
  /-- A pending request ends the next call that looks for one. -/
  ended : ∀ {i e}, log[i]? = some e → Pending (log.take i) → e.Looks → e.Ended
  /-- A reply is ended by nothing else. -/
  request : ∀ {i e}, log[i]? = some e → e.Sends → e.Ended → Pending (log.take i)
  settings : b.settings = settingsIn log
  sent : b.sent = sentIn log

theorem accounted_initial : Accounted [] {} where
  aborted := iff_of_false nofun fun ⟨_, ⟨_, found, _⟩, _⟩ => nomatch found
  answers := ⟨[], .nil, rfl⟩
  frames := ⟨[], .nil, rfl⟩
  ended found := nomatch found
  request found := nomatch found
  settings := rfl
  sent := rfl

theorem Accounted.step (accounted : Accounted log b) (effect : Effect b e b') :
    Accounted (log ++ [e]) b' where
  aborted := by rw [effect.aborted_iff, accounted.aborted, pending_append_iff]
  answers := by
    obtain ⟨given, delivers, held⟩ := accounted.answers
    exact effect.answers.delivers accounted.aborted delivers held
  frames := by
    obtain ⟨given, delivers, held⟩ := accounted.frames
    exact effect.frames.delivers accounted.aborted delivers held
  ended {i x} found waits looks := by
    rcases getElem?_snoc_iff.mp found with earlier | ⟨rfl, rfl⟩
    · have inside := (List.getElem?_eq_some_iff.mp earlier).1
      rw [List.take_append_of_le_length (Nat.le_of_lt inside)] at waits
      exact accounted.ended earlier waits looks
    · rw [List.take_left] at waits
      exact effect.ended (accounted.aborted.mpr waits) looks
  request {i x} found sends ended := by
    rcases getElem?_snoc_iff.mp found with earlier | ⟨rfl, rfl⟩
    · have inside := (List.getElem?_eq_some_iff.mp earlier).1
      rw [List.take_append_of_le_length (Nat.le_of_lt inside)]
      exact accounted.request earlier sends ended
    · rw [List.take_left]
      exact accounted.aborted.mp (effect.aborted_of_ended sends ended)
  settings := by rw [effect.settings, accounted.settings, settingsIn_append]
  sent := by rw [effect.sent, accounted.sent, accounted.settings, sentIn_append]

theorem Accounted.play {steps : List Step} (accounted : Accounted log b)
    (bounded : ∀ step ∈ steps, step.Bounded) :
    Accounted (log ++ (b.play steps).1) (b.play steps).2 := by
  induction steps generalizing log b with
  | nil =>
      simp only [Bench.play, List.append_nil]
      exact accounted
  | cons step rest ih =>
      have first := accounted.step (effect_perform (bounded step List.mem_cons_self))
      have last := ih first fun later member => bounded later (List.mem_cons_of_mem step member)
      rw [List.append_assoc, List.singleton_append] at last
      exact last

/-- However laying out, calling and aborting follow each other: what was laid out is given away in
its order, with a timeout when there is nothing left, or is still there, and a request ends one call
at most. -/
theorem loses_no_answer {steps : List Step} (bounded : ∀ step ∈ steps, step.Bounded) :
    Accounted (play {} steps).1 (play {} steps).2 ∧
      ∀ {i j}, Spends (play {} steps).1 i j →
        (∃ e, (play {} steps).1[j]? = some e ∧ e.Ended) ∧
          ∀ {k}, Spends (play {} steps).1 i k → k = j := by
  have accounted := accounted_initial.play bounded
  rw [List.nil_append] at accounted
  refine ⟨accounted, fun {i j} spends => ⟨?_, fun again => again.unique spends⟩⟩
  obtain ⟨e, called, looks⟩ := spends.call
  exact ⟨e, called, accounted.ended called ⟨i, spends.waits⟩ looks⟩

/-- Something is laid out before and after a call finds nothing, and a request comes first. -/
def lateAnswer : List Step :=
  [.layAnswer (.ok (.ofBytes [1])), .layFrame (.ok [9]), .abort, .abort,
    .call (.bytes [0x30] (.millis 5)), .call (.configure .handleCrc true),
    .call (.bytes [0x31] (.millis 5)), .call (.bits (.short 0x26) .immediate),
    .layAnswer (.error .rfTimeout), .call (.bits (.short 0x52) .immediate),
    .abort, .call (.send [7] .immediate), .call (.receive .immediate)]

theorem loses_no_answer_late :
    (∀ step ∈ lateAnswer, step.Bounded) ∧
      Delivers .answers (play {} lateAnswer).1 [.ok (.ofBytes [1]), .error .rfTimeout] ∧
      Delivers .frames (play {} lateAnswer).1 [.ok [9]] ∧
      (sentIn (play {} lateAnswer).1).map (fun out => (out.1.data, out.2 .handleCrc)) =
        [([0x30], none), ([0x31], some true), ([0x26], some true), ([0x52], some true)] := by
  have bounded : ∀ step ∈ lateAnswer, step.Bounded := by
    unfold lateAnswer
    simp [Step.Bounded]
  obtain ⟨accounted, -⟩ := loses_no_answer bounded
  obtain ⟨answers, delivered, laid⟩ := accounted.answers
  obtain ⟨frames, received, queued⟩ := accounted.frames
  have all : answers = [.ok (.ofBytes [1]), .error .rfTimeout] :=
    (List.append_nil answers).symm.trans laid.symm
  have heard : frames = [.ok [9]] := (List.append_nil frames).symm.trans queued.symm
  refine ⟨bounded, all ▸ delivered, heard ▸ received, ?_⟩
  rw [← accounted.sent]
  rfl

end Histories

end Contactless.Bench
