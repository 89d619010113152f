import Contactless.Proofs.Loopback.Turns
import Contactless.Proofs.Transcript
import Mathlib.Logic.Relation

/-! Plays at any times, in which every wait may run out. What an initiator may come to then, when it
gives up after a wait that has run out, and when the target end does. -/
namespace Contactless.Loopback

variable {α β : Type}

/-- Any number of moves at any times. -/
abbrev Play.Moves : Play α β → Play α β → Prop :=
  Relation.ReflTransGen fun s s' => ∃ e, Play.Move (fun _ => True) s e s'

/-- Whatever the moves are, the results of the initiator are among these. -/
def Play.Always (right : α → Prop) (s : Play α β) : Prop :=
  ∀ s', Play.Moves s s' → ∀ a, s'.initiator = .finished (some a) → right a

/-- Wherever a program goes next, be it because its wait runs out. -/
def Thread.Only (role : Role) (p : Pair) (place : Thread α → Pair → Prop) (t : Thread α) : Prop :=
  ∀ now t' p', t.step role now p = some (t', p') → place t' p'

section Only

variable {role : Role} {p p' : Pair} {t : Thread α} {place : Thread α → Pair → Prop}

theorem Thread.Goes.only (goes : t.Goes role p place) : t.Only role p place := by
  intro now t' p' steps
  obtain ⟨t₁, p₁, same, there⟩ := goes.steps now
  cases same.symm.trans steps
  exact there

/-- A wait with nothing to see ends only when it runs out. -/
theorem only_expiry {w : Wait} {deadline : Option Nat}
    {resume : Except Error BitFrame → Dialogue Terminal α} (looks : p.look role w = (.nothing, p'))
    (there : place (.running (resume w.expiry)) p') :
    (Thread.blocked w deadline resume).Only role p place := by
  intro now t₁ p₁ steps
  unfold Thread.step at steps
  dsimp only at steps
  rw [looks] at steps
  by_cases late : Thread.expired now deadline
  · cases (if_pos late).symm.trans steps
    exact there
  · cases (if_neg late).symm.trans steps

end Only

section Always

variable {right : α → Prop} {i : Thread α} {t : Thread β} {p : Pair}

theorem always_of_only (now : ∀ a, i = .finished (some a) → right a)
    (near : i.Only .initiator p fun i' p' => Play.Always right ⟨i', t, p'⟩)
    (far : t.Only .target p fun t' p' => Play.Always right ⟨i, t', p'⟩) :
    Play.Always right ⟨i, t, p⟩ := by
  intro s moves
  rcases Relation.ReflTransGen.cases_head moves with rfl | ⟨s₁, ⟨e, move⟩, later⟩
  · exact now
  · cases move with
    | initiator _ steps => exact near _ _ _ steps s later
    | target _ steps => exact far _ _ _ steps s later

/-- All results of a program are good, whatever it is answered. -/
inductive Thread.Gives (right : α → Prop) : Thread α → Prop
  | running {d : Dialogue Terminal α} : d.Gives right → Gives right (.running d)
  | blocked {w : Wait} {deadline : Option Nat}
      {resume : Except Error BitFrame → Dialogue Terminal α} :
      (∀ r, (resume r).Gives right) → Gives right (.blocked w deadline resume)
  | finished {result : Option α} : (∀ a, result = some a → right a) →
      Gives right (.finished result)

theorem Thread.Gives.step {role : Role} {now : Nat} {i' : Thread α} {p' : Pair}
    (gives : i.Gives right) (steps : i.step role now p = some (i', p')) : i'.Gives right := by
  cases Thread.go_of_step steps with
  | done a =>
      cases gives with
      | running gives =>
          refine .finished ?_
          rintro _ ⟨⟩
          exact gives _ a (.done a)
  | cut => exact .finished nofun
  | signal next =>
      cases gives with
      | running gives => exact .running (gives.answer ())
  | settled begins =>
      cases gives with
      | running gives => exact .running (gives.answer _)
  | waits begins =>
      cases gives with
      | running gives => exact .blocked fun r => gives.answer _
  | found looks =>
      cases gives with
      | blocked gives => exact .running (gives _)
  | forwarded looks =>
      cases gives with
      | blocked gives => exact .blocked gives
  | expired looks late =>
      cases gives with
      | blocked gives => exact .running (gives _)

theorem always_of_gives (gives : i.Gives right) : Play.Always right ⟨i, t, p⟩ := by
  intro s moves
  have kept : s.initiator.Gives right := by
    induction moves with
    | refl => exact gives
    | tail _ move ih =>
        obtain ⟨e, move⟩ := move
        cases move with
        | initiator _ steps => exact ih.step steps
        | target _ _ => exact ih
  intro a ended
  rw [ended] at kept
  cases kept with
  | finished holds => exact holds a rfl

/-- A program does nothing any more. -/
inductive Thread.Over : Thread β → Prop
  | done (b : β) : Over (.running (.done b))
  | cut : Over (.running .cut)
  | finished (result : Option β) : Over (.finished result)

/-- The target end is of no consequence once its program is over. -/
theorem always_of_over (unfinished : i.result = none)
    (near : ∀ t : Thread β, t.Over → i.Only .initiator p fun i' p' => Play.Always right ⟨i', t, p'⟩)
    (idle : t.Over) : Play.Always right ⟨i, t, p⟩ := by
  have running : ∀ a, i = .finished (some a) → right a := by
    rintro a rfl
    cases unfinished
  have ended (result : Option β) : Play.Always right ⟨i, .finished result, p⟩ :=
    always_of_only running (near _ (.finished result)) fun _ _ _ steps => by cases steps
  have goes {d : Dialogue Terminal β} {result : Option β} (idle : (Thread.running d).Over)
      (steps : ∀ now, (Thread.running d).step .target now p = some (.finished result, p)) :
      Play.Always right ⟨i, .running d, p⟩ := by
    refine always_of_only running (near _ idle) fun now t' p' same => ?_
    cases (steps now).symm.trans same
    exact ended result
  cases idle with
  | done b => exact goes (.done b) fun _ => rfl
  | cut => exact goes .cut fun _ => rfl
  | finished result => exact ended result

/-- A program at the target end waits for the next frame and ends when its wait runs out, if it has
not ended yet. -/
inductive Aside (next : Except Error Bytes → Dialogue Terminal β) : Thread β → Prop
  | calls {wait : Timeout} : (Thread.running (next (.error .timeout))).Over →
      Aside next (.running (.ask (.inl (.receive wait)) next))
  | waits {deadline : Option Nat} : (Thread.running (next (.error .timeout))).Over →
      Aside next (.blocked .frame deadline fun r => next (r.map BitFrame.data))
  | ended {t : Thread β} : t.Over → Aside next t

theorem result_of_free {role : Role} (free : ¬ i.Stuck role p) : i.result = none := by
  cases i with
  | running | blocked => rfl
  | finished result => exact absurd trivial free

/-- Nothing but good comes of a play if nothing else comes of it after every go of the initiator,
after every go of the target end it waits for, and when a wait for that runs out. -/
theorem carries_always (right : α → Prop) :
    Carries (β := β) (fun _ => True) (Dialogue.Gives right) Aside (Play.Always right) where
  either near far := by
    refine always_of_only ?_ near.only far.only
    rintro a rfl
    exact absurd trivial near.free
  await := by
    rintro t p w deadline resume ⟨p', nothing⟩ - gives far
    exact always_of_only nofun (only_expiry nothing (always_of_gives (.running gives))) far.only
  beside := by
    intro next i t p aside calm goes
    have unfinished := result_of_free goes.free
    have running : ∀ a, i = .finished (some a) → right a := by
      rintro a rfl
      cases unfinished
    have beside {t : Thread β} (aside : Aside next t) :
        i.Only .initiator p fun i' p' => Play.Always right ⟨i', t, p'⟩ :=
      (goes.mono fun _ _ later => later t aside).only
    have ended {t : Thread β} (idle : t.Over) : Play.Always right ⟨i, t, p⟩ :=
      always_of_over unfinished (fun t idle => beside (.ended idle)) idle
    have waits {deadline : Option Nat} (quits : (Thread.running (next (.error .timeout))).Over) :
        Play.Always right ⟨i, .blocked .frame deadline fun r => next (r.map BitFrame.data), p⟩ :=
      always_of_only running (beside (.waits quits)) (only_expiry (look_frame calm) (ended quits))
    cases aside with
    | calls quits =>
        exact always_of_only running (beside (.calls quits))
          (goes_waits rfl fun _ => waits quits).only
    | waits quits => exact waits quits
    | ended idle => exact ended idle
  takes := by
    intro next t a frame deadline resume aside _ gives later
    have lost (t : Thread β) :
        (Thread.blocked .reply deadline resume).Only .initiator (.held a [frame] []) fun i' p' =>
          Play.Always right ⟨i', t, p'⟩ :=
      only_expiry rfl (always_of_gives (.running gives))
    have taken {deadline' : Option Nat} : Play.Always right
        ⟨.blocked .reply deadline resume,
          .blocked .frame deadline' fun r => next (r.map BitFrame.data), .held a [frame] []⟩ :=
      always_of_only nofun (lost _) (goes_found rfl later).only
    cases aside with
    | calls _ => exact always_of_only nofun (lost _) (goes_waits rfl fun _ => taken).only
    | waits _ => exact taken
    | ended idle => exact always_of_over rfl (fun t _ => lost t) idle

theorem stands_aside (wait : Timeout) : Stands (Aside (β := β)) wait where
  calls quits := .calls (quits ▸ .done _)
  waits quits _ := .waits (quits ▸ .done _)

end Always

end Contactless.Loopback
