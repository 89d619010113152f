import Contactless.Proofs.Joint
import Contactless.Proofs.Loopback.Schedule
import Contactless.Proofs.Loopback.Turns

/-! Plays in which no wait runs out. What they come to in whatever order the programs go on, they
come to under the schedule of both. -/
namespace Contactless.Loopback

variable {α β : Type}

/-- A wait has not run out. -/
def Open (deadline : Option Nat) (now : Nat) : Prop := Thread.expired now deadline = false

/-- A program that has nothing to go on with may still wait. -/
def Thread.InTime (role : Role) (p : Pair) (now : Nat) (t : Thread α) : Prop :=
  t.Stuck role p → Open t.deadline now

/-- One of the programs goes on, at a time when no wait in vain has run out. -/
def Play.Turn (s s' : Play α β) : Prop :=
  ∃ now e, s.initiator.InTime .initiator s.pair now ∧ s.target.InTime .target s.pair now ∧
    Play.Move (· = now) s e s'

theorem Open.earlier {deadline : Option Nat} {now now' : Nat} (h : Open deadline now)
    (earlier : now' ≤ now) : Open deadline now' := by
  unfold Open Thread.expired at *
  cases deadline with
  | none => rfl
  | some moment =>
      have later : ¬ moment ≤ now := of_decide_eq_false h
      exact decide_eq_false (by omega)

section Times

variable {role : Role} {p : Pair} {t : Thread α}

theorem Thread.Stuck.step {now : Nat} (stuck : t.Stuck role p) (early : Open t.deadline now) :
    t.step role now p = none := by
  cases t with
  | running d => exact stuck.elim
  | finished result => rfl
  | blocked w deadline resume =>
      obtain ⟨p', nothing⟩ := stuck
      unfold Thread.step
      dsimp only
      rw [nothing]
      exact if_neg (Bool.eq_false_iff.mp early)

theorem Thread.InTime.earlier {now now' : Nat} (inTime : t.InTime role p now)
    (earlier : now' ≤ now) : t.InTime role p now' := fun stuck => (inTime stuck).earlier earlier

theorem Thread.InTime.free {now : Nat} {r : Thread α × Pair} (inTime : t.InTime role p now)
    (steps : t.step role now p = some r) : ¬ t.Stuck role p := by
  intro stuck
  cases (stuck.step (inTime stuck)).symm.trans steps

theorem Thread.step_of_free (free : ¬ t.Stuck role p) (now : Nat) :
    ∃ t' p', t.step role now p = some (t', p') := by
  cases t with
  | finished result => exact absurd trivial free
  | running d =>
      cases d with
      | done a => exact ⟨_, _, rfl⟩
      | cut => exact ⟨_, _, rfl⟩
      | ask q next =>
          cases q with
          | inr signal => exact ⟨_, _, rfl⟩
          | inl call =>
              unfold Thread.step
              dsimp only
              cases p.begin role call with
              | settled | wait => exact ⟨_, _, rfl⟩
  | blocked w deadline resume =>
      unfold Thread.step
      dsimp only
      cases looks : p.look role w with
      | mk seen p' =>
          cases seen with
          | found | forwarded => exact ⟨_, _, rfl⟩
          | nothing => exact absurd ⟨p', looks⟩ free

end Times

section Orders

variable {goal : Play α β → Prop} {i : Thread α} {t : Thread β} {p : Pair}

theorem inevitable_initiator
    (goes : i.Goes .initiator p fun i' p' => Inevitable Play.Turn goal ⟨i', t, p'⟩)
    (stuck : t.Stuck .target p) (early : Open t.deadline 0) :
    Inevitable Play.Turn goal ⟨i, t, p⟩ := by
  obtain ⟨i', p', steps, -⟩ := goes.steps 0
  refine .later ⟨0, _, fun none => absurd none goes.free, fun _ => early, .initiator rfl steps⟩ ?_
  rintro s ⟨now, e, -, inTime, move⟩
  cases move with
  | initiator _ steps =>
      obtain ⟨i', p', same, later⟩ := goes.steps _
      cases same.symm.trans steps
      exact later
  | target same steps =>
      cases same
      cases (stuck.step (inTime stuck)).symm.trans steps

theorem inevitable_target
    (goes : t.Goes .target p fun t' p' => Inevitable Play.Turn goal ⟨i, t', p'⟩)
    (stuck : i.Stuck .initiator p) (early : Open i.deadline 0) :
    Inevitable Play.Turn goal ⟨i, t, p⟩ := by
  obtain ⟨t', p', steps, -⟩ := goes.steps 0
  refine .later ⟨0, _, fun _ => early, fun none => absurd none goes.free, .target rfl steps⟩ ?_
  rintro s ⟨now, e, inTime, -, move⟩
  cases move with
  | initiator same steps =>
      cases same
      cases (stuck.step (inTime stuck)).symm.trans steps
  | target _ steps =>
      obtain ⟨t', p', same, later⟩ := goes.steps _
      cases same.symm.trans steps
      exact later

theorem inevitable_either
    (near : i.Goes .initiator p fun i' p' => Inevitable Play.Turn goal ⟨i', t, p'⟩)
    (far : t.Goes .target p fun t' p' => Inevitable Play.Turn goal ⟨i, t', p'⟩) :
    Inevitable Play.Turn goal ⟨i, t, p⟩ := by
  obtain ⟨i', p', steps, -⟩ := near.steps 0
  refine .later ⟨0, _, fun none => absurd none near.free, fun none => absurd none far.free,
    .initiator rfl steps⟩ ?_
  rintro s ⟨now, e, -, -, move⟩
  cases move with
  | initiator _ steps =>
      obtain ⟨i', p', same, later⟩ := near.steps _
      cases same.symm.trans steps
      exact later
  | target _ steps =>
      obtain ⟨t', p', same, later⟩ := far.steps _
      cases same.symm.trans steps
      exact later

end Orders

/-- A program at the target end does nothing but wait for the next frame. -/
inductive Resting (next : Except Error Bytes → Dialogue Terminal β) : Thread β → Prop
  | calls {wait : Timeout} : Lasting wait →
      Resting next (.running (.ask (.inl (.receive wait)) next))
  | waits {deadline : Option Nat} : Open deadline 0 →
      Resting next (.blocked .frame deadline fun r => next (r.map BitFrame.data))

/-- Whatever the initiator does beside a target end that rests, the play comes to its goal if it
does so after every go of the initiator, and after every go of the target end it waits for. -/
theorem carries_inevitable (goal : Play α β → Prop) :
    Carries (Open · 0) (fun _ => True) Resting (Inevitable Play.Turn goal) where
  either := inevitable_either
  await stuck early _ far := inevitable_target far stuck early
  beside := by
    intro next i t p resting calm goes
    have waits {deadline : Option Nat} (early : Open deadline 0) : Inevitable Play.Turn goal
        ⟨i, .blocked .frame deadline fun r => next (r.map BitFrame.data), p⟩ :=
      inevitable_initiator (goes.mono fun _ _ later => later _ (.waits early))
        ⟨p, look_frame calm⟩ early
    cases resting with
    | calls patient =>
        exact inevitable_either (goes.mono fun _ _ later => later _ (.calls patient))
          (goes_waits rfl fun now => waits (expired_of_lasting patient now))
    | waits early => exact waits early
  takes := by
    intro next t a frame deadline resume resting early _ later
    have taken {deadline' : Option Nat} : Inevitable Play.Turn goal
        ⟨.blocked .reply deadline resume,
          .blocked .frame deadline' fun r => next (r.map BitFrame.data), .held a [frame] []⟩ :=
      inevitable_target (goes_found rfl later) (stuck_reply a _ _ _) early
    cases resting with
    | calls _ => exact inevitable_target (goes_waits rfl fun _ => taken) (stuck_reply a _ _ _) early
    | waits _ => exact taken

theorem stands_resting {wait : Timeout} (lasts : Lasting wait) :
    Stands (Resting (β := β)) wait where
  calls _ := .calls lasts
  waits _ now := .waits (expired_of_lasting lasts now)

section Schedules

variable {goal : Play α β → Prop}

/-- The program whose turn it is not can do nothing. -/
def Schedule.Waits (s : Schedule α β) : Prop :=
  match s.turn with
  | .initiator => s.target.step .target s.clock s.pair = none
  | .target => s.initiator.step .initiator s.clock s.pair = none

section Steps

variable {i i' : Thread α} {t t' : Thread β} {p p' : Pair}

theorem step_near (steps : i.step .initiator 0 p = some (i', p')) (stuck : Bool) :
    Schedule.step ⟨i, t, p, 0, .initiator, stuck⟩ = some ⟨i', t, p', 0, .initiator, false⟩ := by
  unfold Schedule.step Schedule.proceed
  dsimp only
  rw [steps]
  rfl

theorem step_far (steps : t.step .target 0 p = some (t', p')) (stuck : Bool) :
    Schedule.step ⟨i, t, p, 0, .target, stuck⟩ = some ⟨i, t', p', 0, .target, false⟩ := by
  unfold Schedule.step Schedule.proceed
  dsimp only
  rw [steps]
  rfl

theorem step_pass_near (stuck : i.step .initiator 0 p = none) :
    Schedule.step ⟨i, t, p, 0, .initiator, false⟩ = some ⟨i, t, p, 0, .target, true⟩ := by
  unfold Schedule.step Schedule.proceed
  dsimp only
  rw [stuck]
  rfl

theorem step_pass_far (stuck : t.step .target 0 p = none) :
    Schedule.step ⟨i, t, p, 0, .target, false⟩ = some ⟨i, t, p, 0, .initiator, true⟩ := by
  unfold Schedule.step Schedule.proceed
  dsimp only
  rw [stuck]
  rfl

end Steps

/-- A schedule comes to what is inevitable before any time passes. -/
theorem Schedule.leads_of_inevitable {play : Play α β}
    (inevitable : Inevitable Play.Turn goal play) :
    ∀ s : Schedule α β, s.play = play → s.clock = 0 → (s.otherStuck = true → s.Waits) →
      ∃ u, Leads s u ∧ goal u.play := by
  induction inevitable with
  | here reached =>
      rintro s rfl _ _
      exact ⟨s, .refl s, reached⟩
  | @later s₀ s₁ turn _ ih =>
      rintro ⟨i, t, p, clock, role, stuck⟩ rfl zero waits
      obtain rfl : clock = 0 := zero
      obtain ⟨now, e, nearTime, farTime, move⟩ := turn
      have nearTime₀ : i.InTime .initiator p 0 := nearTime.earlier (Nat.zero_le now)
      have farTime₀ : t.InTime .target p 0 := farTime.earlier (Nat.zero_le now)
      have near {i' : Thread α} {p' : Pair} (steps : i.step .initiator 0 p = some (i', p'))
          (stuck : Bool) :
          ∃ u, Leads ⟨i, t, p, 0, .initiator, stuck⟩ u ∧ goal u.play := by
        obtain ⟨u, leads, reached⟩ := ih _ ⟨0, _, nearTime₀, farTime₀, .initiator rfl steps⟩
          ⟨i', t, p', 0, .initiator, false⟩ rfl rfl nofun
        exact ⟨u, .head (step_near steps stuck) leads, reached⟩
      have far {t' : Thread β} {p' : Pair} (steps : t.step .target 0 p = some (t', p'))
          (stuck : Bool) :
          ∃ u, Leads ⟨i, t, p, 0, .target, stuck⟩ u ∧ goal u.play := by
        obtain ⟨u, leads, reached⟩ := ih _ ⟨0, _, nearTime₀, farTime₀, .target rfl steps⟩
          ⟨i, t', p', 0, .target, false⟩ rfl rfl nofun
        exact ⟨u, .head (step_far steps stuck) leads, reached⟩
      have goes : (∃ r, i.step .initiator 0 p = some r) ∨ ∃ r, t.step .target 0 p = some r := by
        cases move with
        | initiator same steps =>
            cases same
            obtain ⟨i', p', steps⟩ := Thread.step_of_free (nearTime.free steps) 0
            exact .inl ⟨_, steps⟩
        | target same steps =>
            cases same
            obtain ⟨t', p', steps⟩ := Thread.step_of_free (farTime.free steps) 0
            exact .inr ⟨_, steps⟩
      -- The program whose turn it is goes on, or passes the turn to the one that can.
      cases role with
      | initiator =>
          cases nearStep : i.step .initiator 0 p with
          | some r => exact near nearStep stuck
          | none =>
              obtain ⟨r, farStep⟩ := goes.resolve_left fun ⟨r, steps⟩ =>
                nomatch nearStep.symm.trans steps
              have free : stuck = false :=
                Bool.eq_false_iff.mpr fun held => nomatch farStep.symm.trans (waits held)
              subst free
              obtain ⟨u, leads, reached⟩ := far farStep true
              exact ⟨u, .head (step_pass_near nearStep) leads, reached⟩
      | target =>
          cases farStep : t.step .target 0 p with
          | some r => exact far farStep stuck
          | none =>
              obtain ⟨r, nearStep⟩ := goes.resolve_right fun ⟨r, steps⟩ =>
                nomatch farStep.symm.trans steps
              have free : stuck = false :=
                Bool.eq_false_iff.mpr fun held => nomatch nearStep.symm.trans (waits held)
              subst free
              obtain ⟨u, leads, reached⟩ := near nearStep true
              exact ⟨u, .head (step_pass_far farStep) leads, reached⟩

theorem finished_move {times : Nat → Prop} {s s' : Play α β} {e : Option Event} {r : Option α}
    (move : Play.Move times s e s') (ended : s.initiator = .finished r) :
    s'.initiator = .finished r := by
  cases move with
  | initiator _ steps =>
      rw [ended] at steps
      cases steps
  | target _ _ => exact ended

theorem finished_run {r : Option α} (fuel : Nat) {s : Schedule α β}
    (ended : s.initiator = .finished r) : (s.run fuel).initiator = .finished r := by
  induction fuel generalizing s with
  | zero => exact ended
  | succ fuel ih =>
      unfold Schedule.run
      cases steps : s.step with
      | none => exact ended
      | some s' =>
          refine ih ?_
          rcases Schedule.move_of_step steps with same | ⟨e, move⟩
          · exact (congrArg Play.initiator same).trans ended
          · exact finished_move (s := s.play) move ended

/-- What an initiator inevitably comes to, it comes to under the schedule of both programs. -/
theorem runBoth_of_inevitable {x : Dialogue Terminal α} {y : Dialogue Terminal β} {p : Pair} {a : α}
    (inevitable : Inevitable Play.Turn (fun s => s.initiator = .finished (some a))
      ⟨.running x, .running y, p⟩) :
    ∃ least, ∀ horizon, least ≤ horizon → (Pair.runBoth horizon p x y).1 = some a := by
  obtain ⟨u, ⟨least, same⟩, ended⟩ := Schedule.leads_of_inevitable inevitable
    ⟨.running x, .running y, p, 0, .target, false⟩ rfl rfl nofun
  refine ⟨least, fun horizon enough => ?_⟩
  have ends : (Schedule.run horizon ⟨.running x, .running y, p, 0, .target, false⟩).initiator =
      .finished (some a) := by
    rw [← Nat.sub_add_cancel enough, same]
    exact finished_run _ ended
  exact congrArg Thread.result ends

end Schedules

end Contactless.Loopback
