import Contactless.Loopback.Schedule
import Contactless.Proofs.Wire

/-! Programs at the ends of a simulated field do what they do over a link that delivers every frame
in order. -/
namespace Contactless.Loopback

variable {α β : Type}

namespace Schedule

/-- Whatever happens after the second schedule also happens, later, after the first. -/
def Leads (s u : Schedule α β) : Prop := ∃ k, ∀ fuel, run (fuel + k) s = run fuel u

theorem Leads.refl (s : Schedule α β) : Leads s s := ⟨0, fun _ => rfl⟩

theorem Leads.head {s u v : Schedule α β} (first : s.step = some u) (later : Leads u v) :
    Leads s v := by
  obtain ⟨k, same⟩ := later
  refine ⟨k + 1, fun fuel => ?_⟩
  rw [← same, ← Nat.add_assoc, run, first]

theorem Leads.trans {s u v : Schedule α β} (first : Leads s u) (later : Leads u v) : Leads s v := by
  obtain ⟨j, same⟩ := later
  obtain ⟨k, before⟩ := first
  exact ⟨j + k, fun fuel => by rw [← Nat.add_assoc, before, same]⟩

end Schedule

/-- A wait that does not end as soon as it begins. -/
def Lasting (t : Timeout) : Prop := t.limit ≠ some 0

theorem expired_of_lasting {t : Timeout} (lasting : Lasting t) (now : Nat) :
    Thread.expired 0 (Thread.deadlineOf now t) = false := by
  unfold Lasting at lasting
  unfold Thread.deadlineOf Thread.expired
  cases limit : t.limit with
  | none => rfl
  | some left =>
      rw [limit] at lasting
      have positive : left ≠ 0 := fun zero => lasting (congrArg some zero)
      exact decide_eq_false (show ¬ now + left ≤ 0 by omega)

/-- Both chips while the target end gives every frame to its host. -/
def forwarding (own : DepInfo) (toTarget toInitiator : List Bytes) : Pair :=
  ⟨⟨.armed ⟨.dep own, .active⟩, toTarget, toInitiator⟩, {}, {}⟩

/-- A schedule at a place of a link, with the turn at the target. The initiator waits for a reply,
which may be under way already. -/
inductive Shows (own : DepInfo) : Wire α β → Schedule α β → Prop
  | replied {d : Dialogue Chip α} {target : Dialogue Chip β} {reply : Bytes}
      {deadline : Option Nat} {resume : Except Error BitFrame → Dialogue Terminal α}
      (goes : resume (.ok (.ofBytes reply)) = d.left) :
      Shows own ⟨.running d, target, [], []⟩
        ⟨.blocked .reply deadline resume, .running target.left, forwarding own [] [reply], 0,
          .target, false⟩
  | awaiting {next : Except Error Bytes → Dialogue Chip α} {target : Dialogue Chip β}
      {deadline : Option Nat} {resume : Except Error BitFrame → Dialogue Terminal α}
      (goes : ∀ reply, resume (.ok (.ofBytes reply)) = (next (.ok reply)).left) :
      Shows own ⟨.awaiting next, target, [], []⟩
        ⟨.blocked .reply deadline resume, .running target.left, forwarding own [] [], 0, .target,
          false⟩

section Waiting

variable {own : DepInfo} {frames replies : List Bytes} {patience : Timeout}

theorem step_target_waits (initiator : Thread α)
    (resume : Except Error BitFrame → Dialogue Terminal β) (lasting : Lasting patience) :
    Schedule.step ⟨initiator, .blocked .frame (Thread.deadlineOf 0 patience) resume,
        forwarding own [] replies, 0, .target, false⟩ =
      some ⟨initiator, .blocked .frame (Thread.deadlineOf 0 patience) resume,
        forwarding own [] replies, 0, .initiator, true⟩ := by
  have stuck : Thread.step .target 0 (forwarding own [] replies)
      (.blocked .frame (Thread.deadlineOf 0 patience) resume) = none := by
    change (if Thread.expired 0 (Thread.deadlineOf 0 patience) then _ else _) = _
    rw [expired_of_lasting lasting]
    rfl
  unfold Schedule.step Schedule.proceed
  simp only [stuck, Option.map_none]
  rfl

theorem step_initiator_waits (target : Thread β)
    (resume : Except Error BitFrame → Dialogue Terminal α) (lasting : Lasting patience) :
    Schedule.step ⟨.blocked .reply (Thread.deadlineOf 0 patience) resume, target,
        forwarding own frames [], 0, .initiator, false⟩ =
      some ⟨.blocked .reply (Thread.deadlineOf 0 patience) resume, target,
        forwarding own frames [], 0, .target, true⟩ := by
  have stuck : Thread.step .initiator 0 (forwarding own frames [])
      (.blocked .reply (Thread.deadlineOf 0 patience) resume) = none := by
    change (if Thread.expired 0 (Thread.deadlineOf 0 patience) then _ else _) = _
    rw [expired_of_lasting lasting]
    rfl
  unfold Schedule.step Schedule.proceed
  simp only [stuck, Option.map_none]
  rfl

end Waiting

/-- An initiator that is about to send finds the target waiting for its frame. -/
theorem leads_request (own : DepInfo) (frame : Bytes) {wait : Timeout} (lasts : Lasting wait)
    (next : Except Error Bytes → Dialogue Chip α) (rest : Except Error Bytes → Dialogue Chip β)
    (deadline : Option Nat) (stuck : Bool) :
    ∃ u, Schedule.Leads
        ⟨.running (Dialogue.left (.ask (.bytes frame wait) next)),
          .blocked .frame deadline fun r => (rest (r.map BitFrame.data)).left,
          forwarding own [] [], 0, .initiator, stuck⟩ u ∧
      Shows own ⟨.awaiting next, rest (.ok frame), [], []⟩ u :=
  ⟨_, .head rfl (.head rfl (.head (step_initiator_waits _ _ lasts) (.head rfl (.refl _)))),
    .awaiting fun _ => rfl⟩

theorem Shows.hop {own : DepInfo} {w v : Wire α β} {s : Schedule α β}
    (here : Shows own w s) (hop : Wire.Hop Lasting w v) :
    ∃ u, Schedule.Leads s u ∧ Shows own v u := by
  cases hop with
  | @answer frame wait next rest listens =>
      cases here with
      | awaiting goes => exact ⟨_, .head rfl (.refl _), .replied (goes frame)⟩
  | @request frame wait patience next rest lasts patient =>
      cases here with
      | @replied _ _ reply deadline resume goes =>
          obtain ⟨u, leads, after⟩ := leads_request own frame lasts next rest
            (Thread.deadlineOf 0 patience) false
          rw [← goes] at leads
          exact ⟨u, .head rfl (.head (step_target_waits _ _ patient) (.head rfl leads)), after⟩

theorem Shows.hops {own : DepInfo} {w v : Wire α β} (hops : Wire.Hops Lasting w v) :
    ∀ {s : Schedule α β}, Shows own w s → ∃ u, Schedule.Leads s u ∧ Shows own v u := by
  induction hops using Relation.ReflTransGen.head_induction_on with
  | refl =>
      intro s here
      exact ⟨s, .refl s, here⟩
  | head first _ ih =>
      intro s here
      obtain ⟨u, leads, there⟩ := here.hop first
      obtain ⟨x, further, last⟩ := ih there
      exact ⟨x, leads.trans further, last⟩

/-- Two programs before their first step, with nobody in the field. -/
def starting (initiator : Dialogue Chip α) (target : Dialogue Chip β) : Schedule α β :=
  ⟨.running initiator.left, .running target.left, {}, 0, .target, false⟩

theorem leads_opening {initiator : Dialogue Chip α} {target : Dialogue Chip β} {v : Wire α β}
    (opening : Wire.Opening Lasting ⟨.running initiator, target, [], []⟩ v) :
    ∃ own u, Schedule.Leads (starting initiator target) u ∧ Shows own v u := by
  cases opening with
  | @arm frame wait patience own next rest lasts patient =>
      obtain ⟨u, leads, here⟩ := leads_request own frame lasts next rest
        (Thread.deadlineOf 0 patience) true
      exact ⟨own, u, .head rfl (.head (step_target_waits _ _ patient) leads), here⟩

/-- Both programs have come to their results, which no further step changes. -/
def Schedule.Over (s : Schedule α β) (a : α) (b : β) : Prop :=
  s.initiator = .finished (some a) ∧ s.target = .finished (some b)

theorem Schedule.Over.step {s u : Schedule α β} {a : α} {b : β} (ended : s.Over a b)
    (steps : s.step = some u) : u.Over a b := by
  obtain ⟨initiator, target, pair, clock, turn, stuck⟩ := s
  obtain ⟨rfl, rfl⟩ := ended
  cases turn <;> cases stuck <;> cases steps <;> exact ⟨rfl, rfl⟩

theorem Schedule.Over.run {a : α} {b : β} (fuel : Nat) {s : Schedule α β} (ended : s.Over a b) :
    (s.run fuel).Over a b := by
  induction fuel generalizing s with
  | zero => exact ended
  | succ fuel ih =>
      unfold Schedule.run
      cases step : s.step with
      | none => exact ended
      | some u => exact ih (ended.step step)

theorem Shows.ends {own : DepInfo} {a : α} {b : β} {s : Schedule α β}
    (here : Shows own ⟨.running (.done a), .done b, [], []⟩ s) :
    ∃ u, Schedule.Leads s u ∧ u.Over a b := by
  cases here with
  | @replied _ _ reply deadline resume goes =>
      have last : ∃ u, Schedule.Leads
          (⟨.running (resume (.ok (.ofBytes reply))), .finished (some b), forwarding own [] [], 0,
            .initiator, false⟩ : Schedule α β) u ∧ u.Over a b := by
        rw [goes]
        exact ⟨_, .head rfl (.refl _), rfl, rfl⟩
      obtain ⟨u, leads, ended⟩ := last
      exact ⟨u, .head rfl (.head rfl (.head rfl leads)), ended⟩

/-- What both programs come to over a link that delivers every frame in order, they come to in a
simulated field. -/
theorem runBoth_of_opened {initiator : Dialogue Chip α} {target : Dialogue Chip β} {a : α} {b : β}
    (opened : Wire.Opened Lasting ⟨.running initiator, target, [], []⟩
      ⟨.running (.done a), .done b, [], []⟩) :
    ∃ least, ∀ horizon, least ≤ horizon → ∃ pair,
      Pair.runBoth horizon {} initiator.left target.left = (some a, some b, pair) := by
  obtain ⟨w, opening, hops⟩ := opened
  obtain ⟨own, s, first, here⟩ := leads_opening opening
  obtain ⟨u, further, there⟩ := here.hops hops
  obtain ⟨v, last, ended⟩ := there.ends
  obtain ⟨least, same⟩ := (first.trans further).trans last
  refine ⟨least, fun horizon enough => ?_⟩
  have ends : ((starting initiator target).run horizon).Over a b := by
    rw [← Nat.sub_add_cancel enough, same]
    exact ended.run (horizon - least)
  refine ⟨((starting initiator target).run horizon).pair, ?_⟩
  change (((starting initiator target).run horizon).initiator.result,
    ((starting initiator target).run horizon).target.result, _) = _
  rw [ends.1, ends.2]
  rfl

end Contactless.Loopback
