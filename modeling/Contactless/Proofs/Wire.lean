import Contactless.Chip
import Mathlib.Logic.Relation

/-! Two programs at the ends of a link that delivers every frame in order. The calling end waits for
an answer to each frame it sends; the target receives and sends. Which end moves next is left open,
and `Wire.Passes` says what holds however that is settled. -/
namespace Contactless

/-- The calling end: on its way, or waiting for an answer. -/
inductive Caller (α : Type) where
  | running (d : Dialogue Chip α)
  | awaiting (next : Except Error Bytes → Dialogue Chip α)

/-- Both ends, and the frames under way between them with the oldest first. -/
structure Wire (α β : Type) where
  caller : Caller α
  target : Dialogue Chip β
  requests : List Bytes
  answers : List Bytes

namespace Wire

variable {α β : Type}

/-- A move of the calling end, which sends a request or takes an answer. -/
def moveCaller (w : Wire α β) : Option (Wire α β) :=
  match w.caller, w.answers with
  | .running (.ask (.bytes frame _) next), _ =>
    some { w with caller := .awaiting next, requests := w.requests ++ [frame] }
  | .awaiting next, answer :: rest =>
    some { w with caller := .running (next (.ok answer)), answers := rest }
  | _, _ => none

/-- A move of the target, which takes a request or sends an answer. -/
def moveTarget (w : Wire α β) : Option (Wire α β) :=
  match w.target, w.requests with
  | .ask (.arm _ _) next, request :: rest =>
    some { w with target := next (.ok request), requests := rest }
  | .ask (.receive _) next, request :: rest =>
    some { w with target := next (.ok request), requests := rest }
  | .ask (.send frame _) next, _ =>
    some { w with target := next (.ok ()), answers := w.answers ++ [frame] }
  | _, _ => none

def Move (w v : Wire α β) : Prop := w.moveCaller = some v ∨ w.moveTarget = some v

inductive Moves : Nat → Wire α β → Wire α β → Prop
  | refl (w : Wire α β) : Moves 0 w w
  | head {n : Nat} {w v x : Wire α β} : Move w v → Moves n v x → Moves (n + 1) w x

/-- Every run comes through a place. A run that is too short for that leads there, and a longer one
has come from there. -/
def Passes (start place : Wire α β) : Prop :=
  ∃ m, Moves m start place ∧ ∀ k w, Moves k start w →
    (k ≤ m → Moves (m - k) w place) ∧ (m ≤ k → Moves (k - m) place w)

theorem Passes.refl (w : Wire α β) : Passes w w := by
  refine ⟨0, .refl w, fun k v run => ⟨fun short => ?_, fun _ => run⟩⟩
  obtain rfl := Nat.le_zero.mp short
  cases run
  exact .refl w

/-- A move that nothing competes with is part of every run. -/
theorem Passes.of_move {w v place : Wire α β} (move : Move w v) (only : ∀ x, Move w x → x = v)
    (later : Passes v place) : Passes w place := by
  obtain ⟨m, reach, every⟩ := later
  refine ⟨m + 1, .head move reach, ?_⟩
  intro k x run
  cases run with
  | refl =>
      refine ⟨fun _ => .head move reach, fun long => ?_⟩
      exact absurd long (Nat.not_succ_le_zero m)
  | head first rest =>
      obtain rfl := only _ first
      obtain ⟨short, long⟩ := every _ _ rest
      refine ⟨fun h => ?_, fun h => ?_⟩
      · rw [Nat.add_sub_add_right]
        exact short (Nat.le_of_succ_le_succ h)
      · rw [Nat.add_sub_add_right]
        exact long (Nat.le_of_succ_le_succ h)

/-- No frame is under way, and neither end sends one any more. -/
def Still (w : Wire α β) : Prop := ∀ v, ¬ Move w v

/-- A still place is where every run ends. -/
theorem Passes.le_of_still {start place : Wire α β} (passes : Passes start place)
    (still : Still place) :
    ∃ m, ∀ k w, Moves k start w → k ≤ m ∧ Moves (m - k) w place := by
  obtain ⟨m, -, every⟩ := passes
  refine ⟨m, fun k w run => ?_⟩
  obtain ⟨short, long⟩ := every k w run
  rcases Nat.le_total k m with h | h
  · exact ⟨h, short h⟩
  · have beyond := long h
    generalize excess : k - m = d at beyond
    cases beyond with
    | refl =>
        have bounded : k ≤ m := by omega
        exact ⟨bounded, short bounded⟩
    | head first _ => exact absurd first (still _)

end Wire

/-- A program that does not send now. -/
def Dialogue.Listens {β : Type} : Dialogue Chip β → Prop
  | .ask (.send _ _) _ => False
  | _ => True

namespace Wire

variable {α β : Type} {live : Timeout → Prop}

/-- One frame from end to end while no other one is under way. A wait that the frame ends has a
property which lets it last until then. -/
inductive Hop (live : Timeout → Prop) : Wire α β → Wire α β → Prop
  | request {frame : Bytes} {wait patience : Timeout} {next : Except Error Bytes → Dialogue Chip α}
      {rest : Except Error Bytes → Dialogue Chip β} (lasts : live wait) (patient : live patience) :
      Hop live ⟨.running (.ask (.bytes frame wait) next), .ask (.receive patience) rest, [], []⟩
        ⟨.awaiting next, rest (.ok frame), [], []⟩
  | answer {frame : Bytes} {wait : Timeout} {next : Except Error Bytes → Dialogue Chip α}
      {rest : Except Error Unit → Dialogue Chip β} (listens : (rest (.ok ())).Listens) :
      Hop live ⟨.awaiting next, .ask (.send frame wait) rest, [], []⟩
        ⟨.running (next (.ok frame)), rest (.ok ()), [], []⟩

/-- The first frame, which a target takes up that appears in the field. -/
inductive Opening (live : Timeout → Prop) : Wire α β → Wire α β → Prop
  | arm {frame : Bytes} {wait patience : Timeout} {own : DepInfo}
      {next : Except Error Bytes → Dialogue Chip α} {rest : Except Error Bytes → Dialogue Chip β}
      (lasts : live wait) (patient : live patience) :
      Opening live
        ⟨.running (.ask (.bytes frame wait) next), .ask (.arm (.dep own) patience) rest, [], []⟩
        ⟨.awaiting next, rest (.ok frame), [], []⟩

abbrev Hops (live : Timeout → Prop) : Wire α β → Wire α β → Prop := Relation.ReflTransGen (Hop live)

/-- A place that a first frame and others lead to. -/
def Opened (live : Timeout → Prop) (start place : Wire α β) : Prop :=
  ∃ w, Opening live start w ∧ Hops live w place

theorem Opened.trans {start w v : Wire α β} (opened : Opened live start w)
    (hops : Hops live w v) : Opened live start v := by
  obtain ⟨u, opening, first⟩ := opened
  exact ⟨u, opening, first.trans hops⟩

/-- A target that listens waits until a request is under way. -/
theorem moveTarget_eq_none {w : Wire α β} (listens : w.target.Listens) (none : w.requests = []) :
    w.moveTarget = .none := by
  obtain ⟨caller, target, requests, answers⟩ := w
  obtain rfl : requests = [] := none
  cases target with
  | done b => rfl
  | cut => rfl
  | ask call rest =>
      cases call with
      | send => exact listens.elim
      | _ => rfl

theorem Hop.passes {w v place : Wire α β} (hop : Hop live w v) (later : Passes v place) :
    Passes w place := by
  cases hop with
  | request =>
      refine .of_move (.inl rfl) ?_ (.of_move (.inr rfl) ?_ later)
      · rintro x (h | h) <;> cases h
        rfl
      · rintro x (h | h) <;> cases h
        rfl
  | answer listens =>
      refine .of_move (.inr rfl) ?_ (.of_move (.inl rfl) ?_ later)
      · rintro x (h | h) <;> cases h
        rfl
      · rintro x (h | h)
        · cases h
          rfl
        · rw [moveTarget_eq_none listens rfl] at h
          cases h

theorem Hops.passes {w v : Wire α β} (hops : Hops live w v) : Passes w v := by
  induction hops using Relation.ReflTransGen.head_induction_on with
  | refl => exact .refl v
  | head first _ ih => exact first.passes ih

theorem Opened.passes {start place : Wire α β} (opened : Opened live start place) :
    Passes start place := by
  obtain ⟨w, opening, hops⟩ := opened
  cases opening with
  | arm =>
      refine .of_move (.inl rfl) ?_ (.of_move (.inr rfl) ?_ hops.passes)
      · rintro x (h | h) <;> cases h
        rfl
      · rintro x (h | h) <;> cases h
        rfl

end Wire

end Contactless
