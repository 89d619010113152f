import Contactless.Loopback.Pair

/-!
Two programs, one at each end of a simulated field. A program runs until it has to wait, and then
the other one does; time passes only when both wait, up to the first deadline.
-/
namespace Contactless.Loopback

/-- Beyond its own chip, a program may request an abort at the other end. -/
def Signal : Interface := ⟨Unit, fun _ => Unit⟩

/-- What a program at one end may ask. -/
abbrev Terminal : Interface := Chip.sum Signal

def abortPeer {σ : Type} : Act Terminal σ Unit := fun _ s =>
  .ask (.inr ()) fun _ => .done (.ok (), s)

inductive Thread (α : Type) where
  | running (d : Dialogue Terminal α)
  | blocked (w : Wait) (deadline : Option Nat)
      (resume : Except Error BitFrame → Dialogue Terminal α)
  /-- The result is absent when the program was cut. -/
  | finished (result : Option α)

namespace Thread

variable {α : Type}

def deadlineOf (clock : Nat) (t : Timeout) : Option Nat := t.limit.map (clock + ·)

def deadline : Thread α → Option Nat
  | blocked _ deadline _ => deadline
  | _ => none

def result : Thread α → Option α
  | finished r => r
  | _ => none

/-- The deadline has passed. -/
def expired (clock : Nat) (deadline : Option Nat) : Bool :=
  match deadline with
  | none => false
  | some moment => moment ≤ clock

/-- One call, or one look of a waiting call; absent when the program can do nothing now. -/
def step (role : Role) (clock : Nat) (p : Pair) : Thread α → Option (Thread α × Pair)
  | running (.done a) => some (finished (some a), p)
  | running .cut => some (finished none, p)
  | running (.ask (.inr ()) next) => some (running (next ()), p.abort role.other)
  | running (.ask (.inl call) next) =>
    match p.begin role call with
    | .settled answer p => some (running (next answer), p)
    | .wait w timeout finish p =>
      some (blocked w (deadlineOf clock timeout) fun r => next (finish r), p)
  | blocked w deadline resume =>
    match p.look role w with
    | (.found result, p) => some (running (resume result), p)
    | (.forwarded again, p) => some (blocked .reply (deadlineOf clock again) resume, p)
    | (.nothing, p) =>
      if expired clock deadline then some (running (resume w.expiry), p) else none
  | finished _ => none

end Thread

structure Schedule (α β : Type) where
  initiator : Thread α
  target : Thread β
  pair : Pair
  /-- Milliseconds since the start. -/
  clock : Nat := 0
  turn : Role := .target
  /-- The program whose turn it is not can do nothing now. -/
  otherStuck : Bool := false

namespace Schedule

variable {α β : Type}

/-- The first deadline of a waiting program. -/
def nextDeadline (s : Schedule α β) : Option Nat :=
  match s.initiator.deadline, s.target.deadline with
  | some a, some b => some (min a b)
  | some a, none => some a
  | none, b => b

/-- Let the program whose turn it is go on; absent when it can do nothing now. -/
def proceed (s : Schedule α β) : Option (Schedule α β) :=
  match s.turn with
  | .initiator =>
    (s.initiator.step .initiator s.clock s.pair).map fun (initiator, pair) =>
      { s with initiator, pair, otherStuck := false }
  | .target =>
    (s.target.step .target s.clock s.pair).map fun (target, pair) =>
      { s with target, pair, otherStuck := false }

/-- One step of the whole; absent when neither program will ever go on. -/
def step (s : Schedule α β) : Option (Schedule α β) :=
  match s.proceed with
  | some s => some s
  | none =>
    if s.otherStuck then
      s.nextDeadline.map fun moment =>
        { s with clock := max s.clock moment, turn := .target, otherStuck := false }
    else some { s with turn := s.turn.other, otherStuck := true }

/-- As many steps as there are, up to a number. -/
def run : Nat → Schedule α β → Schedule α β
  | 0, s => s
  | fuel + 1, s =>
    match s.step with
    | some s => run fuel s
    | none => s

end Schedule

/-- Hold a dialogue at either end, and take the results and the pair as it is afterwards. A result
is absent when its program did not come to an end. -/
def Pair.runBoth {α β : Type} (horizon : Nat) (p : Pair) (initiator : Dialogue Terminal α)
    (target : Dialogue Terminal β) : Option α × Option β × Pair :=
  let s := (Schedule.mk (.running initiator) (.running target) p 0 .target false).run horizon
  (s.initiator.result, s.target.result, s.pair)

end Contactless.Loopback
