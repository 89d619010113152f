import Contactless.Error
import Contactless.Timeout

/-!
Waiting that an abort request ends. The flag of pending requests is looked at, and taken back,
before every poll; polls are five milliseconds apart, and the last one falls on the deadline.
-/
namespace Contactless.Abort

/-- Take back a pending request; the first part tells whether there was one. -/
def check (pending : Bool) : Except Error Unit × Bool :=
  (if pending then .error .aborted else .ok (), false)

/-- Polls that fit a wait; without a deadline there is no last one. -/
def pollCount : Timeout → Option Nat
  | .forever => none
  | .immediate => some 1
  | .millis n => some ((n.toNat + 4) / 5 + 1)

/-- What happens at the polls of a wait, which count from one. -/
structure Course where
  /-- The poll that finds what is waited for. -/
  readyAt : Option Nat
  /-- The poll during which somebody requests an abort. -/
  abortAt : Option Nat
deriving DecidableEq

structure Outcome where
  /-- The poll that was ready. -/
  result : Except Error Nat
  polls : Nat
  /-- A request is pending afterwards. -/
  pending : Bool

namespace Course

/-- The wait from poll `k + 1` on, with `left` polls before the deadline passes. -/
def wait (c : Course) : (left k : Nat) → (pending : Bool) → Outcome
  | _, k, true => ⟨.error .aborted, k, false⟩
  | 0, k, false => ⟨.error .timeout, k, false⟩
  | left + 1, k, false =>
    let pending := c.abortAt == some (k + 1)
    if c.readyAt = some (k + 1) then ⟨.ok (k + 1), k + 1, pending⟩
    else if left = 0 then ⟨.error .timeout, k + 1, pending⟩
    else c.wait left (k + 1) pending

/-- The poll after which nothing new can happen. A request made during one poll is seen at the
next. -/
def last (c : Course) : Nat := max (c.readyAt.getD 0) (c.abortAt.getD 0) + 1

/-- The whole wait. It is absent when it has no deadline and nothing ends it. -/
def run (c : Course) (timeout : Timeout) (pending : Bool) : Option Outcome :=
  match pollCount timeout with
  | some n => some (c.wait n 0 pending)
  | none =>
    let o := c.wait c.last 0 pending
    match o.result with
    | .error .timeout => none
    | _ => some o

end Course

/-- Let the time pass. The end of a sleep is no failure. -/
def sleep (timeout : Timeout) (pending : Bool) : Option (Except Error Unit × Bool) :=
  match Course.run ⟨none, none⟩ timeout pending with
  | none => none
  | some o =>
    match o.result with
    | .ok _ | .error .timeout => some (.ok (), o.pending)
    | .error e => some (.error e, o.pending)

end Contactless.Abort
