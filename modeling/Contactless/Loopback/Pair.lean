import Contactless.Chip
import Contactless.Loopback.Field

/-!
The two chips at the ends of a simulated field, one an initiator and one a target. A call that has
to wait looks again and again for what it waits for; a pending abort request is seen before each
look.
-/
namespace Contactless.Loopback

inductive Role where
  | initiator
  | target
deriving DecidableEq

namespace Role

def name : Role → String
  | initiator => "Initiator"
  | target => "Target"

def other : Role → Role
  | initiator => target
  | target => initiator

end Role

/-- What a chip keeps for itself. -/
structure End where
  aborted : Bool := false
  handleCrc : Bool := true
deriving DecidableEq

structure Pair where
  field : Field := {}
  initiator : End := {}
  target : End := {}
deriving DecidableEq

inductive Wait where
  /-- A target end, to send it a frame; the reply is then waited for as long again. -/
  | presence (frame : BitFrame) (again : Timeout)
  | reply
  | frame
  /-- The end of a sleep. -/
  | pause

inductive Look where
  | nothing
  | found (result : Except Error BitFrame)
  /-- The frame was forwarded, and now its reply is waited for. -/
  | forwarded (again : Timeout)

def Wait.expiry : Wait → Except Error BitFrame
  | presence .. | frame => .error .timeout
  | reply => .error .rfTimeout
  | pause => .ok (.ofBytes [])

/-- How a call begins: it is settled at once, or it waits. -/
inductive Start (α : Type) where
  | settled (answer : α) (next : Pair)
  | wait (awaited : Wait) (timeout : Timeout) (finish : Except Error BitFrame → α) (next : Pair)

namespace Pair

def ofRole (p : Pair) : Role → End
  | .initiator => p.initiator
  | .target => p.target

def set (p : Pair) (role : Role) (e : End) : Pair :=
  match role with
  | .initiator => { p with initiator := e }
  | .target => { p with target := e }

def abort (p : Pair) (role : Role) : Pair := p.set role { p.ofRole role with aborted := true }

def clearAbort (p : Pair) (role : Role) : Pair := p.set role { p.ofRole role with aborted := false }

/-- Look for what is waited for, with no abort request pending. -/
def peek (p : Pair) (role : Role) : Wait → Look × Pair
  | .presence frame again =>
    let (offer, field) := p.field.offer frame (p.ofRole role).handleCrc
    match offer with
    | .early => (.nothing, { p with field })
    | .answered result => (.found result, { p with field })
    | .forwarded => (.forwarded again, { p with field })
  | .reply =>
    let (reply, field) := p.field.takeReply
    match reply with
    | none => (.nothing, { p with field })
    | some r => (.found (r.map (delivered (p.ofRole role).handleCrc)), { p with field })
  | .frame =>
    let (frame, field) := p.field.takeFrame
    match frame with
    | none => (.nothing, { p with field })
    | some r => (.found (r.map BitFrame.ofBytes), { p with field })
  | .pause => (.nothing, p)

/-- One look; a pending abort request is taken back and ends the wait. -/
def look (p : Pair) (role : Role) (w : Wait) : Look × Pair :=
  if (p.ofRole role).aborted then (.found (.error .aborted), p.clearAbort role)
  else p.peek role w

/-- The failure of a call that only the other end offers. -/
def misused {α : Type} (role : Role) : Except Error α :=
  .error (.deviceNotSupported s!"loopback {role.name} end used as {role.other.name}")

def isAborted (result : Except Error BitFrame) : Bool :=
  match result with
  | .error .aborted => true
  | _ => false

def exchange {α : Type} (p : Pair) (role : Role) (frame : BitFrame) (timeout : Timeout)
    (read : BitFrame → α) : Start (Except Error α) :=
  match role with
  | .initiator => .wait (.presence frame timeout) timeout (Except.map read) p
  | .target => .settled (misused role) p

def begin (p : Pair) (role : Role) : (call : Chip.Call) → Start call.Answer
  | .bits frame timeout => p.exchange role frame timeout id
  | .bytes frame timeout => p.exchange role (.ofBytes frame) timeout BitFrame.data
  | .configure switch on =>
    .settled (.ok ())
      (if switch = .handleCrc then p.set role { p.ofRole role with handleCrc := on } else p)
  | .arm target timeout =>
    match role with
    | .target =>
      .wait .frame timeout (Except.map BitFrame.data) { p with field := p.field.arm target }
    | .initiator => .settled (misused role) p
  | .receive timeout =>
    match role with
    | .target => .wait .frame timeout (Except.map BitFrame.data) p
    | .initiator => .settled (misused role) p
  | .send frame _ =>
    match role with
    | .target =>
      if p.target.aborted then .settled (.error .aborted) (p.clearAbort .target)
      else
        let (result, field) := p.field.putReply frame
        .settled result { p with field }
    | .initiator => .settled (misused role) p
  | .idle =>
    .settled (.ok ())
      (match role with
      | .target => { p with field := p.field.idle }
      | .initiator => p)
  | .abortPending => .settled (.ok ()) (p.abort role)
  | .checkAbort => .settled (p.ofRole role).aborted (p.clearAbort role)
  | .clearAbort => .settled () (p.clearAbort role)
  | .sleep timeout => .wait .pause timeout isAborted p

/-- How a wait ends when nothing comes: at its deadline, or by an abort request. -/
def giveUp (w : Wait) (timeout : Timeout) : Except Error BitFrame :=
  match timeout with
  | .forever => .error .aborted
  | _ => w.expiry

/-- The end of a wait while nobody uses the other end. -/
def waitAlone (p : Pair) (role : Role) (w : Wait) (timeout : Timeout) :
    Except Error BitFrame × Pair :=
  match p.look role w with
  | (.found result, p) => (result, p)
  | (.nothing, p) => (giveUp w timeout, p)
  | (.forwarded again, p) =>
    match p.look role .reply with
    | (.found result, p) => (result, p)
    | (_, p) => (giveUp .reply again, p)

/-- An end that is used while nobody uses the other one. -/
def alone (role : Role) : Handler Chip Pair := fun call p =>
  match p.begin role call with
  | .settled answer p => (answer, p)
  | .wait w timeout finish p =>
    let (result, p) := p.waitAlone role w timeout
    (finish result, p)

end Pair

end Contactless.Loopback
