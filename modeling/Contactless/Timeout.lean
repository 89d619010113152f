/-!
How long a blocking call may wait.
-/
namespace Contactless

/-- A span of time in whole seconds and nanoseconds below one second. -/
structure Duration where
  seconds : Nat
  nanos : Nat
deriving DecidableEq

namespace Duration

def ofMillis (n : UInt64) : Duration := ⟨n.toNat / 1000, n.toNat % 1000 * 1000000⟩

/-- Whole milliseconds, kept modulo `2 ^ 64`. -/
def toMillis (d : Duration) : UInt64 := UInt64.ofNat (d.seconds * 1000 + d.nanos / 1000000)

def isZero (d : Duration) : Bool := d.seconds == 0 && d.nanos == 0

end Duration

inductive Timeout where
  /-- Wait until data arrives or the call is aborted. -/
  | forever
  /-- Look once and return. -/
  | immediate
  | millis (n : UInt64)
deriving DecidableEq

/-- How the time left of a deadline compares with a cap on one wait. -/
inductive NextWait where
  | cap
  | zero
  | part
deriving DecidableEq

namespace Timeout

/-- The wait of a command whose caller names none. -/
def standard : Timeout := .millis 1000

def toDuration : Timeout → Option Duration
  | forever => none
  | immediate => some ⟨0, 0⟩
  | millis n => some (.ofMillis n)

def ofDuration (d : Duration) : Timeout :=
  if d.isZero then immediate else millis d.toMillis

/-- Milliseconds that the wait lasts; `none` when it has no end of its own. -/
def limit : Timeout → Option Nat
  | forever => none
  | immediate => some 0
  | millis n => some n.toNat

/-- The deadline has passed at the moment it is set. -/
def expiresAtOnce (t : Timeout) : Bool := t.limit == some 0

/-- The first wait of at most `cap` milliseconds, just after the deadline was set. -/
def nextWait (t : Timeout) (cap : Nat) : NextWait :=
  match t.limit with
  | none => .cap
  | some left =>
    if cap = 0 || cap < left then .cap else if left = 0 then .zero else .part

/-- The wait scaled by a factor; milliseconds stop at the largest 64-bit number. -/
def scale (t : Timeout) (factor : UInt8) : Timeout :=
  match t with
  | millis n =>
    if n.toNat * factor.toNat < UInt64.size then millis (UInt64.ofNat (n.toNat * factor.toNat))
    else millis (UInt64.ofNat (UInt64.size - 1))
  | other => other

end Timeout

end Contactless
