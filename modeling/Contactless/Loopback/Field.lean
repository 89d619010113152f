import Contactless.BitFrame
import Contactless.Target
import Contactless.TypeA.Frame

/-!
A simulated radio field between two chips. The chip that appears as a type A tag answers wake-up,
anti-collision, select and the request for an answer to select by itself, and gives only later
frames to its host. As any other target it gives every frame to its host.
-/
namespace Contactless.Loopback

/-- How far the activation of a type A tag came. -/
inductive Phase where
  | waiting
  /-- Answering anti-collision and select at a position of the cascade. -/
  | ready (index : Nat)
  /-- Selected, with a request for an answer to select accepted. -/
  | selected
  /-- Only the stronger wake-up is answered. -/
  | halted
  /-- Frames go to the host. -/
  | active
deriving DecidableEq

structure Armed where
  target : Target
  phase : Phase
deriving DecidableEq

inductive Reaction where
  | reply (frame : BitFrame)
  | silent
  | forward (frame : Bytes)
  | failure (e : Error)
deriving DecidableEq

/-- A frame as it arrives: with a check, unless the receiving chip removes it. -/
def delivered (handleCrc : Bool) (frame : Bytes) : BitFrame :=
  .ofBytes (if handleCrc then frame else Crc.a.append frame)

/-- A frame as the host sees it. A check that the sender appended is removed when it is right. -/
def hostPart (handleCrc : Bool) (frame : Bytes) : Bytes :=
  if handleCrc then frame
  else
    match Crc.a.strip frame with
    | .ok body => body
    | .error _ => frame

namespace Armed

def ofTarget (target : Target) : Armed :=
  match target with
  | .typeA .. => ⟨target, .waiting⟩
  | _ => ⟨target, .active⟩

/-- A seven-bit frame. -/
def wake (a : Armed) (atqa : Octets 2) (code : UInt8) : Reaction × Armed :=
  if code = TypeA.wupaCode ∨ (code = TypeA.reqaCode ∧ a.phase ≠ .halted) then
    (.reply (.ofBytes atqa.toList), { a with phase := .ready 0 })
  else (.silent, a)

/-- The group of an identifier at a position of the cascade, with its level. -/
def groupAt (uid : Uid) (index : Nat) : Option (CascadeLevel × Octets 5) :=
  match CascadeLevel.ofIndex? index, uid.groups[index]? with
  | some level, some chunk => some (level, chunk)
  | _, _ => none

/-- A frame at a position of the cascade. -/
def cascade (a : Armed) (sak : UInt8) (uid : Uid) (index : Nat) (frame : Bytes)
    (handleCrc : Bool) : Reaction × Armed :=
  match groupAt uid index, frame with
  | some (level, chunk), sel :: nvb :: rest =>
    if sel = level.sel ∧ nvb = TypeA.nvbAnticollision ∧ rest = [] then
      (.reply (.ofBytes chunk.toList), a)
    else if sel = level.sel ∧ nvb = TypeA.nvbSelect ∧ rest.take 5 = chunk.toList then
      if index + 1 = uid.groups.length then
        (.reply (delivered handleCrc [sak &&& ~~~ (0x04 : UInt8)]), { a with phase := .selected })
      else (.reply (delivered handleCrc [0x04]), { a with phase := .ready (index + 1) })
    else (.silent, a)
  | _, _ => (.silent, a)

/-- The first frame after the last select. -/
def firstFrame (a : Armed) (ats : Bytes) (frame : Bytes) (handleCrc : Bool) : Reaction × Armed :=
  if frame.head? = some TypeA.ratsCode ∧ ats ≠ [] then
    if 255 < ats.length + 1 then (.failure (.bufferOverflow 255 (ats.length + 1)), a)
    else
      (.reply (delivered handleCrc (UInt8.ofNat (ats.length + 1) :: ats)),
        { a with phase := .active })
  else if TypeA.haltBody <+: frame then (.silent, { a with phase := .halted })
  else (.forward (hostPart handleCrc frame), { a with phase := .active })

/-- What the chip does with a frame of an initiator, whose chip handles checks or does not. -/
def react (a : Armed) (frame : BitFrame) (handleCrc : Bool) : Reaction × Armed :=
  match a.target with
  | .typeA atqa sak uid ats =>
    if frame.bits = 7 then a.wake atqa (frame.data.head?.getD 0)
    else
      match a.phase with
      | .waiting | .halted => (.silent, a)
      | .active => (.forward (hostPart handleCrc frame.data), a)
      | .ready index => a.cascade sak uid index frame.data handleCrc
      | .selected => a.firstFrame ats frame.data handleCrc
  | _ => (.forward frame.data, a)

end Armed

/-- The target end, as seen from the field. -/
inductive Presence where
  /-- Never appeared as a target yet. -/
  | absent
  | armed (a : Armed)
  | idle
deriving DecidableEq

/-- The target end and the frames under way between the hosts. -/
structure Field where
  presence : Presence := .absent
  toTarget : List Bytes := []
  toInitiator : List Bytes := []
deriving DecidableEq

namespace Field

/-- What became of a frame offered to the field. -/
inductive Offer where
  /-- There is no target end yet. -/
  | early
  | answered (result : Except Error BitFrame)
  | forwarded

/-- Send a frame into the field. A frame that reaches the host makes replies to older ones void. -/
def offer (f : Field) (frame : BitFrame) (handleCrc : Bool) : Offer × Field :=
  match f.presence with
  | .absent => (.early, f)
  | .idle => (.answered (.error .rfTimeout), f)
  | .armed a =>
    match a.react frame handleCrc with
    | (.reply reply, a) => (.answered (.ok reply), { f with presence := .armed a })
    | (.silent, a) => (.answered (.error .rfTimeout), { f with presence := .armed a })
    | (.failure e, a) => (.answered (.error e), { f with presence := .armed a })
    | (.forward bytes, a) =>
      (.forwarded, ⟨.armed a, f.toTarget ++ [bytes], []⟩)

/-- The oldest reply of the host. A target that has gone leaves none. -/
def takeReply (f : Field) : Option (Except Error Bytes) × Field :=
  match f.presence with
  | .armed _ =>
    match f.toInitiator with
    | [] => (none, f)
    | reply :: rest => (some (.ok reply), { f with toInitiator := rest })
  | _ => (some (.error .rfTimeout), f)

def notArmed : Error := .invalidParameter "target end is not initialised"

/-- The oldest frame for the host of the target end. -/
def takeFrame (f : Field) : Option (Except Error Bytes) × Field :=
  match f.presence with
  | .armed _ =>
    match f.toTarget with
    | [] => (none, f)
    | frame :: rest => (some (.ok frame), { f with toTarget := rest })
  | _ => (some (.error notArmed), f)

def putReply (f : Field) (reply : Bytes) : Except Error Unit × Field :=
  match f.presence with
  | .armed _ => (.ok (), { f with toInitiator := f.toInitiator ++ [reply] })
  | _ => (.error notArmed, f)

/-- Appear as a target, with nothing under way. -/
def arm (_ : Field) (target : Target) : Field := ⟨.armed (.ofTarget target), [], []⟩

def idle (_ : Field) : Field := ⟨.idle, [], []⟩

end Field

end Contactless.Loopback
