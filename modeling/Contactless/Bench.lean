import Contactless.Chip

/-!
A chip on a test bench: what it will answer is laid out beforehand, and what it was asked is kept.
-/
namespace Contactless

/-- The values that switches were last set to. -/
abbrev Settings := Switch → Option Bool

def Settings.initial : Settings := fun _ => none

def Settings.set (s : Settings) (switch : Switch) (on : Bool) : Settings := fun other =>
  if other = switch then some on else s other

structure Bench where
  /-- Answers to the next exchanges as an initiator. -/
  answers : List (Except Error BitFrame) := []
  /-- Frames to be received as a target. -/
  frames : List (Except Error Bytes) := []
  /-- Frames sent as an initiator, with the settings in force then. The log of frames and the log of
  settings grow together and only so, and are one list of pairs here: the entries of both at one
  place are the pair at this place. -/
  sent : List (BitFrame × Settings) := []
  replied : List Bytes := []
  armed : List Target := []
  settings : Settings := .initial
  idleCalls : Nat := 0
  aborted : Bool := false

namespace Bench

def pushAnswer (b : Bench) (answer : Except Error BitFrame) : Bench :=
  { b with answers := b.answers ++ [answer] }

def pushFrame (b : Bench) (frame : Except Error Bytes) : Bench :=
  { b with frames := b.frames ++ [frame] }

def abort (b : Bench) : Bench := { b with aborted := true }

/-- With nothing laid out, only an abort request ends a wait without a deadline. -/
def exhausted : Timeout → Error
  | .forever => .aborted
  | _ => .timeout

/-- The next laid-out answer. A pending abort request is consumed first. -/
def takeAnswer (b : Bench) (timeout : Timeout) : Except Error BitFrame × Bench :=
  if b.aborted then (.error .aborted, { b with aborted := false })
  else
    match b.answers with
    | [] => (.error (exhausted timeout), b)
    | a :: rest => (a, { b with answers := rest })

def takeFrame (b : Bench) (timeout : Timeout) : Except Error Bytes × Bench :=
  if b.aborted then (.error .aborted, { b with aborted := false })
  else
    match b.frames with
    | [] => (.error (exhausted timeout), b)
    | f :: rest => (f, { b with frames := rest })

def record (b : Bench) (frame : BitFrame) : Bench :=
  { b with sent := b.sent ++ [(frame, b.settings)] }

def switchAtSend (b : Bench) (index : Nat) (switch : Switch) : Option Bool :=
  (b.sent[index]?).bind fun entry => entry.2 switch

def handler : Handler Chip Bench
  | .bits frame timeout, b => (b.record frame).takeAnswer timeout
  | .bytes frame timeout, b =>
    let (answer, b) := (b.record (.ofBytes frame)).takeAnswer timeout
    (answer.map BitFrame.data, b)
  | .configure switch on, b => (.ok (), { b with settings := b.settings.set switch on })
  | .arm target timeout, b => { b with armed := b.armed ++ [target] }.takeFrame timeout
  | .receive timeout, b => b.takeFrame timeout
  | .send frame _, b =>
    if b.aborted then (.error .aborted, { b with aborted := false })
    else (.ok (), { b with replied := b.replied ++ [frame] })
  | .idle, b => (.ok (), { b with idleCalls := b.idleCalls + 1 })
  | .abortPending, b => (.ok (), b.abort)
  | .checkAbort, b => (b.aborted, { b with aborted := false })
  | .clearAbort, b => ((), { b with aborted := false })
  | .sleep _, b => (b.aborted, { b with aborted := false })

end Bench

end Contactless
