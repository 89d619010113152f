import Contactless.Bench.Probe
import Contactless.Data.Frame

/-!
Bench chips in scripts: what is laid out for them, which calls they refuse, and what they recorded.
-/
namespace Contactless

open Data

/-- Calls of a chip as recorded events. Looking after abort requests is not one. -/
instance : Reportable Chip.Call where
  report
    | .bits frame wait =>
      .list [.text "bits", report frame.data, report frame.bits, report wait]
    | .bytes frame wait => .list [.text "bytes", report frame, report wait]
    | .configure switch on => .list [.text "configure", .text switch.name, report on]
    | .arm target wait => .list [.text "target_init", report target, report wait]
    | .receive wait => .list [.text "target_receive", report wait]
    | .send frame wait => .list [.text "target_send", report frame, report wait]
    | .idle => .list [.text "idle"]
    | .abortPending => .list [.text "abort_pending_command"]
    | .checkAbort | .clearAbort | .sleep _ => .null

def Settings.all (s : Settings) : List (Option Bool) := Switch.all.map s

namespace Bench

instance : Readable Faults where
  read d := do
    return { configure := ← d.get "fail_configure", send := ← d.get "fail_send",
             idle := ← d.get "fail_idle", abortAfter := ← d.get "abort_after" }

/-- The three answers of a tag with a short identifier and no answer to select. -/
def seed (atqa : Octets 2) (uid : Octets 4) (sak : UInt8) : List (Except Error BitFrame) :=
  [.ok (.ofBytes atqa.toList), .ok (.ofBytes (uid.toList ++ [bcc uid.toList])),
    .ok (.ofBytes (Crc.a.append [sak]))]

/-- Answers to exchanges: a frame, a failure, or those of an activation. -/
def readAnswers (d : Data) : Reading (List (Except Error BitFrame)) := do
  match d.field "seed" with
  | .list [atqa, uid, sak] =>
    return seed (← Readable.read atqa) (← Readable.read uid) (← Readable.read sak)
  | _ =>
    if d.has "error" then
      let e : Error ← Readable.read d
      return [.error e]
    else
      let frame : BitFrame ← Readable.read d
      return [.ok frame]

def readFrame (d : Data) : Reading (Except Error Bytes) := do
  if d.has "error" then
    let e : Error ← Readable.read d
    return .error e
  else
    let frame : Bytes ← d.get "hex"
    return .ok frame

def layOutAnswers (b : Bench) (d : Data) : Reading Bench := do
  let entries : List Data ← d.get "rx"
  return (← readList readAnswers entries).flatten.foldl pushAnswer b

def layOutFrames (b : Bench) (d : Data) : Reading Bench := do
  let entries : List Data ← d.get "frames"
  return (← readList readFrame entries).foldl pushFrame b

def layOut (b : Bench) (d : Data) : Reading Bench := do
  (← b.layOutAnswers d).layOutFrames d

/-- What is left on the bench, and what was done with it. -/
def summary (b : Bench) : List (String × Data) :=
  [("idle_calls", report b.idleCalls), ("target_sent", report b.replied),
    ("options", report b.settings.all)]

namespace Probe

instance : Readable Probe where
  read d := do return { faults := ← Readable.read d }

def layOut (p : Probe) (d : Data) : Reading Probe := do
  return { p with bench := ← p.bench.layOut d }

def abort (p : Probe) : Probe := { p with bench := p.bench.abort }

def drain (p : Probe) : Data × Probe :=
  let (calls, p) := p.takeRecord
  (report calls, p)

end Probe

end Bench

end Contactless
