import Contactless.Bench

/-!
A bench chip behind a recorder that can refuse chosen calls and request an abort after chosen
exchanges.
-/
namespace Contactless.Bench

/-- Calls to refuse, by their position among the calls of their kind, and aborts to request. -/
structure Faults where
  configure : List Nat := []
  send : List Nat := []
  idle : Bool := false
  /-- Positions among all exchanges and target-mode calls after which an abort is requested. -/
  abortAfter : List Nat := []

structure Probe where
  faults : Faults := {}
  bench : Bench := {}
  /-- The chip can do no more than exchange frames, and nothing is recorded. -/
  bare : Bool := false
  /-- Calls since the record was last taken. -/
  record : List Chip.Call := []
  configures : Nat := 0
  sends : Nat := 0
  exchanges : Nat := 0

namespace Probe

def takeRecord (p : Probe) : List Chip.Call × Probe := (p.record, { p with record := [] })

def forward (call : Chip.Call) (p : Probe) : call.Answer × Probe :=
  let (answer, bench) := Bench.handler call p.bench
  (answer, { p with bench })

def note (p : Probe) (call : Chip.Call) : Probe := { p with record := p.record ++ [call] }

/-- Count an exchange that has just returned, and request the abort planned for it. -/
def counted (p : Probe) : Probe :=
  { p with
    exchanges := p.exchanges + 1
    bench := if p.faults.abortAfter.contains p.exchanges then p.bench.abort else p.bench }

def exchange (call : Chip.Call) (p : Probe) : call.Answer × Probe :=
  let (answer, p) := forward call (p.note call)
  (answer, p.counted)

/-- A chip without target mode, whose other extras do nothing. -/
def bareHandler : Handler Chip Probe
  | .arm _ _, p => (.error (.deviceNotSupported "target mode"), p)
  | .receive _, p => (.error (.deviceNotSupported "target mode"), p)
  | .send _ _, p => (.error (.deviceNotSupported "target mode"), p)
  | .idle, p => (.ok (), p)
  | call, p => forward call p

def recordingHandler : Handler Chip Probe
  | .configure switch on, p =>
    let refused := p.faults.configure.contains p.configures
    let p := { p.note (.configure switch on) with configures := p.configures + 1 }
    if refused then (.error (.deviceNotSupported s!"configure {switch.name}"), p)
    else forward (.configure switch on) p
  | .send frame timeout, p =>
    let refused := p.faults.send.contains p.sends
    let p := { p with sends := p.sends + 1 }
    if refused then
      (.error (.deviceNotSupported "target_send"), (p.note (.send frame timeout)).counted)
    else exchange (.send frame timeout) p
  | .idle, p =>
    if p.faults.idle then (.error (.deviceNotSupported "idle"), p.note .idle)
    else forward .idle (p.note .idle)
  | .bits frame timeout, p => exchange (.bits frame timeout) p
  | .bytes frame timeout, p => exchange (.bytes frame timeout) p
  | .arm target timeout, p => exchange (.arm target timeout) p
  | .receive timeout, p => exchange (.receive timeout) p
  | .abortPending, p => forward .abortPending (p.note .abortPending)
  | call, p => forward call p

def handler : Handler Chip Probe := fun call p =>
  if p.bare then bareHandler call p else recordingHandler call p

end Probe

end Contactless.Bench
