import Contactless.Script.Probe
import Contactless.Script.Step

/-!
A scripted session on one device: the steps change its mode as they go.
-/
namespace Contactless.Script

open Data (choice readList)
open Bench

/-- Steps that an open-ended loop may take. -/
def horizon : Nat := 1000000

/-- Run an action to its end, which it has to reach. -/
def perform {I : Interface} {σ τ α : Type} (h : Handler I τ) (x : Act I σ α) (s : σ) (t : τ) :
    Except String (Except Error α × σ × τ) :=
  match (x horizon s).run h t with
  | (some (r, s), t) => .ok (r, s, t)
  | (none, _) => .error "the action does not end"

/-- A device in one of its modes, or with a protocol opened on it. -/
inductive Session where
  | gone
  | idle (d : Device .idle)
  | initiator (d : Device .initiator)
  | target (d : Device .target)
  | depInitiator (s : Dep.InitiatorSide)
  | depTarget (s : Dep.TargetSide)

instance : Reportable Session where
  report
    | .gone => .list [.text "Gone"]
    | .idle _ => .list [.text "Idle"]
    | .initiator d => .list [.text "Initiator", report d.selected]
    | .target d => .list [.text "Target", report d.selected]
    | .depInitiator s => .list [.text "DepInitiator", report s.device.selected, report s.target,
        report s.isSelected]
    | .depTarget s => .list [.text "DepTarget", report s.device.selected, report s.initiator,
        report s.initiatorGeneralBytes]

/-- Result, session and probe after a step. -/
abbrev StepEnd := Except Error Data × Session × Probe

variable {σ α : Type}

/-- A step that stays in its mode. -/
def stay (wrap : σ → Session) (s : σ) (p : Probe) (x : Reading (Act Chip σ Data)) :
    Except String StepEnd := do
  let (r, s, p) ← perform Probe.handler (← stepOf x) s p
  return (r, wrap s, p)

/-- A step that gives up the device it started from. When it fails or is refused there is none. -/
def leave (p : Probe) (x : Reading (Act Chip Unit (Data × Session))) : Except String StepEnd := do
  let (r, _, p) ← perform Probe.handler (← stepOf x) () p
  match r with
  | .ok (value, s) => return (.ok value, s, p)
  | .error e => return (.error e, .gone, p)

/-- Give the session of a result, and report nothing else. -/
def silently (wrap : α → Session) (x : Act Chip Unit α) :
    Reading (Act Chip Unit (Data × Session)) :=
  pure ((fun a => (.null, wrap a)) <$> x)

def armAtOnce (d : Device .idle) (target : Target) : Act Chip Unit (Data × Session) := do
  let armed : Device .target ← d.asTarget
  let act : Act Chip (Device .target) (Data × Session) := do
    let first ← Device.arm target d.config.targetTimeout
    return (report first, .target (← get))
  Act.within armed act

def idleStep (p : Probe) (d : Device .idle) (step : Data) : Except String StepEnd :=
  match step.field "do" with
  | .text "init_initiator" => leave p (silently .initiator d.asInitiator)
  | .text "into_target" => leave p (silently .target d.asTarget)
  | .text "dep_target" => leave p (silently .depTarget (Dep.TargetSide.ofIdle d))
  | .text "idle" => leave p (silently .idle d.idle)
  | .text "init_as_target" => leave p (armAtOnce d <$> step.get "target")
  | _ => .error "unknown step of an idle device"

def build (step : Data) : Reading (Act Chip Unit (Data × Session)) := do
  let missing : Bool ← step.get "no_transport"
  let device ← accept (Device.attach (!missing) (← step.getOr "config" {}))
  silently .idle (pure device)

def step (s : Session) (p : Probe) (d : Data) : Except String StepEnd :=
  match d.field "do", s with
  | .text "build", _ => leave p (build d)
  | .text "abort", _ => .ok (.ok .null, s, p.abort)
  | .text "is_aborted", _ => .ok (.ok (report p.bench.aborted), s, p)
  | _, .gone => .error "there is no device"
  | _, .idle device => idleStep p device d
  | .text "idle", .initiator device => leave p (silently .idle device.idle)
  | .text "dep_initiator", .initiator device =>
    .ok (.ok .null, .depInitiator (.new device), p)
  | _, .initiator device => stay .initiator device p (initiatorStep d)
  | .text "idle", .target device => leave p (silently .idle device.idle)
  | _, .target device => stay .target device p (targetStep d)
  | .text "dep_into_device", .depInitiator side => .ok (.ok .null, .initiator side.device, p)
  | _, .depInitiator side => stay .depInitiator side p (depInitiatorStep d)
  | .text "idle", .depTarget side => leave p (silently .idle side.idle)
  | _, .depTarget side => stay .depTarget side p (depTargetStep d)

end Contactless.Script
