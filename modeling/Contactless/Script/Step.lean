import Contactless.Data.Frame
import Contactless.Dep.Initiator
import Contactless.Dep.Target
import Contactless.Device.Selection
import Contactless.Emulation.Type2
import Contactless.Felica.Card
import Contactless.Jewel.Tag
import Contactless.TypeA.Magic
import Contactless.TypeB.SrxTag

/-!
Steps of a script: actions described by structured data, each reporting its result. A step is told
by what it does; which steps there are depends on whom the script drives.
-/
namespace Contactless.Script

open Data (choice readList)

/-- A step that was refused while it was read fails when its turn comes. -/
def stepOf {σ α : Type} (x : Reading (Act Chip σ α)) : Except String (Act Chip σ α) :=
  match x.run with
  | .ok (.ok step) => .ok step
  | .ok (.error e) => .ok (throw e)
  | .error reason => .error reason

variable {σ α : Type}

def reporting [Reportable α] (x : Act Chip σ α) : Act Chip σ Data := report <$> x

def verb (d : Data) : Reading String := d.get "do"

def unknown (verb : String) : Reading α := unreadable s!"unknown step {verb}"

/-- Activate a tag and report how far the activation came, too. -/
def activation (config : Config) (wanted : Option Uid) : Act Chip σ Data :=
  Act.within (TypeA.Activator.ofConfig config) do
    let outcome ← (TypeA.Activator.activate wanted).attempt
    return .record [("activation", report outcome), ("state", report (← get).stage)]

def chipStep (d : Data) : Reading (Act Chip σ Data) := do
  let wait : Timeout ← d.get "timeout"
  match ← verb d with
  | "bits" => return reporting (Chip.bits (← Readable.read d) wait)
  | "bytes" => return reporting (Chip.bytes (← d.get "hex") wait)
  | "configure" =>
    let switch ← choice Switch.all Switch.name (d.field "option")
    return reporting (Chip.configure switch (← d.get "enabled"))
  | "target_init" => return reporting (Chip.arm (← d.get "target") wait)
  | "target_receive" => return reporting (Chip.receive wait)
  | "target_send" => return reporting (Chip.send (← d.get "hex") wait)
  | "idle" => return reporting Chip.idle
  | "abort_pending_command" => return reporting Chip.abortPending
  | "activate" =>
    let config : Config ← d.getOr "config" {}
    return activation { config with commandTimeout := wait } (← d.get "uid")
  | "jewel_select" => return reporting (Search.jewel wait)
  | "felica_poll" =>
    return reporting (Search.felica (← d.get "baud") (← d.get "system_code") wait)
  | "st_select" => return reporting (Search.srx wait)
  | other => unknown other

/-- The wait of the exchanges from a step on. -/
def waitFrom (wait : Timeout) (d : Data) : Reading Timeout := do
  match ← verb d with
  | "set_timeout" => d.get "timeout"
  | _ => return wait

/-- Exchanges of frames that a chip can hold. -/
def exchangeStep (wait : Timeout) (d : Data) : Reading (Act Chip σ Data) := do
  match ← verb d with
  | "bits" => return reporting (Chip.exchangeBits (← d.get "hex") (← d.get "bits") wait)
  | "bytes" => return reporting (Chip.exchangeBytes (← d.get "hex") wait)
  | "frame" => return reporting (Chip.exchangeFrame (← Readable.read d) wait)
  | "set_timeout" => return pure (report wait)
  | other => unknown other

def jewelStep (d : Data) (what : String) : Reading (Act Chip (Device .initiator) Data) := do
  match what with
  | "exchange" => return reporting (Jewel.Tag.exchangeSelected (← Readable.read d))
  | "read_all" => return reporting Jewel.Tag.readAll
  | "read_byte" => return reporting (Jewel.Tag.readByte (← d.get "block") (← d.get "byte"))
  | "write_byte" =>
    return reporting (Jewel.Tag.writeByte (← d.get "block") (← d.get "byte") (← d.get "data")
      (← d.get "erase"))
  | "read_block" => return reporting (Jewel.Tag.readBlock (← d.get "block"))
  | "write_block" =>
    return reporting (Jewel.Tag.writeBlock (← d.get "block") (← d.get "data") (← d.get "erase"))
  | "restore" => return reporting (Jewel.Tag.restore (← d.get "dump"))
  | other => unknown s!"jewel_{other}"

def srxStep (d : Data) (what : String) : Reading (Act Chip (Device .initiator) Data) := do
  match what with
  | "info" => return reporting (Srx.ChipInfo.name <$> Srx.Tag.info)
  | "read" => return reporting (Srx.Tag.readBlock (← d.get "block"))
  | "write" => return reporting (Srx.Tag.writeBlock (← d.get "block") (← d.get "data"))
  | "completion" => return reporting Srx.Tag.complete
  | other => unknown s!"st_{other}"

def magicStep (d : Data) (what : String) : Reading (Act Chip (Device .initiator) Data) := do
  match what with
  | "unlock" => return reporting TypeA.Magic.unlock
  | "wipe" => return reporting TypeA.Magic.wipe
  | "write_block0" => return reporting (TypeA.Magic.writeBlockZero (← d.get "data"))
  | "set_uid" =>
    return reporting (TypeA.Magic.setUid (← d.get "uid") (← d.get "sak") (← d.get "atqa"))
  | other => unknown s!"magic_{other}"

def felicaStep (d : Data) (what : String) : Reading (Act Chip (Device .initiator) Data) := do
  match what with
  | "idm" => return reporting Felica.Card.idm
  | "read" => return reporting (Felica.Card.read (← d.get "services") (← d.get "blocks"))
  | "write" =>
    return reporting (Felica.Card.write (← d.get "services") (← d.get "blocks") (← d.get "data"))
  | other => unknown s!"felica_{other}"

/-- Settings may be changed in between, without being checked. -/
def changeSettings (d : Data) : Act Chip (Device .initiator) Data := do
  match (Config.update (← get).config d).run with
  | .ok (.ok config) => modify fun s => { s with config }
  | .ok (.error e) => throw e
  | .error reason => throw (.invalidParameter reason)
  return .null

def initiatorStep (d : Data) : Reading (Act Chip (Device .initiator) Data) := do
  let what ← verb d
  match what.splitOn "_" with
  | ["config"] => return changeSettings (d.field "config")
  | ["abort", "command"] => return reporting Chip.abortPending
  | ["activate"] => return reporting (Device.activate (← d.get "uid"))
  | ["select"] =>
    return reporting (Device.selectPassive (← d.get "modulation") (← d.get "init_data"))
  | ["list"] => return reporting (Device.list (← d.get "modulation") (← d.get "max"))
  | ["poll"] =>
    return reporting (Device.poll (← d.get "modulations") (← d.get "attempts")
      (.ofMillis (← d.get "period_ms")))
  | ["bytes"] =>
    match (← d.get "timeout" : Option Timeout) with
    | some wait => return reporting (Chip.exchangeBytes (← d.get "hex") wait)
    | none => return reporting (Device.exchange (← d.get "hex"))
  | ["bits"] => return reporting (Device.exchangeBits (← d.get "hex") (← d.get "bits"))
  | ["deselect"] => return reporting Device.deselect
  | "jewel" :: rest => jewelStep d (String.intercalate "_" rest)
  | "st" :: rest => srxStep d (String.intercalate "_" rest)
  | "magic" :: rest => magicStep d (String.intercalate "_" rest)
  | "felica" :: rest => felicaStep d (String.intercalate "_" rest)
  | _ => unknown what

instance : Reportable Emulation.Stage := ⟨fun s => .text s.name⟩
instance : Reportable Emulation.Exit := ⟨fun e => .text e.name⟩

instance : Readable Reply where
  read d := do
    if d.has "continue" then return .answer (← d.get "continue")
    let halts : Bool ← d.get "halt"
    if halts then return .halt
    return .failure (← Readable.read d)

variable {κ : Type}

/-- A session from its start to its end, with the stages it went through. -/
def emulationReport (card : Card κ) (memory : κ → Data) (wait : Timeout) :
    Act Chip (Emulation.Session κ) Data := do
  let fresh := (← get).stage
  let first ← (Emulation.start wait).attempt
  let started := (← get).stage
  let exit ← match first with
    | .ok command => (Emulation.run card command wait).attempt
    | .error e => pure (.error e)
  let s ← get
  return .record [("exit", report exit), ("states", report [fresh, started, s.stage]),
    ("commands", report s.commands), ("memory", memory s.card)]

/-- A session with its outcome alone. -/
def emulationOutcome (card : Card κ) (memory : κ → Data) (wait : Timeout) :
    Act Chip (Emulation.Session κ) Data := do
  let exit ← (Emulation.emulate card wait).attempt
  return .record [("exit", report exit), ("memory", memory (← get).card)]

def emulation (target : Target) (content : κ) (card : Card κ) (memory : κ → Data) (wait : Timeout)
    (stages : Bool) : Act Chip (Device .target) Data := fun n device =>
  let session := if stages then emulationReport card memory wait
    else emulationOutcome card memory wait
  (session n { device, target, card := content }).map fun r => (r.1, r.2.device)

/-- Emulate a Type 2 tag, or a card with replies laid out. -/
def emulateStep (d : Data) (stages : Bool) : Reading (Act Chip (Device .target) Data) := do
  let wait : Timeout ← d.get "timeout"
  let target : Target ← d.get "target"
  match (← d.get "type2" : Option Bytes) with
  | some image =>
    let tag ← accept (Type2.ofImage image)
    return emulation target tag Type2.process (fun t => report t.memory) wait stages
  | none =>
    let replies : List Reply ← d.get "script"
    return emulation target replies scriptedCard (fun rest => report rest.length) wait stages

def targetStep (d : Data) : Reading (Act Chip (Device .target) Data) := do
  let wait : Timeout ← d.get "timeout"
  match ← verb d with
  | "abort_command" => return reporting Chip.abortPending
  | "target_init" => return reporting (Device.arm (← d.get "target") wait)
  | "target_receive" => return reporting (Chip.receive wait)
  | "target_send" => return reporting (Chip.send (← d.get "hex") wait)
  | "emulate" => emulateStep d true
  | "emulate_fn" => emulateStep d false
  | other => unknown other

def depInitiatorStep (d : Data) : Reading (Act Chip Dep.InitiatorSide Data) := do
  let wait : Timeout ← d.get "timeout"
  match ← verb d with
  | "select" =>
    return reporting (Dep.InitiatorSide.select (← d.get "mode") (← d.get "baud")
      (← d.get "general_bytes") wait)
  | "poll" => return reporting (Dep.InitiatorSide.poll (← d.get "mode") (← d.get "baud") wait)
  | "set_baud_rate" => return reporting (Dep.InitiatorSide.setBaud (← d.get "baud"))
  | "transceive" => return reporting (Dep.InitiatorSide.transceive (← d.get "payload"))
  | "attention" => return reporting Dep.InitiatorSide.attention
  | "deselect" => return reporting Dep.InitiatorSide.deselect
  | other => unknown other

def depTargetStep (d : Data) : Reading (Act Chip Dep.TargetSide Data) := do
  let wait : Timeout ← d.get "timeout"
  match ← verb d with
  | "init" => return reporting (Dep.TargetSide.init (← d.get "target") wait)
  | "receive" => return reporting (Dep.TargetSide.receive wait)
  | "send" => return reporting (Dep.TargetSide.send (← d.get "payload") wait)
  | "rtox" => return reporting (Dep.TargetSide.requestTime (← d.get "rtox") wait)
  | other => unknown other

/-- All steps in order, each with what can be seen after it. A step that fails does not stop the
others. -/
def program (after : σ → List Data) : List (Act Chip σ Data) → Act Chip σ (List Data)
  | [] => return []
  | step :: rest => do
    let outcome ← step.attempt
    let seen := Data.list (report outcome :: after (← get))
    return seen :: (← program after rest)

end Contactless.Script
