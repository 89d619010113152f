import Contactless.Config
import Contactless.Data
import Contactless.Target
import Contactless.TypeA.Activation
import Contactless.TypeB.Srx

/-!
Targets, settings and activations as structured data.
-/
namespace Contactless

open Data

instance : Reportable Duration := ⟨fun d => report (d.seconds, d.nanos)⟩

instance : Readable Duration where
  read
    | .list [.number s, .number n] => pure ⟨s, n⟩
    | _ => unreadable "a duration is missing"

/-- An absent timeout is an immediate one. -/
instance : Readable Timeout where
  read
    | .null => pure .immediate
    | .text "forever" => pure .forever
    | .text "immediate" => pure .immediate
    | d => Timeout.millis <$> Readable.read d

instance : Reportable Timeout where
  report
    | .forever => .text "forever"
    | .immediate => .text "immediate"
    | .millis n => report n

instance : Readable BaudRate := ⟨choice BaudRate.all BaudRate.name⟩
instance : Reportable BaudRate := ⟨fun b => .text b.name⟩

instance : Readable DepMode := ⟨choice [.passive, .active] DepMode.name⟩
instance : Reportable DepMode := ⟨fun m => .text m.name⟩

def Wakeup.name : Wakeup → String
  | .reqa => "Reqa"
  | .wupa => "Wupa"

instance : Readable Wakeup := ⟨choice [.reqa, .wupa] Wakeup.name⟩
instance : Reportable Wakeup := ⟨fun w => .text w.name⟩

instance : Readable Modulation where
  read
    | .list [technology, baud] => do
      return ⟨← choice Technology.all Technology.name technology, ← Readable.read baud⟩
    | _ => unreadable "a modulation is missing"

instance : Reportable Modulation := ⟨fun m => report (m.technology.name, m.baud.name)⟩

instance : Readable CascadeLevel where
  read d := do
    match CascadeLevel.ofIndex? ((← Readable.read d) - 1) with
    | some level => return level
    | none => unreadable "there is no such level"

instance : Reportable CascadeLevel := ⟨fun l => report l.number⟩

instance : Readable Uid where
  read d := do
    let bytes : Bytes ← Readable.read d
    accept (Uid.ofBytes bytes)

instance : Reportable Uid := ⟨fun u => report u.bytes⟩

instance : Readable DepInfo where
  read d := do
    return { nfcid3 := ← d.get "nfcid3", did := ← d.get "did", bs := ← d.get "bs",
             br := ← d.get "br", timeoutExponent := ← d.get "to", pp := ← d.get "pp",
             generalBytes := ← d.get "general_bytes", mode := ← d.get "mode",
             baud := ← d.get "baud" }

instance : Reportable DepInfo where
  report i := .record [("kind", .text "Dep"), ("nfcid3", report i.nfcid3), ("did", report i.did),
    ("bs", report i.bs), ("br", report i.br), ("to", report i.timeoutExponent),
    ("pp", report i.pp), ("general_bytes", report i.generalBytes), ("mode", report i.mode),
    ("baud", report i.baud)]

instance : Readable Target where
  read d := do
    match ← choice Technology.all Technology.name (d.field "kind") with
    | .iso14443a =>
      return .typeA (← d.get "atqa") (← d.get "sak") (← d.get "uid") (← d.get "ats")
    | .iso14443b =>
      return .typeB (← d.get "pupi") (← d.get "application_data") (← d.get "protocol_info")
    | .iso14443b2sr => return .srx (← d.get "uid")
    | .felica =>
      return .felica (← d.get "idm") (← d.get "pmm") (← d.get "system_code") (← d.get "baud")
    | .jewel => return .jewel (← d.get "atqa") (← d.get "id")
    | .barcode => return .barcode (← d.get "data")
    | .dep => return .dep (← Readable.read d)
    | .iso14443bi | .iso14443b2ct => unreadable "there are no such targets"

/-- What describes a target beside its technology. -/
def Target.fields : Target → List (String × Data)
  | typeA atqa sak uid ats =>
    [("atqa", report atqa), ("sak", report sak), ("uid", report uid), ("ats", report ats)]
  | typeB pupi application protocol =>
    [("pupi", report pupi), ("application_data", report application),
      ("protocol_info", report protocol)]
  | srx uid => [("uid", report uid)]
  | felica idm pmm code baud =>
    [("idm", report idm), ("pmm", report pmm), ("system_code", report code), ("baud", report baud)]
  | jewel atqa id => [("atqa", report atqa), ("id", report id)]
  | barcode data => [("data", report data)]
  | dep _ => []

instance : Reportable Target where
  report
    | .dep info => report info
    | t => .record (("kind", .text t.modulation.technology.name) :: t.fields)

/-- The settings with every one replaced that the data names. -/
def Config.update (c : Config) (d : Data) : Reading Config := do
  let pollPeriod ← d.getOr "poll_period_ms" c.pollPeriod
  let period : Option Duration ← d.get "poll_period"
  let nfcid3 : Option Nfcid3 ← d.get "dep_nfcid3"
  let relayUid : Option Bytes ← d.get "relay_uid"
  return { commandTimeout := ← d.getOr "command_timeout" c.commandTimeout
           targetTimeout := ← d.getOr "target_timeout" c.targetTimeout
           wakeup := ← d.getOr "wakeup" c.wakeup
           ratsParam := ← d.getOr "rats_param" c.ratsParam
           pollPeriod := (period.map Duration.toMillis).getD pollPeriod
           nfcid3 := nfcid3.or c.nfcid3
           generalBytes := ← d.getOr "dep_general_bytes" c.generalBytes
           relayUid := relayUid.or c.relayUid }

instance : Readable Config := ⟨Config.update {}⟩

instance : Reportable Config where
  report c := .record [("command_timeout", report c.commandTimeout),
    ("target_timeout", report c.targetTimeout), ("wakeup", report c.wakeup),
    ("rats_param", report c.ratsParam), ("poll_period_ms", report c.pollPeriod),
    ("poll_period", report (Duration.ofMillis c.pollPeriod)), ("dep_nfcid3", report c.nfcid3),
    ("dep_general_bytes", report c.generalBytes), ("relay_uid", report c.relayUid?),
    ("validate", report c.validate)]

instance : Reportable Srx.ChipInfo where
  report c := .record [("name", .text c.name), ("chip_code", report c.code),
    ("block_count", report c.blockCount), ("block_size", report c.blockSize.bytes),
    ("system_block", report c.systemBlock), ("legacy", report c.legacy)]

def CascadeLevel.name : CascadeLevel → String
  | .one => "One"
  | .two => "Two"
  | .three => "Three"

namespace TypeA

def Stage.text : Stage → String
  | .idle => "Idle"
  | .requested => "ReqSent"
  | .arbitration l => Text.tuple "Arbitration" [l.name]
  | .selected l => Text.tuple "Selected" [l.name]
  | .ratsSent => "RatsSent"
  | .activated => "Activated"
  | .noTag => "NoTag"

instance : Reportable Stage := ⟨fun s => .text s.text⟩

instance : Reportable Warning where
  report
    | .bccMismatch l e a => .list [.text "BccMismatch", report l, report e, report a]
    | .cascadeTagMismatch l a => .list [.text "CascadeTagMismatch", report l, report a]

instance : Reportable Activation :=
  ⟨fun a => .record [("target", report a.target), ("warnings", report a.warnings)]⟩

end TypeA

end Contactless
