import Contactless.Data.Target
import Contactless.Felica.Frame
import Contactless.Jewel.Frame
import Contactless.Relay.Frame

/-!
Frames of the protocols as structured data.
-/
namespace Contactless

open Data

/-- A frame of whole bytes, unless a bit count is given. -/
instance : Readable BitFrame where
  read d := do
    let data : Bytes ← d.get "hex"
    match (← d.get "bits" : Option Nat) with
    | none => return .ofBytes data
    | some n => accept (BitFrame.ofBits data n)

instance : Reportable BitFrame := ⟨fun f => report (f.data, f.bits)⟩

namespace Felica

instance : Readable BlockElement where
  read
    | .list [service, access, block] => do
      let access : Nat ← Readable.read access
      return ⟨← Readable.read service, if access = 0 then .normal else .cashBack,
        ← Readable.read block⟩
    | _ => unreadable "a block is missing"

instance : Reportable PollingAnswer where
  report p := .record [("idm", report p.idm), ("pmm", report p.pmm),
    ("system_code", report p.systemCode)]

end Felica

namespace Jewel

instance : Reportable Dump := ⟨fun d => report d.bytes⟩

instance : Readable Dump := ⟨fun d => Dump.ofImage <$> Readable.read d⟩

instance : Readable Request where
  read d := do
    let uid : Reading TagId := d.get "uid"
    match (← d.get "request" : String) with
    | "Rid" => return .rid
    | "Rall" => return .rall (← uid)
    | "Read" => return .read (← uid) (← d.get "address")
    | "WriteE" => return .writeErasing (← uid) (← d.get "address") (← d.get "data")
    | "WriteNe" => return .write (← uid) (← d.get "address") (← d.get "data")
    | "Rseg" => return .rseg (← uid) (← d.get "segment")
    | "Read8" => return .readBlock (← uid) (← d.get "block")
    | "WriteE8" => return .writeBlockErasing (← uid) (← d.get "block") (← d.get "data")
    | "WriteNe8" => return .writeBlock (← uid) (← d.get "block") (← d.get "data")
    | other => unreadable s!"unknown request {other}"

instance : Reportable Response where
  report
    | .rid header uid =>
      .record [("response", .text "Rid"), ("header", report header), ("uid", report uid)]
    | .rall header dump =>
      .record [("response", .text "Rall"), ("header", report header), ("dump", report dump)]
    | .byte address data =>
      .record [("response", .text "Byte"), ("address", report address), ("data", report data)]
    | .rseg segment data =>
      .record [("response", .text "Rseg"), ("segment", report segment), ("data", report data)]
    | .block block data =>
      .record [("response", .text "Block"), ("block", report block), ("data", report data)]

end Jewel

namespace Dep

/-- True stands for a request. -/
instance : Readable Direction where
  read d := do
    let request : Bool ← Readable.read d
    return if request then .request else .answer

instance : Readable Pfb where
  read d := do
    match (← d.get "pfb" : String) with
    | "Information" => return .information (← d.get "more") (← d.get "pni")
    | "Ack" => return .ack (← d.get "pni")
    | "Nack" => return .nack (← d.get "pni")
    | "Attention" => return .attention
    | "TimeoutExtension" => return .timeoutExtension
    | other => unreadable s!"unknown kind {other}"

instance : Reportable Pfb where
  report
    | .information more pni =>
      .record [("pfb", .text "Information"), ("more", report more), ("pni", report pni)]
    | .ack pni => .record [("pfb", .text "Ack"), ("pni", report pni)]
    | .nack pni => .record [("pfb", .text "Nack"), ("pni", report pni)]
    | .attention => .record [("pfb", .text "Attention")]
    | .timeoutExtension => .record [("pfb", .text "TimeoutExtension")]

instance : Readable Pdu where
  read d := do
    match (← d.get "new" : String) with
    | "information" => return .information (← d.get "more") (← d.get "pni") (← d.get "payload")
    | "ack" => return .ack (← d.get "pni")
    | "attention" => return .attention
    | "timeout_extension" => return .timeoutExtension (← d.get "rtox")
    | "raw" => return ⟨← d.get "pfb", ← d.get "payload"⟩
    | other => unreadable s!"unknown data frame {other}"

instance : Reportable Pdu where
  report p := .record [("pfb", report p.pfb), ("payload", report p.payload),
    ("rtox", report p.rtox)]

instance : Readable AtrRequest where
  read d := do
    let a : AtrRequest := { nfcid3 := ← d.get "nfcid3", generalBytes := ← d.get "general_bytes" }
    return { a with did := ← d.getOr "did" a.did, bs := ← d.getOr "bs" a.bs,
                    br := ← d.getOr "br" a.br, pp := ← d.getOr "pp" a.pp }

/-- A request is reported as what it tells about an initiator in active mode at 212 kbps. -/
instance : Reportable AtrRequest := ⟨fun a => report (a.info .active .baud212)⟩

instance : Readable AtrAnswer where
  read d := do
    let a : AtrAnswer :=
      { nfcid3 := ← d.get "nfcid3", did := ← d.get "did", generalBytes := ← d.get "general_bytes" }
    return { a with bs := ← d.getOr "bs" a.bs, br := ← d.getOr "br" a.br,
                    timeoutExponent := ← d.getOr "to" a.timeoutExponent,
                    pp := ← d.getOr "pp" a.pp }

/-- An answer is reported as what it tells about a target in passive mode at 424 kbps. -/
instance : Reportable AtrAnswer := ⟨fun a => report (a.info .passive .baud424)⟩

instance : Reportable InitiatorFrame where
  report
    | .atr request => .record [("frame", .text "Atr"), ("atr", report request)]
    | .psl did baud fsl =>
      .record [("frame", .text "Psl"), ("did", report did), ("baud", report baud),
        ("fsl", report fsl)]
    | .data pdu => .record [("frame", .text "Dep"), ("pdu", report pdu)]
    | .dsl => .record [("frame", .text "Dsl")]
    | .rls => .record [("frame", .text "Rls")]

end Dep

namespace Relay

instance : Readable LinkFrame where
  read d := do
    match (← d.get "frame" : String) with
    | "Target" => return .target (← d.get "target")
    | "Command" => return .command (← d.get "data")
    | "Response" => return .response (← d.get "data")
    | "Shutdown" => return .shutdown
    | other => unreadable s!"unknown frame {other}"

instance : Reportable LinkFrame where
  report
    | .target t => .record [("frame", .text "Target"), ("target", report t)]
    | .command data => .record [("frame", .text "Command"), ("data", report data)]
    | .response data => .record [("frame", .text "Response"), ("data", report data)]
    | .shutdown => .record [("frame", .text "Shutdown")]

end Relay

end Contactless
