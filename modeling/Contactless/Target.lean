import Contactless.Uid
import Contactless.Dep.Info

/-!
Targets found in the field, each with what its technology tells about it.
-/
namespace Contactless

abbrev Idm := Octets 8
abbrev Pmm := Octets 8

inductive Target where
  /-- The answer to select is kept from its format byte on, and empty for a tag without one. -/
  | typeA (atqa : Octets 2) (sak : UInt8) (uid : Uid) (ats : Bytes)
  | typeB (pupi : Octets 4) (application : Octets 4) (protocol : Octets 3)
  /-- The identifier has its least significant byte first. -/
  | srx (uid : Octets 8)
  | felica (idm : Idm) (pmm : Pmm) (systemCode : UInt16) (baud : BaudRate)
  | jewel (atqa : Octets 2) (id : Octets 4)
  | barcode (data : Bytes)
  | dep (info : DepInfo)
deriving DecidableEq

namespace Target

def modulation : Target → Modulation
  | typeA .. => .typeA
  | typeB .. => ⟨.iso14443b, .baud106⟩
  | srx .. => ⟨.iso14443b2sr, .baud106⟩
  | felica _ _ _ baud => ⟨.felica, baud⟩
  | jewel .. => ⟨.jewel, .baud106⟩
  | barcode .. => ⟨.barcode, .baud106⟩
  | dep info => ⟨.dep, info.baud⟩

/-- Identifier bytes, whatever the technology. -/
def id : Target → Bytes
  | typeA _ _ uid _ => uid.bytes
  | typeB pupi _ _ => pupi.toList
  | srx uid => uid.toList
  | felica idm _ _ _ => idm.toList
  | jewel _ id => id.toList
  | barcode data => data
  | dep info => info.nfcid3.toList

/-- A type A tag that gave an answer to select. -/
def isPart4 : Target → Bool
  | typeA _ _ _ ats => !ats.isEmpty
  | _ => false

open Text.Hex in
def label : Target → String
  | typeA atqa sak uid ats =>
    s!"ISO/IEC 14443A ATQA: {spaced atqa.toList} UID: {spaced uid.bytes} SAK: {byte sak}"
      ++ if ats.isEmpty then "" else s!" ATS: {spaced ats}"
  | typeB pupi application protocol =>
    s!"ISO/IEC 14443-4B PUPI: {spaced pupi.toList} APP: {spaced application.toList}"
      ++ s!" PROTO: {spaced protocol.toList}"
  | srx uid => s!"ISO/IEC 14443-2B ST SRx UID: {spaced uid.toList}"
  | felica idm pmm code baud =>
    s!"FeliCa ({baud.label}) IDm: {spaced idm.toList} PMm: {spaced pmm.toList} SC: {word code}"
  | jewel atqa id => s!"Innovision Jewel ATQA: {spaced atqa.toList} ID: {spaced id.toList}"
  | barcode data => s!"Thinfilm barcode: {spaced data}"
  | dep info =>
    s!"D.E.P. ({info.mode.name}, {info.baud.label}) NFCID3: {spaced info.nfcid3.toList}"
      ++ s!" GB: {spaced info.generalBytes}"

end Target

end Contactless
