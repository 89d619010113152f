import Contactless.BitFrame
import Contactless.Crc
import Contactless.Uid

/-!
Frames of ISO/IEC 14443-3 and -4 type A: wake-up, anti-collision, select, halt, request for an
answer to select, and the two MIFARE block commands.
-/
namespace Contactless

inductive CascadeLevel where
  | one
  | two
  | three
deriving DecidableEq

namespace CascadeLevel

def sel : CascadeLevel → UInt8
  | one => 0x93
  | two => 0x95
  | three => 0x97

def next? : CascadeLevel → Option CascadeLevel
  | one => some two
  | two => some three
  | three => none

def number : CascadeLevel → Nat
  | one => 1
  | two => 2
  | three => 3

def index (l : CascadeLevel) : Nat := l.number - 1

def ofIndex? : Nat → Option CascadeLevel
  | 0 => some one
  | 1 => some two
  | 2 => some three
  | _ => none

end CascadeLevel

/-- The short frame that opens an activation. -/
inductive Wakeup where
  /-- Wakes idle tags only. -/
  | reqa
  /-- Wakes halted tags too. -/
  | wupa
deriving DecidableEq

namespace TypeA

def reqaCode : UInt8 := 0x26
def wupaCode : UInt8 := 0x52

def reqa : BitFrame := .short reqaCode
def wupa : BitFrame := .short wupaCode

/-- First frame of the back door of magic cards. -/
def magicWakeup : BitFrame := .short 0x40

def nvbAnticollision : UInt8 := 0x20
def nvbSelect : UInt8 := 0x70

def anticollision (level : CascadeLevel) : Bytes := [level.sel, nvbAnticollision]

def select (level : CascadeLevel) (chunk : Octets 5) : Bytes :=
  Crc.a.append ([level.sel, nvbSelect] ++ chunk.toList)

def haltBody : Bytes := [0x50, 0x00]

def halt : Bytes := Crc.a.append haltBody

def ratsCode : UInt8 := 0xe0

/-- Request for an answer to select; the parameter holds the frame size code and the channel. -/
def rats (param : UInt8) : Bytes := Crc.a.append [ratsCode, param]

/-- Ends an ISO/IEC 14443-4 session. -/
def deselect : Bytes := Crc.a.append [0xc2]

def readCode : UInt8 := 0x30

def readBlock (block : UInt8) : Bytes := Crc.a.append [readCode, block]

/-- Announces a write; the data follows in a second frame. -/
def writeBlock (block : UInt8) : Bytes := Crc.a.append [0xa0, block]

/-- Put a frame at the start of a buffer that can hold `needed` bytes, then its check. -/
def writeChecked (body : Bytes) (buffer : Bytes) : Except Error Nat × Bytes :=
  if buffer.length < body.length + 2 then
    (.error (.bufferTooSmall (body.length + 2) buffer.length), buffer)
  else Crc.a.write (body ++ buffer.drop body.length) (.ofNat body.length)

def writeAnticollision (level : CascadeLevel) (buffer : Bytes) : Except Error Nat × Bytes :=
  if buffer.length < 2 then (.error (.bufferTooSmall 2 buffer.length), buffer)
  else (.ok 2, anticollision level ++ buffer.drop 2)

def writeSelect (level : CascadeLevel) (chunk : Octets 5) (buffer : Bytes) :
    Except Error Nat × Bytes :=
  writeChecked ([level.sel, nvbSelect] ++ chunk.toList) buffer

def writeHalt (buffer : Bytes) : Except Error Nat × Bytes := writeChecked haltBody buffer

def writeRats (param : UInt8) (buffer : Bytes) : Except Error Nat × Bytes :=
  writeChecked [ratsCode, param] buffer

/-- First byte of a group: the cascade tag, or a byte of the identifier. -/
def groupHead (chunk : Octets 5) : UInt8 := chunk.get 0

inductive BccCheck where
  | valid
  | mismatch (expected actual : UInt8)
deriving DecidableEq

def checkBcc (chunk : Octets 5) : BccCheck :=
  let expected := bcc (chunk.toList.take 4)
  let actual := chunk.get 4
  if expected = actual then .valid else .mismatch expected actual

/-- The identifier is not complete yet. -/
def sakCascade (sak : UInt8) : Bool := sak &&& 0x04 != 0

/-- The tag answers a request for an answer to select. -/
def sakPart4 (sak : UInt8) : Bool := sak &&& 0x20 != 0

/-- The select acknowledge, alone or with its check. -/
def parseSak (frame : Bytes) : Except Error UInt8 :=
  match frame with
  | [sak] => .ok sak
  | [sak, _, _] =>
    match Crc.a.strip frame with
    | .ok _ => .ok sak
    | .error e => .error e
  | _ => .error (.framing s!"SAK must be 1 or 3 bytes, got {frame.length}")

end TypeA

def Wakeup.frame : Wakeup → BitFrame
  | .reqa => TypeA.reqa
  | .wupa => TypeA.wupa

end Contactless
