import Contactless.Text.Hex

/-!
Causes of failure and their wording.
-/
namespace Contactless

inductive Error where
  /-- The chip gave no answer in time. -/
  | timeout
  | crcMismatch (expected actual : Octets 2)
  | parity
  | bitCount
  | framing (detail : String)
  | bitCollision
  | bufferTooSmall (needed available : Nat)
  | bufferOverflow (limit actual : Nat)
  /-- The counterpart in the field stayed silent. -/
  | rfTimeout
  | rfProtocol (detail : String)
  | invalidParameter (detail : String)
  | commandNotSupported (detail : String)
  | deviceNotSupported (detail : String)
  | notImplemented (detail : String)
  | aborted
  | io (detail : String)
  | invalidLength (expected actual : Nat)
  | unexpectedResponse (expected actual : UInt8)
  | felicaStatus (status1 status2 : UInt8)
  /-- The initiator released the emulated target. -/
  | targetReleased
  | deviceNotFound
deriving DecidableEq

namespace Error

def message : Error → String
  | timeout => "operation timed out"
  | crcMismatch e a =>
    s!"crc mismatch: expected {Text.Hex.bracketed e.toList}, got {Text.Hex.bracketed a.toList}"
  | parity => "parity error"
  | bitCount => "erroneous bit count during anti-collision/select"
  | framing d => s!"framing error: {d}"
  | bitCollision => "bit collision detected during anti-collision"
  | bufferTooSmall n a => s!"buffer too small: need {n} bytes, have {a}"
  | bufferOverflow l a => s!"buffer overflow: frame of {a} bytes exceeds limit of {l}"
  | rfTimeout => "rf timeout: no answer from the counterpart"
  | rfProtocol d => s!"rf protocol error: {d}"
  | invalidParameter d => s!"invalid parameter: {d}"
  | commandNotSupported d => s!"command not supported: {d}"
  | deviceNotSupported d => s!"device not supported: {d}"
  | notImplemented d => s!"not implemented: {d}"
  | aborted => "operation aborted"
  | io d => s!"i/o error: {d}"
  | invalidLength e a => s!"invalid length: expected {e}, got {a}"
  | unexpectedResponse e a =>
    s!"unexpected response code: expected 0x{Text.Hex.byte e}, got 0x{Text.Hex.byte a}"
  | felicaStatus a b => s!"felica error: status=(0x{Text.Hex.byte a}, 0x{Text.Hex.byte b})"
  | targetReleased => "target released by initiator"
  | deviceNotFound => "device not found"

/-- Nobody answered, whether on the host side or in the field. -/
def isTimeout : Error → Bool
  | timeout | rfTimeout => true
  | _ => false

def isAborted : Error → Bool
  | aborted => true
  | _ => false

/-- Some data was cut short while it was being read. -/
def shortRead : Error := io "failed to fill whole buffer"

/-- A writer took no more bytes. -/
def shortWrite : Error := io "failed to write whole buffer"

end Error

end Contactless
