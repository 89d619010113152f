import Contactless.Error
import Contactless.Field
import Contactless.Text.HexReading

/-!
Structured data, the form in which values are described from outside and reported to it. Bytes are
hexadecimal text; what is absent is null; a list may be left out when it is empty.
-/
namespace Contactless

inductive Data where
  | null
  | truth (b : Bool)
  | number (n : Nat)
  | text (s : String)
  | list (items : List Data)
  | record (fields : List (String × Data))
  deriving Inhabited

/-- Reading ends with a value, with a value that is refused, or with the reason why the data says
nothing. -/
abbrev Reading := ExceptT Error (Except String)

class Readable (α : Type) where
  read : Data → Reading α

class Reportable (α : Type) where
  report : α → Data

export Reportable (report)

/-- The data says nothing. -/
def unreadable {α : Type} (reason : String) : Reading α := ExceptT.mk (.error reason)

/-- Take over a value or its refusal. -/
def accept {α : Type} (r : Except Error α) : Reading α := ExceptT.mk (.ok r)

namespace Data

variable {α β : Type}

/-- The value of a field; null when there is none. -/
def field (d : Data) (key : String) : Data :=
  match d with
  | record fields => (fields.lookup key).getD null
  | _ => null

def get [Readable α] (d : Data) (key : String) : Reading α := Readable.read (d.field key)

def getOr [Readable α] (d : Data) (key : String) (other : α) : Reading α :=
  match d.field key with
  | null => pure other
  | v => Readable.read v

def has (d : Data) (key : String) : Bool :=
  match d.field key with
  | null => false
  | _ => true

/-- A value that is told by its name. -/
def choice (all : List α) (name : α → String) (d : Data) : Reading α :=
  match d with
  | text s =>
    match all.find? fun a => name a == s with
    | some a => pure a
    | none => unreadable s!"unknown name {s}"
  | _ => unreadable "a name is missing"

def readList (read : Data → Reading α) : List Data → Reading (List α)
  | [] => pure []
  | d :: rest => do return (← read d) :: (← readList read rest)

def readBelow (bound : Nat) (d : Data) : Reading Nat :=
  match d with
  | number n => if n < bound then pure n else unreadable s!"{n} is too large"
  | _ => unreadable "a number is missing"

end Data

open Data

instance : Readable Data := ⟨pure⟩

instance : Readable Nat where
  read
    | .number n => pure n
    | _ => unreadable "a number is missing"

instance : Readable UInt8 := ⟨fun d => UInt8.ofNat <$> readBelow UInt8.size d⟩
instance : Readable UInt16 := ⟨fun d => UInt16.ofNat <$> readBelow UInt16.size d⟩
instance : Readable UInt64 := ⟨fun d => UInt64.ofNat <$> readBelow UInt64.size d⟩

/-- False may be left out. -/
instance : Readable Bool where
  read
    | .truth b => pure b
    | .null => pure false
    | _ => unreadable "a truth value is missing"

instance : Readable String where
  read
    | .text s => pure s
    | _ => unreadable "a text is missing"

instance {α : Type} [Readable α] : Readable (Option α) where
  read
    | .null => pure none
    | d => some <$> Readable.read d

instance (priority := low) {α : Type} [Readable α] : Readable (List α) where
  read
    | .list items => readList Readable.read items
    | .null => pure []
    | _ => unreadable "a list is missing"

instance : Readable Bytes where
  read
    | .text s =>
      match Text.Hex.read s with
      | .ok bytes => pure bytes
      | .error f => unreadable f.message
    | _ => unreadable "bytes are missing"

/-- Bytes in another number are refused. -/
instance {n : Nat} : Readable (Octets n) where
  read d := do
    let bytes : Bytes ← Readable.read d
    accept (Octets.ofBytes n bytes)

instance : Reportable Data := ⟨id⟩
instance : Reportable Unit := ⟨fun _ => .null⟩
instance : Reportable Bool := ⟨.truth⟩
instance : Reportable Nat := ⟨.number⟩
instance : Reportable UInt8 := ⟨fun b => .number b.toNat⟩
instance : Reportable UInt16 := ⟨fun w => .number w.toNat⟩
instance : Reportable UInt64 := ⟨fun w => .number w.toNat⟩
instance : Reportable String := ⟨.text⟩
instance : Reportable Bytes := ⟨fun bs => .text (Text.Hex.compact bs)⟩
instance {n : Nat} : Reportable (Octets n) := ⟨fun o => report o.toList⟩

instance (priority := low) {α : Type} [Reportable α] : Reportable (List α) :=
  ⟨fun xs => .list (xs.map report)⟩

instance {α : Type} [Reportable α] : Reportable (Option α) where
  report
    | some a => report a
    | none => .null

/-- A pair is a list of two. -/
instance {α β : Type} [Reportable α] [Reportable β] : Reportable (α × β) :=
  ⟨fun p => .list [report p.1, report p.2]⟩

namespace Error

/-- The kind of a cause, without its details. -/
def kind : Error → String
  | timeout => "Timeout"
  | crcMismatch .. => "CrcMismatch"
  | parity => "ParityError"
  | bitCount => "BitCountError"
  | framing _ => "FramingError"
  | bitCollision => "BitCollision"
  | bufferTooSmall .. => "BufferTooSmall"
  | bufferOverflow .. => "BufferOverflow"
  | rfTimeout => "RfTimeout"
  | rfProtocol _ => "RfProtocolError"
  | invalidParameter _ => "InvalidParameter"
  | commandNotSupported _ => "CommandNotSupported"
  | deviceNotSupported _ => "DeviceNotSupported"
  | notImplemented _ => "NotImplemented"
  | aborted => "Aborted"
  | io _ => "Io"
  | invalidLength .. => "InvalidLength"
  | unexpectedResponse .. => "UnexpectedResponse"
  | felicaStatus .. => "FelicaStatus"
  | targetReleased => "TargetReleased"
  | deviceNotFound => "DeviceNotFound"

/-- One cause of each kind, with these details as far as the kind has any. -/
def withDetails (detail : String) (a b : Nat) : List Error := [
  timeout, crcMismatch ⟨be16 (UInt16.ofNat a), rfl⟩ ⟨be16 (UInt16.ofNat b), rfl⟩, parity, bitCount,
  framing detail, bitCollision, bufferTooSmall a b, bufferOverflow a b, rfTimeout,
  rfProtocol detail, invalidParameter detail, commandNotSupported detail,
  deviceNotSupported detail, notImplemented detail, aborted, io detail, invalidLength a b,
  unexpectedResponse (UInt8.ofNat a) (UInt8.ofNat b), felicaStatus (UInt8.ofNat a) (UInt8.ofNat b),
  targetReleased, deviceNotFound]

def fields (e : Error) : List (String × Data) :=
  [("error", .text e.kind), ("message", .text e.message)]

end Error

instance : Readable Error where
  read d := do
    let all := Error.withDetails (← d.getOr "text" "") (← d.getOr "a" 0) (← d.getOr "b" 0)
    choice all Error.kind (d.field "error")

instance : Reportable Error := ⟨fun e => .record e.fields⟩

instance {α : Type} [Reportable α] : Reportable (Except Error α) where
  report
    | .ok a => .record [("ok", report a)]
    | .error e => report e

end Contactless
