import Contactless.Act
import Contactless.ByteStream
import Contactless.Relay.Frame
import Contactless.Timeout

/-!
The link between the two halves of a relay, over a byte stream or inside one process.
-/
namespace Contactless.Relay

inductive LinkCall where
  | send (frame : LinkFrame)
  | recv (timeout : Timeout)

def LinkCall.Answer : LinkCall → Type
  | send _ => Except Error Unit
  | recv _ => Except Error LinkFrame

def Link : Interface := ⟨LinkCall, LinkCall.Answer⟩

namespace Link

variable {σ : Type}

def send (frame : LinkFrame) : Act Link σ Unit := fun _ s =>
  .ask (LinkCall.send frame) fun (r : Except Error Unit) => .done (r, s)

def recv (timeout : Timeout) : Act Link σ LinkFrame := fun _ s =>
  .ask (LinkCall.recv timeout) fun (r : Except Error LinkFrame) => .done (r, s)

end Link

/-- Frames over a pair of byte streams. Reading waits for as long as the stream itself does. -/
structure StreamLink where
  input : Bytes
  output : Sink := {}
deriving DecidableEq

namespace StreamLink

/-- Write a frame, which has to be one that can be encoded. -/
def send (l : StreamLink) (frame : LinkFrame) : Except Error Unit × StreamLink :=
  match frame.encode with
  | .error e => (.error e, l)
  | .ok bytes =>
    let (result, output) := l.output.write bytes
    (result, { l with output })

/-- Kind and data length at the head of a frame. -/
def readHead (head : Bytes) : Except Error (UInt8 × Nat) :=
  match head with
  | [kind, hi, lo] => .ok (kind, (word16 hi lo).toNat)
  | _ => .error .shortRead

def recv (l : StreamLink) : Except Error LinkFrame × StreamLink :=
  let (head, input) := readExact 3 l.input
  match head.bind readHead with
  | .error e => (.error e, { l with input })
  | .ok (kind, len) =>
    let (data, input) := readExact len input
    (data.bind (LinkFrame.decode kind), { l with input })

def handler : Handler Link StreamLink
  | .send frame, l => l.send frame
  | .recv _, l => l.recv

end StreamLink

/-- One end of a link inside a process. -/
structure ChannelEnd where
  /-- Frames sent by the other end and not received yet. -/
  inbox : List LinkFrame := []
  dropped : Bool := false
  aborted : Bool := false
deriving DecidableEq

/-- Frames handed over inside a process. -/
structure ChannelLink where
  a : ChannelEnd := {}
  b : ChannelEnd := {}
deriving DecidableEq

namespace ChannelLink

def closed : Error := .io "relay link closed"

/-- The same link with its ends exchanged. -/
def flip (l : ChannelLink) : ChannelLink := ⟨l.b, l.a⟩

/-- Hand a frame from end `a` to end `b`, which has to be there still. -/
def send (l : ChannelLink) (frame : LinkFrame) : Except Error Unit × ChannelLink :=
  if l.b.dropped then (.error closed, l)
  else (.ok (), { l with b := { l.b with inbox := l.b.inbox ++ [frame] } })

/-- Receive at end `a`. A pending abort request comes first; frames sent before the other end was
dropped still arrive. -/
def recv (l : ChannelLink) (timeout : Timeout) : Except Error LinkFrame × ChannelLink :=
  if l.a.aborted then (.error .aborted, { l with a := { l.a with aborted := false } })
  else
    match l.a.inbox with
    | frame :: rest => (.ok frame, { l with a := { l.a with inbox := rest } })
    | [] =>
      if l.b.dropped then (.error closed, l)
      else if timeout = .forever then (.error .aborted, l)
      else (.error .timeout, l)

def abort (l : ChannelLink) : ChannelLink := { l with a := { l.a with aborted := true } }

def drop (l : ChannelLink) : ChannelLink := { l with a := { l.a with dropped := true } }

def handler : Handler Link ChannelLink
  | .send frame, l => l.send frame
  | .recv timeout, l => l.recv timeout

def otherHandler : Handler Link ChannelLink := fun call l =>
  let (answer, l) := handler call l.flip
  (answer, l.flip)

end ChannelLink

end Contactless.Relay
