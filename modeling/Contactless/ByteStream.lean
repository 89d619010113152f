import Contactless.Error

/-!
Reading from a byte stream that ends, and writing to one that takes only so much.
-/
namespace Contactless

/-- The first `n` bytes of a stream, and what follows them. A stream too short for that is used
up. -/
def readExact (n : Nat) (input : Bytes) : Except Error Bytes × Bytes :=
  if n ≤ input.length then (.ok (input.take n), input.drop n) else (.error .shortRead, [])

/-- A stream being written, which takes no more than `capacity` bytes in all. -/
structure Sink where
  written : Bytes := []
  capacity : Option Nat := none
deriving DecidableEq

namespace Sink

/-- Bytes that the stream still takes of a given number. -/
def room (s : Sink) (wanted : Nat) : Nat :=
  match s.capacity with
  | none => wanted
  | some c => min wanted (c - s.written.length)

/-- Write everything, or as much as the stream takes. -/
def write (s : Sink) (data : Bytes) : Except Error Unit × Sink :=
  (if s.room data.length = data.length then .ok () else .error .shortWrite,
    { s with written := s.written ++ data.take (s.room data.length) })

end Sink

end Contactless
