import Contactless.Text.Hex
import Contactless.Text.Record
import Contactless.Field
import Contactless.ByteStream

/-!
The static memory of a Jewel tag as one image: the identifier block, twelve data blocks, a reserved
block and the block of lock bits. It is stored and read back byte for byte.
-/
namespace Contactless.Jewel

/-- Fifteen blocks of eight bytes. -/
structure Dump where
  image : Octets 120
deriving DecidableEq

namespace Dump

def ofImage (image : Octets 120) : Dump := ⟨image⟩

def bytes (d : Dump) : Bytes := d.image.toList

def uid (d : Dump) : Bytes := d.bytes.take 7

def block? (d : Dump) (index : Nat) : Option Bytes :=
  if index < 15 then some ((d.bytes.drop (index * 8)).take 8) else none

/-- Take an image off the front of a stream, with what follows it. -/
def readFrom (input : Bytes) : Except Error Dump × Bytes :=
  let (image, rest) := readExact 120 input
  (image.bind fun bytes => (Octets.ofBytes 120 bytes).map ofImage, rest)

def writeTo (d : Dump) (sink : Sink) : Except Error Unit × Sink := sink.write d.bytes

def text (d : Dump) : String :=
  Text.tuple "JewelDump" ["\"" ++ Text.Hex.compact d.bytes ++ "\""]

end Dump

end Contactless.Jewel
