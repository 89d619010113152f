import Contactless.Text.Record

/-!
Contactless technologies and bit rates.
-/
namespace Contactless

inductive Technology where
  | iso14443a
  | iso14443b
  | iso14443bi
  | iso14443b2sr
  | iso14443b2ct
  | felica
  | jewel
  | barcode
  | dep
deriving DecidableEq

namespace Technology

def name : Technology → String
  | iso14443a => "Iso14443a"
  | iso14443b => "Iso14443b"
  | iso14443bi => "Iso14443bi"
  | iso14443b2sr => "Iso14443b2sr"
  | iso14443b2ct => "Iso14443b2ct"
  | felica => "Felica"
  | jewel => "Jewel"
  | barcode => "Barcode"
  | dep => "Dep"

def all : List Technology :=
  [iso14443a, iso14443b, iso14443bi, iso14443b2sr, iso14443b2ct, felica, jewel, barcode, dep]

end Technology

/-- Bit rates in kilobits per second, each twice the one before. -/
inductive BaudRate where
  | baud106
  | baud212
  | baud424
  | baud847
deriving DecidableEq

namespace BaudRate

def name : BaudRate → String
  | baud106 => "Baud106"
  | baud212 => "Baud212"
  | baud424 => "Baud424"
  | baud847 => "Baud847"

def label : BaudRate → String
  | baud106 => "106 kbps"
  | baud212 => "212 kbps"
  | baud424 => "424 kbps"
  | baud847 => "847 kbps"

/-- How often 106 kbps is doubled. -/
def exponent : BaudRate → UInt8
  | baud106 => 0
  | baud212 => 1
  | baud424 => 2
  | baud847 => 3

def ofExponent? (n : UInt8) : Option BaudRate :=
  if n = 0 then some baud106
  else if n = 1 then some baud212
  else if n = 2 then some baud424
  else if n = 3 then some baud847
  else none

def all : List BaudRate := [baud106, baud212, baud424, baud847]

end BaudRate

/-- How a target communicates. -/
structure Modulation where
  technology : Technology
  baud : BaudRate
deriving DecidableEq

namespace Modulation

def typeA : Modulation := ⟨.iso14443a, .baud106⟩

def text (m : Modulation) : String :=
  Text.record "Modulation" [("kind", m.technology.name), ("baud", m.baud.name)]

end Modulation

end Contactless
