import Contactless.Error

/-!
Fields of a received frame, read at an offset. A frame that ends too early is an invalid length
that names how many bytes the field would need. Offsets and lengths are those of frame layouts, with
sums far below the top of a machine word, and are plain numbers.
-/
namespace Contactless

def requireLength (data : Bytes) (least : Nat) : Except Error Unit :=
  if data.length < least then .error (.invalidLength least data.length) else .ok ()

def requireExactLength (data : Bytes) (len : Nat) : Except Error Unit :=
  if data.length ≠ len then .error (.invalidLength len data.length) else .ok ()

/-- The `len` bytes from `pos` on. -/
def sliceAt (data : Bytes) (pos len : Nat) : Except Error Bytes :=
  if data.length < pos + len then .error (.invalidLength (pos + len) data.length)
  else .ok ((data.drop pos).take len)

theorem length_take_drop {data : Bytes} {pos len : Nat} (h : ¬ data.length < pos + len) :
    ((data.drop pos).take len).length = len := by
  simp only [List.length_take, List.length_drop]
  omega

def octetsAt (n : Nat) (data : Bytes) (pos : Nat) : Except Error (Octets n) :=
  if h : data.length < pos + n then .error (.invalidLength (pos + n) data.length)
  else .ok ⟨(data.drop pos).take n, length_take_drop h⟩

def byteAt (data : Bytes) (pos : Nat) : Except Error UInt8 :=
  match data[pos]? with
  | some b => .ok b
  | none => .error (.invalidLength (pos + 1) data.length)

/-- The word at `pos`, high byte first. -/
def wordAt (data : Bytes) (pos : Nat) : Except Error UInt16 :=
  match (data.drop pos) with
  | hi :: lo :: _ => .ok (word16 hi lo)
  | _ => .error (.invalidLength (pos + 2) data.length)

def expectByte (data : Bytes) (pos : Nat) (expected : UInt8) : Except Error Unit :=
  match byteAt data pos with
  | .error e => .error e
  | .ok actual =>
    if actual = expected then .ok () else .error (.unexpectedResponse expected actual)

/-- All of `data`, if it has `n` bytes. -/
def Octets.ofBytes (n : Nat) (data : Bytes) : Except Error (Octets n) :=
  if h : data.length = n then .ok ⟨data, h⟩ else .error (.invalidLength n data.length)

end Contactless
