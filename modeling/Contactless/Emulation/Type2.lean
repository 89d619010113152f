import Contactless.Emulation
import Contactless.TypeA.Frame

/-!
NFC Forum Type 2 tags: a memory of four-byte pages that is read sixteen bytes at a time.
-/
namespace Contactless

/-- A memory of whole pages, at least four of them. -/
structure Type2 where
  memory : Bytes
  whole : memory.length % 4 = 0
  least : 16 ≤ memory.length
deriving DecidableEq

namespace Type2

def ofImage (image : Bytes) : Except Error Type2 :=
  if h : image.length % 4 = 0 ∧ 16 ≤ image.length then .ok ⟨image, h.1, h.2⟩
  else .error (.invalidParameter
    s!"type 2 image of {image.length} bytes is not a whole number of pages")

def target (uid : Uid) : Target := .typeA ⟨[0x00, 0x44], rfl⟩ 0x00 uid []

def pageCount (t : Type2) : Nat := t.memory.length / 4

/-- The byte `i` places behind the start of a page, in a memory that wraps around. -/
def byteFrom (t : Type2) (page : UInt8) (i : Nat) : UInt8 :=
  t.memory.get ⟨(page.toNat * 4 + i) % t.memory.length, Nat.mod_lt _ (by have := t.least; omega)⟩

/-- Sixteen bytes from a page on, if the page begins inside the memory. -/
def read (t : Type2) (page : UInt8) : Option Bytes :=
  if page.toNat * 4 < t.memory.length then some ((List.range 16).map (t.byteFrom page)) else none

/-- The memory with a page replaced, if there is such a page. -/
def write (t : Type2) (page : UInt8) (data : Octets 4) : Option Type2 :=
  if h : page.toNat < t.pageCount then
    some ⟨t.memory.take (page.toNat * 4) ++ data.toList ++ t.memory.drop (page.toNat * 4 + 4), by
      have := t.whole
      have := data.length_toList
      simp only [pageCount, List.length_append, List.length_take, List.length_drop] at *
      omega, by
      have := t.least
      have := data.length_toList
      simp only [pageCount, List.length_append, List.length_take, List.length_drop] at *
      omega⟩
  else none

def ackCode : UInt8 := 0x0a

/-- Answer to a command about a page that does not exist. -/
def nakCode : UInt8 := 0x00

def writeCode : UInt8 := 0xa2

/-- The refusal of a command. -/
def unknown (command : Bytes) : Reply :=
  .failure (.commandNotSupported s!"type 2 command {Text.Hex.spaced command}")

/-- Commands are told by their first bytes; what follows is ignored. -/
def process : Card Type2 := fun command t =>
  match command with
  | code :: rest =>
    if code = TypeA.readCode then
      match rest with
      | page :: _ => (.answer ((t.read page).getD [nakCode]), t)
      | [] => (unknown command, t)
    else if code = writeCode then
      match rest with
      | page :: a :: b :: c :: d :: _ =>
        match t.write page ⟨[a, b, c, d], rfl⟩ with
        | some t => (.answer [ackCode], t)
        | none => (.answer [nakCode], t)
      | _ => (unknown command, t)
    else if code = 0x50 then (.halt, t)
    else (unknown command, t)
  | [] => (unknown command, t)

end Type2

end Contactless
