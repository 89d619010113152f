import Contactless.Proofs.Crc
import Contactless.TypeA.Frame

/-!
A frame with its check is the same however it is made: appended to, put into a buffer, or taken
apart again. What is put into a buffer is the whole frame or nothing, and stays within its length.
-/
namespace Contactless

/-- A frame of `needed` bytes is put at the start of a buffer that holds as many, with what follows
left as it was. A shorter buffer is not touched. -/
structure Puts (needed : Nat) (frame buffer : Bytes) (outcome : Except Error Nat × Bytes) :
    Prop where
  put : needed ≤ buffer.length →
    frame.length = needed ∧ outcome = (.ok needed, frame ++ buffer.drop needed)
  refused : buffer.length < needed →
    outcome = (.error (.bufferTooSmall needed buffer.length), buffer)

theorem slice?_eq_some {data : Bytes} {start stop : Nat} (order : start ≤ stop)
    (inside : stop ≤ data.length) : slice? data start stop = some ((data.take stop).drop start) :=
  if_pos ⟨order, inside⟩

theorem slice?_of_lt {data : Bytes} {start stop : Nat} (order : stop < start) :
    slice? data start stop = none :=
  if_neg fun places => Nat.not_le.mpr order places.1

theorem Overflow.add_eq_some {o : Overflow} {m n : UInt64}
    (fits : m.toNat + n.toNat < UInt64.size) : o.add m n = some (m + n) := by
  cases o with
  | stops => exact if_pos fits
  | wraps => rfl

namespace Crc

/-- A write comes to a result, which is what it is asked for. -/
def Writes (c : Crc) (overflow : Overflow) (buffer : Bytes) (len : UInt64) : Prop :=
  ∃ outcome, c.write? overflow buffer len = some outcome ∧
    Puts (len.toNat + 2) (c.append (buffer.take len.toNat)) buffer outcome

/-- The ways to give a frame its check, and to verify it and take it off. A check can be written
behind every body that leaves room for it below the top of a 64-bit word, and behind no other. -/
structure Agrees (c : Crc) : Prop where
  strips : ∀ frame body,
    c.strip frame = .ok body ↔ body ≠ [] ∧ frame = body ++ (c.tail body).toList
  checks : ∀ frame, c.check frame = true ↔ ∃ body, c.strip frame = .ok body
  appends : ∀ body, body ≠ [] → c.strip (c.append body) = .ok body
  writes : ∀ overflow buffer len,
    c.Writes overflow buffer len ↔ len.toNat + 2 < UInt64.size

section Write

variable {c : Crc} {overflow : Overflow} {buffer : Bytes} {len : UInt64}

theorem writes_of_lt (fits : len.toNat + 2 < UInt64.size) : c.Writes overflow buffer len := by
  have sum : (len + 2).toNat = len.toNat + 2 :=
    (UInt64.toNat_add len 2).trans (Nat.mod_eq_of_lt fits)
  have added : overflow.add len 2 = some (len + 2) := Overflow.add_eq_some fits
  by_cases room : len.toNat + 2 ≤ buffer.length
  · have inside : len.toNat ≤ buffer.length := Nat.le_of_add_right_le room
    have body : slice? buffer 0 len.toNat = some (buffer.take len.toNat) :=
      slice?_eq_some (Nat.zero_le _) inside
    have behind : slice? buffer len.toNat (len.toNat + 2) =
        some ((buffer.take (len.toNat + 2)).drop len.toNat) :=
      slice?_eq_some (Nat.le_add_right _ 2) room
    have written : c.write? overflow buffer len =
        some (.ok (len.toNat + 2),
          c.append (buffer.take len.toNat) ++ buffer.drop (len.toNat + 2)) := by
      unfold write?
      simp only [added, sum, body, behind, Option.bind_eq_bind, Option.bind_some,
        if_neg (Nat.not_lt.mpr room)]
      rfl
    refine ⟨_, written, ?_, ?_⟩
    · intro _
      rw [c.length_append, List.length_take_of_le inside]
      exact ⟨rfl, rfl⟩
    · intro short
      exact absurd room (Nat.not_le.mpr short)
  · have short : buffer.length < len.toNat + 2 := Nat.not_le.mp room
    have refused : c.write? overflow buffer len =
        some (.error (.bufferTooSmall (len.toNat + 2) buffer.length), buffer) := by
      unfold write?
      simp only [added, sum, Option.bind_eq_bind, Option.bind_some, if_pos short]
      rfl
    refine ⟨_, refused, ?_, ?_⟩
    · intro enough
      exact absurd enough room
    · intro _
      rfl

/-- Past the top there is no sum, or one that is before the end of the body. -/
theorem lt_of_writes (writes : c.Writes overflow buffer len) : len.toNat + 2 < UInt64.size := by
  refine Nat.lt_of_not_le ?_
  intro past
  obtain ⟨outcome, came, puts⟩ := writes
  unfold write? at came
  cases overflow with
  | stops =>
      have stopped : Overflow.stops.add len 2 = none := if_neg (Nat.not_lt.mpr past)
      rw [stopped] at came
      cases came
  | wraps =>
      have size : UInt64.size = 0x10000000000000000 := rfl
      have top : len.toNat < UInt64.size := len.toNat_lt
      have sum : (len + 2).toNat = (len.toNat + 2) % UInt64.size := UInt64.toNat_add len 2
      rw [size] at past top sum
      have back : (len + 2).toNat < len.toNat := by omega
      have behind : slice? buffer len.toNat (len + 2).toNat = none := slice?_of_lt back
      simp only [Overflow.add, Option.bind_eq_bind, Option.bind_some, behind] at came
      split at came
      case isTrue short =>
        cases came
        have refused := congrArg Prod.fst (puts.refused (by omega))
        injection refused with wrong
        injection wrong with sizes
        omega
      case isFalse =>
        cases body : slice? buffer 0 len.toNat with
        | none =>
            rw [body] at came
            cases came
        | some front =>
            rw [body] at came
            cases came

end Write

theorem agrees (c : Crc) : c.Agrees where
  strips _ _ := strip_eq_ok_iff
  checks _ := check_eq_true_iff
  appends := c.strip_append
  writes _ _ _ := ⟨lt_of_writes, writes_of_lt⟩

end Crc

namespace TypeA

end TypeA

/-- A buffer that is one byte too short stays as it was. -/
example : TypeA.writeHalt [0x50, 0x01, 0x02] =
      (.error (.bufferTooSmall 4 3), [0x50, 0x01, 0x02]) ∧
    TypeA.writeHalt [0x01, 0x02, 0x03, 0x04, 0x05] =
      (.ok 4, [0x50, 0x00, 0x57, 0xcd, 0x05]) := ⟨rfl, rfl⟩

end Contactless
