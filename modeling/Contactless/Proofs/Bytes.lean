import Contactless.Bytes

/-! Words read back from their two bytes, and encodings that tell by themselves where they end, so
that any number of them can follow each other. -/
namespace Contactless

theorem word16_be16 (w : UInt16) : word16 (w >>> 8).toUInt8 w.toUInt8 = w := by
  have small : w.toNat < 2 ^ 16 := w.toNat_lt
  have high : (w >>> 8).toUInt8.toNat = w.toNat / 256 := by
    simp [Nat.shiftRight_eq_div_pow]
    omega
  have low : w.toUInt8.toNat = w.toNat % 256 := by simp
  have fits : (w.toNat / 256) <<< 8 % 2 ^ 16 = (w.toNat / 256) <<< 8 := by
    rw [Nat.shiftLeft_eq]
    omega
  apply UInt16.toNat_inj.mp
  unfold word16
  rw [UInt16.toNat_or, UInt16.toNat_shiftLeft, UInt8.toNat_toUInt16, UInt8.toNat_toUInt16, high,
    low]
  change (w.toNat / 256) <<< 8 % 2 ^ 16 ||| w.toNat % 256 = w.toNat
  rw [fits, ← Nat.shiftLeft_add_eq_or_of_lt (by omega), Nat.shiftLeft_eq]
  omega

theorem length_flatMap_of_fixed {α : Type} {encode : α → Bytes} {n : Nat}
    (fixed : ∀ a, (encode a).length = n) (as : List α) :
    (as.flatMap encode).length = n * as.length := by
  induction as with
  | nil => rfl
  | cons a as ih =>
      rw [List.flatMap_cons, List.length_append, fixed, ih, List.length_cons, Nat.mul_succ,
        Nat.add_comm]

/-- Wherever an allowed value is encoded, no other allowed value is, whatever follows. -/
def Delimited {α : Type} (encode : α → Bytes) (allowed : α → Prop) : Prop :=
  ∀ {a b : α} {x y : Bytes}, allowed a → allowed b → encode a ++ x = encode b ++ y →
    a = b ∧ x = y

theorem delimited_le16 : Delimited le16 fun _ => True := by
  intro v w x y _ _ equal
  obtain ⟨low, rest⟩ := List.cons.inj equal
  obtain ⟨high, same⟩ := List.cons.inj rest
  exact ⟨by rw [← word16_be16 v, low, high, word16_be16], same⟩

theorem delimited_octets (n : Nat) : Delimited (Octets.toList (n := n)) fun _ => True := by
  intro a b x y _ _ equal
  obtain ⟨front, same⟩ := List.append_inj equal (by rw [a.length_toList, b.length_toList])
  exact ⟨Octets.ext_toList front, same⟩

/-- As many encodings in a row are told apart as one. -/
theorem Delimited.flatMap {α : Type} {encode : α → Bytes} {allowed : α → Prop}
    (delimited : Delimited encode allowed) {as bs : List α} {x y : Bytes}
    (left : ∀ a ∈ as, allowed a) (right : ∀ b ∈ bs, allowed b) (same : as.length = bs.length)
    (equal : as.flatMap encode ++ x = bs.flatMap encode ++ y) : as = bs ∧ x = y := by
  induction as generalizing bs with
  | nil => cases bs with
    | nil => exact ⟨rfl, equal⟩
    | cons => cases same
  | cons a as ih => cases bs with
    | nil => cases same
    | cons b bs =>
        rw [List.flatMap_cons, List.flatMap_cons, List.append_assoc, List.append_assoc] at equal
        obtain ⟨first, others⟩ := List.forall_mem_cons.mp left
        obtain ⟨first', others'⟩ := List.forall_mem_cons.mp right
        obtain ⟨rfl, rest⟩ := delimited first first' equal
        obtain ⟨rfl, after⟩ := ih others others' (Nat.succ.inj same) rest
        exact ⟨rfl, after⟩

end Contactless
