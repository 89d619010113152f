import Contactless.Proofs.Text.HexReading
import Mathlib.Data.List.Forall2

/-! Hexadecimal text read back. Both renderings of a byte string are read as that byte string, and
so is every text that differs from one of them in blanks and in the case of its letters. -/
namespace Contactless.Text.Hex

/-- The first text becomes the second when blanks are put in anywhere and letters change their
case. -/
inductive Respelled : List Char → List Char → Prop
  | nil : Respelled [] []
  | recase {c d : Char} {cs ds : List Char} : c.toLower = d.toLower → Respelled cs ds →
      Respelled (c :: cs) (d :: ds)
  | space {b : Char} {cs ds : List Char} : blank b = true → Respelled cs ds →
      Respelled cs (b :: ds)

section Case

variable {c d c' d' : Char} {v b : UInt8} {cs ds : List Char} {bs : Bytes}

theorem toLower_of_wide (wide : ¬ c.toNat < 128) : c.toLower = c := by
  unfold Char.toLower
  refine dif_neg fun upper => wide ?_
  have most : c.toNat ≤ 90 := UInt32.le_iff_toNat_le.mp upper.2
  omega

theorem blank_toLower (c : Char) : blank c.toLower = blank c := by
  by_cases ascii : c.toNat < 128
  · exact ascii_forall ascii (by decide +kernel)
  · rw [toLower_of_wide ascii]

theorem eq_plus_of_toLower (lower : c.toLower = '+') : c = '+' := by
  have ascii : c.toNat < 128 := toNat_lt_of_toLower (by rw [lower]; decide)
  have same : c.toLower = '+' → c = '+' := ascii_forall ascii (by decide +kernel)
  exact same lower

theorem Writes.recase (writes : Writes c v) (same : c.toLower = d.toLower) : Writes d v :=
  ⟨writes.small, same ▸ writes.lower⟩

theorem WritesByte.recase (writes : WritesByte c d b) (first : c.toLower = c'.toLower)
    (second : d.toLower = d'.toLower) : WritesByte c' d' b := by
  cases writes with
  | digits high low => exact .digits (high.recase first) (low.recase second)
  | plus low =>
      obtain rfl := eq_plus_of_toLower first.symm
      exact .plus (low.recase second)

theorem Spells.recase (spells : Spells cs bs)
    (same : List.Forall₂ (fun c d => c.toLower = d.toLower) cs ds) : Spells ds bs := by
  induction spells generalizing ds with
  | nil =>
      cases same
      exact .nil
  | cons writes _ ih =>
      rcases same with _ | ⟨first, _ | ⟨second, others⟩⟩
      exact .cons (writes.recase first second) (ih others)

/-- Without their blanks both texts have the same characters, but for the case. -/
theorem Respelled.filter (respelled : Respelled cs ds) :
    List.Forall₂ (fun c d => c.toLower = d.toLower) (cs.filter fun c => !blank c)
      (ds.filter fun c => !blank c) := by
  induction respelled with
  | nil => exact .nil
  | @recase c d cs ds same _ ih =>
      have blanks : blank c = blank d := by rw [← blank_toLower c, same, blank_toLower]
      rw [List.filter_cons, List.filter_cons, blanks]
      cases blank d with
      | true => exact ih
      | false => exact .cons same ih
  | @space b cs ds vacant _ ih =>
      rw [List.filter_cons, vacant]
      exact ih

end Case

section Rendering

variable {v : UInt8}

theorem writes_digit (small : v < 16) : Writes (digit v) v := by
  have lower : (digit v).toLower = digit v := nibble_forall small (by decide)
  exact ⟨small, lower⟩

theorem blank_digit (small : v < 16) : blank (digit v) = false :=
  nibble_forall small (by decide)

theorem toNat_high (b : UInt8) : (b >>> 4).toNat = b.toNat / 16 := by
  simp [Nat.shiftRight_eq_div_pow]

theorem toNat_low (b : UInt8) : (b &&& 0x0f).toNat = b.toNat % 16 := by
  rw [UInt8.toNat_and]
  exact Nat.and_two_pow_sub_one_eq_mod b.toNat 4

theorem high_lt (b : UInt8) : b >>> 4 < 16 := by
  have small := b.toNat_lt
  rw [UInt8.lt_iff_toNat_lt, toNat_high]
  change b.toNat / 16 < 16
  omega

theorem low_lt (b : UInt8) : b &&& 0x0f < 16 := by
  rw [UInt8.lt_iff_toNat_lt, toNat_low]
  exact Nat.mod_lt b.toNat (by decide)

theorem high_add_low (b : UInt8) : (b >>> 4) * 16 + (b &&& 0x0f) = b := by
  have small := b.toNat_lt
  apply UInt8.toNat_inj.mp
  rw [UInt8.toNat_add, UInt8.toNat_mul, toNat_high, toNat_low]
  change (b.toNat / 16 * 16 % 256 + b.toNat % 16) % 256 = b.toNat
  omega

theorem spells_compactChars (bs : Bytes) : Spells (compactChars bs) bs := by
  induction bs with
  | nil => exact .nil
  | cons b bs ih =>
      have writes : WritesByte (digit (b >>> 4)) (digit (b &&& 0x0f)) b := by
        have digits := WritesByte.digits (writes_digit (high_lt b)) (writes_digit (low_lt b))
        rwa [high_add_low] at digits
      exact .cons writes ih

theorem filter_pair (b : UInt8) : (pair b).filter (fun c => !blank c) = pair b := by
  unfold pair
  simp only [List.filter_cons, blank_digit (high_lt b), blank_digit (low_lt b), List.filter_nil,
    Bool.not_false, if_true]

theorem filter_compactChars (bs : Bytes) :
    (compactChars bs).filter (fun c => !blank c) = compactChars bs := by
  induction bs with
  | nil => rfl
  | cons b bs ih => rw [compactChars, List.filter_append, filter_pair, ih]

theorem filter_spacedChars (bs : Bytes) :
    (spacedChars bs).filter (fun c => !blank c) = compactChars bs := by
  fun_induction spacedChars bs with
  | case1 => rfl
  | case2 b =>
      rw [filter_pair]
      rfl
  | case3 b bs more ih =>
      rw [List.filter_append, filter_pair, List.filter_cons, ih]
      rfl

/-- A text is read as what it was rendered from, whatever blanks and cases were changed since. -/
theorem read_respelled {bs : Bytes} {cs : List Char} {text : String}
    (rendered : cs.filter (fun c => !blank c) = compactChars bs)
    (respelled : Respelled cs text.toList) : read text = .ok bs := by
  have same := respelled.filter
  rw [rendered] at same
  exact read_eq_ok_iff.mpr ((spells_compactChars bs).recase same)

theorem Respelled.refl (cs : List Char) : Respelled cs cs := by
  induction cs with
  | nil => exact .nil
  | cons c cs ih => exact .recase rfl ih

theorem injective_of_read {render : Bytes → String} (reads : ∀ bs, read (render bs) = .ok bs) :
    Function.Injective render := by
  intro bs others same
  have again := reads bs
  rw [same, reads others] at again
  exact (Except.ok.inj again).symm

/-- Both renderings of a byte string are read as that byte string, whatever blanks were put in and
whatever letters have changed their case, so that neither renders two byte strings alike. -/
theorem renderings_read :
    (∀ {bs : Bytes} {text : String}, Respelled (compact bs).toList text.toList ∨
      Respelled (spaced bs).toList text.toList → read text = .ok bs) ∧
      Function.Injective compact ∧ Function.Injective spaced := by
  have fromCompact {bs : Bytes} {text : String}
      (respelled : Respelled (compact bs).toList text.toList) : read text = .ok bs := by
    refine read_respelled ?_ respelled
    unfold compact
    rw [String.toList_ofList, filter_compactChars]
  have fromSpaced {bs : Bytes} {text : String}
      (respelled : Respelled (spaced bs).toList text.toList) : read text = .ok bs := by
    refine read_respelled ?_ respelled
    unfold spaced
    rw [String.toList_ofList, filter_spacedChars]
  refine ⟨fun respelled => respelled.elim fromCompact fromSpaced, ?_, ?_⟩
  · exact injective_of_read fun bs => fromCompact (Respelled.refl (compact bs).toList)
  · exact injective_of_read fun bs => fromSpaced (Respelled.refl (spaced bs).toList)

theorem renderings_read_mixed :
    Respelled (spaced [0xde, 0xad]).toList "\nD\tE aD ".toList ∧
      read "\nD\tE aD " = .ok [0xde, 0xad] := by
  have rendered : (spaced [0xde, 0xad]).toList = ['d', 'e', ' ', 'a', 'd'] := by decide
  have typed : "\nD\tE aD ".toList = ['\n', 'D', '\t', 'E', ' ', 'a', 'D', ' '] := by decide
  have respelled : Respelled (spaced [0xde, 0xad]).toList "\nD\tE aD ".toList := by
    rw [rendered, typed]
    exact .space rfl (.recase rfl (.space rfl (.recase rfl (.recase rfl (.recase rfl
      (.recase rfl (.space rfl .nil)))))))
  exact ⟨respelled, renderings_read.1 (.inr respelled)⟩

end Rendering

end Contactless.Text.Hex
