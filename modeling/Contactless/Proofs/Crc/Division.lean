import Mathlib
import Contactless.Proofs.Crc.Burst

/-!
The checks as the standard has them. The bits of a frame are the coefficients of a polynomial over
the field of two elements, the bit that goes out first for the highest degree, and so are the bits
of the register as it is sent. A shift is a step of the division of this polynomial by the
generator, and what a frame leaves in the register is the remainder.
-/
namespace Contactless.Crc

open Polynomial

/-- The bit that goes out first stands for the highest degree. -/
noncomputable def polynomialOf : List Bool → (ZMod 2)[X]
  | [] => 0
  | bit :: bits => (bit.toNat : (ZMod 2)[X]) * X ^ bits.length + polynomialOf bits

/-- The register, its low byte going out first. -/
noncomputable def registerPolynomial (register : UInt16) : (ZMod 2)[X] :=
  polynomialOf (transmitted (le16 register))

noncomputable def generator : (ZMod 2)[X] := X ^ 16 + (X ^ 12 + X ^ 5 + 1)

section Polynomials

theorem toNat_xor (a b : Bool) :
    ((a ^^ b).toNat : (ZMod 2)[X]) = (a.toNat : (ZMod 2)[X]) + (b.toNat : (ZMod 2)[X]) := by
  cases a <;> cases b <;> simp [CharTwo.add_self_eq_zero]

theorem polynomialOf_append_singleton (bits : List Bool) (bit : Bool) :
    polynomialOf (bits ++ [bit]) = X * polynomialOf bits + (bit.toNat : (ZMod 2)[X]) := by
  induction bits with
  | nil => simp [polynomialOf]
  | cons first bits ih =>
      simp only [List.cons_append, polynomialOf, ih, List.length_append, List.length_singleton]
      ring

theorem polynomialOf_zipWith_xor {front back : List Bool} (same : front.length = back.length) :
    polynomialOf (List.zipWith (· ^^ ·) front back) = polynomialOf front + polynomialOf back := by
  induction front generalizing back with
  | nil => cases back with
    | nil => simp [polynomialOf]
    | cons => cases same
  | cons a front ih => cases back with
    | nil => cases same
    | cons b back =>
        have rest : front.length = back.length := Nat.succ.inj same
        have shorter : (List.zipWith (· ^^ ·) front back).length = back.length := by
          simp [rest]
        rw [List.zipWith_cons_cons, polynomialOf, ih rest, shorter, toNat_xor, polynomialOf,
          polynomialOf, rest]
        ring

theorem degree_polynomialOf_lt (bits : List Bool) :
    (polynomialOf bits).degree < bits.length := by
  induction bits with
  | nil => simp [polynomialOf]
  | cons bit bits ih =>
      have longer : (bits.length : WithBot ℕ) < (bit :: bits).length := by
        rw [List.length_cons]
        exact_mod_cast Nat.lt_succ_self bits.length
      have head : ((bit.toNat : (ZMod 2)[X]) * X ^ bits.length).degree ≤
          (bits.length : WithBot ℕ) := by
        cases bit <;> simp
      rw [polynomialOf]
      apply lt_of_le_of_lt (degree_add_le _ _)
      exact max_lt (lt_of_le_of_lt head longer) (lt_trans ih longer)

end Polynomials

section Register

variable (r s : UInt16)

theorem transmitted_le16 :
    transmitted (le16 r) = List.ofFn fun i : Fin 16 => r.toBitVec.getLsbD i := by
  simp [transmitted, le16, bitsOf, List.ofFn_succ]

/-- What the register says beside the bit that leaves it next. -/
theorem exists_transmitted_le16 : ∃ rest, rest.length = 15 ∧
    transmitted (le16 r) = r.toBitVec.getLsbD 0 :: rest ∧
      transmitted (le16 (r >>> 1)) = rest ++ [false] := by
  refine ⟨List.ofFn fun i : Fin 15 => r.toBitVec.getLsbD (i + 1), List.length_ofFn, ?_, ?_⟩
  · rw [transmitted_le16, List.ofFn_succ]
    rfl
  · rw [transmitted_le16]
    simp [List.ofFn_succ]

theorem registerPolynomial_xor :
    registerPolynomial (r ^^^ s) = registerPolynomial r + registerPolynomial s := by
  have bits : transmitted (le16 (r ^^^ s)) =
      List.zipWith (· ^^ ·) (transmitted (le16 r)) (transmitted (le16 s)) := by
    simp [transmitted_le16, List.ofFn_succ]
  rw [registerPolynomial, bits, polynomialOf_zipWith_xor]
  · rfl
  · rw [length_transmitted, length_transmitted]
    rfl

theorem registerPolynomial_feedback (bit : Bool) :
    registerPolynomial (feedback bit) = (bit.toNat : (ZMod 2)[X]) * (X ^ 12 + X ^ 5 + 1) := by
  have ones : transmitted (le16 0x8408) =
      [false, false, false, true, false, false, false, false,
        false, false, true, false, false, false, false, true] := by decide
  have zeros : transmitted (le16 0) = List.replicate 16 false := by decide
  cases bit with
  | false => simp [feedback, registerPolynomial, zeros, polynomialOf]
  | true => simp [feedback, registerPolynomial, ones, polynomialOf, add_assoc]

theorem registerPolynomial_shiftRight :
    registerPolynomial (r >>> 1) + ((r.toBitVec.getLsbD 0).toNat : (ZMod 2)[X]) * X ^ 16 =
      X * registerPolynomial r := by
  obtain ⟨rest, fifteen, whole, moved⟩ := exists_transmitted_le16 r
  rw [registerPolynomial, registerPolynomial, moved, whole, polynomialOf_append_singleton,
    polynomialOf, fifteen, Bool.toNat_false, Nat.cast_zero]
  ring

/-- One shift is one step of the division, by what the bit that left differs by. -/
theorem registerPolynomial_shift (bit : Bool) :
    registerPolynomial (shift r bit) =
      X * registerPolynomial r + (bit.toNat : (ZMod 2)[X]) * X ^ 16 +
        ((r.toBitVec.getLsbD 0 ^^ bit).toNat : (ZMod 2)[X]) * generator := by
  have moved := registerPolynomial_shiftRight r
  rw [shift, registerPolynomial_xor, registerPolynomial_feedback, generator, toNat_xor, ← moved]
  generalize ((r.toBitVec.getLsbD 0).toNat : (ZMod 2)[X]) = left
  generalize (bit.toNat : (ZMod 2)[X]) = came
  -- The bit that left and the one that came both stand on the right twice more than on the left.
  have twice : left + left = 0 := CharTwo.add_self_eq_zero left
  have again : came + came = 0 := CharTwo.add_self_eq_zero came
  linear_combination -X ^ 16 * twice - X ^ 16 * again

theorem degree_registerPolynomial_lt : (registerPolynomial r).degree < (16 : ℕ) := by
  have sixteen : (transmitted (le16 r)).length = 16 := length_transmitted _
  have small := degree_polynomialOf_lt (transmitted (le16 r))
  rwa [sixteen] at small

theorem degree_fed_back_lt : (X ^ 12 + X ^ 5 + 1 : (ZMod 2)[X]).degree < (16 : ℕ) := by
  have small := degree_registerPolynomial_lt (feedback true)
  rwa [registerPolynomial_feedback, Bool.toNat_true, Nat.cast_one, one_mul] at small

theorem monic_generator : generator.Monic := monic_X_pow_add degree_fed_back_lt

theorem degree_generator : generator.degree = (16 : ℕ) := by
  rw [generator, degree_add_eq_left_of_degree_lt, degree_X_pow]
  rw [degree_X_pow]
  exact degree_fed_back_lt

/-- What is left once all the bits went through is short of the whole by a multiple of the
generator. -/
theorem dvd_registerPolynomial_shifted (bits : List Bool) :
    generator ∣ X ^ bits.length * registerPolynomial r + X ^ 16 * polynomialOf bits -
      registerPolynomial (shifted r bits) := by
  induction bits generalizing r with
  | nil => simp [polynomialOf, shifted]
  | cons bit bits ih =>
      obtain ⟨quotient, rest⟩ := ih (shift r bit)
      rw [registerPolynomial_shift] at rest
      have step : shifted r (bit :: bits) = shifted (shift r bit) bits := rfl
      refine ⟨quotient - X ^ bits.length *
        ((r.toBitVec.getLsbD 0 ^^ bit).toNat : (ZMod 2)[X]), ?_⟩
      rw [step, polynomialOf, List.length_cons]
      linear_combination rest

theorem registerPolynomial_shifted (bits : List Bool) :
    registerPolynomial (shifted r bits) =
      (X ^ bits.length * registerPolynomial r + X ^ 16 * polynomialOf bits) %ₘ generator := by
  have small : (registerPolynomial (shifted r bits)).degree < generator.degree := by
    rw [degree_generator]
    exact degree_registerPolynomial_lt _
  rw [modByMonic_eq_of_dvd_sub monic_generator (dvd_registerPolynomial_shifted r bits)]
  exact ((modByMonic_eq_self_iff monic_generator).mpr small).symm

end Register

/-- Two bytes in the order in which they go out, the low one of a word first. -/
def LowFirst (sent : Bytes) (word : UInt16) : Prop :=
  ∃ low high, sent = [low, high] ∧ low.toNat + 256 * high.toNat = word.toNat

theorem lowFirst_le16 (word : UInt16) : LowFirst (le16 word) word := by
  refine ⟨word.toUInt8, (word >>> 8).toUInt8, rfl, ?_⟩
  have small : word.toNat < 65536 := word.toNat_lt
  have high : (word >>> 8).toNat = word.toNat / 256 := Nat.shiftRight_eq_div_pow word.toNat 8
  rw [UInt16.toNat_toUInt8, UInt16.toNat_toUInt8, high]
  omega

/-- The register that takes in whole bytes is the one that takes in their bits, and what is sent of
it is left over from a division by the generator. Both checks are that register, each with what it
starts from, the second complemented. -/
theorem checks_standard (data : Bytes) :
    (∀ preset, register preset data = shifted preset (transmitted data) ∧
      registerPolynomial (register preset data) =
        (X ^ (8 * data.length) * registerPolynomial preset +
          X ^ 16 * polynomialOf (transmitted data)) %ₘ generator) ∧
      LowFirst (Crc.a.tail data).toList (shifted 0x6363 (transmitted data)) ∧
      LowFirst (Crc.b.tail data).toList (~~~ shifted 0xffff (transmitted data)) := by
  have bitwise (preset : UInt16) := register_eq_shifted preset data
  refine ⟨?_, ?_, ?_⟩
  · intro preset
    refine ⟨bitwise preset, ?_⟩
    rw [bitwise, ← length_transmitted]
    exact registerPolynomial_shifted preset (transmitted data)
  · rw [← bitwise]
    exact lowFirst_le16 _
  · rw [← bitwise]
    exact lowFirst_le16 _

example : (Crc.a.tail [0x50, 0x00]).toList = [0x57, 0xcd] ∧
    (Crc.b.tail [0x05, 0x00, 0x00]).toList = [0x71, 0xff] := by decide +kernel

end Contactless.Crc
