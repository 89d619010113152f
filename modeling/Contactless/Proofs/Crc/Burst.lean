import Mathlib.Algebra.Group.Nat.Defs
import Mathlib.Data.List.OfFn
import Contactless.Proofs.Crc

/-!
Both checks see every burst. The register is shifted once for each transmitted bit, and what two
frames of one length differ by is shifted like a frame of its own, from a register of zeros. Sixteen
bits are too few to bring that register back to zero, and what follows them cannot do it either.
-/
namespace Contactless

/-- Least significant bit first. -/
def bitsOf (byte : UInt8) : List Bool := List.ofFn fun i : Fin 8 => byte.toBitVec.getLsbD i

/-- The bits of a frame in the order in which they go out. -/
def transmitted (frame : Bytes) : List Bool := frame.flatMap bitsOf

theorem length_bitsOf (byte : UInt8) : (bitsOf byte).length = 8 := List.length_ofFn

theorem bitsOf_injective : Function.Injective bitsOf := by
  intro x y h
  apply UInt8.toBitVec_inj.mp
  apply BitVec.eq_of_getLsbD_eq
  intro i small
  exact congrFun (List.ofFn_injective h) (⟨i, small⟩ : Fin 8)

theorem bitsOf_xor (x y : UInt8) :
    bitsOf (x ^^^ y) = List.zipWith (· ^^ ·) (bitsOf x) (bitsOf y) := by
  apply List.ext_get
  · simp only [List.length_zipWith, length_bitsOf, Nat.min_self]
  · intro i _ _
    simp [bitsOf]

theorem transmitted_cons (byte : UInt8) (frame : Bytes) :
    transmitted (byte :: frame) = bitsOf byte ++ transmitted frame := rfl

theorem length_transmitted (frame : Bytes) : (transmitted frame).length = 8 * frame.length := by
  induction frame with
  | nil => rfl
  | cons byte frame ih =>
    rw [transmitted_cons, List.length_append, length_bitsOf, ih, List.length_cons]
    omega

theorem transmitted_injective : Function.Injective transmitted := by
  intro front
  induction front with
  | nil =>
    intro back h
    cases back with
    | nil => rfl
    | cons => exact nomatch congrArg List.length h
  | cons x front ih =>
    intro back h
    cases back with
    | nil => exact nomatch congrArg List.length h
    | cons y back =>
      obtain ⟨heads, tails⟩ := List.append_inj h (by rw [length_bitsOf, length_bitsOf])
      rw [bitsOf_injective heads, ih tails]

namespace Crc

/-! One shift for each bit. -/

/-- What a bit that leaves the register as a one puts into it. -/
def feedback (bit : Bool) : UInt16 := if bit then 0x8408 else 0

/-- The register after one more transmitted bit. -/
def shift (register : UInt16) (bit : Bool) : UInt16 :=
  (register >>> 1) ^^^ feedback (register.toBitVec.getLsbD 0 ^^ bit)

def shifted (register : UInt16) (bits : List Bool) : UInt16 := bits.foldl shift register

variable (r s : UInt16)

theorem shifted_append (front back : List Bool) :
    shifted r (front ++ back) = shifted (shifted r front) back := List.foldl_append

theorem xor_xor_xor_swap (w x y z : UInt16) :
    (w ^^^ x) ^^^ (y ^^^ z) = (w ^^^ y) ^^^ (x ^^^ z) := by
  rw [UInt16.xor_assoc, ← UInt16.xor_assoc x, UInt16.xor_comm x, UInt16.xor_assoc y,
    ← UInt16.xor_assoc]

theorem feedback_xor (a b : Bool) : feedback (a ^^ b) = feedback a ^^^ feedback b := by
  cases a <;> cases b <;> rfl

theorem shift_xor (a b : Bool) : shift (r ^^^ s) (a ^^ b) = shift r a ^^^ shift s b := by
  have leaving : ((r ^^^ s).toBitVec.getLsbD 0 ^^ (a ^^ b)) =
      ((r.toBitVec.getLsbD 0 ^^ a) ^^ (s.toBitVec.getLsbD 0 ^^ b)) := by
    rw [UInt16.toBitVec_xor, BitVec.getLsbD_xor]
    simp only [Bool.xor_assoc, Bool.xor_left_comm]
  rw [shift, leaving, feedback_xor, UInt16.shiftRight_xor, xor_xor_xor_swap]
  rfl

theorem shifted_zipWith_xor {front back : List Bool} (same : front.length = back.length) :
    shifted (r ^^^ s) (List.zipWith (· ^^ ·) front back) = shifted r front ^^^ shifted s back := by
  induction front generalizing r s back with
  | nil => cases back with
    | nil => rfl
    | cons => exact nomatch same
  | cons a front ih => cases back with
    | nil => exact nomatch same
    | cons b back =>
      change shifted (shift (r ^^^ s) (a ^^ b)) _ = _
      rw [shift_xor, ih _ _ (Nat.succ.inj same)]
      rfl

/-! A byte is eight shifts. Both ways are linear, so they agree as soon as they agree on a register
whose low byte is zero, on one whose high byte is zero, and on a byte alone. -/

theorem step_xor (x y : UInt8) : step (r ^^^ s) (x ^^^ y) = step r x ^^^ step s y := by
  have swap (w x y z : UInt8) : (w ^^^ x) ^^^ (y ^^^ z) = (w ^^^ y) ^^^ (x ^^^ z) := by
    rw [UInt8.xor_assoc, ← UInt8.xor_assoc x, UInt8.xor_comm x, UInt8.xor_assoc y,
      ← UInt8.xor_assoc]
  have low : (x ^^^ y) ^^^ (r ^^^ s).toUInt8 = (x ^^^ r.toUInt8) ^^^ (y ^^^ s.toUInt8) := by
    rw [UInt16.toUInt8_xor, swap]
  have mixed (p q : UInt8) : ((p ^^^ q) ^^^ ((p ^^^ q) <<< 4)).toUInt16 =
      (p ^^^ (p <<< 4)).toUInt16 ^^^ (q ^^^ (q <<< 4)).toUInt16 := by
    rw [UInt8.shiftLeft_xor, swap, UInt8.toUInt16_xor]
  have pairs (a b c d a' b' c' d' : UInt16) :
      (a ^^^ a') ^^^ (b ^^^ b') ^^^ (c ^^^ c') ^^^ (d ^^^ d') =
        (a ^^^ b ^^^ c ^^^ d) ^^^ (a' ^^^ b' ^^^ c' ^^^ d') := by
    rw [xor_xor_xor_swap a, xor_xor_xor_swap (a ^^^ b), xor_xor_xor_swap (a ^^^ b ^^^ c)]
  simp only [step, low, mixed, UInt16.shiftLeft_xor, UInt16.shiftRight_xor]
  exact pairs _ _ _ _ _ _ _ _

theorem step_high (high : BitVec 8) :
    step ((⟨high⟩ : UInt8).toUInt16 <<< 8) 0 =
      shifted ((⟨high⟩ : UInt8).toUInt16 <<< 8) (bitsOf 0) := by
  revert high
  decide +kernel

theorem step_low (low : BitVec 8) :
    step (⟨low⟩ : UInt8).toUInt16 0 = shifted (⟨low⟩ : UInt8).toUInt16 (bitsOf 0) := by
  revert low
  decide +kernel

theorem step_byte (byte : BitVec 8) : step 0 ⟨byte⟩ = shifted 0 (bitsOf ⟨byte⟩) := by
  revert byte
  decide +kernel

theorem high_xor_low : ((r >>> 8).toUInt8.toUInt16 <<< 8) ^^^ r.toUInt8.toUInt16 = r := by
  apply UInt16.toBitVec_inj.mp
  apply BitVec.eq_of_getLsbD_eq
  intro i small
  have high : ((r >>> 8).toUInt8.toUInt16 <<< 8).toBitVec =
      ((r.toBitVec >>> 8).setWidth 8).setWidth 16 <<< 8 := rfl
  have low : r.toUInt8.toUInt16.toBitVec = (r.toBitVec.setWidth 8).setWidth 16 := rfl
  rw [UInt16.toBitVec_xor, high, low, BitVec.getLsbD_xor, BitVec.getLsbD_shiftLeft]
  simp only [BitVec.getLsbD_setWidth, BitVec.getLsbD_ushiftRight]
  by_cases below : i < 8
  · simp [below, small]
  · have back : 8 + (i - 8) = i := by omega
    have top : i - 8 < 8 := by omega
    simp [below, small, back, top]
    omega

theorem step_eq_shifted (byte : UInt8) : step r byte = shifted r (bitsOf byte) := by
  have parts (x y z : UInt16) (a b c : UInt8) :
      shifted (x ^^^ y ^^^ z) (bitsOf (a ^^^ b ^^^ c)) =
        shifted x (bitsOf a) ^^^ shifted y (bitsOf b) ^^^ shifted z (bitsOf c) := by
    rw [bitsOf_xor, shifted_zipWith_xor, bitsOf_xor, shifted_zipWith_xor]
    all_goals simp only [length_bitsOf]
  have whole : r = ((r >>> 8).toUInt8.toUInt16 <<< 8) ^^^ r.toUInt8.toUInt16 ^^^ 0 := by
    rw [UInt16.xor_zero, high_xor_low]
  have alone : byte = 0 ^^^ 0 ^^^ byte := by
    rw [UInt8.xor_self, UInt8.zero_xor]
  calc step r byte
      = step ((r >>> 8).toUInt8.toUInt16 <<< 8) 0 ^^^ step r.toUInt8.toUInt16 0 ^^^
          step 0 byte := by
        rw [← step_xor, ← step_xor, ← whole, ← alone]
    _ = shifted ((r >>> 8).toUInt8.toUInt16 <<< 8) (bitsOf 0) ^^^
          shifted r.toUInt8.toUInt16 (bitsOf 0) ^^^ shifted 0 (bitsOf byte) := by
        rw [← step_high (r >>> 8).toUInt8.toBitVec, ← step_low r.toUInt8.toBitVec,
          ← step_byte byte.toBitVec]
    _ = shifted r (bitsOf byte) := by
        rw [← parts, ← whole, ← alone]

theorem register_eq_shifted (frame : Bytes) : register r frame = shifted r (transmitted frame) := by
  induction frame generalizing r with
  | nil => rfl
  | cons byte frame ih =>
    rw [transmitted_cons, shifted_append, ← step_eq_shifted, ← ih]
    rfl

/-! What a frame with its check leaves in the register depends on the kind of check alone. -/

def preset : Crc → UInt16
  | a => 0x6363
  | b => 0xffff

/-- What the register is mixed with before it goes out. -/
def mask : Crc → UInt16
  | a => 0
  | b => 0xffff

theorem value_eq (c : Crc) (data : Bytes) : c.value data = register c.preset data ^^^ c.mask := by
  cases c with
  | a => exact UInt16.xor_zero.symm
  | b => exact UInt16.xor_neg_one.symm

theorem register_le16_self : register r (le16 r) = 0 := by
  have emptied : step r r.toUInt8 = r >>> 8 := by
    simp [step]
  have gone : r >>> 8 >>> 8 = 0 := by
    apply UInt16.toNat_inj.mp
    change r.toNat >>> 8 >>> 8 = 0
    rw [← Nat.shiftRight_add]
    exact Nat.shiftRight_eq_zero r.toNat 16 r.toNat_lt
  change step (step r r.toUInt8) (r >>> 8).toUInt8 = 0
  rw [emptied]
  simp [step, gone]

theorem register_le16_xor (mixed : UInt16) :
    register r (le16 (r ^^^ mixed)) = register 0 (le16 mixed) := by
  calc register r (le16 (r ^^^ mixed))
      = register (r ^^^ 0) (le16 (r ^^^ mixed)) := by rw [UInt16.xor_zero]
    _ = register r (le16 r) ^^^ register 0 (le16 mixed) := by
        simp only [register, le16, List.foldl_cons, List.foldl_nil, UInt16.toUInt8_xor,
          UInt16.shiftRight_xor, step_xor]
    _ = register 0 (le16 mixed) := by rw [register_le16_self, UInt16.zero_xor]

theorem register_append (c : Crc) (data : Bytes) :
    register c.preset (c.append data) = register 0 (le16 c.mask) := by
  calc register c.preset (c.append data)
      = register (register c.preset data) (le16 (register c.preset data ^^^ c.mask)) := by
        rw [← value_eq]
        exact List.foldl_append
    _ = register 0 (le16 c.mask) := register_le16_xor _ _

/-! The way back to zero: the top bit is a one after every shift that feeds a one back. -/

theorem shift_of_lt {bit : Bool} (small : (shift r bit).toNat < 2 ^ 15) :
    bit = r.toBitVec.getLsbD 0 ∧ shift r bit = r >>> 1 := by
  have top : (shift r bit).toBitVec.getLsbD 15 = false := Nat.testBit_lt_two_pow small
  cases leaving : r.toBitVec.getLsbD 0 ^^ bit with
  | false =>
    constructor
    · cases bit <;> simp_all
    · rw [shift, leaving]
      exact UInt16.xor_zero
  | true =>
    have kept : (r >>> 1).toBitVec.getLsbD 15 = false := by
      change (r.toBitVec >>> 1).getLsbD 15 = false
      rw [BitVec.getLsbD_ushiftRight]
      exact BitVec.getLsbD_of_ge _ _ (by decide)
    rw [shift, leaving, UInt16.toBitVec_xor, BitVec.getLsbD_xor, kept] at top
    exact nomatch top

theorem lt_of_shifted_eq_zero {bits : List Bool} (short : bits.length ≤ 16)
    (zero : shifted r bits = 0) : r.toNat < 2 ^ bits.length := by
  induction bits generalizing r with
  | nil =>
    change r = 0 at zero
    rw [zero]
    exact Nat.one_pos
  | cons bit bits ih =>
    have fewer : bits.length ≤ 15 := Nat.le_of_succ_le_succ short
    have next : (shift r bit).toNat < 2 ^ bits.length := ih _ (by omega) zero
    have small := next.trans_le (Nat.pow_le_pow_right (by decide) fewer)
    have halved : (r >>> 1).toNat = r.toNat / 2 := rfl
    rw [(shift_of_lt r small).2, halved] at next
    rw [List.length_cons, Nat.pow_succ]
    omega

/-- Not even a register of zeros is led back to zero by a one among so few bits. -/
theorem silent_of_shifted_eq_zero {bits : List Bool} (short : bits.length ≤ 16)
    (zero : shifted 0 bits = 0) : ∀ bit ∈ bits, bit = false := by
  induction bits with
  | nil => exact fun _ none => nomatch none
  | cons bit bits ih =>
    have fewer : bits.length ≤ 15 := Nat.le_of_succ_le_succ short
    have next : (shift 0 bit).toNat < 2 ^ bits.length := lt_of_shifted_eq_zero _ (by omega) zero
    have small := next.trans_le (Nat.pow_le_pow_right (by decide) fewer)
    obtain ⟨unset, still⟩ := shift_of_lt 0 small
    have rest : shifted 0 bits = 0 := by
      change shifted (shift 0 bit) bits = 0 at zero
      rwa [still] at zero
    exact List.forall_mem_cons.mpr ⟨unset, ih (by omega) rest⟩

theorem shifted_zero_of_silent {bits : List Bool} (silent : ∀ bit ∈ bits, bit = false) :
    shifted 0 bits = 0 := by
  induction bits with
  | nil => rfl
  | cons bit bits ih =>
    obtain ⟨rfl, rest⟩ := List.forall_mem_cons.mp silent
    exact ih rest

theorem eq_zero_of_shifted_silent {bits : List Bool} (silent : ∀ bit ∈ bits, bit = false)
    (zero : shifted r bits = 0) : r = 0 := by
  induction bits generalizing r with
  | nil => exact zero
  | cons bit bits ih =>
    obtain ⟨rfl, rest⟩ := List.forall_mem_cons.mp silent
    have next : shift r false = 0 := ih _ rest zero
    obtain ⟨even, halved⟩ := shift_of_lt r (by rw [next]; decide)
    have half : r.toNat / 2 = 0 := congrArg UInt16.toNat (halved.symm.trans next)
    have bit : r.toNat.testBit 0 = false := even.symm
    rw [Nat.testBit_zero, decide_eq_false_iff_not] at bit
    apply UInt16.toNat_inj.mp
    change r.toNat = 0
    omega

/-- Bits that differ from zero within a window of sixteen only. -/
theorem silent_of_window {bits : List Bool} {start : Nat}
    (window : ∀ i, bits[i]? = some true → start ≤ i ∧ i < start + 16)
    (zero : shifted 0 bits = 0) : ∀ bit ∈ bits, bit = false := by
  have before : ∀ bit ∈ bits.take start, bit = false := by
    intro bit member
    obtain ⟨i, here⟩ := List.mem_iff_getElem?.mp member
    rw [List.getElem?_take] at here
    split at here
    · cases bit with
      | false => rfl
      | true => have := window i here; omega
    · exact nomatch here
  have after : ∀ bit ∈ (bits.drop start).drop 16, bit = false := by
    intro bit member
    obtain ⟨i, here⟩ := List.mem_iff_getElem?.mp member
    rw [List.drop_drop, List.getElem?_drop] at here
    cases bit with
    | false => rfl
    | true => have := window _ here; omega
  have split : bits =
      bits.take start ++ ((bits.drop start).take 16 ++ (bits.drop start).drop 16) := by
    rw [List.take_append_drop, List.take_append_drop]
  have within : shifted 0 ((bits.drop start).take 16) = 0 := by
    rw [split, shifted_append, shifted_append, shifted_zero_of_silent before] at zero
    exact eq_zero_of_shifted_silent _ after zero
  have between := silent_of_shifted_eq_zero (List.length_take_le _ _) within
  rw [split]
  intro bit member
  rcases List.mem_append.mp member with first | member
  · exact before bit first
  rcases List.mem_append.mp member with second | third
  · exact between bit second
  · exact after bit third

/-! Two frames. -/

theorem window_of_burst {sent received : Bytes} {start : Nat}
    (burst : ∀ i, (transmitted received)[i]? ≠ (transmitted sent)[i]? →
      start ≤ i ∧ i < start + 16) {i : Nat}
    (one : (List.zipWith (· ^^ ·) (transmitted sent) (transmitted received))[i]? = some true) :
    start ≤ i ∧ i < start + 16 := by
  apply burst
  intro equal
  rw [List.getElem?_zipWith, equal] at one
  cases here : (transmitted sent)[i]? <;> simp [here] at one

theorem eq_of_silent_difference {front back : List Bool} (same : front.length = back.length)
    (silent : ∀ bit ∈ List.zipWith (· ^^ ·) front back, bit = false) : front = back := by
  induction front generalizing back with
  | nil => cases back with
    | nil => rfl
    | cons => exact nomatch same
  | cons x front ih => cases back with
    | nil => exact nomatch same
    | cons y back =>
      obtain ⟨equal, rest⟩ := List.forall_mem_cons.mp silent
      rw [bne_eq_false_iff_eq.mp equal, ih (Nat.succ.inj same) rest]

/-- Two frames of one length that both pass differ by bits that bring zero back to zero. -/
theorem shifted_difference {c : Crc} {sent received : Bytes} (left : c.check sent = true)
    (right : c.check received = true) (same : received.length = sent.length) :
    shifted 0 (List.zipWith (· ^^ ·) (transmitted sent) (transmitted received)) = 0 := by
  have residue {frame : Bytes} (accepted : c.check frame = true) :
      shifted c.preset (transmitted frame) = register 0 (le16 c.mask) := by
    rw [← register_eq_shifted, ← append_of_check accepted, register_append]
  have lengths : (transmitted sent).length = (transmitted received).length := by
    rw [length_transmitted, length_transmitted, same]
  have both := shifted_zipWith_xor c.preset c.preset lengths
  rwa [residue left, residue right, UInt16.xor_self, UInt16.xor_self] at both

theorem strip_of_check_eq_false {c : Crc} {frame : Bytes} (long : 3 ≤ frame.length)
    (refused : c.check frame = false) :
    ∃ found : Octets 2, found.toList = frame.drop (frame.length - 2) ∧
      c.strip frame = .error (.crcMismatch (c.tail (frame.take (frame.length - 2))) found) := by
  have last : (frame.drop (frame.length - 2)).length = 2 := by
    rw [List.length_drop]
    omega
  have other : c.tail (frame.take (frame.length - 2)) ≠ ⟨frame.drop (frame.length - 2), last⟩ := by
    intro equal
    have passes : c.check frame = true := by
      apply Bool.and_eq_true_iff.mpr
      exact ⟨decide_eq_true long, beq_iff_eq.mpr (congrArg Octets.toList equal)⟩
    rw [passes] at refused
    exact nomatch refused
  refine ⟨⟨_, last⟩, rfl, ?_⟩
  rw [strip, dif_neg (by omega)]
  exact if_neg other

/-- A frame that passes no longer does, and is not stripped, once a burst of at most sixteen
transmitted bits has changed it, the bits of the check among them. -/
theorem detects_burst (c : Crc) {sent received : Bytes} {start : Nat}
    (accepted : c.check sent = true) (same : received.length = sent.length)
    (differs : received ≠ sent)
    (burst : ∀ i, (transmitted received)[i]? ≠ (transmitted sent)[i]? →
      start ≤ i ∧ i < start + 16) :
    c.check received = false ∧
      ∃ found : Octets 2, found.toList = received.drop (received.length - 2) ∧
        c.strip received =
          .error (.crcMismatch (c.tail (received.take (received.length - 2))) found) := by
  have refused : c.check received = false := by
    by_contra passes
    have zero := shifted_difference accepted (Bool.eq_true_of_not_eq_false passes) same
    have silent := silent_of_window (fun _ one => window_of_burst burst one) zero
    have lengths : (transmitted sent).length = (transmitted received).length := by
      rw [length_transmitted, length_transmitted, same]
    exact differs (transmitted_injective (eq_of_silent_difference lengths silent)).symm
  have long : 2 < sent.length := of_decide_eq_true (Bool.and_eq_true_iff.mp accepted).1
  exact ⟨refused, strip_of_check_eq_false (by omega) refused⟩

/-- The first and the last bit of a window of sixteen that reaches into the check. -/
theorem detects_burst_into_check :
    Crc.a.check [0x50, 0x00, 0x57, 0xcd] = true ∧ Crc.a.check [0x50, 0x02, 0x57, 0xcc] = false := by
  have accepted : Crc.a.check [0x50, 0x00, 0x57, 0xcd] = true := by decide +kernel
  have within : ∀ i < 32, (transmitted [0x50, 0x02, 0x57, 0xcc])[i]? ≠
      (transmitted [0x50, 0x00, 0x57, 0xcd])[i]? → 9 ≤ i ∧ i < 9 + 16 := by decide +kernel
  have burst : ∀ i, (transmitted [0x50, 0x02, 0x57, 0xcc])[i]? ≠
      (transmitted [0x50, 0x00, 0x57, 0xcd])[i]? → 9 ≤ i ∧ i < 9 + 16 := by
    intro i other
    by_cases inside : i < 32
    · exact within i inside other
    · have past := Nat.le_of_not_lt inside
      rw [List.getElem?_eq_none past, List.getElem?_eq_none past] at other
      exact absurd rfl other
  exact ⟨accepted, (detects_burst .a accepted (by decide) (by decide) burst).1⟩

end Crc
end Contactless
