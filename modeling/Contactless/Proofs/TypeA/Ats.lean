import Contactless.Proofs.Crc
import Contactless.TypeA.Ats

/-!
The grammar of an answer to select. The length byte alone decides whether a frame ends with a check,
and the flags of the format byte where the historical bytes begin.
-/
namespace Contactless.TypeA

/-- Frames that carry an answer: its length byte, the answer, and the check of both unless the chip
took it off. -/
inductive Framed (ats : Bytes) : Bytes → Prop
  | plain {tl : UInt8} : tl.toNat = ats.length + 1 → Framed ats (tl :: ats)
  | checked {tl : UInt8} : tl.toNat = ats.length + 1 →
      Framed ats (tl :: ats ++ (Crc.a.tail (tl :: ats)).toList)

/-- Interface bytes that a format byte announces, one for each flag that is set. -/
def announced (t0 : UInt8) : Nat :=
  (t0 &&& 0x10 != 0).toNat + (t0 &&& 0x20 != 0).toNat + (t0 &&& 0x40 != 0).toNat

section Reading

variable {frame ats : Bytes} {tl : UInt8}

theorem ne_zero_of_counted (counted : tl.toNat = ats.length + 1) : tl ≠ 0 := by
  rintro rfl
  cases counted

theorem parseAts_plain (counted : tl.toNat = ats.length + 1) :
    parseAts (tl :: ats) = .ok ats := by
  have whole : (tl :: ats).length = tl.toNat := counted.symm
  unfold parseAts
  dsimp only
  rw [if_neg (ne_zero_of_counted counted), if_neg (by omega), if_pos whole]

theorem parseAts_checked (counted : tl.toNat = ats.length + 1) :
    parseAts (Crc.a.append (tl :: ats)) = .ok ats := by
  have stripped := Crc.a.strip_append (tl :: ats) (List.cons_ne_nil _ _)
  have longer : (Crc.a.append (tl :: ats)).length = tl.toNat + 2 := by
    rw [Crc.length_append, List.length_cons, counted]
  change parseAts (tl :: (ats ++ _)) = _
  change Crc.a.strip (tl :: (ats ++ _)) = _ at stripped
  change (tl :: (ats ++ _)).length = _ at longer
  unfold parseAts
  dsimp only
  rw [if_neg (ne_zero_of_counted counted), if_pos longer, stripped]
  rfl

theorem framed_of_parseAts (read : parseAts frame = .ok ats) : Framed ats frame := by
  cases frame with
  | nil => cases read
  | cons tl rest =>
      unfold parseAts at read
      dsimp only at read
      split at read
      · cases read
      split at read
      · rename_i longer
        cases stripped : Crc.a.strip (tl :: rest) with
        | error e =>
            rw [stripped] at read
            cases read
        | ok body =>
            rw [stripped] at read
            cases read
            obtain ⟨nonempty, whole⟩ := Crc.strip_eq_ok_iff.mp stripped
            obtain ⟨first, kept, rfl⟩ := List.exists_cons_of_ne_nil nonempty
            obtain ⟨rfl, -⟩ := List.cons.inj whole
            rw [whole, Crc.length_append, List.length_cons] at longer
            rw [whole]
            change Framed kept _
            exact .checked (by omega)
      split at read
      · rename_i counted
        cases read
        exact .plain counted.symm
      · cases read

theorem parseAts_eq_ok_iff : parseAts frame = .ok ats ↔ Framed ats frame := by
  constructor
  · exact framed_of_parseAts
  · intro framed
    cases framed with
    | plain counted => exact parseAts_plain counted
    | checked counted => exact parseAts_checked counted

end Reading

theorem interfaceCount_eq_announced (t0 : UInt8) : interfaceCount t0 = announced t0 := by
  rw [interfaceCount, announced, ← List.countP_eq_length_filter]
  simp only [List.countP_cons, List.countP_nil]
  generalize (t0 &&& 0x10 != 0) = a, (t0 &&& 0x20 != 0) = b, (t0 &&& 0x40 != 0) = c
  cases a <;> cases b <;> cases c <;> rfl

/-- Historical bytes are what follows the interface bytes, where anything does. -/
theorem historicalBytes_append {t0 : UInt8} {interface : Bytes}
    (counted : interface.length = announced t0) (historical : Bytes) :
    historicalBytes (t0 :: (interface ++ historical)) =
      if historical = [] then none else some historical := by
  rw [← interfaceCount_eq_announced] at counted
  unfold historicalBytes
  dsimp only
  rw [← counted, List.drop_left, List.length_append]
  cases historical with
  | nil => simp
  | cons first rest => simp

theorem historicalBytes_short {t0 : UInt8} {rest : Bytes} (short : rest.length < announced t0) :
    historicalBytes (t0 :: rest) = none := by
  rw [← interfaceCount_eq_announced] at short
  unfold historicalBytes
  exact if_neg (Nat.not_lt.mpr (Nat.le_of_lt short))

/-- An answer is read from the frames that carry it and from no others, and its historical bytes
are all that follows the interface bytes it announces. -/
theorem answers_to_select :
    (∀ frame ats, parseAts frame = .ok ats ↔ Framed ats frame) ∧
      (∀ t0 interface historical, interface.length = announced t0 →
        historicalBytes (t0 :: (interface ++ historical)) =
          if historical = [] then none else some historical) ∧
      historicalBytes [] = none ∧
      ∀ t0 rest, rest.length < announced t0 → historicalBytes (t0 :: rest) = none := by
  refine ⟨?_, ?_, rfl, ?_⟩
  · intro frame ats
    exact parseAts_eq_ok_iff
  · intro t0 interface historical counted
    exact historicalBytes_append counted historical
  · intro t0 rest short
    exact historicalBytes_short short

/-- All three interface bytes, one historical byte after them, and the same answer cut short. -/
theorem answers_to_select_flagged :
    parseAts [0x06, 0x75, 0x77, 0x81, 0x02, 0x80] = .ok [0x75, 0x77, 0x81, 0x02, 0x80] ∧
      historicalBytes [0x75, 0x77, 0x81, 0x02, 0x80] = some [0x80] ∧
      historicalBytes [0x75, 0x77, 0x81] = none := by
  obtain ⟨reads, located, -, short⟩ := answers_to_select
  refine ⟨?_, ?_, ?_⟩
  · exact (reads _ _).mpr (.plain rfl)
  · exact located 0x75 [0x77, 0x81, 0x02] [0x80] rfl
  · exact short 0x75 [0x77, 0x81] (by decide)

end Contactless.TypeA
