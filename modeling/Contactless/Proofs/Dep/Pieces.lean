import Contactless.Dep.Pieces

/-! Cutting a payload loses nothing, and every piece fits the frame it was cut for. -/
namespace Contactless.Dep

variable {n : Nat} {payload : Bytes}

theorem pieces_of_le (fits : payload.length ≤ n) : pieces n payload = ([], payload) := by
  rw [pieces, if_pos (Or.inr fits)]

theorem pieces_of_lt (pos : 0 < n) (long : n < payload.length) :
    pieces n payload =
      (payload.take n :: (pieces n (payload.drop n)).1, (pieces n (payload.drop n)).2) := by
  rw [pieces, if_neg (by omega)]

/-- A payload in consecutive pieces of one size, of which only the last may be shorter. It is empty
for the empty payload only. -/
structure Cut (size : Nat) (payload : Bytes) (head : List Bytes) (last : Bytes) : Prop where
  whole : head.flatten ++ last = payload
  full : ∀ piece ∈ head, piece.length = size
  short : last.length ≤ size
  empty : last = [] → payload = []

theorem cut_pieces (pos : 0 < n) (payload : Bytes) :
    Cut n payload (pieces n payload).1 (pieces n payload).2 := by
  by_cases fits : payload.length ≤ n
  · rw [pieces_of_le fits]
    exact ⟨rfl, List.forall_mem_nil _, fits, id⟩
  · have rest := cut_pieces pos (payload.drop n)
    rw [pieces_of_lt pos (Nat.not_le.mp fits)]
    constructor
    · rw [List.flatten_cons, List.append_assoc, rest.whole, List.take_append_drop]
    · refine List.forall_mem_cons.mpr ⟨?_, rest.full⟩
      rw [List.length_take]
      omega
    · exact rest.short
    · intro nothing
      have past := List.drop_eq_nil_iff.mp (rest.empty nothing)
      exact absurd past fits
termination_by payload.length
decreasing_by
  rw [List.length_drop]
  omega

/-- One byte more than there is room for in the shortest frames. -/
def crowded : Bytes := List.replicate 61 0xaa ++ [0xbb]

theorem pieces_crowded : pieces 61 crowded = ([List.replicate 61 0xaa], [0xbb]) := by
  have first : crowded.take 61 = List.replicate 61 0xaa := rfl
  have rest : crowded.drop 61 = [0xbb] := rfl
  rw [pieces_of_lt (by decide) (by decide), first, rest, pieces_of_le (by decide)]

theorem Cut.length_le {last : Bytes} {head : List Bytes} (cut : Cut n payload head last) :
    ∀ piece ∈ head, piece.length ≤ n := by
  intro piece member
  exact Nat.le_of_eq (cut.full piece member)

theorem length_pieces_le (pos : 0 < n) (payload : Bytes) :
    (pieces n payload).1.length ≤ payload.length := by
  by_cases fits : payload.length ≤ n
  · rw [pieces_of_le fits]
    exact Nat.zero_le payload.length
  · have rest := length_pieces_le pos (payload.drop n)
    rw [List.length_drop] at rest
    rw [pieces_of_lt pos (Nat.not_le.mp fits), List.length_cons]
    omega
termination_by payload.length
decreasing_by
  rw [List.length_drop]
  omega

theorem frameLimit_cases (pp : UInt8) :
    frameLimit pp = 64 ∨ frameLimit pp = 128 ∨ frameLimit pp = 192 ∨ frameLimit pp = 254 := by
  simp only [frameLimit]
  split
  · exact .inl rfl
  · split
    · exact .inr (.inl rfl)
    · split
      · exact .inr (.inr (.inl rfl))
      · exact .inr (.inr (.inr rfl))

theorem payloadLimit_pos (pp : UInt8) : 0 < payloadLimit pp := by
  unfold payloadLimit headerLength
  rcases frameLimit_cases pp with h | h | h | h <;> omega

theorem payloadLimit_le (pp : UInt8) : payloadLimit pp ≤ 251 := by
  unfold payloadLimit headerLength
  rcases frameLimit_cases pp with h | h | h | h <;> omega

end Contactless.Dep
