import Contactless.Proofs.Dep.Payloads

/-! Payloads cut into numbered frames. All frames but the last hold as much as there is room for and
announce more; the packet numbers count up modulo four. -/
namespace Contactless.Dep

section Numbers

theorem toNat_nextPni (p : UInt8) : (nextPni p).toNat = (p.toNat + 1) % 4 := by
  rw [nextPni, UInt8.toNat_and, UInt8.toNat_add]
  change ((p.toNat + 1) % 256) &&& (2 ^ 2 - 1) = _
  rw [Nat.and_two_pow_sub_one_eq_mod]
  omega

theorem toNat_iterate_nextPni {p : UInt8} (small : p ≤ 3) (k : Nat) :
    (nextPni^[k] p).toNat = (p.toNat + k) % 4 := by
  induction k with
  | zero =>
      have bound : p.toNat ≤ 3 := small
      rw [Function.iterate_zero_apply]
      omega
  | succ k ih =>
      rw [Function.iterate_succ_apply', toNat_nextPni, ih]
      omega

end Numbers

/-- The frames of some pieces, numbered from a packet number on. -/
def numbered (pni : UInt8) : List Bytes → Bytes → List Pdu
  | [], last => [.information false pni last]
  | piece :: head, last => .information true pni piece :: numbered (nextPni pni) head last

section Numbered

variable {pni : UInt8} {head : List Bytes} {last : Bytes}

/-- Together the frames hold the payload, piece by piece. -/
@[simp] theorem payloads_numbered (pni : UInt8) (head : List Bytes) (last : Bytes) :
    (numbered pni head last).map Pdu.payload = head ++ [last] := by
  induction head generalizing pni with
  | nil => rfl
  | cons piece head ih => exact congrArg (piece :: ·) (ih (nextPni pni))

theorem Cut.payload_le {n : Nat} {payload : Bytes} (cut : Cut n payload head last) :
    ∀ pdu ∈ numbered pni head last, pdu.payload.length ≤ n := by
  intro pdu member
  have piece : pdu.payload ∈ head ++ [last] := by
    rw [← payloads_numbered pni head last]
    exact List.mem_map_of_mem member
  rcases List.mem_append.mp piece with early | late
  · exact cut.length_le _ early
  · rw [List.mem_singleton.mp late]
    exact cut.short

/-- There is room for every piece in a frame. -/
theorem Cut.built {n : Nat} {payload : Bytes} (cut : Cut n payload head last) (most : n ≤ 251)
    (direction : Direction) : ∀ pdu ∈ numbered pni head last,
      ∃ frame, pdu.encode direction = .ok frame ∧ frame.length ≤ n + 4 := by
  intro pdu member
  have short := cut.payload_le pdu member
  obtain ⟨frame, encoded⟩ := pdu.exists_encode direction (Nat.le_trans short most)
  have whole := (length_of_build encoded).1
  rw [List.length_cons] at whole
  exact ⟨frame, encoded, by omega⟩

end Numbered

end Contactless.Dep
