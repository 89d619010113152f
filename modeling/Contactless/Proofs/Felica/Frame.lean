import Contactless.Felica.Frame
import Contactless.Proofs.Act

/-! When a request to read or to write blocks can be built, and what frame it then is. -/
namespace Contactless.Felica

/-- One to sixteen services, and at least one block, each of a listed service. -/
structure Listed (services : List UInt16) (blocks : List BlockElement) : Prop where
  some : 1 ≤ services.length
  few : services.length ≤ 16
  nonempty : blocks ≠ []
  known : ∀ e ∈ blocks, e.service.toNat < services.length

variable {idm : Idm} {services : List UInt16} {blocks : List BlockElement}
  {data : List BlockData} {payload frame : Bytes}

theorem withLength_eq_ok_iff : withLength payload = .ok frame ↔
    payload.length + 1 ≤ 255 ∧ frame = UInt8.ofNat (payload.length + 1) :: payload := by
  unfold withLength
  by_cases long : 255 < payload.length + 1
  · rw [if_pos long]
    constructor
    · intro built
      cases built
    · rintro ⟨short, -⟩
      exact absurd long (Nat.not_lt.mpr short)
  · rw [if_neg long]
    constructor
    · intro built
      cases built
      exact ⟨Nat.not_lt.mp long, rfl⟩
    · rintro ⟨-, rfl⟩
      rfl

theorem length_withLength (built : withLength payload = .ok frame) :
    frame.length = payload.length + 1 ∧ frame.length ≤ 255 := by
  obtain ⟨short, rfl⟩ := withLength_eq_ok_iff.mp built
  exact ⟨rfl, short⟩

theorem find?_unknown_eq_none_iff :
    (blocks.find? fun b => services.length ≤ b.service.toNat) = none ↔
      ∀ e ∈ blocks, e.service.toNat < services.length := by
  simp [List.find?_eq_none]

theorem listed_of_checkLists (checked : checkLists services blocks = .ok ()) :
    Listed services blocks := by
  unfold checkLists at checked
  split at checked
  · cases checked
  rename_i counted
  obtain ⟨some, few⟩ := not_or.mp counted
  split at checked
  · cases checked
  rename_i nonempty
  split at checked
  · cases checked
  rename_i found
  constructor
  case some => exact List.length_pos_iff.mpr fun none => some (List.isEmpty_iff.mpr none)
  case few => exact Nat.not_lt.mp few
  case nonempty => exact fun none => nonempty (List.isEmpty_iff.mpr none)
  case known => exact find?_unknown_eq_none_iff.mp found

theorem checkLists_eq_ok_iff : checkLists services blocks = .ok () ↔ Listed services blocks := by
  constructor
  · exact listed_of_checkLists
  · rintro ⟨some, few, nonempty, known⟩
    have counted : ¬(services.isEmpty ∨ 16 < services.length) := by
      rw [List.isEmpty_iff_length_eq_zero]
      omega
    unfold checkLists
    rw [if_neg counted, if_neg (fun none => nonempty (List.isEmpty_iff.mp none)),
      find?_unknown_eq_none_iff.mpr known]

theorem check_eq_ok_iff : check idm services blocks = .ok frame ↔
    Listed services blocks ∧
      withLength (0x06 :: idm.toList ++ lists services blocks) = .ok frame := by
  unfold check
  rw [bind_eq_ok_iff, ← checkLists_eq_ok_iff]
  constructor
  · rintro ⟨⟨⟩, listed, built⟩
    exact ⟨listed, built⟩
  · rintro ⟨listed, built⟩
    exact ⟨(), listed, built⟩

theorem update_eq_ok_iff : update idm services blocks data = .ok frame ↔
    Listed services blocks ∧ data.length = blocks.length ∧
      withLength (0x08 :: idm.toList ++ lists services blocks ++ data.flatMap (·.toList)) =
        .ok frame := by
  unfold update
  rw [bind_eq_ok_iff, ← checkLists_eq_ok_iff]
  constructor
  · rintro ⟨⟨⟩, listed, built⟩
    split at built
    · cases built
    · rename_i equal
      exact ⟨listed, Decidable.not_not.mp equal, built⟩
  · rintro ⟨listed, equal, built⟩
    refine ⟨(), listed, ?_⟩
    rw [if_neg (not_not_intro equal)]
    exact built

end Contactless.Felica
