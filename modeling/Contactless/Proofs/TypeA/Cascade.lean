import Contactless.TypeA.Frame

/-! The cascade of an identifier. Its groups give the identifier away again, they carry right check
bytes, and all but the last one start with the cascade tag. -/
namespace Contactless

/-- The identifier that some groups give away. -/
def uidOfGroups : List (Octets 5) → Bytes
  | [] => []
  | [last] => last.toList.take 4
  | chunk :: rest => (chunk.toList.drop 1).take 3 ++ uidOfGroups rest

namespace Uid

variable (u : Uid)

theorem bytes_cases :
    (∃ a b c d, u.bytes = [a, b, c, d]) ∨ (∃ a b c d e f g, u.bytes = [a, b, c, d, e, f, g]) ∨
      ∃ a b c d e f g h i j, u.bytes = [a, b, c, d, e, f, g, h, i, j] := by
  obtain ⟨bytes, size⟩ := u
  match bytes, size with
  | [a, b, c, d], _ => exact .inl ⟨a, b, c, d, rfl⟩
  | [a, b, c, d, e, f, g], _ => exact .inr (.inl ⟨a, b, c, d, e, f, g, rfl⟩)
  | [a, b, c, d, e, f, g, h, i, j], _ => exact .inr (.inr ⟨a, b, c, d, e, f, g, h, i, j, rfl⟩)

theorem uidOfGroups_groups : uidOfGroups u.groups = u.bytes := by
  unfold groups
  obtain ⟨a, b, c, d, h⟩ | ⟨a, b, c, d, e, f, g, h⟩ | ⟨a, b, c, d, e, f, g, i, j, k, h⟩ :=
    u.bytes_cases <;> rw [h] <;> rfl

theorem groups_injective {v : Uid} (same : u.groups = v.groups) : u = v := by
  have bytes : u.bytes = v.bytes := by
    rw [← u.uidOfGroups_groups, same, v.uidOfGroups_groups]
  obtain ⟨_, _⟩ := u
  obtain ⟨_, _⟩ := v
  cases bytes
  rfl

theorem length_groups : 0 < u.groups.length ∧ u.groups.length ≤ 3 := by
  unfold groups
  obtain ⟨a, b, c, d, h⟩ | ⟨a, b, c, d, e, f, g, h⟩ | ⟨a, b, c, d, e, f, g, i, j, k, h⟩ :=
    u.bytes_cases <;> rw [h] <;> simp [cascadeGroups]

end Uid

namespace TypeA

theorem checkBcc_group (a b c d : UInt8) : checkBcc (group a b c d) = .valid := if_pos rfl

theorem checkBcc_cascadeGroups (bs : Bytes) {chunk : Octets 5} (member : chunk ∈ cascadeGroups bs) :
    checkBcc chunk = .valid := by
  fun_induction cascadeGroups bs with
  | case1 a b c d =>
      rw [List.mem_singleton.mp member]
      exact checkBcc_group a b c d
  | case2 a b c rest _ ih =>
      rcases List.mem_cons.mp member with rfl | later
      · exact checkBcc_group cascadeTag a b c
      · exact ih later
  | case3 => cases member

/-- A group that another one follows starts with the cascade tag. -/
theorem groupHead_cascadeGroups (bs : Bytes) {i : Nat} {chunk : Octets 5}
    (found : (cascadeGroups bs)[i]? = some chunk) (more : i + 1 < (cascadeGroups bs).length) :
    groupHead chunk = cascadeTag := by
  fun_induction cascadeGroups bs generalizing i with
  | case1 a b c d => exact absurd more (by simp)
  | case2 a b c rest _ ih =>
      cases i with
      | zero =>
          cases found
          rfl
      | succ i => exact ih found (Nat.lt_of_succ_lt_succ more)
  | case3 => cases found

end TypeA

end Contactless
