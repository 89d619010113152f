import Contactless.Proofs.Act
import Contactless.Field

/-! When a field of a frame can be read, and what it then is. -/
namespace Contactless

section Fields

variable {data : Bytes} {n len pos : Nat} {b : UInt8}

theorem requireLength_eq_ok_iff : requireLength data len = .ok () ↔ len ≤ data.length := by
  unfold requireLength
  by_cases short : data.length < len
  · rw [if_pos short]
    exact ⟨nofun, fun long => absurd short (Nat.not_lt.mpr long)⟩
  · rw [if_neg short]
    exact ⟨fun _ => Nat.not_lt.mp short, fun _ => rfl⟩

theorem requireExactLength_eq_ok_iff :
    requireExactLength data len = .ok () ↔ data.length = len := by
  unfold requireExactLength
  by_cases same : data.length = len
  · rw [if_neg (not_not_intro same)]
    exact ⟨fun _ => same, fun _ => rfl⟩
  · rw [if_pos same]
    exact ⟨nofun, fun equal => absurd equal same⟩

theorem byteAt_eq_ok_iff : byteAt data pos = .ok b ↔ data[pos]? = some b := by
  unfold byteAt
  cases data[pos]? with
  | none => exact ⟨nofun, nofun⟩
  | some found => rw [Except.ok.injEq, Option.some_inj]

theorem expectByte_eq_ok_iff : expectByte data pos b = .ok () ↔ data[pos]? = some b := by
  rw [← byteAt_eq_ok_iff]
  unfold expectByte
  cases byteAt data pos with
  | error e => exact ⟨nofun, nofun⟩
  | ok found =>
      dsimp only
      by_cases same : found = b
      · rw [if_pos same, same]
        exact ⟨fun _ => rfl, fun _ => rfl⟩
      · rw [if_neg same]
        exact ⟨nofun, fun equal => absurd (Except.ok.inj equal) same⟩

theorem octetsAt_append {front : Bytes} (placed : front.length = pos) (field : Octets n)
    (rest : Bytes) : octetsAt n (front ++ (field.toList ++ rest)) pos = .ok field := by
  have inside : ¬ (front ++ (field.toList ++ rest)).length < pos + n := by
    rw [List.length_append, List.length_append, field.length_toList, placed]
    omega
  unfold octetsAt
  rw [dif_neg inside]
  refine congrArg Except.ok (Octets.ext_toList ?_)
  change ((front ++ (field.toList ++ rest)).drop pos).take n = field.toList
  rw [List.drop_left' placed, List.take_left' field.length_toList]

theorem octetsAt_eq_ok_iff {field : Octets n} : octetsAt n data pos = .ok field ↔
    ∃ front rest, data = front ++ (field.toList ++ rest) ∧ front.length = pos := by
  constructor
  · intro read
    unfold octetsAt at read
    split at read
    · cases read
    · rename_i inside
      cases read
      refine ⟨data.take pos, (data.drop pos).drop n, ?_, ?_⟩
      · rw [List.take_append_drop, List.take_append_drop]
      · rw [List.length_take]
        omega
  · rintro ⟨front, rest, rfl, placed⟩
    exact octetsAt_append placed field rest

theorem octetsAt_front (front : Octets n) (rest : Bytes) :
    octetsAt n (front.toList ++ rest) 0 = .ok front :=
  octetsAt_append List.length_nil front rest

theorem octetsAt_rest {front : Bytes} (placed : front.length = pos) (field : Octets n) :
    octetsAt n (front ++ field.toList) pos = .ok field := by
  have read := octetsAt_append placed field []
  rwa [List.append_nil] at read

theorem Uid.ofBytes_eq_ok_iff {uid : Uid} : Uid.ofBytes data = .ok uid ↔ uid.bytes = data := by
  constructor
  · intro read
    unfold Uid.ofBytes at read
    split at read
    · cases read
      rfl
    · cases read
  · rintro rfl
    exact dif_pos uid.size

end Fields

section Splitting

variable {data : Bytes} {m n : Nat}

theorem exists_octets_append (whole : data.length = m + n) :
    ∃ (front : Octets m) (rest : Octets n), data = front.toList ++ rest.toList := by
  refine ⟨⟨data.take m, ?_⟩, ⟨data.drop m, ?_⟩, (List.take_append_drop m data).symm⟩
  · rw [List.length_take]
    omega
  · rw [List.length_drop]
    omega

theorem exists_cons_octets (whole : data.length = n + 1) :
    ∃ (first : UInt8) (rest : Octets n), data = first :: rest.toList := by
  cases data with
  | nil => cases whole
  | cons first rest => exact ⟨first, ⟨rest, Nat.succ.inj whole⟩, rfl⟩

end Splitting

end Contactless
