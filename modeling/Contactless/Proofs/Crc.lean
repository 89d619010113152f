import Contactless.Crc

/-! A check that was appended is right, and no other frame passes. -/
namespace Contactless.Crc

variable {c : Crc} {frame body : Bytes}

theorem length_append (c : Crc) (data : Bytes) : (c.append data).length = data.length + 2 := by
  rw [append, List.length_append, (c.tail data).length_toList]

theorem strip_append (c : Crc) (data : Bytes) (nonempty : data ≠ []) :
    c.strip (c.append data) = .ok data := by
  have positive := List.length_pos_iff.mpr nonempty
  have body : (c.append data).take ((c.append data).length - 2) = data := by
    rw [c.length_append, Nat.add_sub_cancel, append, List.take_left]
  have found : (c.append data).drop ((c.append data).length - 2) = (c.tail data).toList := by
    rw [c.length_append, Nat.add_sub_cancel, append, List.drop_left]
  have right : ∀ h, c.tail data =
      (⟨(c.append data).drop ((c.append data).length - 2), h⟩ : Octets 2) :=
    fun _ => Octets.ext_toList found.symm
  unfold strip
  rw [dif_neg (by rw [c.length_append]; omega)]
  simp only [body, ← right, if_true]

/-- Only a frame that was made by appending a check is stripped of it. -/
theorem strip_eq_ok_iff : c.strip frame = .ok body ↔ body ≠ [] ∧ frame = c.append body := by
  constructor
  · intro stripped
    unfold strip at stripped
    split at stripped
    · cases stripped
    · rename_i long
      dsimp only at stripped
      split at stripped
      · rename_i right
        cases stripped
        constructor
        · apply List.ne_nil_of_length_pos
          rw [List.length_take]
          omega
        · rw [append, right, List.take_append_drop]
      · cases stripped
  · rintro ⟨nonempty, rfl⟩
    exact c.strip_append body nonempty

/-- A frame without its check is not taken for silence. -/
theorem isTimeout_of_strip {e : Error} (failed : c.strip frame = .error e) :
    e.isTimeout = false := by
  unfold strip at failed
  split at failed
  · cases failed
    rfl
  · dsimp only at failed
    split at failed
    · cases failed
    · cases failed
      rfl

theorem check_append (c : Crc) (data : Bytes) (nonempty : data ≠ []) :
    c.check (c.append data) = true := by
  have positive := List.length_pos_iff.mpr nonempty
  have long : 2 < (c.append data).length := by
    rw [c.length_append]
    omega
  have front : (c.append data).take data.length = data := List.take_left
  have back : (c.append data).drop data.length = (c.tail data).toList := List.drop_left
  unfold check
  rw [decide_eq_true long, c.length_append, Nat.add_sub_cancel, front, back, beq_self_eq_true]
  rfl

theorem append_of_check (accepted : c.check frame = true) :
    c.append (frame.take (frame.length - 2)) = frame := by
  have right := eq_of_beq (Bool.and_eq_true_iff.mp accepted).2
  rw [append, right, List.take_append_drop]

theorem check_eq_true_iff : c.check frame = true ↔ ∃ body, c.strip frame = .ok body := by
  constructor
  · intro accepted
    have long : 2 < frame.length := of_decide_eq_true (Bool.and_eq_true_iff.mp accepted).1
    refine ⟨_, strip_eq_ok_iff.mpr ⟨?_, (append_of_check accepted).symm⟩⟩
    apply List.ne_nil_of_length_pos
    rw [List.length_take]
    omega
  · rintro ⟨body, stripped⟩
    obtain ⟨nonempty, rfl⟩ := strip_eq_ok_iff.mp stripped
    exact c.check_append body nonempty

end Contactless.Crc
