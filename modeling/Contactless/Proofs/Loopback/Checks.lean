import Contactless.Proofs.Loopback.Selection

/-!
An initiator whose chip handles checks, and one that appends them by itself, before the chip of an
emulated type A tag. The chip looks at the start of frames that still end with their check, so that
both meet the same tag has to be shown for frames as short as one byte.
-/
namespace Contactless.Loopback

open TypeA (haltBody nvbSelect)

/-- What becomes of a frame whose check the chip handles, and of the same frame with its check. -/
inductive Alike (frame : Bytes) : Reaction → Reaction → Prop
  | silent : Alike frame .silent .silent
  | forward : Alike frame (.forward frame) (.forward frame)
  | failure (e : Error) : Alike frame (.failure e) (.failure e)
  | reply (body : Bytes) :
      Alike frame (.reply (.ofBytes body)) (.reply (.ofBytes (Crc.a.append body)))

/-- Frames that carry a check in a phase: any frame once the tag is selected, and before that the
requests to select. A tag that halted takes any frame for noise. -/
inductive Checked : Phase → Bytes → Prop
  | selected {frame : Bytes} (nonempty : frame ≠ []) : Checked .selected frame
  | active {frame : Bytes} (nonempty : frame ≠ []) : Checked .active frame
  | halted (frame : Bytes) : Checked .halted frame
  | ready (i : Nat) (sel : UInt8) (chunk : Octets 5) :
      Checked (.ready i) ([sel, nvbSelect] ++ chunk.toList)

/-- The two bytes that halt a tag are no byte with its check. -/
theorem haltBody_prefix_append {frame : Bytes} (nonempty : frame ≠ []) :
    haltBody <+: Crc.a.append frame ↔ haltBody <+: frame := by
  match frame, nonempty with
  | [b], _ =>
      have checked : ¬ haltBody <+: Crc.a.append [0x50] := by decide
      constructor
      · intro begins
        obtain ⟨rfl, -⟩ := List.cons_prefix_cons.mp begins
        exact absurd begins checked
      · intro begins
        cases (List.cons_prefix_cons.mp begins).2.length_le
  | b :: c :: rest, _ =>
      simp only [haltBody, Crc.append, List.cons_append, List.cons_prefix_cons, List.nil_prefix]

theorem hostPart_append {frame : Bytes} (nonempty : frame ≠ []) :
    hostPart false (Crc.a.append frame) = frame := by
  unfold hostPart
  rw [if_neg Bool.false_ne_true, Crc.a.strip_append frame nonempty]

theorem alike_delivered (frame body : Bytes) :
    Alike frame (.reply (delivered true body)) (.reply (delivered false body)) := .reply body

/-- Both ends of the field do the same, but for the checks. -/
def Agree (frame : Bytes) (handled appended : Reaction × Armed) : Prop :=
  Alike frame handled.1 appended.1 ∧ handled.2 = appended.2

section Agree

variable {a : Armed} {frame : Bytes}

theorem agree_firstFrame (ats : Bytes) (nonempty : frame ≠ []) :
    Agree frame (a.firstFrame ats frame true) (a.firstFrame ats (Crc.a.append frame) false) := by
  have head : (Crc.a.append frame).head? = frame.head? := by
    rw [Crc.append, List.head?_append_of_ne_nil _ nonempty]
  unfold Armed.firstFrame
  rw [head, hostPart_append nonempty]
  simp only [haltBody_prefix_append nonempty]
  split
  · split
    · exact ⟨.failure _, rfl⟩
    · exact ⟨alike_delivered _ _, rfl⟩
  split
  · exact ⟨.silent, rfl⟩
  · exact ⟨.forward, rfl⟩

theorem agree_cascade (sak : UInt8) (uid : Uid) (i : Nat) (sel : UInt8) (chunk : Octets 5) :
    Agree ([sel, nvbSelect] ++ chunk.toList)
      (a.cascade sak uid i ([sel, nvbSelect] ++ chunk.toList) true)
      (a.cascade sak uid i (Crc.a.append ([sel, nvbSelect] ++ chunk.toList)) false) := by
  have whole : chunk.toList.take 5 = chunk.toList :=
    List.take_of_length_le (Nat.le_of_eq chunk.length_toList)
  have taken (check : Bytes) : (chunk.toList ++ check).take 5 = chunk.toList :=
    List.take_left' chunk.length_toList
  have other : nvbSelect ≠ TypeA.nvbAnticollision := by decide
  unfold Armed.cascade Crc.append
  cases Armed.groupAt uid i with
  | none => exact ⟨.silent, rfl⟩
  | some place =>
      simp only [List.cons_append, List.nil_append, other, false_and, and_false, if_false, whole,
        taken]
      split
      · split
        · exact ⟨alike_delivered _ _, rfl⟩
        · exact ⟨alike_delivered _ _, rfl⟩
      · exact ⟨.silent, rfl⟩

theorem agree_react {atqa : Octets 2} {sak : UInt8} {uid : Uid} {ats : Bytes}
    (appears : a.target = .typeA atqa sak uid ats) (checked : Checked a.phase frame) :
    Agree frame (a.react (.ofBytes frame) true)
      (a.react (.ofBytes (Crc.a.append frame)) false) := by
  rw [Armed.eq_of_parts appears rfl, react_long (whole_bits frame),
    react_long (whole_bits (Crc.a.append frame))]
  generalize a.phase = phase at checked
  cases checked with
  | selected nonempty => exact agree_firstFrame ats nonempty
  | active nonempty =>
      refine ⟨?_, rfl⟩
      change Alike frame (.forward frame) (.forward (hostPart false (Crc.a.append frame)))
      rw [hostPart_append nonempty]
      exact .forward
  | halted => exact ⟨.silent, rfl⟩
  | ready i sel chunk => exact agree_cascade sak uid i sel chunk

end Agree

/-- Two chips that are equally far. One finds a frame whose check is handled, the other one finds
the check behind it. -/
theorem checks_indifferent {atqa : Octets 2} {sak : UInt8} {uid : Uid} {ats : Bytes}
    {a b : Armed} {frame : Bytes} (first : a.target = .typeA atqa sak uid ats)
    (second : b.target = .typeA atqa sak uid ats) (together : a.phase = b.phase)
    (checked : Checked a.phase frame) :
    Alike frame (a.react (.ofBytes frame) true).1
        (b.react (.ofBytes (Crc.a.append frame)) false).1 ∧
      (a.react (.ofBytes frame) true).2.phase =
        (b.react (.ofBytes (Crc.a.append frame)) false).2.phase := by
  have same : a = b := by
    rw [Armed.eq_of_parts first rfl, Armed.eq_of_parts second rfl, together]
  obtain ⟨alike, next⟩ := agree_react first checked
  rw [same] at alike next
  rw [same]
  exact ⟨alike, congrArg Armed.phase next⟩

/-- A chip that was selected and is not asked for anything yet. -/
def selectedChip : Armed :=
  ⟨.typeA ⟨[0x48, 0x00], rfl⟩ 0x20 ⟨[0x08, 0x31, 0x42, 0x53], .inl rfl⟩ [0x78], .selected⟩

/-- The first byte of a halt, alone. -/
theorem checks_indifferent_single_byte :
    Checked selectedChip.phase [0x50] ∧
      Alike [0x50] (selectedChip.react (.ofBytes [0x50]) true).1
        (selectedChip.react (.ofBytes (Crc.a.append [0x50])) false).1 ∧
      (selectedChip.react (.ofBytes [0x50]) true).2.phase = .active ∧
      (selectedChip.react (.ofBytes (Crc.a.append [0x50])) false).2.phase = .active := by
  have checked : Checked selectedChip.phase [0x50] := .selected (by decide)
  have sample := checks_indifferent (a := selectedChip) (b := selectedChip) rfl rfl rfl checked
  have active : (selectedChip.react (.ofBytes [0x50]) true).2.phase = .active := by decide
  exact ⟨checked, sample.1, active, sample.2 ▸ active⟩

/-- The phases from the last select on, until the next wake-up. -/
def Beyond (phase : Phase) : Prop := phase = .selected ∨ phase = .active ∨ phase = .halted

theorem Goes.beyond {a : Armed} {uid : Uid} {s : Sent} {out : Reaction × Armed}
    (goes : Goes a uid s out) (beyond : Beyond a.phase) : Beyond out.2.phase := by
  cases goes with
  | ignored => exact beyond
  | resolved => exact beyond
  | refused => exact beyond
  | climbed reply ready =>
      rcases beyond with other | other | other <;> cases other.symm.trans ready
  | selected => exact .inl rfl
  | answered => exact .inr (.inl rfl)
  | halted => exact .inr (.inr rfl)
  | forwarded => exact .inr (.inl rfl)

theorem Beyond.checked {phase : Phase} (beyond : Beyond phase) {frame : Bytes}
    (nonempty : frame ≠ []) : Checked phase frame := by
  rcases beyond with rfl | rfl | rfl
  · exact .selected nonempty
  · exact .active nonempty
  · exact .halted frame

/-- From the last select on, a whole conversation leaves the chip in the same state. -/
theorem after_checked {atqa : Octets 2} {sak : UInt8} {uid : Uid} {ats : Bytes} {a : Armed}
    (appears : a.target = .typeA atqa sak uid ats) (beyond : Beyond a.phase) {frames : List Bytes}
    (nonempty : ∀ frame ∈ frames, frame ≠ []) :
    a.after (frames.map fun frame => ⟨.ofBytes frame, true⟩) =
      a.after (frames.map fun frame => ⟨.ofBytes (Crc.a.append frame), false⟩) := by
  induction frames generalizing a with
  | nil => rfl
  | cons frame frames ih =>
      have here := nonempty frame List.mem_cons_self
      rw [List.map_cons, List.map_cons, Armed.after_cons, Armed.after_cons]
      dsimp only
      rw [← (agree_react appears (beyond.checked here)).2]
      rcases react_goes appears ⟨.ofBytes frame, true⟩ with ⟨wakes, -⟩ | ⟨-, goes⟩
      · -- Whole bytes are no wake-up.
        rcases wakes.1 with short | short
        · exact absurd (congrArg BitFrame.bits short) (whole_bits frame)
        · exact absurd (congrArg BitFrame.bits short) (whole_bits frame)
      · exact ih (goes.target.trans appears) (goes.beyond beyond)
          fun other among => nonempty other (List.mem_cons_of_mem frame among)

end Contactless.Loopback
