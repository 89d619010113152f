import Contactless.Loopback.Pair
import Contactless.Proofs.Crc
import Contactless.Proofs.Run
import Contactless.Proofs.TypeA.Cascade

/-! What the chip of an emulated type A tag answers while it is activated. -/
namespace Contactless.Loopback

/-- The pair with a tag in the field and an initiator that leaves checks to its host. -/
def Pair.withTag (p : Pair) (tag : Target) (phase : Phase) : Pair :=
  { p with
    field := { p.field with presence := .armed ⟨tag, phase⟩ }
    initiator := ⟨false, false⟩ }

section Exchanges

variable {p : Pair} {tag : Target} {phase next : Phase} {frame reply : BitFrame} {wait : Timeout}
  {result : Except Error BitFrame}

theorem waitAlone_presence (wait : Timeout)
    (offered : (p.withTag tag phase).field.offer frame false =
      (.answered result, (p.withTag tag next).field)) :
    (p.withTag tag phase).waitAlone .initiator (.presence frame wait) wait =
      (result, p.withTag tag next) := by
  have raw : ((p.withTag tag phase).ofRole .initiator).handleCrc = false := rfl
  have seen : (p.withTag tag phase).look .initiator (.presence frame wait) =
      (.found result, p.withTag tag next) := by
    change (p.withTag tag phase).peek .initiator (.presence frame wait) = _
    simp only [Pair.peek, raw, offered]
    rfl
  unfold Pair.waitAlone
  rw [seen]

theorem offer_reply
    (reacts : (Armed.mk tag phase).react frame false = (.reply reply, ⟨tag, next⟩)) :
    (p.withTag tag phase).field.offer frame false =
      (.answered (.ok reply), (p.withTag tag next).field) := by
  unfold Field.offer Pair.withTag
  dsimp only
  rw [reacts]

theorem offer_silent (reacts : (Armed.mk tag phase).react frame false = (.silent, ⟨tag, next⟩)) :
    (p.withTag tag phase).field.offer frame false =
      (.answered (.error .rfTimeout), (p.withTag tag next).field) := by
  unfold Field.offer Pair.withTag
  dsimp only
  rw [reacts]

theorem alone_bits
    (offered : (p.withTag tag phase).field.offer frame false =
      (.answered result, (p.withTag tag next).field)) :
    Pair.alone .initiator (.bits frame wait) (p.withTag tag phase) =
      (result, p.withTag tag next) := by
  have settled := waitAlone_presence wait offered
  generalize waited : (p.withTag tag phase).waitAlone .initiator (.presence frame wait) wait = w
    at settled
  have finished : Pair.alone .initiator (.bits frame wait) (p.withTag tag phase) =
      (w.1.map id, w.2) := by
    rw [← waited]
    rfl
  rw [finished, settled]
  cases result <;> rfl

theorem alone_bytes {data : Bytes}
    (offered : (p.withTag tag phase).field.offer (.ofBytes data) false =
      (.answered result, (p.withTag tag next).field)) :
    Pair.alone .initiator (.bytes data wait) (p.withTag tag phase) =
      (result.map BitFrame.data, p.withTag tag next) := by
  have settled := waitAlone_presence wait offered
  generalize waited :
    (p.withTag tag phase).waitAlone .initiator (.presence (.ofBytes data) wait) wait = w at settled
  have finished : Pair.alone .initiator (.bytes data wait) (p.withTag tag phase) =
      (w.1.map BitFrame.data, w.2) := by
    rw [← waited]
    rfl
  rw [finished, settled]

variable {σ : Type} {n : Nat} {s : σ}

theorem ends_bits (short : frame.byteLength ≤ Chip.frameLimit)
    (offered : (p.withTag tag phase).field.offer frame false =
      (.answered result, (p.withTag tag next).field)) :
    Act.Ends (Pair.alone .initiator) (Chip.exchangeFrame frame wait) n s (p.withTag tag phase)
      result s (p.withTag tag next) := by
  unfold Chip.exchangeFrame
  rw [if_neg (Nat.not_lt.mpr short)]
  exact Act.ends_request id (alone_bits offered)

theorem ends_bytes {data : Bytes} (nonempty : ¬ data.isEmpty)
    (short : data.length ≤ Chip.frameLimit)
    (offered : (p.withTag tag phase).field.offer (.ofBytes data) false =
      (.answered result, (p.withTag tag next).field)) :
    Act.Ends (Pair.alone .initiator) (Chip.exchangeBytes data wait) n s (p.withTag tag phase)
      (result.map BitFrame.data) s (p.withTag tag next) := by
  unfold Chip.exchangeBytes
  rw [if_neg nonempty, if_neg (Nat.not_lt.mpr short)]
  exact Act.ends_request id (alone_bytes offered)

end Exchanges

section Reactions

variable {atqa : Octets 2} {sak : UInt8} {uid : Uid} {ats : Bytes} {phase : Phase} {i : Nat}
  {level : CascadeLevel} {chunk : Octets 5}

/-- A wake-up is answered in any phase, except that a halted tag hears only the stronger one. -/
theorem react_wake {wakeup : Wakeup} (hears : wakeup = .wupa ∨ phase ≠ .halted) :
    (Armed.mk (.typeA atqa sak uid ats) phase).react wakeup.frame false =
      (.reply (.ofBytes atqa.toList), ⟨.typeA atqa sak uid ats, .ready 0⟩) := by
  cases wakeup with
  | wupa => rfl
  | reqa =>
      have awake : phase ≠ .halted := by
        rcases hears with other | awake
        · cases other
        · exact awake
      exact if_pos (.inr ⟨rfl, awake⟩)

/-- Frames of whole bytes are not taken for a wake-up. -/
theorem whole_bits (data : Bytes) : ¬ (BitFrame.ofBytes data).bits = 7 := by
  change ¬ data.length * 8 = 7
  omega

section Cascade

variable (known : CascadeLevel.ofIndex? i = some level) (found : uid.groups[i]? = some chunk)
include known found

theorem react_ready (nvb : UInt8) (rest : Bytes) :
    (Armed.mk (.typeA atqa sak uid ats) (.ready i)).react
        (.ofBytes (level.sel :: nvb :: rest)) false =
      if nvb = TypeA.nvbAnticollision ∧ rest = [] then
        (.reply (.ofBytes chunk.toList), ⟨.typeA atqa sak uid ats, .ready i⟩)
      else if nvb = TypeA.nvbSelect ∧ rest.take 5 = chunk.toList then
        if i + 1 = uid.groups.length then
          (.reply (delivered false [sak &&& ~~~ (0x04 : UInt8)]),
            ⟨.typeA atqa sak uid ats, .selected⟩)
        else (.reply (delivered false [0x04]), ⟨.typeA atqa sak uid ats, .ready (i + 1)⟩)
      else (.silent, ⟨.typeA atqa sak uid ats, .ready i⟩) := by
  have placed : Armed.groupAt uid i = some (level, chunk) := by
    unfold Armed.groupAt
    rw [known, found]
  unfold Armed.react
  dsimp only
  rw [if_neg (whole_bits _)]
  change Armed.cascade _ sak uid i (level.sel :: nvb :: rest) false = _
  unfold Armed.cascade
  rw [placed]
  simp only [true_and]

theorem react_anticollision :
    (Armed.mk (.typeA atqa sak uid ats) (.ready i)).react
        (.ofBytes (TypeA.anticollision level)) false =
      (.reply (.ofBytes chunk.toList), ⟨.typeA atqa sak uid ats, .ready i⟩) :=
  (react_ready known found TypeA.nvbAnticollision []).trans (if_pos ⟨rfl, rfl⟩)

theorem react_select (atqa : Octets 2) (sak : UInt8) (ats : Bytes) (other : Octets 5) :
    (Armed.mk (.typeA atqa sak uid ats) (.ready i)).react
        (.ofBytes (TypeA.select level other)) false =
      if other = chunk then
        if i + 1 = uid.groups.length then
          (.reply (delivered false [sak &&& ~~~ (0x04 : UInt8)]),
            ⟨.typeA atqa sak uid ats, .selected⟩)
        else (.reply (delivered false [0x04]), ⟨.typeA atqa sak uid ats, .ready (i + 1)⟩)
      else (.silent, ⟨.typeA atqa sak uid ats, .ready i⟩) := by
  have taken (check : Bytes) : (other.toList ++ check).take 5 = other.toList :=
    List.take_left' other.length_toList
  have same (check : Bytes) : (other.toList ++ check).take 5 = chunk.toList ↔ other = chunk := by
    rw [taken]
    exact ⟨Octets.ext_toList, congrArg Octets.toList⟩
  refine (react_ready known found TypeA.nvbSelect (other.toList ++ _)).trans ?_
  rw [if_neg (fun h => absurd h.1 (by decide))]
  simp only [same, true_and]

end Cascade

theorem react_rats (param : UInt8) (given : ats ≠ []) (short : ats.length ≤ 254) :
    (Armed.mk (.typeA atqa sak uid ats) .selected).react (.ofBytes (TypeA.rats param)) false =
      (.reply (delivered false (UInt8.ofNat (ats.length + 1) :: ats)),
        ⟨.typeA atqa sak uid ats, .active⟩) := by
  unfold Armed.react
  dsimp only
  rw [if_neg (whole_bits _)]
  change Armed.firstFrame _ ats (TypeA.rats param) false = _
  unfold Armed.firstFrame
  rw [if_pos ⟨rfl, given⟩, if_neg (by omega)]

end Reactions

end Contactless.Loopback
