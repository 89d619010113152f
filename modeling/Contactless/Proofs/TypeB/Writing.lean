import Contactless.Proofs.Crc
import Contactless.Proofs.Exchange
import Contactless.Proofs.Field
import Contactless.TypeB.SrxTag

/-!
Blocks written to an SRx tag. The write itself is never answered, so that the block is read back
before it counts as written.
-/
namespace Contactless.Srx

open Chip (uncheckedly Unchecked)

/-- The chip of a tag has the block, and it is of this size. -/
def Accepts (uid : Octets 8) (block : UInt8) (data : Bytes) : Prop :=
  ∃ c, ChipInfo.ofUid? uid = some c ∧ c.contains block = true ∧ data.length = c.blockSize.bytes

/-- What may come of a frame that is not to be answered: silence, or something with its check. -/
inductive Passes : Except Error Bytes → Prop
  | silence {e : Error} : e.isTimeout = true → Passes (.error e)
  | answer {body : Bytes} : body ≠ [] → Passes (.ok (Crc.b.append body))

def writing (block : UInt8) (data : Bytes) (wait : Timeout) (answer : Except Error Bytes) :
    Chip.Event :=
  ⟨.bytes (Crc.b.append ([0x09, block] ++ data)) wait, answer⟩

def reading (block : UInt8) (wait : Timeout) (answer : Except Error Bytes) : Chip.Event :=
  ⟨.bytes (Crc.b.append [0x08, block]) wait, answer⟩

/-- A block is written, programmed, and read back as it was written. -/
def verified (block : UInt8) (data : Bytes) (wait : Timeout) (wrote : Except Error Bytes) :
    List Chip.Event :=
  uncheckedly [writing block data wait wrote] ++
    ⟨.sleep Tag.writeCycle, false⟩ ::
      uncheckedly [reading block wait (.ok (Crc.b.append data))]

/-- How a block is written. -/
structure Verifies (uid : Octets 8) (block : UInt8) (data : Bytes) (wait : Timeout)
    (t : List Chip.Event) (r : Except Error Unit) : Prop where
  refused : ¬ Accepts uid block data → t = [] ∧ ∃ e, r = .error e
  verified : r = .ok () ↔
    Accepts uid block data ∧ ∃ wrote, Passes wrote ∧ t = verified block data wait wrote
  garbled : ∀ answer, writing block data wait answer ∈ t → ¬ Passes answer → ∃ e, r = .error e
  differs : ∀ answer, reading block wait answer ∈ t → answer ≠ .ok (Crc.b.append data) →
    ∃ e, r = .error e

section Exchanges

variable {answer : Except Error Bytes} {frame : Bytes} {wait : Timeout}

theorem passes_of_ok {body : Bytes} (read : (answer >>= Crc.b.strip) = .ok body) :
    Passes answer := by
  obtain ⟨frame, rfl, stripped⟩ := bind_eq_ok_iff.mp read
  obtain ⟨nonempty, rfl⟩ := Crc.strip_eq_ok_iff.mp stripped
  exact .answer nonempty

theorem passes_iff_of_error {e : Error} (failed : (answer >>= Crc.b.strip) = .error e) :
    Passes answer ↔ e.isTimeout = true := by
  cases answer with
  | error e' =>
      cases failed
      constructor
      · rintro (silent | -)
        exact silent
      · exact .silence
  | ok frame =>
      rw [ok_bind] at failed
      rw [Crc.isTimeout_of_strip failed]
      constructor
      · generalize came : Except.ok frame = answer
        rintro (- | nonempty)
        · cases came
        · cases came
          cases failed.symm.trans (Crc.b.strip_append _ nonempty)
      · exact nofun

namespace Tag

/-- One exchange whose answer matters only when it is wrong. -/
def Silently (frame : Bytes) (wait : Timeout) (t : List Chip.Event) (r : Except Error Unit) :
    Prop :=
  ∃ answer, t = [⟨.bytes (Crc.b.append frame) wait, answer⟩] ∧ (r = .ok () ↔ Passes answer)

theorem assures_sendSilent (frame : Bytes) (wait : Timeout) (d : Device .initiator) :
    (sendSilent frame wait).Assures d fun t r d' =>
      Unchecked (Silently frame wait) t r ∧ d' = d := by
  refine Chip.assures_withoutHardwareCrc ?_
  have forgiven : (Chip.silentAsNone (Chip.exchangeChecked .b frame wait)).Assures d
      fun t r d' => (∃ answer, t = [⟨.bytes (Crc.b.append frame) wait, answer⟩] ∧
        ((∃ a, r = .ok a) ↔ Passes answer)) ∧ d' = d := by
    refine Chip.assures_silentAsNone (Chip.assures_exchangeChecked .b frame) ?_ ?_ ?_
    · rintro _ body _ ⟨answer, rfl, read, rfl⟩
      exact ⟨⟨answer, rfl, fun _ => passes_of_ok read.symm, fun _ => ⟨_, rfl⟩⟩, rfl⟩
    · rintro _ e _ ⟨answer, rfl, failed, rfl⟩ silent
      refine ⟨⟨answer, rfl, fun _ => ?_, fun _ => ⟨_, rfl⟩⟩, rfl⟩
      exact (passes_iff_of_error failed.symm).mpr silent
    · rintro _ e _ ⟨answer, rfl, failed, rfl⟩ loud
      refine ⟨⟨answer, rfl, nofun, fun passes => ?_⟩, rfl⟩
      rw [(passes_iff_of_error failed.symm).mp passes] at loud
      cases loud
  refine forgiven.bind ?_ ?_
  · rintro _ a _ ⟨⟨answer, rfl, passes⟩, rfl⟩
    exact Act.assures_pure ⟨⟨answer, rfl, fun _ => passes.mp ⟨a, rfl⟩, fun _ => rfl⟩, rfl⟩
  · rintro _ e _ ⟨⟨answer, rfl, passes⟩, rfl⟩
    refine ⟨⟨answer, rfl, nofun, fun passed => ?_⟩, rfl⟩
    obtain ⟨_, ⟨⟩⟩ := passes.mpr passed

theorem eq_ok_iff_of_silently {t : List Chip.Event} {r : Except Error Unit}
    (sent : Unchecked (Silently frame wait) t r) :
    r = .ok () ↔ ∃ answer, Passes answer ∧
      t = uncheckedly [⟨.bytes (Crc.b.append frame) wait, answer⟩] := by
  constructor
  · rintro rfl
    obtain ⟨_, rfl, answer, rfl, passes⟩ := sent.of_ok
    exact ⟨answer, passes.mp rfl, rfl⟩
  · rintro ⟨answer, passed, rfl⟩
    obtain ⟨_, ⟨⟩, passes⟩ := sent.of_uncheckedly
    exact passes.mpr passed

/-- One exchange whose answer is what it says without its check. -/
def Stripped (frame : Bytes) (wait : Timeout) (t : List Chip.Event) (r : Except Error Bytes) :
    Prop :=
  ∃ answer, t = [⟨.bytes (Crc.b.append frame) wait, answer⟩] ∧ r = (answer >>= Crc.b.strip)

theorem eq_ok_iff_of_stripped {t : List Chip.Event} {r : Except Error Bytes} {data : Bytes}
    (asked : Unchecked (Stripped frame wait) t r) (nonempty : data ≠ []) :
    r = .ok data ↔
      t = uncheckedly [⟨.bytes (Crc.b.append frame) wait, .ok (Crc.b.append data)⟩] := by
  constructor
  · rintro rfl
    obtain ⟨_, rfl, answer, rfl, read⟩ := asked.of_ok
    obtain ⟨_, rfl, stripped⟩ := bind_eq_ok_iff.mp read.symm
    obtain ⟨-, rfl⟩ := Crc.strip_eq_ok_iff.mp stripped
    rfl
  · rintro rfl
    obtain ⟨_, ⟨⟩, read⟩ := asked.of_uncheckedly
    exact read.trans (Crc.b.strip_append data nonempty)

theorem ne_nil_of_size {c : ChipInfo} {data : Bytes} (sized : data.length = c.blockSize.bytes) :
    data ≠ [] := by
  rintro rfl
  cases size : c.blockSize <;> (rw [size] at sized; cases sized)

/-- A block reads as what the tag answers with the right check, when that has its size. -/
theorem assures_readBlockOf {c : ChipInfo} {block : UInt8} (contained : c.contains block = true)
    (d : Device .initiator) :
    (readBlockOf c block).Assures d fun t r d' => d' = d ∧ ∀ data, r = .ok data ↔
      data.length = c.blockSize.bytes ∧
        t = uncheckedly [reading block d.config.commandTimeout (.ok (Crc.b.append data))] := by
  have known : checkBlock c block = .ok () := if_pos contained
  refine Act.assures_ofExcept_bind ?_ (fun e refused => nomatch known.symm.trans refused)
  rintro ⟨⟩ -
  refine Device.assures_timeout_bind ?_
  have asked : (Chip.exchangeChecked .b (Srx.readBlock block) d.config.commandTimeout).Assures d
      fun t r d' => Stripped (Srx.readBlock block) d.config.commandTimeout t r ∧ d' = d := by
    refine (Chip.assures_exchangeChecked .b _).mono ?_
    rintro t r _ ⟨answer, said, read, rfl⟩
    exact ⟨⟨answer, said, read⟩, rfl⟩
  refine (Chip.assures_withoutHardwareCrc asked).bind ?_ ?_
  · rintro t bytes _ ⟨told, rfl⟩
    refine Act.assures_ofExcept_bind ?_ ?_
    · rintro ⟨⟩ measured
      have sized := requireExactLength_eq_ok_iff.mp measured
      refine Act.assures_pure ⟨rfl, fun data => ?_⟩
      rw [List.append_nil]
      constructor
      · rintro ⟨⟩
        exact ⟨sized, (eq_ok_iff_of_stripped told (ne_nil_of_size sized)).mp rfl⟩
      · rintro ⟨sized', whole⟩
        exact (eq_ok_iff_of_stripped told (ne_nil_of_size sized')).mpr whole
    · intro e refused
      refine ⟨rfl, fun data => ⟨nofun, ?_⟩⟩
      rw [List.append_nil]
      rintro ⟨sized, whole⟩
      cases (eq_ok_iff_of_stripped told (ne_nil_of_size sized)).mpr whole
      cases (requireExactLength_eq_ok_iff.mpr sized).symm.trans refused
  · rintro t e _ ⟨told, rfl⟩
    refine ⟨rfl, fun data => ⟨nofun, ?_⟩⟩
    rintro ⟨sized, whole⟩
    cases (eq_ok_iff_of_stripped told (ne_nil_of_size sized)).mpr whole

end Tag

end Exchanges

section Writing

variable {block : UInt8} {data : Bytes} {wait : Timeout}

namespace Tag

theorem length_le_of_silently {frame : Bytes} {t : List Chip.Event} {r : Except Error Unit}
    (sent : Unchecked (Silently frame wait) t r) : t.length ≤ 3 := by
  cases sent with
  | refused e => exact Nat.le_of_ble_eq_true rfl
  | through restored body =>
      obtain ⟨answer, rfl, -⟩ := body
      exact Nat.le_refl 3

/-- What is left of a write once block and size are known to be right. -/
def commit (c : ChipInfo) (block : UInt8) (data frame : Bytes) :
    Act Chip (Device .initiator) Unit := do
  sendSilent frame (← Device.timeout)
  Chip.sleep writeCycle
  let held ← readBlockOf c block
  if held ≠ data then
    throw (.rfProtocol (s!"block {block.toNat} reads back {Text.Hex.spaced held}"
      ++ s!" after writing {Text.Hex.spaced data}"))

theorem parts_of_verified {wrote wrote' : Except Error Bytes} {cut : Bool}
    {t : List Chip.Event}
    (whole : uncheckedly [writing block data wait wrote] ++ (⟨.sleep writeCycle, cut⟩ :: t) =
      verified block data wait wrote') :
    cut = false ∧ t = uncheckedly [reading block wait (.ok (Crc.b.append data))] := by
  obtain ⟨-, rest⟩ := List.append_inj whole rfl
  obtain ⟨slept, read⟩ := List.cons.inj rest
  cases slept
  exact ⟨rfl, read⟩

theorem assures_commit {c : ChipInfo} (contained : c.contains block = true)
    (sized : data.length = c.blockSize.bytes) (d : Device .initiator) :
    (commit c block data ([0x09, block] ++ data)).Assures d fun t r d' => d' = d ∧
      (r = .ok () ↔ ∃ wrote, Passes wrote ∧
        t = verified block data d.config.commandTimeout wrote) := by
  refine Device.assures_timeout_bind ((assures_sendSilent _ _ d).bind ?_ ?_)
  · rintro _ ⟨⟩ _ ⟨sent, rfl⟩
    obtain ⟨wrote, passed, rfl⟩ := (eq_ok_iff_of_silently sent).mp rfl
    refine Chip.assures_sleep.bind ?_ ?_
    · rintro _ ⟨⟩ _ ⟨cut, rfl, slept, rfl⟩
      obtain rfl := slept.mp rfl
      refine (assures_readBlockOf contained _).bind ?_ ?_
      · rintro t held _ ⟨rfl, reads⟩
        by_cases same : held = data
        · rw [if_neg (not_not_intro same)]
          refine Act.assures_pure ⟨rfl, fun _ => ⟨wrote, passed, ?_⟩, fun _ => rfl⟩
          obtain ⟨-, rfl⟩ := (reads data).mp (congrArg Except.ok same)
          rfl
        · rw [if_pos same]
          refine Act.assures_throw ⟨rfl, nofun, ?_⟩
          rintro ⟨wrote', -, whole⟩
          rw [List.append_nil] at whole
          obtain ⟨-, read⟩ := parts_of_verified whole
          exact absurd (Except.ok.inj ((reads data).mpr ⟨sized, read⟩)) same
      · rintro t e _ ⟨rfl, reads⟩
        refine ⟨rfl, nofun, ?_⟩
        rintro ⟨wrote', -, whole⟩
        obtain ⟨-, read⟩ := parts_of_verified whole
        cases (reads data).mpr ⟨sized, read⟩
    · rintro _ e _ ⟨cut, rfl, slept, rfl⟩
      refine ⟨rfl, nofun, ?_⟩
      rintro ⟨wrote', -, whole⟩
      obtain ⟨kept, -⟩ := parts_of_verified whole
      cases slept.mpr kept
  · rintro t e _ ⟨sent, rfl⟩
    refine ⟨rfl, nofun, ?_⟩
    rintro ⟨wrote, -, rfl⟩
    -- A write that ends here has said less than half of what a verified one says.
    have short : 7 ≤ 3 := length_le_of_silently sent
    omega

end Tag

section Arguments

variable {uid : Octets 8} {c : ChipInfo} {size : BlockSize} {frame : Bytes}

theorem targetInfo_eq_ok_iff : targetInfo (.srx uid) = .ok c ↔ ChipInfo.ofUid? uid = some c := by
  unfold targetInfo
  dsimp only
  cases ChipInfo.ofUid? uid with
  | none => exact ⟨nofun, nofun⟩
  | some found => rw [Except.ok.injEq, Option.some_inj]

theorem checkBlock_eq_ok_iff : Tag.checkBlock c block = .ok () ↔ c.contains block = true := by
  unfold Tag.checkBlock
  cases c.contains block with
  | false => exact ⟨nofun, nofun⟩
  | true => exact ⟨fun _ => rfl, fun _ => rfl⟩

theorem writeBlock_eq_ok_iff : writeBlock block data size = .ok frame ↔
    data.length = size.bytes ∧ frame = [0x09, block] ++ data := by
  unfold writeBlock
  cases measured : requireExactLength data size.bytes with
  | error e =>
      constructor
      · exact nofun
      · rintro ⟨sized, -⟩
        cases (requireExactLength_eq_ok_iff.mpr sized).symm.trans measured
  | ok done =>
      rw [Except.ok.injEq]
      constructor
      · rintro rfl
        exact ⟨requireExactLength_eq_ok_iff.mp measured, rfl⟩
      · rintro ⟨-, rfl⟩
        rfl

end Arguments

theorem writing_ne_reading {answer answer' : Except Error Bytes} :
    writing block data wait answer ≠ reading block wait answer' := by
  intro same
  obtain ⟨heads, -⟩ := List.cons.inj (Chip.Call.bytes.inj (Sigma.mk.inj same).1).1
  cases heads

/-- Two frames are said in the course of a verified write. -/
theorem mem_verified {frame : Bytes} {limit : Timeout} {answer wrote : Except Error Bytes}
    (member : (⟨.bytes frame limit, answer⟩ : Chip.Event) ∈ verified block data wait wrote) :
    (⟨.bytes frame limit, answer⟩ : Chip.Event) = writing block data wait wrote ∨
      (⟨.bytes frame limit, answer⟩ : Chip.Event) =
        reading block wait (.ok (Crc.b.append data)) := by
  simp only [verified, uncheckedly, List.cons_append, List.nil_append, List.mem_cons,
    List.not_mem_nil, or_false] at member
  rcases member with same | same | same | same | same | same | same
  · cases same
  · exact .inl same
  · cases same
  · cases same
  · cases same
  · exact .inr same
  · cases same

theorem eq_of_writing_mem {answer wrote : Except Error Bytes}
    (member : writing block data wait answer ∈ verified block data wait wrote) :
    answer = wrote := by
  rcases mem_verified member with same | same
  · exact eq_of_heq (Sigma.mk.inj same).2
  · exact absurd same writing_ne_reading

theorem eq_of_reading_mem {answer wrote : Except Error Bytes}
    (member : reading block wait answer ∈ verified block data wait wrote) :
    answer = .ok (Crc.b.append data) := by
  rcases mem_verified member with same | same
  · exact absurd same.symm writing_ne_reading
  · exact eq_of_heq (Sigma.mk.inj same).2

namespace Verifies

variable {uid : Octets 8} {t : List Chip.Event} {r : Except Error Unit}

theorem unsent (other : ¬ Accepts uid block data) (e : Error) :
    Verifies uid block data wait [] (.error e) where
  refused _ := ⟨rfl, e, rfl⟩
  verified := ⟨nofun, fun held => absurd held.1 other⟩
  garbled _ _ _ := ⟨e, rfl⟩
  differs _ _ _ := ⟨e, rfl⟩

theorem of_accepts (accepts : Accepts uid block data)
    (written : r = .ok () ↔ ∃ wrote, Passes wrote ∧ t = Srx.verified block data wait wrote) :
    Verifies uid block data wait t r where
  refused other := absurd accepts other
  verified := written.trans ⟨fun held => ⟨accepts, held⟩, And.right⟩
  garbled answer member other := by
    cases r with
    | error e => exact ⟨e, rfl⟩
    | ok done =>
        obtain ⟨wrote, passes, rfl⟩ := written.mp rfl
        exact absurd (eq_of_writing_mem member ▸ passes) other
  differs answer member other := by
    cases r with
    | error e => exact ⟨e, rfl⟩
    | ok done =>
        obtain ⟨wrote, -, rfl⟩ := written.mp rfl
        exact absurd (eq_of_reading_mem member) other

end Verifies

end Writing

/-- A write succeeds when the tag holds what was written, and then only that has been said. -/
theorem writes_verified (config : Config) (uid : Octets 8) (block : UInt8) (data : Bytes) :
    (Tag.writeBlock block data).Assures ⟨config, some (.srx uid)⟩ fun t r d =>
      d = ⟨config, some (.srx uid)⟩ ∧ Verifies uid block data config.commandTimeout t r := by
  have body : (do
      let c ← Act.ofExcept (targetInfo (.srx uid))
      Act.ofExcept (Tag.checkBlock c block)
      let frame ← Act.ofExcept (writeBlock block data c.blockSize)
      Tag.commit c block data frame : Act Chip (Device .initiator) Unit).Assures
      ⟨config, some (.srx uid)⟩ fun t r d =>
        d = ⟨config, some (.srx uid)⟩ ∧ Verifies uid block data config.commandTimeout t r := by
    refine Act.assures_ofExcept_bind ?_ ?_
    · intro c found
      have known := targetInfo_eq_ok_iff.mp found
      refine Act.assures_ofExcept_bind ?_ ?_
      · rintro ⟨⟩ checked
        have contained := checkBlock_eq_ok_iff.mp checked
        refine Act.assures_ofExcept_bind ?_ ?_
        · intro frame built
          obtain ⟨sized, rfl⟩ := writeBlock_eq_ok_iff.mp built
          refine (Tag.assures_commit contained sized _).mono ?_
          rintro t r _ ⟨rfl, written⟩
          exact ⟨rfl, .of_accepts ⟨c, known, contained, sized⟩ written⟩
        · intro e refused
          refine ⟨rfl, .unsent ?_ e⟩
          rintro ⟨c', known', -, sized⟩
          cases known.symm.trans known'
          cases (writeBlock_eq_ok_iff.mpr ⟨sized, rfl⟩).symm.trans refused
      · intro e refused
        refine ⟨rfl, .unsent ?_ e⟩
        rintro ⟨c', known', contained, -⟩
        cases known.symm.trans known'
        cases (checkBlock_eq_ok_iff.mpr contained).symm.trans refused
    · intro e refused
      refine ⟨rfl, .unsent ?_ e⟩
      rintro ⟨c', known', -⟩
      cases (targetInfo_eq_ok_iff.mpr known').symm.trans refused
  exact body

/-- A tag in the field of an obliging chip stores each block that it is told without a word, and
gives it back when it is asked. -/
structure Stores {τ : Type} (h : Handler Chip τ) (memory : τ → UInt8 → Bytes) : Prop where
  obliging : Chip.Obliging h
  switches : ∀ switch on p, memory (h (.configure switch on) p).2 = memory p
  sleeps : ∀ wait p, ∃ p', h (.sleep wait) p = (false, p') ∧ memory p' = memory p
  writes : ∀ block data wait p, ∃ e p',
    h (.bytes (Crc.b.append ([0x09, block] ++ data)) wait) p = (.error e, p') ∧
      e.isTimeout = true ∧ memory p' block = data ∧
      ∀ other, other ≠ block → memory p' other = memory p other
  reads : ∀ block wait p, ∃ p',
    h (.bytes (Crc.b.append (Srx.readBlock block)) wait) p =
      (.ok (Crc.b.append (memory p block)), p') ∧ memory p' = memory p

section Completeness

open Act

variable {τ : Type} {h : Handler Chip τ} {memory : τ → UInt8 → Bytes} {block : UInt8}
  {data : Bytes} {c : ChipInfo} {n : Nat} {d : Device .initiator} {p : τ}

namespace Tag

theorem ends_sendSilent (stores : Stores h memory) (block : UInt8) (data : Bytes)
    (wait : Timeout) (n : Nat) (d : Device .initiator) (p : τ) :
    ∃ p', Ends h (sendSilent ([0x09, block] ++ data) wait) n d p (.ok ()) d p' ∧
      memory p' block = data ∧ ∀ other, other ≠ block → memory p' other = memory p other := by
  obtain ⟨e, p', answers, silent, stored, rest⟩ :=
    stores.writes block data wait (h (.configure .handleCrc false) p).2
  have told : Ends h (Chip.exchangeChecked .b ([0x09, block] ++ data) wait) n d
      (h (.configure .handleCrc false) p).2 (.error e) d p' := Chip.ends_exchangeChecked answers
  have forgiven := Chip.ends_silentAsNone told silent
  refine ⟨_, Chip.ends_withoutHardwareCrc stores.obliging (forgiven.bind (ends_pure ())), ?_, ?_⟩
  · rw [stores.switches]
    exact stored
  · intro other differs
    rw [stores.switches, rest other differs, stores.switches]

theorem ends_readBlockOf (stores : Stores h memory) (contained : c.contains block = true)
    (sized : (memory p block).length = c.blockSize.bytes) (n : Nat) (d : Device .initiator) :
    ∃ p', Ends h (readBlockOf c block) n d p (.ok (memory p block)) d p' ∧
      memory p' = memory p := by
  obtain ⟨p', answers, kept⟩ := stores.reads block d.config.commandTimeout
    (h (.configure .handleCrc false) p).2
  rw [stores.switches] at answers kept
  have read : Ends h (Chip.exchangeChecked .b (Srx.readBlock block) d.config.commandTimeout) n d
      (h (.configure .handleCrc false) p).2 (.ok (memory p block)) d p' := by
    have ends := Chip.ends_exchangeChecked (n := n) (s := d) answers
    rw [ok_bind, Crc.b.strip_append _ (ne_nil_of_size sized)] at ends
    exact ends
  have known : checkBlock c block = .ok () := checkBlock_eq_ok_iff.mpr contained
  have measured : requireExactLength (memory p block) c.blockSize.bytes = .ok () :=
    requireExactLength_eq_ok_iff.mpr sized
  refine ⟨(h (.configure .handleCrc true) p').2, ?_, (stores.switches _ _ _).trans kept⟩
  unfold readBlockOf
  rw [known]
  refine (ends_ofExcept _).bind (Device.ends_timeout.bind ?_)
  refine (Chip.ends_withoutHardwareCrc stores.obliging read).bind ?_
  rw [measured]
  exact (ends_ofExcept _).bind (ends_pure _)

end Tag

/-- A block reaches a tag that stores it, and nothing else is written. -/
theorem exists_written (stores : Stores h memory) {uid : Octets 8}
    (accepts : Accepts uid block data) (config : Config) (n : Nat) (p : τ) :
    ∃ p', Ends h (Tag.writeBlock block data) n ⟨config, some (.srx uid)⟩ p (.ok ())
        ⟨config, some (.srx uid)⟩ p' ∧
      memory p' block = data ∧ ∀ other, other ≠ block → memory p' other = memory p other := by
  obtain ⟨c, known, contained, sized⟩ := accepts
  have found : targetInfo (.srx uid) = .ok c := targetInfo_eq_ok_iff.mpr known
  have checked : Tag.checkBlock c block = .ok () := checkBlock_eq_ok_iff.mpr contained
  have built : writeBlock block data c.blockSize = .ok ([0x09, block] ++ data) :=
    writeBlock_eq_ok_iff.mpr ⟨sized, rfl⟩
  let d : Device .initiator := ⟨config, some (.srx uid)⟩
  obtain ⟨p₁, sent, stored, rest⟩ :=
    Tag.ends_sendSilent stores block data config.commandTimeout n d p
  obtain ⟨p₂, slept, same⟩ := stores.sleeps Tag.writeCycle p₁
  rw [← same] at stored rest
  obtain ⟨p₃, read, kept⟩ := Tag.ends_readBlockOf stores contained (stored.symm ▸ sized) n d
  rw [stored] at read
  rw [← kept] at stored rest
  refine ⟨p₃, ?_, stored, rest⟩
  have info : Ends h Tag.info n d p (.ok c) d p := by
    refine ends_get.bind ?_
    change Ends h (Act.ofExcept (targetInfo (.srx uid))) n d p (.ok c) d p
    rw [found]
    exact ends_ofExcept _
  refine info.bind ?_
  rw [checked, built]
  refine (ends_ofExcept _).bind ((ends_ofExcept _).bind (Device.ends_timeout.bind ?_))
  refine sent.bind (.bind (ends_request _ slept) (read.bind ?_))
  rw [if_neg (not_not_intro rfl)]
  exact ends_pure ()

/-- A tag with blocks of any size, alone in the field of a chip. -/
def keeping : Handler Chip (UInt8 → Bytes)
  | .bytes frame _, memory =>
    match Crc.b.strip frame with
    | .ok (0x09 :: block :: data) =>
      (.error .rfTimeout, fun other => if other = block then data else memory other)
    | .ok [0x08, block] => (.ok (Crc.b.append (memory block)), memory)
    | _ => (.error .rfTimeout, memory)
  | .bits .., memory => (.error .rfTimeout, memory)
  | .arm .., memory | .receive _, memory => (.error .rfTimeout, memory)
  | .configure .., memory | .send .., memory => (.ok (), memory)
  | .idle, memory | .abortPending, memory => (.ok (), memory)
  | .checkAbort, memory | .sleep _, memory => (false, memory)
  | .clearAbort, memory => ((), memory)

theorem stores_keeping : Stores keeping fun memory => memory where
  obliging _ _ _ := rfl
  switches _ _ _ := rfl
  sleeps _ memory := ⟨memory, rfl, rfl⟩
  writes block data wait memory := by
    have stripped := Crc.b.strip_append ([0x09, block] ++ data) (List.cons_ne_nil _ _)
    refine ⟨.rfTimeout, fun other => if other = block then data else memory other, ?_, rfl, ?_, ?_⟩
    · simp only [keeping, stripped]
      rfl
    · exact if_pos rfl
    · intro other differs
      exact if_neg differs
  reads block wait memory := by
    have stripped := Crc.b.strip_append (Srx.readBlock block) (List.cons_ne_nil _ _)
    refine ⟨memory, ?_, rfl⟩
    simp only [keeping, stripped]
    rfl

end Completeness

end Contactless.Srx
