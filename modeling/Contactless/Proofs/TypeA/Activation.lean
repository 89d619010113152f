import Contactless.Proofs.Loopback.Tag
import Contactless.Proofs.TypeA.Ats
import Contactless.TypeA.Activation

/-! Activation recovers the tag that a simulated chip emulates, and with a wanted identifier it does
so exactly when that is the identifier of the tag. The activator and the chip go through the cascade
side by side: at each level the groups before it are known to be those of the tag. -/
namespace Contactless.TypeA

open Loopback Act

section Parsing

theorem parseSak_delivered (sak : UInt8) : parseSak (delivered false [sak]).data = .ok sak := by
  have stripped := Crc.a.strip_append [sak] (List.cons_ne_nil sak [])
  obtain ⟨x, y, two⟩ : ∃ x y, Crc.a.append [sak] = [sak, x, y] := ⟨_, _, rfl⟩
  change parseSak (Crc.a.append [sak]) = .ok sak
  rw [two] at stripped ⊢
  unfold parseSak
  dsimp only
  rw [stripped]

theorem parseAts_delivered {ats : Bytes} (short : ats.length ≤ 254) :
    parseAts (delivered false (UInt8.ofNat (ats.length + 1) :: ats)).data = .ok ats := by
  have counted : (UInt8.ofNat (ats.length + 1)).toNat = ats.length + 1 := by
    rw [UInt8.toNat_ofNat']
    omega
  exact parseAts_checked counted

theorem readAtqa_ofBytes (atqa : Octets 2) :
    Activator.readAtqa (.ofBytes atqa.toList) = .ok atqa := by
  obtain ⟨data, length⟩ := atqa
  exact dif_pos (by rw [length])

theorem readGroup_ofBytes (chunk : Octets 5) :
    Activator.readGroup (.ofBytes chunk.toList) = .ok chunk := by
  have whole : (BitFrame.ofBytes chunk.toList).isWhole = true := by
    change (chunk.toList.length * 8 % 8 == 0) = true
    rw [Nat.mul_mod_left]
    rfl
  unfold Activator.readGroup
  rw [if_pos whole]
  exact dif_pos chunk.length_toList

theorem length_select (level : CascadeLevel) (chunk : Octets 5) :
    (TypeA.select level chunk).length = 9 := by
  rw [TypeA.select, Crc.length_append, List.length_append, chunk.length_toList]
  rfl

/-- The bit that asks for another level is never part of the last acknowledge. -/
theorem sakCascade_last (sak : UInt8) : sakCascade (sak &&& ~~~ 0x04) = false := by
  have cleared : (~~~ 0x04 &&& 0x04 : UInt8) = 0 := rfl
  unfold sakCascade
  rw [UInt8.and_assoc, cleared, UInt8.and_zero]
  rfl

theorem sakPart4_last (sak : UInt8) : sakPart4 (sak &&& ~~~ 0x04) = sakPart4 sak := by
  unfold sakPart4
  rw [UInt8.and_assoc]
  rfl

end Parsing

/-- What a type A target end is told to emulate. -/
structure Tag where
  atqa : Octets 2
  sak : UInt8
  uid : Uid
  ats : Bytes

def Tag.target (t : Tag) : Target := .typeA t.atqa t.sak t.uid t.ats

/-- The tag as an activation finds it: the cascade bit is never part of the last acknowledge, and an
answer to select is asked for only where it is announced. -/
def Tag.found (t : Tag) : Target :=
  .typeA t.atqa (t.sak &&& ~~~ 0x04) t.uid (if sakPart4 t.sak then t.ats else [])

/-- An action of an activator comes to an outcome while nobody else uses the field, and gives no
warning. The tag goes from one phase to another. -/
def Meets {α : Type} (p : Pair) (tag : Tag) (x : Act Chip Activator α) (n : Nat) (s : Activator)
    (phase : Phase) (r : Except Error α) (next : Phase) : Prop :=
  ∃ s', s'.warnings = s.warnings ∧
    Ends (Pair.alone .initiator) x n s (p.withTag tag.target phase) r s'
      (p.withTag tag.target next)

section Rules

variable {α β : Type} {p : Pair} {tag : Tag} {n : Nat} {s : Activator} {phase mid next : Phase}

theorem Meets.bind {x : Act Chip Activator α} {f : α → Act Chip Activator β} {a : α}
    {r : Except Error β} (first : Meets p tag x n s phase (.ok a) mid)
    (rest : ∀ s', s'.warnings = s.warnings → Meets p tag (f a) n s' mid r next) :
    Meets p tag (x >>= f) n s phase r next := by
  obtain ⟨s₁, same, ends⟩ := first
  obtain ⟨s₂, same', ends'⟩ := rest s₁ same
  exact ⟨s₂, same'.trans same, ends.bind ends'⟩

theorem Meets.bind_error {x : Act Chip Activator α} {f : α → Act Chip Activator β} {e : Error}
    (first : Meets p tag x n s phase (.error e) next) :
    Meets p tag (x >>= f) n s phase (.error e) next := by
  obtain ⟨s₁, same, ends⟩ := first
  exact ⟨s₁, same, ends.bind_error⟩

theorem meets_pure (a : α) : Meets p tag (pure a) n s phase (.ok a) phase :=
  ⟨s, rfl, ends_pure a⟩

theorem meets_get : Meets p tag get n s phase (.ok s) phase := ⟨s, rfl, ends_get⟩

theorem meets_ofExcept (r : Except Error α) : Meets p tag (Act.ofExcept r) n s phase r phase :=
  ⟨s, rfl, ends_ofExcept r⟩

theorem meets_throw (e : Error) :
    Meets p tag (throw e : Act Chip Activator α) n s phase (.error e) phase :=
  ⟨s, rfl, ends_throw e⟩

theorem meets_modify {f : Activator → Activator} (quiet : (f s).warnings = s.warnings) :
    Meets p tag (modify f) n s phase (.ok ⟨⟩) phase :=
  ⟨f s, quiet, ends_modify f⟩

theorem Meets.attempt {x : Act Chip Activator α} {r : Except Error α}
    (meets : Meets p tag x n s phase r next) :
    Meets p tag (Act.attempt x) n s phase (.ok r) next := by
  obtain ⟨s₁, same, ends⟩ := meets
  exact ⟨s₁, same, ends.attempt⟩

theorem meets_bits {frame reply : BitFrame} {wait : Timeout}
    (short : frame.byteLength ≤ Chip.frameLimit)
    (reacts : (Armed.mk tag.target phase).react frame false = (.reply reply, ⟨tag.target, next⟩)) :
    Meets p tag (Chip.exchangeFrame frame wait) n s phase (.ok reply) next :=
  ⟨s, rfl, ends_bits short (offer_reply reacts)⟩

theorem meets_bytes {data : Bytes} {reply : BitFrame} {wait : Timeout} (nonempty : ¬ data.isEmpty)
    (short : data.length ≤ Chip.frameLimit)
    (reacts : (Armed.mk tag.target phase).react (.ofBytes data) false =
      (.reply reply, ⟨tag.target, next⟩)) :
    Meets p tag (Chip.exchangeBytes data wait) n s phase (.ok reply.data) next :=
  ⟨s, rfl, ends_bytes nonempty short (offer_reply reacts)⟩

theorem meets_silence {data : Bytes} {wait : Timeout} (nonempty : ¬ data.isEmpty)
    (short : data.length ≤ Chip.frameLimit)
    (reacts : (Armed.mk tag.target phase).react (.ofBytes data) false =
      (.silent, ⟨tag.target, next⟩)) :
    Meets p tag (Chip.exchangeBytes data wait) n s phase (.error .rfTimeout) next :=
  ⟨s, rfl, ends_bytes nonempty short (offer_silent reacts)⟩

end Rules

section Frames

variable {p : Pair} {tag : Tag} {phase : Phase} {n i : Nat} {s : Activator}
  {level : CascadeLevel} {chunk : Octets 5}

theorem meets_wake (hears : s.wakeup = .wupa ∨ phase ≠ .halted) :
    Meets p tag Activator.wake n s phase (.ok tag.atqa) (.ready 0) := by
  refine ⟨{ s with stage := .requested }, rfl, (ends_modify _).bind (ends_get.bind
    (.bind (ends_bits ?_ (offer_reply (react_wake hears))) ?_))⟩
  · cases s.wakeup <;> decide
  · rw [readAtqa_ofBytes]
    exact ends_ofExcept _

theorem meets_rats (given : tag.ats ≠ []) (short : tag.ats.length ≤ 254) :
    Meets p tag Activator.rats n s .selected (.ok tag.ats) .active := by
  have fits : 4 ≤ Chip.frameLimit := by decide
  refine meets_get.bind fun _ _ => .bind (meets_bytes Bool.false_ne_true fits
    (react_rats s.ratsParam given short)) fun _ _ => ?_
  rw [parseAts_delivered short]
  exact meets_ofExcept _

variable (known : CascadeLevel.ofIndex? i = some level) (found : tag.uid.groups[i]? = some chunk)
include known found

theorem meets_anticollision :
    Meets p tag (Activator.anticollision level) n s (.ready i) (.ok chunk) (.ready i) := by
  have right : checkBcc chunk = .valid :=
    checkBcc_cascadeGroups tag.uid.bytes (List.mem_of_getElem? found)
  have fits : 2 ≤ Chip.frameLimit := by decide
  refine (meets_modify rfl).bind fun _ _ => meets_get.bind fun _ _ =>
    .bind (meets_bits fits (react_anticollision known found)) fun _ _ => ?_
  rw [readGroup_ofBytes]
  refine (meets_ofExcept _).bind fun _ _ => ?_
  rw [right]
  exact (meets_pure _).bind fun _ _ => meets_pure chunk

/-- The tag answers its own group, with the last acknowledge or with the cascade bit. -/
theorem meets_select :
    Meets p tag (Activator.select level chunk) n s (.ready i)
      (.ok (if i + 1 = tag.uid.groups.length then tag.sak &&& ~~~ 0x04 else 0x04))
      (if i + 1 = tag.uid.groups.length then .selected else .ready (i + 1)) := by
  have answers {sak : UInt8} {next : Phase}
      (reacts : (Armed.mk tag.target (.ready i)).react (.ofBytes (TypeA.select level chunk)) false =
        (.reply (delivered false [sak]), ⟨tag.target, next⟩)) :
      Meets p tag (Activator.select level chunk) n s (.ready i) (.ok sak) next := by
    refine meets_get.bind fun _ _ => .bind (meets_bytes Bool.false_ne_true
      (by rw [length_select]; decide) reacts) fun _ _ => ?_
    rw [parseSak_delivered]
    exact meets_ofExcept _
  have reacts := react_select known found tag.atqa tag.sak tag.ats chunk
  rw [if_pos rfl] at reacts
  by_cases last : i + 1 = tag.uid.groups.length
  · rw [if_pos last] at reacts
    rw [if_pos last, if_pos last]
    exact answers reacts
  · rw [if_neg last] at reacts
    rw [if_neg last, if_neg last]
    exact answers reacts

theorem meets_select_other {other : Octets 5} (differs : other ≠ chunk) :
    Meets p tag (Activator.select level other) n s (.ready i) (.error .rfTimeout) (.ready i) := by
  have reacts := react_select known found tag.atqa tag.sak tag.ats other
  rw [if_neg differs] at reacts
  exact meets_get.bind fun _ _ => .bind_error (meets_silence Bool.false_ne_true
    (by rw [length_select]; decide) reacts)

end Frames

section Levels

variable {p : Pair} {tag : Tag} {n i : Nat} {s : Activator} {level : CascadeLevel}
  {chunk : Octets 5} {wanted : Option (List (Octets 5))} {resolved : Bytes}

/-- At a position of the cascade no other group is wanted than that of the tag. -/
def Agrees (wanted : Option (List (Octets 5))) (tag : Tag) (i : Nat) : Prop :=
  ∀ chunks, wanted = some chunks → chunks[i]? = tag.uid.groups[i]?

theorem index_eq (known : CascadeLevel.ofIndex? i = some level) : level.index = i := by
  match i, known with
  | 0, rfl => rfl
  | 1, rfl => rfl
  | 2, rfl => rfl

theorem drop_levels (h : i < 3) :
    ∃ level, CascadeLevel.ofIndex? i = some level ∧
      [CascadeLevel.one, .two, .three].drop i =
        level :: [CascadeLevel.one, .two, .three].drop (i + 1) := by
  match i, h with
  | 0, _ => exact ⟨.one, rfl, rfl⟩
  | 1, _ => exact ⟨.two, rfl, rfl⟩
  | 2, _ => exact ⟨.three, rfl, rfl⟩

variable (known : CascadeLevel.ofIndex? i = some level) (found : tag.uid.groups[i]? = some chunk)
include known found

theorem meets_groupAt (agrees : Agrees wanted tag i) :
    Meets p tag (Activator.groupAt wanted level) n s (.ready i) (.ok chunk) (.ready i) := by
  cases wanted with
  | none => exact meets_anticollision known found
  | some chunks =>
      unfold Activator.groupAt
      dsimp only
      rw [index_eq known, agrees chunks rfl, found]
      exact meets_pure chunk

theorem meets_resolveLevel_cascade (agrees : Agrees wanted tag i)
    (more : i + 1 < tag.uid.groups.length) :
    Meets p tag (Activator.resolveLevel wanted level resolved) n s (.ready i)
      (.ok (.cascade (resolved ++ (chunk.toList.drop 1).take 3))) (.ready (i + 1)) := by
  have tagged : ¬ groupHead chunk ≠ cascadeTag :=
    not_not_intro (groupHead_cascadeGroups tag.uid.bytes found more)
  have announced : sakCascade 0x04 = true := rfl
  refine (meets_modify rfl).bind fun _ _ => (meets_groupAt known found agrees).bind fun s₂ _ => ?_
  have selects := meets_select (p := p) (n := n) (s := s₂) known found
  rw [if_neg (Nat.ne_of_lt more), if_neg (Nat.ne_of_lt more)] at selects
  refine selects.bind fun _ _ => (meets_modify rfl).bind fun _ _ => ?_
  rw [if_pos announced, if_neg tagged]
  exact (meets_pure _).bind fun _ _ => meets_pure _

/-- The last level, where the number of wanted groups is held against that of the tag. -/
theorem meets_resolveLevel_last (agrees : Agrees wanted tag i)
    (last : i + 1 = tag.uid.groups.length) :
    Meets p tag (Activator.resolveLevel wanted level resolved) n s (.ready i)
      ((Activator.checkComplete wanted level).map fun _ =>
        .complete (resolved ++ chunk.toList.take 4) (tag.sak &&& ~~~ 0x04)) .selected := by
  refine (meets_modify rfl).bind fun _ _ => (meets_groupAt known found agrees).bind fun s₂ _ => ?_
  have selects := meets_select (p := p) (n := n) (s := s₂) known found
  rw [if_pos last, if_pos last] at selects
  refine selects.bind fun _ _ => (meets_modify rfl).bind fun _ _ => ?_
  rw [if_neg (by rw [sakCascade_last]; exact Bool.false_ne_true)]
  cases Activator.checkComplete wanted level with
  | error e => exact .bind_error (meets_ofExcept _)
  | ok done => exact (meets_ofExcept _).bind fun _ _ => meets_pure _

/-- Another group than that of the tag, or none, is not resolved. -/
theorem fails_resolveLevel {chunks : List (Octets 5)} (differs : chunks[i]? ≠ some chunk) :
    ∃ e, Meets p tag (Activator.resolveLevel (some chunks) level resolved) n s (.ready i)
      (.error e) (.ready i) := by
  cases given : chunks[i]? with
  | none =>
      have beyond : ∃ e, Activator.groupAt (some chunks) level = throw e := by
        unfold Activator.groupAt
        dsimp only
        rw [index_eq known, given]
        exact ⟨_, rfl⟩
      obtain ⟨e, thrown⟩ := beyond
      refine ⟨e, (meets_modify rfl).bind fun _ _ => .bind_error ?_⟩
      rw [thrown]
      exact meets_throw e
  | some other =>
      have wrong : other ≠ chunk := fun same => differs (given.trans (congrArg some same))
      refine ⟨_, (meets_modify rfl).bind fun _ _ => .bind ?_ fun _ _ =>
        .bind_error (meets_select_other known found wrong)⟩
      unfold Activator.groupAt
      dsimp only
      rw [index_eq known, given]
      exact meets_pure other

end Levels

section Cascades

variable {p : Pair} {tag : Tag} {n : Nat} {wanted : Option (List (Octets 5))}

/-- From any level on, the groups that are left give the rest of the identifier. -/
theorem meets_resolve (fits : wanted = none ∨ wanted = some tag.uid.groups) (i : Nat)
    (inside : i < tag.uid.groups.length) (s : Activator) (resolved : Bytes) :
    Meets p tag (Activator.resolve wanted ([CascadeLevel.one, .two, .three].drop i) resolved) n s
      (.ready i) (.ok (resolved ++ uidOfGroups (tag.uid.groups.drop i), tag.sak &&& ~~~ 0x04))
      .selected := by
  obtain ⟨level, known, levels⟩ := drop_levels (Nat.lt_of_lt_of_le inside tag.uid.length_groups.2)
  have found := List.getElem?_eq_getElem inside
  have agrees : Agrees wanted tag i := by
    rintro chunks rfl
    rcases fits with none | some
    · cases none
    · rw [Option.some.inj some]
  rw [levels, List.drop_eq_getElem_cons inside]
  unfold Activator.resolve
  by_cases last : i + 1 = tag.uid.groups.length
  · have complete : Activator.checkComplete wanted level = .ok () := by
      rcases fits with rfl | rfl
      · rfl
      · exact if_pos (by rw [index_eq known, last])
    have level : Meets p tag (Activator.resolveLevel wanted level resolved) n s (.ready i) _
        .selected := meets_resolveLevel_last known found agrees last
    rw [complete] at level
    rw [List.drop_eq_nil_of_le (Nat.le_of_eq last.symm)]
    exact level.bind fun _ _ => meets_pure _
  · have more : i + 1 < tag.uid.groups.length := by omega
    refine (meets_resolveLevel_cascade known found agrees more).bind fun s' _ => ?_
    have rest := meets_resolve fits (i + 1) more s'
      (resolved ++ (tag.uid.groups[i].toList.drop 1).take 3)
    rw [List.append_assoc] at rest
    rw [List.drop_eq_getElem_cons more] at rest ⊢
    exact rest
termination_by tag.uid.groups.length - i

/-- A wanted identifier that parts from that of the tag at some level or later is not resolved. -/
theorem fails_resolve {chunks : List (Octets 5)} (i : Nat) (inside : i < tag.uid.groups.length)
    (differs : chunks.drop i ≠ tag.uid.groups.drop i) (s : Activator) (resolved : Bytes) :
    ∃ e next, Meets p tag (Activator.resolve (some chunks)
      ([CascadeLevel.one, .two, .three].drop i) resolved) n s (.ready i) (.error e) next := by
  obtain ⟨level, known, levels⟩ := drop_levels (Nat.lt_of_lt_of_le inside tag.uid.length_groups.2)
  have found := List.getElem?_eq_getElem inside
  rw [levels]
  unfold Activator.resolve
  by_cases same : chunks[i]? = some tag.uid.groups[i]
  · have agrees : Agrees (some chunks) tag i := by
      intro others equal
      rw [← Option.some.inj equal]
      exact same.trans found.symm
    have later : chunks.drop (i + 1) ≠ tag.uid.groups.drop (i + 1) := by
      intro equal
      obtain ⟨reaches, first⟩ := List.getElem?_eq_some_iff.mp same
      refine differs ?_
      rw [List.drop_eq_getElem_cons reaches, List.drop_eq_getElem_cons inside, first, equal]
    by_cases last : i + 1 = tag.uid.groups.length
    · have incomplete : ∃ e, Activator.checkComplete (some chunks) level = .error e := by
        refine ⟨_, if_neg fun complete => later ?_⟩
        rw [index_eq known] at complete
        rw [List.drop_eq_nil_of_le (Nat.le_of_eq complete),
          List.drop_eq_nil_of_le (Nat.le_of_eq last.symm)]
      obtain ⟨e, refused⟩ := incomplete
      have level : Meets p tag (Activator.resolveLevel (some chunks) level resolved) n s
          (.ready i) _ .selected := meets_resolveLevel_last known found agrees last
      rw [refused] at level
      exact ⟨e, _, .bind_error level⟩
    · have more : i + 1 < tag.uid.groups.length := by omega
      have first : Meets p tag (Activator.resolveLevel (some chunks) level resolved) n s
          (.ready i) _ (.ready (i + 1)) := meets_resolveLevel_cascade known found agrees more
      obtain ⟨s₁, quiet, first⟩ := first
      obtain ⟨e, next, s₂, still, rest⟩ := fails_resolve (i + 1) more later s₁
        (resolved ++ (tag.uid.groups[i].toList.drop 1).take 3)
      exact ⟨e, next, s₂, still.trans quiet, first.bind rest⟩
  · obtain ⟨e, fails⟩ := fails_resolveLevel known found same
    exact ⟨e, _, .bind_error fails⟩
termination_by tag.uid.groups.length - i

end Cascades

section Identify

variable {p : Pair} {tag : Tag} {phase : Phase} {n : Nat} {s : Activator} {wanted : Option Uid}

def Tag.reached (t : Tag) : Phase := if sakPart4 t.sak then .active else .selected

theorem ofBytes_bytes (u : Uid) : Uid.ofBytes u.bytes = .ok u := dif_pos u.size

theorem meets_finish (quiet : s.warnings = []) (atqa : Octets 2) (sak : UInt8) (ats : Bytes) :
    Meets p tag (do
        let uid ← Act.ofExcept (Uid.ofBytes tag.uid.bytes)
        Activator.enter .activated
        modifyGet fun a => ((⟨.typeA atqa sak uid ats, a.warnings⟩ : Activation),
          { a with warnings := [] }))
      n s phase (.ok ⟨.typeA atqa sak tag.uid ats, []⟩) phase := by
  rw [ofBytes_bytes]
  refine (meets_ofExcept _).bind fun s₁ same₁ => (meets_modify rfl).bind fun s₂ same₂ => ?_
  have still : s₂.warnings = [] := by
    rw [same₂, same₁, quiet]
  refine ⟨{ s₂ with warnings := [] }, still.symm, ?_⟩
  have ends := ends_modifyGet (h := Pair.alone .initiator) (n := n) (s := s₂)
    (p := p.withTag tag.target phase)
    fun a : Activator => ((⟨.typeA atqa sak tag.uid ats, a.warnings⟩ : Activation),
      { a with warnings := [] })
  dsimp only at ends
  rw [still] at ends
  exact ends

/-- The answer to select is asked for where the last acknowledge announces it. -/
theorem meets_identify (fits : wanted = none ∨ wanted = some tag.uid)
    (given : sakPart4 tag.sak → tag.ats ≠ []) (short : tag.ats.length ≤ 254)
    (quiet : s.warnings = []) :
    Meets p tag (Activator.identify wanted tag.atqa) n s (.ready 0) (.ok ⟨tag.found, []⟩)
      tag.reached := by
  have groups : wanted.map Uid.groups = none ∨ wanted.map Uid.groups = some tag.uid.groups := by
    rcases fits with rfl | rfl
    · exact .inl rfl
    · exact .inr rfl
  have cascade := meets_resolve (p := p) (n := n) groups 0 tag.uid.length_groups.1 s []
  rw [List.drop_zero, List.drop_zero, List.nil_append, tag.uid.uidOfGroups_groups] at cascade
  refine cascade.bind fun s₁ same₁ => ?_
  dsimp only
  unfold Tag.found Tag.reached
  rw [sakPart4_last]
  by_cases announced : sakPart4 tag.sak
  · rw [if_pos announced, if_pos announced, if_pos announced]
    refine (meets_modify rfl).bind fun s₂ same₂ =>
      (meets_rats (given announced) short).bind fun s₃ same₃ => ?_
    exact meets_finish (by rw [same₃, same₂, same₁, quiet]) _ _ _
  · rw [if_neg announced, if_neg announced, if_neg announced]
    exact (meets_pure _).bind fun s₂ same₂ =>
      meets_finish (by rw [same₂, same₁, quiet]) _ _ _

/-- The groups of two identifiers part somewhere, even where one of them starts with the cascade
tag. -/
theorem fails_identify {u : Uid} (differs : u ≠ tag.uid) (atqa : Octets 2) :
    ∃ e next, Meets p tag (Activator.identify (some u) atqa) n s (.ready 0) (.error e) next := by
  have parted : u.groups.drop 0 ≠ tag.uid.groups.drop 0 :=
    fun same => differs (Uid.groups_injective u same)
  obtain ⟨e, next, fails⟩ := fails_resolve (p := p) (n := n) 0 tag.uid.length_groups.1 parted s []
  exact ⟨e, next, .bind_error fails⟩

end Identify

section Activate

variable {p : Pair} {t : Tag} {phase next : Phase} {n : Nat} {a : Activator}
  {wanted : Option Uid}

/-- A woken tag is identified with no warning left from before. -/
theorem ends_attempt (hears : a.wakeup = .wupa ∨ phase ≠ .halted) (wanted : Option Uid) :
    ∃ s : Activator, s.warnings = [] ∧ ∀ r next,
      Meets p t (Activator.identify wanted t.atqa) n s (.ready 0) r next →
      ∃ a', Ends (Pair.alone .initiator) (Activator.attempt wanted) n a
        (p.withTag t.target phase) (r.map some) a' (p.withTag t.target next) := by
  have wakes : Meets p t Activator.wake n a.reset phase (.ok t.atqa) (.ready 0) :=
    meets_wake hears
  obtain ⟨s, quiet, woken⟩ := wakes.attempt
  refine ⟨s, quiet, fun r next identifies => ?_⟩
  obtain ⟨a', _, identified⟩ := identifies
  refine ⟨a', (ends_modify _).bind (woken.bind ?_)⟩
  cases r with
  | ok found => exact identified.bind (ends_pure _)
  | error e => exact identified.bind_error

/-- The framing is given back to the chip whatever the outcome. -/
theorem ends_withRawFraming {α : Type} {x : Act Chip Activator α} {r : Except Error α}
    {a' : Activator} (free : p.initiator.aborted = false)
    (placed : p.field.presence = .armed ⟨t.target, phase⟩)
    (ends : Ends (Pair.alone .initiator) x n a (p.withTag t.target phase) r a'
      (p.withTag t.target next)) :
    Ends (Pair.alone .initiator) (Chip.withRawFraming x) n a p r a'
      { p.withTag t.target next with initiator := ⟨false, true⟩ } := by
  have raw : Ends (Pair.alone .initiator) (Chip.configure .handleCrc false) n a p (.ok ()) a
      (p.withTag t.target phase) := by
    refine ends_request _ ?_
    obtain ⟨⟨presence, toTarget, toInitiator⟩, ⟨aborted, handleCrc⟩, target⟩ := p
    dsimp only at free placed
    rw [free, placed]
    rfl
  have restored : Ends (Pair.alone .initiator) Chip.restoreFraming n a'
      (p.withTag t.target next) (.ok ()) a'
      { p.withTag t.target next with initiator := ⟨false, true⟩ } :=
    .bind (ends_request _ rfl) (ends_request _ rfl)
  refine raw.bind (.bind (ends_request _ rfl) (ends.attempt.bind (restored.attempt.bind ?_)))
  cases r with
  | ok found => exact ends_ofExcept _
  | error e => exact ends_ofExcept _

/-- An activation without a wanted identifier finds the tag, whatever the phase of its chip, if only
the wake-up is one that it answers there. A wanted identifier is found if and only if it is that of
the tag. -/
theorem activate_armed (given : sakPart4 t.sak → t.ats ≠ []) (short : t.ats.length ≤ 254)
    (hears : a.wakeup = .wupa ∨ phase ≠ .halted) (free : p.initiator.aborted = false)
    (placed : p.field.presence = .armed ⟨t.target, phase⟩) (n : Nat) :
    (∃ a' p', Ends (Pair.alone .initiator) (Activator.activate none) n a p
      (.ok (some ⟨t.found, []⟩)) a' p') ∧
    ∀ u : Uid,
      (u = t.uid → ∃ a' p', Ends (Pair.alone .initiator) (Activator.activate (some u)) n a p
        (.ok (some ⟨t.found, []⟩)) a' p') ∧
      (u ≠ t.uid → ∃ e a' p', Ends (Pair.alone .initiator) (Activator.activate (some u)) n a p
        (.error e) a' p') := by
  have finds {wanted : Option Uid} (fits : wanted = none ∨ wanted = some t.uid) :
      ∃ a' p', Ends (Pair.alone .initiator) (Activator.activate wanted) n a p
        (.ok (some ⟨t.found, []⟩)) a' p' := by
    obtain ⟨s, quiet, ends⟩ := ends_attempt (p := p) (t := t) (n := n) hears wanted
    obtain ⟨a', attempted⟩ := ends _ _ (meets_identify fits given short quiet)
    exact ⟨a', _, ends_withRawFraming free placed attempted⟩
  refine ⟨finds (.inl rfl), fun u => ⟨?_, fun differs => ?_⟩⟩
  · rintro rfl
    exact finds (.inr rfl)
  · obtain ⟨s, _, ends⟩ := ends_attempt (p := p) (t := t) (n := n) hears (some u)
    obtain ⟨e, next, fails⟩ := fails_identify (p := p) (n := n) (s := s) differs t.atqa
    obtain ⟨a', attempted⟩ := ends _ _ fails
    exact ⟨e, a', _, ends_withRawFraming free placed attempted⟩

/-- Four identifier bytes that read like the first group of a longer identifier. -/
def ambiguousTag : Tag :=
  ⟨⟨[0x04, 0x00], rfl⟩, 0x24, ⟨[0x88, 0x04, 0x05, 0x06], .inl rfl⟩, [0x78]⟩

def longerUid : Uid := ⟨[0x04, 0x05, 0x06, 0x07, 0x08, 0x09, 0x0a], .inr (.inl rfl)⟩

def ambiguousPair : Pair := { field := { presence := .armed ⟨ambiguousTag.target, .active⟩ } }

theorem activate_armed_ambiguous :
    longerUid.groups.head? = ambiguousTag.uid.groups.head? ∧
      (∃ a' p', Ends (Pair.alone .initiator) (Activator.activate (some ambiguousTag.uid)) 0
        (Activator.ofConfig { wakeup := .reqa }) ambiguousPair
        (.ok (some ⟨.typeA ambiguousTag.atqa 0x20 ambiguousTag.uid [0x78], []⟩)) a' p') ∧
      ∃ e a' p', Ends (Pair.alone .initiator) (Activator.activate (some longerUid)) 0
        (Activator.ofConfig { wakeup := .reqa }) ambiguousPair (.error e) a' p' := by
  have sample := activate_armed (p := ambiguousPair) (t := ambiguousTag)
    (a := Activator.ofConfig { wakeup := .reqa }) (by decide) (by decide) (.inr (by decide)) rfl
    rfl 0
  exact ⟨by decide, (sample.2 ambiguousTag.uid).1 rfl, (sample.2 longerUid).2 (by decide)⟩

end Activate

end Contactless.TypeA
