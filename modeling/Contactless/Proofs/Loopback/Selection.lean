import Contactless.Proofs.Loopback.Tag
import Mathlib.Data.List.Forall2
import Mathlib.Data.List.Induction

/-!
What was sent to the chip of an emulated type A tag before it gave a frame to its host: since the
wake-up that the chip answered last, a request to select for each group of its identifier. A chip
that was told to halt hears the stronger wake-up only.
-/
namespace Contactless

/-- The levels at which an identifier is selected, each with its group. -/
def Uid.places (u : Uid) : List (CascadeLevel × Octets 5) :=
  [CascadeLevel.one, .two, .three].zip u.groups

theorem Uid.length_places (u : Uid) : u.places.length = u.groups.length := by
  rw [places, List.length_zip]
  exact Nat.min_eq_right u.length_groups.2

namespace Loopback

open TypeA (haltBody nvbSelect reqa wupa)

theorem Armed.groupAt_eq (uid : Uid) (i : Nat) : groupAt uid i = uid.places[i]? := by
  have level : CascadeLevel.ofIndex? i = [CascadeLevel.one, .two, .three][i]? := by
    match i with
    | 0 | 1 | 2 | _ + 3 => rfl
  unfold groupAt Uid.places
  rw [level, List.zip, List.getElem?_zipWith]
  cases [CascadeLevel.one, .two, .three][i]? <;> cases uid.groups[i]? <;> rfl

/-- A frame of an initiator, whose chip handles checks or does not. -/
structure Sent where
  frame : BitFrame
  handleCrc : Bool

/-- A frame that starts with the request to select a group. -/
def Sent.Selects (s : Sent) (place : CascadeLevel × Octets 5) : Prop :=
  [place.1.sel, nvbSelect] ++ place.2.toList <+: s.frame.data

/-- Some of the frames sent, one for each place and in the order of the places, select its group. -/
def Selected (places : List (CascadeLevel × Octets 5)) (sent : List Sent) : Prop :=
  ∃ chosen, chosen.Sublist sent ∧ List.Forall₂ Sent.Selects chosen places

theorem selected_nil (sent : List Sent) : Selected [] sent := ⟨[], List.nil_sublist sent, .nil⟩

section Selected

variable {places : List (CascadeLevel × Octets 5)} {sent : List Sent}

theorem Selected.append (selected : Selected places sent) (s : Sent) :
    Selected places (sent ++ [s]) := by
  obtain ⟨chosen, among, each⟩ := selected
  exact ⟨chosen, among.trans (List.sublist_append_left sent [s]), each⟩

/-- One more frame, at the first place that was open. -/
theorem Selected.climb {n : Nat} {place : CascadeLevel × Octets 5} {s : Sent}
    (selected : Selected (places.take n) sent) (here : places[n]? = some place)
    (selects : s.Selects place) : Selected (places.take (n + 1)) (sent ++ [s]) := by
  obtain ⟨chosen, among, each⟩ := selected
  rw [List.take_add_one, here]
  exact ⟨chosen ++ [s], among.append (List.Sublist.refl [s]),
    List.rel_append each (.cons selects .nil)⟩

end Selected

namespace Armed

/-- The chip after frames of an initiator. -/
def after (a : Armed) (sent : List Sent) : Armed :=
  sent.foldl (fun a s => (a.react s.frame s.handleCrc).2) a

@[simp]
theorem after_nil (a : Armed) : a.after [] = a := rfl

@[simp]
theorem after_append (a : Armed) (sent more : List Sent) :
    a.after (sent ++ more) = (a.after sent).after more := List.foldl_append

@[simp]
theorem after_cons (a : Armed) (s : Sent) (sent : List Sent) :
    a.after (s :: sent) = (a.react s.frame s.handleCrc).2.after sent := rfl

theorem eq_of_parts {a : Armed} {target : Target} {phase : Phase} (same : a.target = target)
    (here : a.phase = phase) : a = ⟨target, phase⟩ := by
  rw [← same, ← here]

/-- A wake-up that the chip answers. -/
def Wakes (a : Armed) (s : Sent) : Prop :=
  (s.frame = reqa ∨ s.frame = wupa) ∧ ∃ reply, (a.react s.frame s.handleCrc).1 = .reply reply

/-- All that was sent after the last wake-up that the chip answered. -/
def SinceWoken (a : Armed) (sent later : List Sent) : Prop :=
  ∃ before call, sent = before ++ call :: later ∧ (a.after before).Wakes call ∧
    ∀ u again v, later = u ++ again :: v → ¬ (a.after (before ++ call :: u)).Wakes again

section SinceWoken

variable {a : Armed} {sent later : List Sent} {s : Sent}

theorem sinceWoken_of_wakes (wakes : (a.after sent).Wakes s) : a.SinceWoken (sent ++ [s]) [] :=
  ⟨sent, s, rfl, wakes, fun u _ _ split => by cases u <;> cases split⟩

theorem SinceWoken.append (since : a.SinceWoken sent later) (still : ¬ (a.after sent).Wakes s) :
    a.SinceWoken (sent ++ [s]) (later ++ [s]) := by
  obtain ⟨before, call, rfl, wakes, quiet⟩ := since
  refine ⟨before, call, by simp only [List.append_assoc, List.cons_append], wakes, ?_⟩
  intro u again v split
  -- The frame in question is the new one, or it stood among the others already.
  rcases List.eq_nil_or_concat v with rfl | ⟨v, last, rfl⟩
  · obtain ⟨rfl, same⟩ := List.append_inj' split rfl
    cases same
    exact still
  · have inside : later ++ [s] = (u ++ again :: v) ++ [last] := by
      simpa only [List.concat_eq_append, List.append_assoc, List.cons_append] using split
    exact quiet u again v (List.append_inj' inside rfl).1

end SinceWoken

end Armed

section Reactions

variable {atqa : Octets 2} {sak : UInt8} {uid : Uid} {ats : Bytes} {phase : Phase}

/-- Frames that are no wake-up, in each phase. -/
theorem react_long {frame : BitFrame} (long : frame.bits ≠ 7) (handleCrc : Bool) :
    (Armed.mk (.typeA atqa sak uid ats) phase).react frame handleCrc =
      match phase with
      | .waiting | .halted => (.silent, ⟨.typeA atqa sak uid ats, phase⟩)
      | .active =>
        (.forward (hostPart handleCrc frame.data), ⟨.typeA atqa sak uid ats, .active⟩)
      | .ready i =>
        (Armed.mk (.typeA atqa sak uid ats) (.ready i)).cascade sak uid i frame.data handleCrc
      | .selected =>
        (Armed.mk (.typeA atqa sak uid ats) .selected).firstFrame ats frame.data handleCrc := by
  unfold Armed.react
  dsimp only
  rw [if_neg long]
  cases phase <;> rfl

/-- A frame of seven bits is the short frame of its only byte. -/
theorem eq_of_seven {frame known : BitFrame} (seven : frame.bits = 7) (also : known.bits = 7)
    (same : frame.data.head?.getD 0 = known.data.head?.getD 0) : frame = known := by
  have one : frame.data.length = 1 := by rw [frame.length_data, seven]
  have other : known.data.length = 1 := by rw [known.length_data, also]
  obtain ⟨b, only⟩ := List.length_eq_one_iff.mp one
  obtain ⟨c, single⟩ := List.length_eq_one_iff.mp other
  rw [only, single] at same
  cases frame
  cases known
  simp_all

/-- Of the short frames only the two wake-ups are answered. -/
theorem react_short (frame : BitFrame) (short : frame.bits = 7) (handleCrc : Bool) :
    ((frame = wupa ∨ (frame = reqa ∧ phase ≠ .halted)) ∧
      (Armed.mk (.typeA atqa sak uid ats) phase).react frame handleCrc =
        (.reply (.ofBytes atqa.toList), ⟨.typeA atqa sak uid ats, .ready 0⟩)) ∨
    (Armed.mk (.typeA atqa sak uid ats) phase).react frame handleCrc =
      (.silent, ⟨.typeA atqa sak uid ats, phase⟩) := by
  unfold Armed.react Armed.wake
  dsimp only
  rw [if_pos short]
  split
  · rename_i wakes
    refine .inl ⟨wakes.imp (eq_of_seven short rfl) ?_, rfl⟩
    exact fun known => ⟨eq_of_seven short rfl known.1, known.2⟩
  · exact .inr rfl

end Reactions

/-- All that a frame does to the chip of a type A tag when it does not wake it. -/
inductive Goes (a : Armed) (uid : Uid) (s : Sent) : Reaction × Armed → Prop
  | ignored : Goes a uid s (.silent, a)
  | resolved (reply : BitFrame) : Goes a uid s (.reply reply, a)
  | climbed {n : Nat} {place : CascadeLevel × Octets 5} (reply : BitFrame)
      (ready : a.phase = .ready n) (here : uid.places[n]? = some place)
      (selects : s.Selects place) (more : n + 1 < uid.places.length) :
      Goes a uid s (.reply reply, { a with phase := .ready (n + 1) })
  | selected {n : Nat} {place : CascadeLevel × Octets 5} (reply : BitFrame)
      (ready : a.phase = .ready n) (here : uid.places[n]? = some place)
      (selects : s.Selects place) (last : n + 1 = uid.places.length) :
      Goes a uid s (.reply reply, { a with phase := .selected })
  | answered (reply : BitFrame) (chosen : a.phase = .selected) :
      Goes a uid s (.reply reply, { a with phase := .active })
  | refused (e : Error) : Goes a uid s (.failure e, a)
  | halted (chosen : a.phase = .selected) : Goes a uid s (.silent, { a with phase := .halted })
  | forwarded (data : Bytes) (chosen : a.phase = .selected ∨ a.phase = .active) :
      Goes a uid s (.forward data, { a with phase := .active })

section Goes

variable {a : Armed} {sak : UInt8} {uid : Uid} {ats : Bytes} {s : Sent}

theorem goes_cascade {n : Nat} (ready : a.phase = .ready n) :
    Goes a uid s (a.cascade sak uid n s.frame.data s.handleCrc) := by
  unfold Armed.cascade
  rw [Armed.groupAt_eq]
  split
  · rename_i level chunk sel nvb rest here starts
    by_cases asks : sel = level.sel ∧ nvb = TypeA.nvbAnticollision ∧ rest = []
    · rw [if_pos asks]
      exact .resolved _
    rw [if_neg asks]
    by_cases selecting : sel = level.sel ∧ nvb = nvbSelect ∧ rest.take 5 = chunk.toList
    · obtain ⟨rfl, rfl, taken⟩ := selecting
      have selects : s.Selects (level, chunk) := by
        unfold Sent.Selects
        rw [starts, ← taken]
        exact (List.prefix_append_right_inj [level.sel, nvbSelect]).mpr (List.take_prefix 5 rest)
      rw [if_pos ⟨rfl, rfl, taken⟩, ← Uid.length_places]
      by_cases last : n + 1 = uid.places.length
      · rw [if_pos last]
        exact .selected _ ready here selects last
      · have inside := (List.getElem?_eq_some_iff.mp here).1
        rw [if_neg last]
        exact .climbed _ ready here selects (by omega)
    · rw [if_neg selecting]
      exact .ignored
  · exact .ignored

theorem goes_firstFrame (chosen : a.phase = .selected) :
    Goes a uid s (a.firstFrame ats s.frame.data s.handleCrc) := by
  unfold Armed.firstFrame
  split
  · split
    · exact .refused _
    · exact .answered _ chosen
  split
  · exact .halted chosen
  · exact .forwarded _ (.inl chosen)

/-- A frame wakes the chip or goes one of the other ways. -/
theorem react_goes {atqa : Octets 2} (appears : a.target = .typeA atqa sak uid ats) (s : Sent) :
    (a.Wakes s ∧ ∃ reply,
      a.react s.frame s.handleCrc = (.reply reply, { a with phase := .ready 0 })) ∨
    (¬ a.Wakes s ∧ Goes a uid s (a.react s.frame s.handleCrc)) := by
  obtain ⟨tag, phase⟩ := a
  cases appears
  by_cases short : s.frame.bits = 7
  · rcases react_short s.frame short s.handleCrc with ⟨known, woken⟩ | quiet
    · exact .inl ⟨⟨known.symm.imp And.left id, _, congrArg Prod.fst woken⟩, _, woken⟩
    · refine .inr ⟨fun ⟨_, reply, replied⟩ => ?_, quiet ▸ .ignored⟩
      rw [quiet] at replied
      cases replied
  · refine .inr ⟨fun wakes => short ?_, ?_⟩
    · rcases wakes.1 with known | known <;> rw [known] <;> rfl
    rw [react_long short]
    cases phase with
    | waiting => exact .ignored
    | halted => exact .ignored
    | active => exact .forwarded _ (.inr rfl)
    | ready n => exact goes_cascade rfl
    | selected => exact goes_firstFrame rfl

end Goes

/-- What was selected since the chip was woken, by the phase it is in. -/
def Traced (uid : Uid) (later : List Sent) : Phase → Prop
  | .waiting => False
  | .ready n => n < uid.places.length ∧ Selected (uid.places.take n) later
  | .selected | .active => Selected uid.places later
  | .halted => True

section Traced

variable {a : Armed} {uid : Uid} {later : List Sent} {s : Sent} {out : Reaction × Armed}

theorem Traced.append {phase : Phase} (traced : Traced uid later phase) (s : Sent) :
    Traced uid (later ++ [s]) phase := by
  cases phase with
  | waiting => exact traced
  | ready n => exact ⟨traced.1, traced.2.append s⟩
  | selected => exact Selected.append traced s
  | active => exact Selected.append traced s
  | halted => trivial

/-- One frame that does not wake the chip. -/
theorem Traced.goes (traced : Traced uid later a.phase) (goes : Goes a uid s out) :
    Traced uid (later ++ [s]) out.2.phase := by
  cases goes with
  | ignored => exact traced.append s
  | resolved => exact traced.append s
  | refused => exact traced.append s
  | climbed reply ready here selects more =>
      rw [ready] at traced
      exact ⟨more, traced.2.climb here selects⟩
  | selected reply ready here selects last =>
      rw [ready] at traced
      have all := traced.2.climb here selects
      rwa [last, List.take_length] at all
  | answered reply chosen =>
      rw [chosen] at traced
      exact Selected.append traced s
  | halted => trivial
  | forwarded data chosen =>
      rcases chosen with chosen | chosen <;> rw [chosen] at traced
      · exact Selected.append traced s
      · exact Selected.append traced s

/-- A chip that was never woken gives nothing to its host, and no frame but a wake-up moves it. -/
theorem Goes.waiting (goes : Goes a uid s out) (asleep : a.phase = .waiting) :
    out.2.phase = .waiting := by
  cases goes with
  | ignored => exact asleep
  | resolved => exact asleep
  | refused => exact asleep
  | climbed reply ready => cases asleep.symm.trans ready
  | selected reply ready => cases asleep.symm.trans ready
  | answered reply chosen => cases asleep.symm.trans chosen
  | halted chosen => cases asleep.symm.trans chosen
  | forwarded data chosen => rcases chosen with other | other <;> cases asleep.symm.trans other

/-- Only a chip that is selected gives a frame to its host. -/
theorem Goes.host {data : Bytes} (goes : Goes a uid s out) (given : out.1 = .forward data) :
    a.phase = .selected ∨ a.phase = .active := by
  cases goes with
  | forwarded _ chosen => exact chosen
  | _ => cases given

theorem Goes.target (goes : Goes a uid s out) : out.2.target = a.target := by
  cases goes <;> rfl

end Traced

section Runs

variable {atqa : Octets 2} {sak : UInt8} {uid : Uid} {ats : Bytes}

/-- A fresh chip after any frames: it was never woken, or what came since it was woken last led to
the phase it is in. -/
theorem after_traced {fresh : Armed} (appears : fresh.target = .typeA atqa sak uid ats)
    (asleep : fresh.phase = .waiting) (sent : List Sent) :
    (fresh.after sent).target = .typeA atqa sak uid ats ∧
      ((fresh.after sent).phase = .waiting ∨
        ∃ later, fresh.SinceWoken sent later ∧ Traced uid later (fresh.after sent).phase) := by
  induction sent using List.reverseRecOn with
  | nil => exact ⟨appears, .inl asleep⟩
  | append_singleton sent s ih =>
      obtain ⟨same, traced⟩ := ih
      rw [Armed.after_append, Armed.after_cons, Armed.after_nil]
      rcases react_goes same s with ⟨wakes, reply, woken⟩ | ⟨still, goes⟩
      · rw [woken]
        refine ⟨same, .inr ⟨[], Armed.sinceWoken_of_wakes wakes, ?_⟩⟩
        exact ⟨Nat.lt_of_lt_of_eq uid.length_groups.1 uid.length_places.symm, selected_nil []⟩
      · refine ⟨goes.target.trans same, ?_⟩
        rcases traced with asleep | ⟨later, since, traced⟩
        · exact .inl (goes.waiting asleep)
        · exact .inr ⟨_, since.append still, traced.goes goes⟩

/-- What a chip gives to its host it was selected for. -/
theorem after_forwards {fresh : Armed} (appears : fresh.target = .typeA atqa sak uid ats)
    (asleep : fresh.phase = .waiting) (sent : List Sent) (s : Sent) {data : Bytes}
    (given : ((fresh.after sent).react s.frame s.handleCrc).1 = .forward data) :
    ∃ later, fresh.SinceWoken sent later ∧ Selected uid.places later := by
  obtain ⟨same, traced⟩ := after_traced appears asleep sent
  have chosen : (fresh.after sent).phase = .selected ∨ (fresh.after sent).phase = .active := by
    rcases react_goes same s with ⟨-, reply, woken⟩ | ⟨-, goes⟩
    · cases given.symm.trans (congrArg Prod.fst woken)
    · exact goes.host given
  rcases chosen with chosen | chosen <;> rw [chosen] at traced
  · exact traced.resolve_left nofun
  · exact traced.resolve_left nofun

theorem after_placed {fresh : Armed} (appears : fresh.target = .typeA atqa sak uid ats)
    (asleep : fresh.phase = .waiting) (sent : List Sent) {n : Nat}
    (ready : (fresh.after sent).phase = .ready n) :
    n < uid.groups.length ∧ (Armed.groupAt uid n).isSome := by
  obtain ⟨-, traced⟩ := after_traced appears asleep sent
  rw [ready] at traced
  obtain ⟨later, -, inside, -⟩ := traced.resolve_left nofun
  rw [Armed.groupAt_eq, ← uid.length_places, List.getElem?_eq_getElem inside]
  exact ⟨inside, rfl⟩

theorem react_halted {frame : BitFrame} (other : frame ≠ wupa) (handleCrc : Bool) :
    (Armed.mk (.typeA atqa sak uid ats) .halted).react frame handleCrc =
      (.silent, ⟨.typeA atqa sak uid ats, .halted⟩) := by
  by_cases short : frame.bits = 7
  · rcases react_short frame short handleCrc with ⟨stronger | weaker, -⟩ | quiet
    · exact absurd stronger other
    · exact absurd rfl weaker.2
    · exact quiet
  · exact react_long short handleCrc

theorem after_halted {sent : List Sent} (others : ∀ s ∈ sent, s.frame ≠ wupa) :
    (Armed.mk (.typeA atqa sak uid ats) .halted).after sent =
      ⟨.typeA atqa sak uid ats, .halted⟩ := by
  induction sent with
  | nil => rfl
  | cons s sent ih =>
      rw [Armed.after_cons, react_halted (others s List.mem_cons_self)]
      exact ih fun t among => others t (List.mem_cons_of_mem s among)

/-- Selected and told to halt. -/
theorem react_halt {frame : BitFrame} (halting : haltBody <+: frame.data) (handleCrc : Bool) :
    (Armed.mk (.typeA atqa sak uid ats) .selected).react frame handleCrc =
      (.silent, ⟨.typeA atqa sak uid ats, .halted⟩) := by
  have long : frame.bits ≠ 7 := by
    have two : 2 ≤ frame.data.length := halting.length_le
    have size := frame.length_data
    omega
  have other : ¬ (frame.data.head? = some TypeA.ratsCode ∧ ats ≠ []) := by
    obtain ⟨rest, starts⟩ := halting
    rw [← starts]
    exact fun both => absurd (Option.some.inj both.1) (by decide)
  rw [react_long long]
  unfold Armed.firstFrame
  dsimp only
  rw [if_neg other, if_pos halting]

end Runs

/-- How a chip that has had frames guards its host. -/
structure Guards (chip : Armed) (uid : Uid) (sent : List Sent) : Prop where
  /-- It gives a frame to its host when each group was selected since it was woken last. -/
  forwards : ∀ (s : Sent) (data : Bytes),
    ((chip.after sent).react s.frame s.handleCrc).1 = .forward data →
      ∃ later, chip.SinceWoken sent later ∧ Selected uid.places later
  /-- There is a group wherever it stands in the cascade. -/
  placed : ∀ n, (chip.after sent).phase = .ready n →
    n < uid.groups.length ∧ (Armed.groupAt uid n).isSome
  /-- Selected and told to halt it says nothing, and until the stronger wake-up it stays so. -/
  halts : ∀ s : Sent, (chip.after sent).phase = .selected → haltBody <+: s.frame.data →
    ((chip.after sent).react s.frame s.handleCrc).1 = .silent ∧
      ∀ more, (∀ t ∈ more, t.frame ≠ wupa) →
        (chip.after (sent ++ s :: more)).phase = .halted ∧
          ∀ t : Sent, t.frame ≠ wupa →
            (chip.after (sent ++ s :: more)).react t.frame t.handleCrc =
              (.silent, chip.after (sent ++ s :: more))

/-- A type A tag that appears in the field, whatever frames it has had. -/
theorem fresh_guards (atqa : Octets 2) (sak : UInt8) (uid : Uid) (ats : Bytes)
    (sent : List Sent) : Guards (.ofTarget (.typeA atqa sak uid ats)) uid sent where
  forwards s _ given := after_forwards rfl rfl sent s given
  placed _ ready := after_placed rfl rfl sent ready
  halts s chosen halting := by
    have same : ((Armed.ofTarget (.typeA atqa sak uid ats)).after sent).target =
        .typeA atqa sak uid ats := (after_traced rfl rfl sent).1
    have here := Armed.eq_of_parts same chosen
    refine ⟨here ▸ congrArg Prod.fst (react_halt halting s.handleCrc), fun more others => ?_⟩
    rw [Armed.after_append, Armed.after_cons, here, react_halt halting, after_halted others]
    exact ⟨rfl, fun t other => react_halted other t.handleCrc⟩

end Loopback
end Contactless
