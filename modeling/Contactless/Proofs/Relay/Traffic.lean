import Contactless.Proofs.Relay.Conduct
import Contactless.Proofs.Relay.Refinement

/-! What a relay in one process passes on. Commands reach the tag and answers reach the reader as
they came and in their order, however the chips answer and wherever the relay stops. -/
namespace Contactless

namespace Chip

/-- Exchanges of whole bytes, each with what it came to. -/
def exchanged (t : List Chip.Event) : List (Bytes × Except Error Bytes) :=
  t.filterMap fun
    | ⟨.bytes frame _, r⟩ => some (frame, r)
    | _ => none

/-- Answers that a chip was given to send as a target. -/
def answersOffered (t : List Chip.Event) : List Bytes :=
  t.filterMap fun
    | ⟨.send answer _, _⟩ => some answer
    | _ => none

end Chip

namespace Relay

/-- What passes between the chips of the tag and of the reader, with some commands of the reader
received before. The tag may be one command ahead of the reader. -/
structure InOrder (before : List Bytes) (tag reader : List Chip.Event) : Prop where
  sent : Chip.framesOut tag = (Chip.exchanged tag).map fun exchange => .ofBytes exchange.1
  commands : (Chip.exchanged tag).map Prod.fst <+: before ++ Chip.framesIn reader
  given : Chip.framesOut reader = (Chip.answersOffered reader).map .ofBytes
  answers : (Chip.answersOffered reader).map .ok <+: (Chip.exchanged tag).map Prod.snd
  handed : Chip.answersHanded reader <+: Chip.answersOffered reader
  ahead : (Chip.exchanged tag).length ≤ (Chip.answersHanded reader).length + 1

namespace Devices

/-- A relay that is over takes abort requests back. -/
inductive Stopping (e : Error) (s : Devices) :
    List Chips.Event → Option (Except Error Stats × Devices) → Prop
  | begun : Stopping e s [] none
  | half : Stopping e s [⟨.inl .clearAbort, ()⟩] none
  | stopped : Stopping e s [⟨.inl .clearAbort, ()⟩, ⟨.inr .clearAbort, ()⟩] (some (outcome e s, s))

theorem stopping_of_reaches {e : Error} {s : Devices} {t : List Chips.Event}
    {x : Dialogue Chips (Except Error Stats × Devices)} (h : (stopping e s).Reaches t x) :
    Stopping e s t x.result := by
  rcases Dialogue.reaches_ask h with ⟨rfl, rfl⟩ | ⟨r, u, rfl, rest⟩
  · exact .begun
  rcases Dialogue.reaches_ask rest with ⟨rfl, rfl⟩ | ⟨r, u, rfl, last⟩
  · exact .half
  · obtain ⟨rfl, rfl⟩ := Dialogue.reaches_done last
    exact .stopped

/-- A command of the reader that is to be passed on, and what follows. -/
inductive Passing (wait : Timeout) :
    Devices → Bytes → List Chips.Event → Option (Except Error Stats × Devices) → Prop
  | ready (s : Devices) (command : Bytes) : Passing wait s command [] none
  | refused {s command e t o} : Stopping e s t o → Passing wait s command t o
  | failed {s command patience e t o} : Stopping e s t o →
      Passing wait s command (⟨.inl (.bytes command patience), .error e⟩ :: t) o
  | answered (s : Devices) (command answer : Bytes) (patience : Timeout) :
      Passing wait s command [⟨.inl (.bytes command patience), .ok answer⟩] none
  | ungiven {s command answer patience e t o} : Stopping e s t o →
      Passing wait s command (⟨.inl (.bytes command patience), .ok answer⟩ ::
        ⟨.inr (.send answer wait), .error e⟩ :: t) o
  | given (s : Devices) (command answer : Bytes) (patience : Timeout) :
      Passing wait s command [⟨.inl (.bytes command patience), .ok answer⟩,
        ⟨.inr (.send answer wait), .ok ()⟩] none
  | released {s command answer patience e t o} : Stopping e s.counted t o →
      Passing wait s command (⟨.inl (.bytes command patience), .ok answer⟩ ::
        ⟨.inr (.send answer wait), .ok ()⟩ :: ⟨.inr (.receive wait), .error e⟩ :: t) o
  | passed {s command answer patience next t o} : Passing wait s.counted next t o →
      Passing wait s command (⟨.inl (.bytes command patience), .ok answer⟩ ::
        ⟨.inr (.send answer wait), .ok ()⟩ :: ⟨.inr (.receive wait), .ok next⟩ :: t) o

theorem passing_of_reaches {n fuel : Nat} {wait : Timeout} {s : Devices} {command : Bytes}
    {t : List Chips.Event} {x : Dialogue Chips (Except Error Stats × Devices)}
    (h : (passing n fuel wait s command).Reaches t x) : Passing wait s command t x.result := by
  induction fuel generalizing s command t with
  | zero =>
      cases h
      exact .ready s command
  | succ fuel ih =>
      rw [passing_succ] at h
      cases refused : refusal command with
      | some e =>
          rw [asked_of_refused n fuel wait s refused] at h
          exact .refused (stopping_of_reaches h)
      | none =>
          rw [asked_of_passes n fuel wait s refused] at h
          rcases Dialogue.reaches_ask h with ⟨rfl, rfl⟩ | ⟨(r : Except Error Bytes), u, rfl, rest⟩
          · exact .ready s command
          cases r with
          | error e => exact .failed (stopping_of_reaches rest)
          | ok answer =>
              rcases Dialogue.reaches_ask rest with
                ⟨rfl, rfl⟩ | ⟨(sent : Except Error Unit), u, rfl, later⟩
              · exact .answered s command answer _
              cases sent with
              | error e => exact .ungiven (stopping_of_reaches later)
              | ok done =>
                  rcases Dialogue.reaches_ask later with
                    ⟨rfl, rfl⟩ | ⟨(called : Except Error Bytes), u, rfl, last⟩
                  · exact .given s command answer _
                  cases called with
                  | error e => exact .released (stopping_of_reaches last)
                  | ok next => exact .passed (ih last)

/-- A relay whose search is over shows the tag to the reader, if it found one, and passes on
commands. -/
inductive Showing (d : Device .initiator) (target : Device .target) :
    Except Error Target → List Chips.Event → Option (Except Error Stats × Devices) → Prop
  | unfound {e t o} : Stopping e ⟨d, target, {}⟩ t o → Showing d target (.error e) t o
  | hidden {real e t o} : emulatedBy target.config real = .error e →
      Stopping e ⟨d, target, {}⟩ t o → Showing d target (.ok real) t o
  | ready (real : Target) : Showing d target (.ok real) [] none
  | unseen {real target' shown wait e t o} :
      Stopping e ⟨d, target', { target := some real }⟩ t o →
      Showing d target (.ok real) (⟨.inr (.arm shown wait), .error e⟩ :: t) o
  | seen {real target' shown wait first t o} :
      Passing wait ⟨d, target', { target := some real }⟩ first t o →
      Showing d target (.ok real) (⟨.inr (.arm shown wait), .ok first⟩ :: t) o

theorem showing_of_reaches {n : Nat} {d : Device .initiator} {target : Device .target}
    {outcome : Except Error Target} {t : List Chips.Event}
    {x : Dialogue Chips (Except Error Stats × Devices)}
    (h : (found n target (outcome, d)).Reaches t x) : Showing d target outcome t x.result := by
  cases outcome with
  | error e => exact .unfound (stopping_of_reaches h)
  | ok real =>
      change (revealed n target d real _).Reaches t x at h
      cases shows : emulatedBy target.config real with
      | error e =>
          rw [shows] at h
          exact .hidden shows (stopping_of_reaches h)
      | ok shown =>
          rw [shows] at h
          rcases Dialogue.reaches_ask h with ⟨rfl, rfl⟩ | ⟨(r : Except Error Bytes), u, rfl, rest⟩
          · exact .ready real
          cases r with
          | error e => exact .unseen (stopping_of_reaches rest)
          | ok first => exact .seen (passing_of_reaches rest)

theorem result_found (n : Nat) (target : Device .target)
    (r : Except Error Target × Device .initiator) : (found n target r).result = none := by
  obtain ⟨outcome, d⟩ := r
  cases outcome with
  | error e => rfl
  | ok real =>
      change (revealed n target d real _).result = none
      cases emulatedBy target.config real <;> rfl

theorem result_left_bind_found (n : Nat) (target : Device .target)
    (y : Dialogue Chip (Except Error Target × Device .initiator)) :
    (y.left.bind (found n target) : Dialogue Chips _).result = none := by
  cases y with
  | done r => exact result_found n target r
  | cut => rfl
  | ask q next => rfl

/-- A relay is still looking for a tag, or its search is over. -/
theorem reaches_run {n : Nat} {devices : Devices} {t : List Chips.Event}
    {x : Dialogue Chips (Except Error Stats × Devices)} (h : (run n devices).Reaches t x) :
    (∃ search y, (waitForTag n devices.initiator).Reaches search y ∧
      t = search.map Interface.Event.inLeft ∧ x.result = none) ∨
    ∃ search outcome d u, (waitForTag n devices.initiator).Yields search (outcome, d) ∧
      t = search.map Interface.Event.inLeft ++ u ∧
      Showing d devices.target outcome u x.result := by
  rw [run_eq] at h
  rcases Dialogue.reaches_bind h with ⟨y, first, rfl⟩ | ⟨u, v, ⟨outcome, d⟩, rfl, first, rest⟩
  · obtain ⟨search, y, rfl, rfl, still⟩ := Dialogue.reaches_left first
    exact .inl ⟨search, y, still, rfl, result_left_bind_found n _ y⟩
  · obtain ⟨search, rfl, searched⟩ := Dialogue.yields_left first
    exact .inr ⟨search, outcome, d, v, searched, rfl, showing_of_reaches rest⟩

end Devices

namespace InOrder

variable {before : List Bytes} {command answer next : Bytes} {patience wait : Timeout}
  {t : List Chips.Event} {e : Error} {s : Devices} {o : Option (Except Error Stats × Devices)}

theorem of_stopping (h : Devices.Stopping e s t o) : InOrder before (lefts t) (rights t) := by
  cases h <;>
    exact ⟨rfl, List.nil_prefix, rfl, List.nil_prefix, List.nil_prefix, Nat.zero_le _⟩

/-- The tag answers one more command, and the answer reaches the reader. -/
theorem passed {tag reader : List Chip.Event} (later : InOrder [next] tag reader) :
    InOrder [command] (⟨.bytes command patience, .ok answer⟩ :: tag)
      (⟨.send answer wait, .ok ()⟩ :: ⟨.receive wait, .ok next⟩ :: reader) where
  sent := congrArg (_ :: ·) later.sent
  commands := List.cons_prefix_cons.mpr ⟨rfl, later.commands⟩
  given := congrArg (_ :: ·) later.given
  answers := List.cons_prefix_cons.mpr ⟨rfl, later.answers⟩
  handed := List.cons_prefix_cons.mpr ⟨rfl, later.handed⟩
  ahead := Nat.succ_le_succ later.ahead

theorem of_passing (h : Devices.Passing wait s command t o) :
    InOrder [command] (lefts t) (rights t) := by
  induction h with
  | ready s command => exact of_stopping (e := .aborted) (s := s) .begun
  | refused stops => exact of_stopping stops
  | failed stops =>
      cases stops <;>
        exact ⟨rfl, List.prefix_append _ _, rfl, List.nil_prefix, List.nil_prefix, Nat.le_refl _⟩
  | answered s command answer patience =>
      exact ⟨rfl, List.prefix_append _ _, rfl, List.nil_prefix, List.nil_prefix, Nat.le_refl _⟩
  | ungiven stops =>
      cases stops <;>
        exact ⟨rfl, List.prefix_append _ _, rfl, List.prefix_refl _, List.nil_prefix,
          Nat.le_refl _⟩
  | given s command answer patience =>
      exact ⟨rfl, List.prefix_append _ _, rfl, List.prefix_refl _, List.prefix_refl _,
        Nat.le_succ _⟩
  | released stops =>
      cases stops <;>
        exact ⟨rfl, List.prefix_append _ _, rfl, List.prefix_refl _, List.prefix_refl _,
          Nat.le_succ _⟩
  | passed _ later => exact later.passed

theorem of_showing {d : Device .initiator} {target : Device .target}
    {outcome : Except Error Target} (h : Devices.Showing d target outcome t o) :
    InOrder [] (lefts t) (rights t) := by
  cases h with
  | unfound stops | hidden _ stops => exact of_stopping stops
  | ready real => exact of_stopping (e := .aborted) (s := ⟨d, target, {}⟩) .begun
  | unseen stops =>
      cases stops <;>
        exact ⟨rfl, List.nil_prefix, rfl, List.nil_prefix, List.nil_prefix, Nat.zero_le _⟩
  | seen passing =>
      have ordered := of_passing passing
      exact ⟨ordered.sent, ordered.commands, ordered.given, ordered.answers, ordered.handed,
        ordered.ahead⟩

end InOrder

section Run

variable {n : Nat} {devices s : Devices} {t : List Chips.Event} {r : Except Error Stats}

theorem not_normal_emulatedBy {c : Config} {real : Target} {e : Error}
    (hidden : emulatedBy c real = .error e) : isNormalStop e = false := by
  have shows {uid : Option Uid} (failed : emulatedTarget real uid = .error e) :
      isNormalStop e = false := by
    cases real <;> cases failed <;> rfl
  unfold emulatedBy Config.relayUid? at hidden
  split at hidden
  · exact shows hidden
  · unfold Uid.ofBytes at hidden
    split at hidden
    · exact shows hidden
    · cases hidden
      rfl

namespace Devices

theorem Stopping.stats {e : Error} {s s' : Devices} {stats : Stats}
    (h : Stopping e s t (some (.ok stats, s'))) :
    isNormalStop e = true ∧ stats = s.stats ∧
      t = [⟨.inl .clearAbort, ()⟩, ⟨.inr .clearAbort, ()⟩] := by
  generalize ends : some (Except.ok stats, s') = o at h
  cases h with
  | begun | half => cases ends
  | stopped =>
      unfold outcome at ends
      split at ends
      · rename_i normal
        cases ends
        exact ⟨normal, rfl, rfl⟩
      · cases ends

theorem Passing.stats {wait : Timeout} {command : Bytes} {s s' : Devices} {stats : Stats}
    (h : Passing wait s command t (some (.ok stats, s'))) :
    stats = (s.exchanged (Chip.answersHanded (rights t)).length).stats := by
  generalize ends : some (Except.ok stats, s') = o at h
  induction h with
  | ready | answered | given => cases ends
  | refused stops | failed stops | ungiven stops | released stops =>
      subst ends
      obtain ⟨-, rfl, rfl⟩ := stops.stats
      rfl
  | passed _ ih =>
      rw [ih ends, counted_exchanged]
      rfl

/-- What a relay tells is the tag that it found, and how many answers it handed to the reader. -/
theorem Showing.stats {d : Device .initiator} {target : Device .target}
    {outcome : Except Error Target} {stats : Stats}
    (h : Showing d target outcome t (some (.ok stats, s))) :
    stats = ⟨outcome.toOption, (Chip.answersHanded (rights t)).length⟩ := by
  generalize ends : some (Except.ok stats, s) = o at h
  cases h with
  | ready => cases ends
  | unfound stops =>
      subst ends
      obtain ⟨-, rfl, rfl⟩ := stops.stats
      rfl
  | hidden hides stops =>
      subst ends
      exact absurd stops.stats.1 (Bool.eq_false_iff.mp (not_normal_emulatedBy hides))
  | unseen stops =>
      subst ends
      obtain ⟨-, rfl, rfl⟩ := stops.stats
      rfl
  | seen passing =>
      subst ends
      exact passing.stats.trans (congrArg (Stats.mk _) (Nat.zero_add _))

/-- A relay ends with its session, and takes abort requests back last of all. -/
theorem yields_run (h : (run n devices).Yields t (r, s)) :
    ∃ log e, t = log ++ [⟨.inl .clearAbort, ()⟩, ⟨.inr .clearAbort, ()⟩] ∧
      (session n { devices with stats := {} }).Yields log (.error e, s) ∧ r = outcome e s := by
  rw [run_eq_session, Dialogue.yields_bind_iff] at h
  obtain ⟨log, last, ⟨ended, s'⟩, rfl, first, rest⟩ := h
  cases ended with
  | ok nothing => exact nomatch nothing
  | error e =>
      have stops := stopping_of_reaches rest.reaches
      generalize ends : (Dialogue.done (I := Chips) (r, s)).result = o at stops
      cases stops with
      | begun | half => cases ends
      | stopped =>
          cases ends
          exact ⟨log, e, rfl, first, rfl⟩

end Devices

/-- What holds of a chip once an abort request was taken back holds of both when a relay ends. -/
theorem run_clears {τ υ : Type} {h : Handler Chip τ} {g : Handler Chip υ} {p p' : τ}
    {q q' : υ} {x : Except Error Stats × Devices}
    (ends : (run n devices).run (h.pair g) (p, q) = (some x, p', q')) :
    (∃ before, p' = (h .clearAbort before).2) ∧ ∃ before, q' = (g .clearAbort before).2 := by
  rw [Devices.run_eq_session, Dialogue.run_bind] at ends
  rcases held : (session n { devices with stats := {} }).run (h.pair g) (p, q) with
    ⟨_ | ⟨e | nothing, s⟩, p₁, q₁⟩
  · rw [held] at ends
    cases ends
  · rw [held] at ends
    cases ends
    exact ⟨⟨p₁, rfl⟩, q₁, rfl⟩
  · exact nomatch nothing

/-- A relay comes to an end when its search does and the reader has only so many frames to send. -/
theorem run_ends {τ υ : Type} {h : Handler Chip τ} {g : Handler Chip υ} {p p' : τ} {q : υ}
    {left : υ → Nat} {found : Except Error Target × Device .initiator} (ending : Ending g left)
    (horizon : left q + 1 < n)
    (searched : (waitForTag n devices.initiator).run h p = (some found, p')) :
    ∃ x w, (run n devices).run (h.pair g) (p, q) = (some x, w) := by
  obtain ⟨search, held⟩ := Dialogue.held_of_run searched
  obtain ⟨outcome, d⟩ := found
  cases outcome with
  | error e =>
      refine ⟨(Devices.outcome e ⟨d, devices.target, {}⟩, ⟨d, devices.target, {}⟩),
        ((h .clearAbort p').2, (g .clearAbort q).2), ?_⟩
      rw [Devices.run_eq, Dialogue.run_bind, Dialogue.run_left, searched]
      rfl
  | ok real =>
      obtain ⟨tag, reader, count, e, relayed, most⟩ :=
        exists_relayed (h := h) ending d devices.target real p' q
      obtain ⟨t, r, s, p₁, q₁, ends, -⟩ := held_run held relayed (Nat.lt_of_le_of_lt most horizon)
      exact ⟨_, _, ends.run⟩

/-- A relay passes on every command and every answer unchanged and in order, and tells so. It leaves
no abort request behind. -/
theorem run_conserves (n : Nat) (devices : Devices) :
    (∀ t x, (run n devices).Reaches t x →
      (∃ search y, (waitForTag n devices.initiator).Reaches search y ∧
        t = search.map Interface.Event.inLeft ∧ x.result = none) ∨
      ∃ search outcome d tag, (waitForTag n devices.initiator).Yields search (outcome, d) ∧
        lefts t = search ++ tag ∧ InOrder [] tag (rights t) ∧
        ∀ r s, x = .done (r, s) → ∃ log e,
          t = log ++ [⟨.inl .clearAbort, ()⟩, ⟨.inr .clearAbort, ()⟩] ∧
          (session n { devices with stats := {} }).Yields log (.error e, s) ∧
          r = if isNormalStop e then
              .ok ⟨outcome.toOption, (Chip.answersHanded (rights t)).length⟩
            else .error e) ∧
    ∀ {τ υ : Type} (h : Handler Chip τ) (g : Handler Chip υ) (p : τ) (q : υ),
      (∀ (raised : τ → Prop) (raised' : υ → Prop), (∀ p, ¬ raised (h .clearAbort p).2) →
        (∀ q, ¬ raised' (g .clearAbort q).2) → ∀ x p' q',
        (run n devices).run (h.pair g) (p, q) = (some x, p', q') → ¬ raised p' ∧ ¬ raised' q') ∧
      ∀ left found p', Ending g left → left q + 1 < n →
        (waitForTag n devices.initiator).run h p = (some found, p') →
        ∃ x w, (run n devices).run (h.pair g) (p, q) = (some x, w) := by
  refine ⟨fun t x reaches => ?_, fun h g p q => ⟨fun raised raised' tag reader x p' q' ends => ?_,
    fun left found p' ending horizon searched => run_ends ending horizon searched⟩⟩
  · rcases Devices.reaches_run reaches with
      searching | ⟨search, outcome, d, u, searched, rfl, shows⟩
    · exact .inl searching
    have tagSide : lefts (search.map Interface.Event.inLeft ++ u) = search ++ lefts u := by
      rw [lefts_append, lefts_inLeft]
    have readerSide : rights (search.map Interface.Event.inLeft ++ u) = rights u := by
      rw [rights_append, rights_inLeft, List.nil_append]
    refine .inr ⟨search, outcome, d, lefts u, searched, tagSide, ?_, ?_⟩
    · rw [readerSide]
      exact .of_showing shows
    · rintro r s rfl
      obtain ⟨log, e, ends, session, rfl⟩ := Devices.yields_run reaches.yields
      refine ⟨log, e, ends, session, ?_⟩
      rw [readerSide]
      unfold Devices.outcome at shows ⊢
      cases normal : isNormalStop e with
      | false => rfl
      | true =>
          rw [normal] at shows
          exact congrArg Except.ok shows.stats
  · obtain ⟨⟨p₁, rfl⟩, q₁, rfl⟩ := run_clears ends
    exact ⟨tag p₁, reader q₁⟩

theorem run_conserves_benches :
    ∃ t s p q search tag,
      Dialogue.Held (Bench.handler.pair Bench.handler) (run 5 ⟨⟨{}, none⟩, ⟨{}, none⟩, {}⟩)
        (tagBench, readerBench) t (.ok ⟨some InitiatorHalf.sampleTag, 1⟩, s) (p, q) ∧
      lefts t = search ++ tag ∧ InOrder [] tag (rights t) ∧
      ¬ p.aborted = true ∧ ¬ q.aborted = true := by
  have ends : (run 5 ⟨⟨{}, none⟩, ⟨{}, none⟩, {}⟩).run (Bench.handler.pair Bench.handler)
      (tagBench, readerBench) = (some (.ok ⟨some InitiatorHalf.sampleTag, 1⟩, _), _, _) := rfl
  obtain ⟨t, held⟩ := Dialogue.held_of_run ends
  obtain ⟨traffic, chips⟩ := run_conserves 5 ⟨⟨{}, none⟩, ⟨{}, none⟩, {}⟩
  obtain ⟨tag, reader⟩ := (chips Bench.handler Bench.handler tagBench readerBench).1
    (fun b => b.aborted = true) (fun b => b.aborted = true) (fun _ => Bool.false_ne_true)
    (fun _ => Bool.false_ne_true) _ _ _ ends
  rcases traffic t _ held.yields.reaches with
    ⟨_, _, _, _, failed⟩ | ⟨search, _, _, u, _, split, rest⟩
  · cases failed
  · exact ⟨t, _, _, _, search, u, held, split, rest.1, tag, reader⟩

end Run

end Relay

end Contactless
