import Contactless.Proofs.Initiator.Straight

/-! Polling for targets. Modulations are tried in order, round after round, up to the first one that
finds a target or fails; so many rounds as were asked for, and no more, may find nothing. -/
namespace Contactless.Device

open Act

/-- Modulations that are tried one after the other, none of which finds a target. -/
inductive Misses :
    List Modulation → Device .initiator → List Chip.Event → Device .initiator → Prop
  | nil (d : Device .initiator) : Misses [] d [] d
  | cons {m : Modulation} {rest : List Modulation} {d d₁ d' : Device .initiator}
      {t u : List Chip.Event} : (selectPassive m none).Yields d t (.ok none) d₁ →
      Misses rest d₁ u d' → Misses (m :: rest) d (t ++ u) d'

/-- Modulations that are tried up to the first one that finds a target or fails. -/
inductive Ends (modulations : List Modulation) (d : Device .initiator) :
    List Chip.Event → Except Error (Option Target) → Device .initiator → Prop
  | found {before after : List Modulation} {m : Modulation} {t u : List Chip.Event}
      {target : Target} {d₁ d' : Device .initiator} : modulations = before ++ m :: after →
      Misses before d t d₁ → (selectPassive m none).Yields d₁ u (.ok (some target)) d' →
      Ends modulations d (t ++ u) (.ok (some target)) d'
  | failed {before after : List Modulation} {m : Modulation} {t u : List Chip.Event} {e : Error}
      {d₁ d' : Device .initiator} : modulations = before ++ m :: after → Misses before d t d₁ →
      (selectPassive m none).Yields d₁ u (.error e) d' → Ends modulations d (t ++ u) (.error e) d'

/-- One round, which asks first for an abort. -/
inductive Round (modulations : List Modulation) (d : Device .initiator) :
    List Chip.Event → Except Error (Option Target) → Device .initiator → Prop
  | aborted : Round modulations d [⟨.checkAbort, true⟩] (.error .aborted) d
  | missed {t : List Chip.Event} {d' : Device .initiator} : Misses modulations d t d' →
      Round modulations d (⟨.checkAbort, false⟩ :: t) (.ok none) d'
  | ended {t : List Chip.Event} {r : Except Error (Option Target)} {d' : Device .initiator} :
      Ends modulations d t r d' → Round modulations d (⟨.checkAbort, false⟩ :: t) r d'

/-- Full rounds that find nothing, so many of them, each with the pause that follows it. -/
inductive Idles (modulations : List Modulation) (pause : Timeout) :
    Nat → Device .initiator → List Chip.Event → Device .initiator → Prop
  | none (d : Device .initiator) : Idles modulations pause 0 d [] d
  | round {k : Nat} {d d₁ d' : Device .initiator} {t u : List Chip.Event} :
      Misses modulations d t d₁ → Idles modulations pause k d₁ u d' →
      Idles modulations pause (k + 1) d
        (⟨.checkAbort, false⟩ :: (t ++ ⟨.sleep pause, false⟩ :: u)) d'

/-- There is a further round after so many. -/
def Further (limit : Option Nat) (k : Nat) : Prop := ∀ most, limit = some most → k < most

/-- What polling comes to, with a limit on the number of rounds or without one. -/
inductive Polling (modulations : List Modulation) (pause : Timeout) (limit : Option Nat)
    (d : Device .initiator) :
    List Chip.Event → Except Error (Option Target) → Device .initiator → Prop
  /-- A modulation of some round finds a target or fails. -/
  | ended {k : Nat} {t u : List Chip.Event} {r : Except Error (Option Target)}
      {d₁ d' : Device .initiator} : Further limit k → Idles modulations pause k d t d₁ →
      Ends modulations d₁ u r d' →
      Polling modulations pause limit d (t ++ ⟨.checkAbort, false⟩ :: u) r d'
  /-- An abort is pending when a round would begin. -/
  | aborted {k : Nat} {t : List Chip.Event} {d' : Device .initiator} : Further limit k →
      Idles modulations pause k d t d' →
      Polling modulations pause limit d (t ++ [⟨.checkAbort, true⟩]) (.error .aborted) d'
  /-- An abort ends the pause before a further round. -/
  | roused {k : Nat} {t u : List Chip.Event} {d₁ d' : Device .initiator} : Further limit (k + 1) →
      Idles modulations pause k d t d₁ → Misses modulations d₁ u d' →
      Polling modulations pause limit d
        (t ++ ⟨.checkAbort, false⟩ :: (u ++ [⟨.sleep pause, true⟩])) (.error .aborted) d'
  /-- As many rounds as there may be have found nothing. -/
  | exhausted {k : Nat} {t u : List Chip.Event} {d₁ d' : Device .initiator} :
      limit = some (k + 1) → Idles modulations pause k d t d₁ → Misses modulations d₁ u d' →
      Polling modulations pause limit d (t ++ ⟨.checkAbort, false⟩ :: u) (.ok none) d'

section Selections

variable {modulations before after : List Modulation} {d d₁ d' : Device .initiator}
  {t u : List Chip.Event} {r : Except Error (Option Target)}

theorem Ends.cons {m : Modulation} (missed : (selectPassive m none).Yields d t (.ok none) d₁)
    (ends : Ends modulations d₁ u r d') : Ends (m :: modulations) d (t ++ u) r d' := by
  cases ends with
  | found split misses finds =>
      rw [← List.append_assoc]
      exact .found (congrArg (m :: ·) split) (.cons missed misses) finds
  | failed split misses fails =>
      rw [← List.append_assoc]
      exact .failed (congrArg (m :: ·) split) (.cons missed misses) fails

/-- What is tried after modulations that find nothing. -/
theorem Misses.yields (misses : Misses before d t d₁)
    (rest : (selectFirst after).Yields d₁ u r d') :
    (selectFirst (before ++ after)).Yields d (t ++ u) r d' := by
  induction misses with
  | nil d => exact rest
  | cons missed _ ih =>
      rw [List.append_assoc]
      exact (straight_selectPassive _ none).yields_bind missed (ih rest)

theorem selectFirst_yields_iff : (selectFirst modulations).Yields d t r d' ↔
    (r = .ok none ∧ Misses modulations d t d') ∨ Ends modulations d t r d' := by
  constructor
  · intro yields
    induction modulations generalizing d t with
    | nil =>
        obtain ⟨rfl, rfl, rfl⟩ := yields.of_pure
        exact .inl ⟨rfl, .nil _⟩
    | cons m rest ih =>
        have split : m :: rest = [] ++ m :: rest := rfl
        rcases Yields.of_bind yields with
          ⟨e, rfl, fails⟩ | ⟨u, v, found, d₁, rfl, first, later⟩
        · exact .inr (.failed split (.nil d) fails)
        · cases found with
          | some target =>
              obtain ⟨rfl, rfl, rfl⟩ := later.of_pure
              rw [List.append_nil]
              exact .inr (.found split (.nil d) first)
          | none =>
              rcases ih later with ⟨rfl, misses⟩ | ends
              · exact .inl ⟨rfl, .cons first misses⟩
              · exact .inr (.cons first ends)
  · rintro (⟨rfl, misses⟩ | ends)
    · have nothing : (selectFirst []).Yields d' [] (.ok none) d' := yields_pure none d'
      have yields := misses.yields nothing
      rwa [List.append_nil, List.append_nil] at yields
    · cases ends with
      | found split misses finds =>
          subst split
          exact misses.yields
            ((straight_selectPassive _ none).yields_bind_silent finds (yields_pure _ _))
      | failed split misses fails =>
          subst split
          exact misses.yields fails.bind_error

theorem straight_selectFirst (modulations : List Modulation) :
    (selectFirst modulations).Straight := by
  induction modulations with
  | nil => exact straight_pure none
  | cons m rest ih =>
      refine (straight_selectPassive m none).bind fun found => ?_
      cases found with
      | none => exact ih
      | some target => exact straight_pure _

theorem straight_pollRound (modulations : List Modulation) : (pollRound modulations).Straight :=
  (straight_request _ _).bind fun _ => straight_selectFirst modulations

theorem pollRound_yields_iff :
    (pollRound modulations).Yields d t r d' ↔ Round modulations d t r d' := by
  constructor
  · intro yields
    rcases Yields.of_bind yields with ⟨e, rfl, fails⟩ | ⟨u, v, ⟨⟩, d₁, rfl, first, later⟩
    · obtain ⟨answer, rfl, came, rfl⟩ := yields_request_iff.mp fails
      cases answer <;> cases came
      exact .aborted
    · obtain ⟨answer, rfl, came, rfl⟩ := yields_request_iff.mp first
      cases answer <;> cases came
      rcases selectFirst_yields_iff.mp later with ⟨rfl, misses⟩ | ends
      · exact .missed misses
      · exact .ended ends
  · intro round
    have asked (pending : Bool) : (Chip.checkAbort : Act Chip (Device .initiator) Unit).Yields d
        [⟨.checkAbort, pending⟩] (if pending then .error .aborted else .ok ()) d :=
      yields_request_iff.mpr ⟨pending, rfl, rfl, rfl⟩
    cases round with
    | aborted => exact (asked true).bind_error
    | missed misses =>
        exact (straight_request _ _).yields_bind (asked false)
          (selectFirst_yields_iff.mpr (.inl ⟨rfl, misses⟩))
    | ended ends =>
        exact (straight_request _ _).yields_bind (asked false)
          (selectFirst_yields_iff.mpr (.inr ends))

end Selections

/-- A round and, when it finds nothing, the pause before the next one. -/
def pollTurn (modulations : List Modulation) (pause : Timeout) :
    Act Chip (Device .initiator) (Unit ⊕ Target) := do
  match ← pollRound modulations with
  | some t => return .inr t
  | none =>
    Chip.sleep pause
    return .inl ()

/-- What a round comes to with the pause that follows it. -/
inductive Turn (modulations : List Modulation) (pause : Timeout) (d : Device .initiator) :
    List Chip.Event → Except Error (Unit ⊕ Target) → Device .initiator → Prop
  | found {t : List Chip.Event} {target : Target} {d' : Device .initiator} :
      Round modulations d t (.ok (some target)) d' →
      Turn modulations pause d t (.ok (.inr target)) d'
  | failed {t : List Chip.Event} {e : Error} {d' : Device .initiator} :
      Round modulations d t (.error e) d' → Turn modulations pause d t (.error e) d'
  | roused {t : List Chip.Event} {d' : Device .initiator} : Misses modulations d t d' →
      Turn modulations pause d (⟨.checkAbort, false⟩ :: (t ++ [⟨.sleep pause, true⟩]))
        (.error .aborted) d'
  | idle {t : List Chip.Event} {d' : Device .initiator} : Misses modulations d t d' →
      Turn modulations pause d (⟨.checkAbort, false⟩ :: (t ++ [⟨.sleep pause, false⟩]))
        (.ok (.inl ())) d'

section Turns

variable {modulations : List Modulation} {pause : Timeout} {limit : Option Nat}
  {d d₁ d' : Device .initiator} {t u : List Chip.Event}

theorem Round.of_none (round : Round modulations d t (.ok none) d') :
    ∃ u, t = ⟨.checkAbort, false⟩ :: u ∧ Misses modulations d u d' := by
  cases round with
  | missed misses => exact ⟨_, rfl, misses⟩
  | ended ends => cases ends

theorem straight_pollTurn (modulations : List Modulation) (pause : Timeout) :
    (pollTurn modulations pause).Straight := by
  refine (straight_pollRound modulations).bind fun found => ?_
  cases found with
  | some target => exact straight_pure _
  | none => exact (straight_request _ _).bind fun _ => straight_pure _

theorem pollTurn_yields_iff {r : Except Error (Unit ⊕ Target)} :
    (pollTurn modulations pause).Yields d t r d' ↔ Turn modulations pause d t r d' := by
  constructor
  · intro yields
    rcases Yields.of_bind yields with ⟨e, rfl, fails⟩ | ⟨u, v, found, d₁, rfl, first, later⟩
    · exact .failed (pollRound_yields_iff.mp fails)
    · cases found with
      | some target =>
          obtain ⟨rfl, rfl, rfl⟩ := later.of_pure
          rw [List.append_nil]
          exact .found (pollRound_yields_iff.mp first)
      | none =>
          obtain ⟨u, rfl, misses⟩ := (pollRound_yields_iff.mp first).of_none
          rcases Yields.of_bind later with ⟨e, rfl, fails⟩ | ⟨v, w, ⟨⟩, d₂, rfl, slept, last⟩
          · obtain ⟨answer, rfl, came, rfl⟩ := yields_request_iff.mp fails
            cases answer <;> cases came
            exact .roused misses
          · obtain ⟨answer, rfl, came, rfl⟩ := yields_request_iff.mp slept
            cases answer <;> cases came
            obtain ⟨rfl, rfl, rfl⟩ := last.of_pure
            exact .idle misses
  · intro turn
    have nothing {u : List Chip.Event} (misses : Misses modulations d u d') :
        (pollRound modulations).Yields d (⟨.checkAbort, false⟩ :: u) (.ok none) d' :=
      pollRound_yields_iff.mpr (.missed misses)
    have slept (cut : Bool) : (Chip.sleep pause : Act Chip (Device .initiator) Unit).Yields d'
        [⟨.sleep pause, cut⟩] (if cut then .error .aborted else .ok ()) d' :=
      yields_request_iff.mpr ⟨cut, rfl, rfl, rfl⟩
    cases turn with
    | found round =>
        exact (straight_pollRound _).yields_bind_silent (pollRound_yields_iff.mpr round)
          (yields_pure _ _)
    | failed round => exact (pollRound_yields_iff.mpr round).bind_error
    | roused misses =>
        exact (straight_pollRound _).yields_bind (nothing misses) (slept true).bind_error
    | idle misses =>
        exact (straight_pollRound _).yields_bind (nothing misses)
          ((straight_request _ _).yields_bind_silent (slept false) (yields_pure _ _))

/-- When there may be more than one round, polling goes by turns. -/
theorem pollRounds_eq (rounds : Nat) : pollRounds modulations pause (rounds + 2) =
    (pollTurn modulations pause >>= fun next =>
      match next with
      | .inl () => pollRounds modulations pause (rounds + 1)
      | .inr target => pure (some target)) := by
  unfold pollTurn
  rw [LawfulMonad.bind_assoc]
  refine congrArg (pollRound modulations >>= ·) (funext fun found => ?_)
  cases found with
  | none =>
      dsimp only
      rw [if_neg (Nat.succ_ne_zero rounds), LawfulMonad.bind_assoc]
      rfl
  | some target => rfl

theorem Further.zero (more : Further limit 1) : Further limit 0 :=
  fun most same => Nat.lt_of_succ_lt (more most same)

theorem Further.succ {k : Nat} (more : Further limit 1) (further : Further (limit.map (· - 1)) k) :
    Further limit (k + 1) := by
  rintro most rfl
  have first := more most rfl
  have later := further (most - 1) rfl
  omega

/-- Polling may begin with a full round that finds nothing, when there is a further one. -/
theorem Polling.idle {r : Except Error (Option Target)} (more : Further limit 1)
    (misses : Misses modulations d t d₁)
    (rest : Polling modulations pause (limit.map (· - 1)) d₁ u r d') :
    Polling modulations pause limit d
      (⟨.checkAbort, false⟩ :: (t ++ ⟨.sleep pause, false⟩ :: u)) r d' := by
  have regroup (v w : List Chip.Event) :
      (⟨.checkAbort, false⟩ :: (t ++ ⟨.sleep pause, false⟩ :: (v ++ w)) : List Chip.Event) =
        ⟨.checkAbort, false⟩ :: (t ++ ⟨.sleep pause, false⟩ :: v) ++ w := by
    rw [List.cons_append, List.append_assoc, List.cons_append]
  cases rest with
  | ended further idles ends =>
      rw [regroup]
      exact .ended (more.succ further) (.round misses idles) ends
  | aborted further idles =>
      rw [regroup]
      exact .aborted (more.succ further) (.round misses idles)
  | roused further idles last =>
      rw [regroup]
      exact .roused (more.succ further) (.round misses idles) last
  | @exhausted k _ _ _ _ all idles last =>
      have most : limit = some (k + 1 + 1) := by
        cases limit with
        | none => cases all
        | some most =>
            have same : most - 1 = k + 1 := Option.some.inj all
            exact congrArg some (by omega)
      rw [regroup]
      exact .exhausted most (.round misses idles) last

/-- A round that does not pass on to the next one is the end of polling. -/
theorem Round.polling {r : Except Error (Option Target)} (round : Round modulations d t r d')
    (ends : r ≠ .ok none) (first : Further limit 0) : Polling modulations pause limit d t r d' := by
  cases round with
  | aborted => exact .aborted (t := []) first (.none d)
  | missed => exact absurd rfl ends
  | ended ends => exact .ended (t := []) first (.none d) ends

theorem Turn.polling_found {target : Target} (first : Further limit 0)
    (turn : Turn modulations pause d t (.ok (.inr target)) d') :
    Polling modulations pause limit d t (.ok (some target)) d' := by
  cases turn with
  | found round => exact round.polling nofun first

theorem Turn.polling_failed {e : Error} (more : Further limit 1)
    (turn : Turn modulations pause d t (.error e) d') :
    Polling modulations pause limit d t (.error e) d' := by
  cases turn with
  | failed round => exact round.polling nofun more.zero
  | roused misses => exact .roused (t := []) more (.none d) misses

theorem Turn.polling_idle {r : Except Error (Option Target)} (more : Further limit 1)
    (turn : Turn modulations pause d t (.ok (.inl ())) d₁)
    (rest : Polling modulations pause (limit.map (· - 1)) d₁ u r d') :
    Polling modulations pause limit d (t ++ u) r d' := by
  cases turn with
  | idle misses =>
      have polling := rest.idle more misses
      rwa [List.append_cons, ← List.cons_append] at polling

/-- What polling without a limit comes to, by its turns. -/
theorem polling_of_loops {r : Except Error Target}
    (loops : Loops (fun _ => Turn modulations pause) () d t r d') :
    Polling modulations pause none d t (r.map some) d' := by
  have endless (k : Nat) : Further none k := fun _ => nofun
  generalize () = b at loops
  induction loops with
  | failed turn => exact turn.polling_failed (endless 1)
  | ended turn => exact turn.polling_found (endless 0)
  | again turn _ ih => exact turn.polling_idle (endless 1) ih

theorem loops_of_idles {k : Nat} {r : Except Error Target}
    (idles : Idles modulations pause k d t d₁)
    (rest : Loops (fun _ => Turn modulations pause) () d₁ u r d') :
    Loops (fun _ => Turn modulations pause) () d (t ++ u) r d' := by
  induction idles with
  | none d => exact rest
  | round misses _ ih =>
      rw [List.append_cons, ← List.cons_append, List.append_assoc]
      exact .again (.idle misses) (ih rest)

theorem loops_of_polling {r : Except Error (Option Target)}
    (polling : Polling modulations pause none d t r d') :
    ∃ outcome, r = outcome.map some ∧
      Loops (fun _ => Turn modulations pause) () d t outcome d' := by
  cases polling with
  | ended _ idles ends =>
      cases ends with
      | found split misses finds =>
          exact ⟨.ok _, rfl, loops_of_idles idles
            (.ended (.found (.ended (.found split misses finds))))⟩
      | failed split misses fails =>
          exact ⟨.error _, rfl, loops_of_idles idles
            (.failed (.failed (.ended (.failed split misses fails))))⟩
  | aborted _ idles =>
      exact ⟨.error _, rfl, loops_of_idles idles (.failed (.failed .aborted))⟩
  | roused _ idles misses =>
      exact ⟨.error _, rfl, loops_of_idles idles (.failed (.roused misses))⟩
  | exhausted all => cases all

end Turns

section Rounds

variable {modulations : List Modulation} {pause : Timeout} {d d₁ d' : Device .initiator}
  {t u : List Chip.Event} {r : Except Error (Option Target)}

theorem straight_pollRounds (modulations : List Modulation) (pause : Timeout) (rounds : Nat) :
    (pollRounds modulations pause rounds).Straight := by
  induction rounds with
  | zero => exact straight_pure none
  | succ rounds ih =>
      refine (straight_pollRound modulations).bind fun found => ?_
      cases found with
      | some target => exact straight_pure _
      | none =>
          dsimp only
          split
          · exact straight_pure none
          · exact (straight_request _ _).bind fun _ => ih

/-- A round that does not pass on to the next one ends polling. -/
theorem yields_pollRounds (rounds : Nat) (ends : Round modulations d t r d')
    (last : r = .ok none → rounds = 0) :
    (pollRounds modulations pause (rounds + 1)).Yields d t r d' := by
  have yields := pollRound_yields_iff.mpr ends
  match r with
  | .error e => exact yields.bind_error
  | .ok (some target) =>
      exact (straight_pollRound _).yields_bind_silent yields (yields_pure _ _)
  | .ok none =>
      obtain rfl := last rfl
      exact (straight_pollRound _).yields_bind_silent yields (yields_pure none d')

theorem yields_of_idles {k : Nat} (rounds : Nat) (idles : Idles modulations pause k d t d₁)
    (rest : (pollRounds modulations pause (rounds + 1)).Yields d₁ u r d') :
    (pollRounds modulations pause (k + rounds + 1)).Yields d (t ++ u) r d' := by
  induction idles with
  | none d =>
      rw [Nat.zero_add]
      exact rest
  | @round k _ _ _ _ _ misses _ ih =>
      have turn : (pollTurn modulations pause).Yields _ _ _ _ :=
        pollTurn_yields_iff.mpr (.idle misses)
      rw [List.append_cons, ← List.cons_append, List.append_assoc,
        show k + 1 + rounds + 1 = k + rounds + 2 by omega, pollRounds_eq]
      exact (straight_pollTurn _ _).yields_bind turn (ih rest)

theorem pollRounds_yields_iff (rounds : Nat) :
    (pollRounds modulations pause (rounds + 1)).Yields d t r d' ↔
      Polling modulations pause (some (rounds + 1)) d t r d' := by
  have further {k most : Nat} (less : k < most) : Further (some most) k := by
    rintro _ ⟨⟩
    exact less
  constructor
  · intro yields
    -- On the rounds left. No pause follows the last one, so that it is a round and no turn.
    induction rounds generalizing d t with
    | zero =>
        rcases Yields.of_bind yields with ⟨e, rfl, fails⟩ | ⟨u, v, found, d₁, rfl, first, later⟩
        · exact (pollRound_yields_iff.mp fails).polling nofun (further Nat.one_pos)
        · have round := pollRound_yields_iff.mp first
          cases found with
          | some target =>
              obtain ⟨rfl, rfl, rfl⟩ := later.of_pure
              rw [List.append_nil]
              exact round.polling nofun (further Nat.one_pos)
          | none =>
              obtain ⟨rfl, rfl, rfl⟩ := later.of_pure
              obtain ⟨u, rfl, misses⟩ := round.of_none
              rw [List.append_nil]
              exact .exhausted (t := []) rfl (.none d) misses
    | succ rounds ih =>
        rw [pollRounds_eq] at yields
        rcases Yields.of_bind yields with ⟨e, rfl, fails⟩ | ⟨u, v, next, d₁, rfl, first, later⟩
        · exact (pollTurn_yields_iff.mp fails).polling_failed (further (by omega))
        · have turn := pollTurn_yields_iff.mp first
          cases next with
          | inl _ => exact turn.polling_idle (further (by omega)) (ih later)
          | inr target =>
              obtain ⟨rfl, rfl, rfl⟩ := later.of_pure
              rw [List.append_nil]
              exact turn.polling_found (further (by omega))
  · intro polling
    -- Full rounds come first, and as many are left of the limit as they have not used up.
    cases polling with
    | @ended k _ _ _ _ _ more idles ends =>
        have less := more _ rfl
        obtain ⟨left, rfl⟩ : ∃ left, rounds = k + left := Nat.exists_eq_add_of_le (by omega)
        refine yields_of_idles left idles (yields_pollRounds left (.ended ends) ?_)
        rintro rfl
        cases ends
    | @aborted k _ _ more idles =>
        have less := more _ rfl
        obtain ⟨left, rfl⟩ : ∃ left, rounds = k + left := Nat.exists_eq_add_of_le (by omega)
        exact yields_of_idles left idles (yields_pollRounds left .aborted nofun)
    | @roused k _ _ _ _ more idles misses =>
        have less := more _ rfl
        obtain ⟨left, rfl⟩ : ∃ left, rounds = k + (left + 1) :=
          ⟨rounds - k - 1, by omega⟩
        refine yields_of_idles (left + 1) idles ?_
        rw [pollRounds_eq]
        exact (pollTurn_yields_iff.mpr (.roused misses)).bind_error
    | @exhausted k _ _ _ _ all idles misses =>
        obtain rfl : rounds = k := Nat.succ.inj (Option.some.inj all)
        exact yields_of_idles 0 idles (yields_pollRounds 0 (.missed misses) fun _ => rfl)

end Rounds

/-- The most rounds that there may be, if there is a limit. -/
def roundLimit (attempts : UInt8) : Option Nat :=
  if attempts = endlessAttempts then none else some attempts.toNat

/-- What polling comes to. Nothing is asked of the chip when there is nothing to try. -/
inductive Polls (modulations : List Modulation) (attempts : UInt8) (pause : Timeout)
    (d : Device .initiator) :
    List Chip.Event → Except Error (Option Target) → Device .initiator → Prop
  | refused : modulations = [] ∨ attempts = 0 → Polls modulations attempts pause d []
      (.error (.invalidParameter "poll needs at least one modulation and one attempt")) d
  | polled {t : List Chip.Event} {r : Except Error (Option Target)} {d' : Device .initiator} :
      modulations ≠ [] → attempts ≠ 0 →
      Polling modulations pause (roundLimit attempts) d t r d' →
      Polls modulations attempts pause d t r d'

section Polls

variable {modulations : List Modulation} {attempts : UInt8} {pause : Timeout}
  {d d' : Device .initiator} {t : List Chip.Event} {r : Except Error (Option Target)}

theorem idles_of_continues {k : Nat} {b b' : Unit}
    (continues : Continues (fun _ => Turn modulations pause) k b d t b' d') :
    Idles modulations pause k d t d' := by
  induction continues with
  | start _ d => exact .none d
  | again turn _ ih =>
      cases turn with
      | idle misses =>
          rw [List.cons_append, List.append_assoc]
          exact .round misses ih

theorem exists_rounds (attempted : attempts ≠ 0) : ∃ rounds, attempts.toNat = rounds + 1 :=
  Nat.exists_eq_succ_of_ne_zero fun none => attempted (UInt8.toNat_inj.mp none)

theorem Polls.of_none (polls : Polls modulations attempts pause d t (.ok none) d') :
    modulations ≠ [] ∧ attempts ≠ endlessAttempts ∧ ∃ k u v d₁, attempts.toNat = k + 1 ∧
      t = u ++ ⟨.checkAbort, false⟩ :: v ∧ Idles modulations pause k d u d₁ ∧
      Misses modulations d₁ v d' := by
  cases polls with
  | polled some attempted polling =>
      cases polling with
      | ended _ _ ends => cases ends
      | @exhausted k u v d₁ _ limited idles misses =>
          unfold roundLimit at limited
          split at limited
          · cases limited
          · rename_i bounded
            exact ⟨some, bounded, k, u, v, d₁, Option.some.inj limited, rfl, idles, misses⟩

theorem accounts_poll (modulations : List Modulation) (attempts : UInt8) (period : Duration)
    (d : Device .initiator) (n : Nat) : (poll modulations attempts period n d).Accounts
      (fun t r => Polls modulations attempts (.ofDuration period) d t r.1 r.2)
      fun t => attempts = endlessAttempts ∧
        ∃ d', Idles modulations (.ofDuration period) n d t d' := by
  unfold poll
  split
  case isTrue nothing => exact .refused (nothing.imp_left List.isEmpty_iff.mp)
  case isFalse something =>
    have some : modulations ≠ [] := fun empty => something (.inl (List.isEmpty_iff.mpr empty))
    have attempted : attempts ≠ 0 := fun none => something (.inr none)
    split
    case isTrue endless =>
      have limit : roundLimit attempts = none := if_pos endless
      rw [map_apply]
      apply Dialogue.Accounts.bind
      -- The loop has no end of its own, and is cut after as many turns as its horizon allows.
      have turns (d : Device .initiator) :
          (pollTurn modulations (.ofDuration period)).Assures d (Turn modulations _ d) :=
        ((straight_pollTurn modulations _).assures d).mono fun _ _ _ => pollTurn_yields_iff.mp
      refine (Assures.loop (fun _ => turns) () d n).mono ?_ ?_
      · rintro t ⟨r, d'⟩ loops
        change Polls _ _ _ _ (t ++ []) (r.map Option.some) d'
        rw [List.append_nil]
        exact .polled some attempted (limit ▸ polling_of_loops loops)
      · rintro t ⟨_, d', continues⟩
        exact ⟨endless, d', idles_of_continues continues⟩
    case isFalse bounded =>
      have limit : roundLimit attempts = Option.some attempts.toNat := if_neg bounded
      obtain ⟨rounds, count⟩ := exists_rounds attempted
      rw [count]
      refine ((straight_pollRounds modulations _ _).assures d n).accounts.mono ?_ fun t => id
      rintro t ⟨r, d'⟩ yields
      have polling := (pollRounds_yields_iff rounds).mp yields
      exact .polled some attempted (by rwa [limit, count])

theorem yields_poll {period : Duration}
    (polls : Polls modulations attempts (.ofDuration period) d t r d') :
    (poll modulations attempts period).Yields d t r d' := by
  unfold poll
  cases polls with
  | refused nothing =>
      rw [if_pos (nothing.imp_left List.isEmpty_iff.mpr)]
      exact ⟨0, .done _⟩
  | polled some attempted polling =>
      rw [if_neg fun nothing => nothing.elim (fun empty => some (List.isEmpty_iff.mp empty))
        attempted]
      unfold roundLimit at polling
      split
      case isTrue endless =>
        rw [if_pos endless] at polling
        obtain ⟨outcome, rfl, loops⟩ := loops_of_polling polling
        exact yields_map_iff.mpr ⟨outcome, rfl, yields_loop (fun _ => straight_pollTurn _ _)
          (fun _ _ _ _ _ => pollTurn_yields_iff.mpr) loops⟩
      case isFalse bounded =>
        rw [if_neg bounded] at polling
        obtain ⟨rounds, count⟩ := exists_rounds attempted
        rw [count] at polling ⊢
        exact (pollRounds_yields_iff rounds).mpr polling

/-- Polling comes to exactly what its rounds come to, whatever the chip answers: to the first target
that a modulation finds, to the first failure or abort, or to none after as many full rounds as
were asked for. Only polling without a limit may go on, and then through full rounds that find
nothing. -/
theorem poll_by_rounds (modulations : List Modulation) (attempts : UInt8) (period : Duration)
    (d : Device .initiator) :
    (∀ t r d', (poll modulations attempts period).Yields d t r d' ↔
      Polls modulations attempts (.ofDuration period) d t r d') ∧
    (∀ t d', (poll modulations attempts period).Yields d t (.ok none) d' ↔
      modulations ≠ [] ∧ attempts ≠ endlessAttempts ∧ ∃ k u v d₁, attempts.toNat = k + 1 ∧
        t = u ++ ⟨.checkAbort, false⟩ :: v ∧
        Idles modulations (.ofDuration period) k d u d₁ ∧ Misses modulations d₁ v d') ∧
    ∀ n, (poll modulations attempts period n d).Accounts
      (fun t r => Polls modulations attempts (.ofDuration period) d t r.1 r.2)
      fun t => attempts = endlessAttempts ∧
        ∃ d', Idles modulations (.ofDuration period) n d t d' := by
  have forward (t : List Chip.Event) (r : Except Error (Option Target)) (d' : Device .initiator)
      (yields : (poll modulations attempts period).Yields d t r d') :
      Polls modulations attempts (.ofDuration period) d t r d' := by
    obtain ⟨n, yields⟩ := yields
    exact (accounts_poll modulations attempts period d n).yields yields
  refine ⟨fun t r d' => ⟨forward t r d', yields_poll⟩, fun t d' => ⟨fun yields => ?_, ?_⟩,
    accounts_poll modulations attempts period d⟩
  · exact (forward t _ d' yields).of_none
  · rintro ⟨some, bounded, k, u, v, d₁, count, rfl, idles, misses⟩
    have limit : roundLimit attempts = Option.some (k + 1) :=
      (if_neg bounded).trans (congrArg Option.some count)
    refine yields_poll (.polled some ?_ (.exhausted limit idles misses))
    rintro rfl
    cases count

end Polls

end Contactless.Device
