import Contactless.Bench
import Contactless.Proofs.TypeA.Course

/-!
The story of an activation. What was exchanged tells what an activation comes to: nobody there, a
tag whose whole story it is, a tag that went on beyond the last level, or a failure on the way.
-/
namespace Contactless.TypeA

open Act

section Answers

variable {wait : Timeout}

theorem eq_of_answer_bits {f g : BitFrame} {w w' : Timeout} {r r' : Except Error BitFrame}
    (same : (⟨.bits f w, r⟩ : Chip.Event) = ⟨.bits g w', r'⟩) : r = r' := by
  cases same
  rfl

theorem eq_of_answer_bytes {f g : Bytes} {w w' : Timeout} {r r' : Except Error Bytes}
    (same : (⟨.bytes f w, r⟩ : Chip.Event) = ⟨.bytes g w', r'⟩) : r = r' := by
  cases same
  rfl

theorem Heard.eq_of_exchanges {h h' : Heard} (same : h.level = h'.level) {u v : List Chip.Event}
    (said : h.exchanges wait ++ u <+: h'.exchanges wait ++ v) : h = h' := by
  obtain ⟨first, said⟩ := List.cons_prefix_cons.mp said
  obtain ⟨second, -⟩ := List.cons_prefix_cons.mp said
  have groups := congrArg BitFrame.data (Except.ok.inj (eq_of_answer_bits first))
  have answers := Except.ok.inj (eq_of_answer_bytes second)
  obtain ⟨level, group, answer, sak, reads⟩ := h
  obtain ⟨level', group', answer', sak', reads'⟩ := h'
  change level = _ at same
  obtain rfl := same
  obtain rfl : group = group' := Octets.ext_toList groups
  obtain rfl : answer = answer' := answers
  obtain rfl : sak = sak' := Except.ok.inj (reads.symm.trans reads')
  rfl

/-- Who has heard a level and goes by it. -/
theorem Climbs.of_heard {h : Heard} {level : CascadeLevel} {rest : List CascadeLevel}
    {t u v : List Chip.Event} {r : Except Error (List Heard × Heard)} (same : h.level = level)
    (climbs : Climbs wait (level :: rest) t r) (said : h.exchanges wait ++ u <+: t ++ v) :
    (sakCascade h.sak = false ∧ t = h.exchanges wait ∧ r = .ok ([], h)) ∨
      (sakCascade h.sak = true ∧ ∃ t' r', t = h.exchanges wait ++ t' ∧ u <+: t' ++ v ∧
        Climbs wait rest t' r' ∧ r = r'.map fun climbed => (h :: climbed.1, climbed.2)) := by
  cases climbs with
  | broken breaks =>
      exfalso
      cases breaks with
      | group failed =>
          obtain ⟨first, -⟩ := List.cons_prefix_cons.mp said
          have heard := eq_of_answer_bits first
          subst heard
          have read : Activator.readGroup (.ofBytes h.group.toList) = .error _ := failed
          rw [readGroup_ofBytes] at read
          cases read
      | acknowledge failed =>
          obtain ⟨-, said⟩ := List.cons_prefix_cons.mp said
          obtain ⟨second, -⟩ := List.cons_prefix_cons.mp said
          have answered := eq_of_answer_bytes second
          subst answered
          have read : parseSak h.answer = .error _ := failed
          rw [h.reads] at read
          cases read
  | last h' closed =>
      obtain rfl := Heard.eq_of_exchanges (u := u) (v := v) same said
      exact .inl ⟨closed, rfl, rfl⟩
  | @more _ t' r' h' cascades climbs =>
      rw [List.append_assoc] at said
      obtain rfl := Heard.eq_of_exchanges same said
      exact .inr ⟨cascades, t', r', rfl, (List.prefix_append_right_inj _).mp said, climbs, rfl⟩

/-- Who has heard some levels, none of them the last, goes by all of them. -/
theorem Climbs.of_all_heard {heard : List Heard} {levels : List CascadeLevel}
    {t u v : List Chip.Event} {r : Except Error (List Heard × Heard)}
    (climbs : Climbs wait levels t r) (known : heard.map Heard.level <+: levels)
    (cascades : ∀ h ∈ heard, sakCascade h.sak = true)
    (said : (heard.flatMap fun h => h.exchanges wait) ++ u <+: t ++ v) :
    ∃ t' r', t = (heard.flatMap fun h => h.exchanges wait) ++ t' ∧ u <+: t' ++ v ∧
      Climbs wait (levels.drop heard.length) t' r' ∧
        r = r'.map fun climbed => (heard ++ climbed.1, climbed.2) := by
  induction heard generalizing levels t r with
  | nil =>
      refine ⟨t, r, rfl, said, climbs, ?_⟩
      cases r <;> rfl
  | cons h heard ih =>
      cases levels with
      | nil => exact absurd known.length_le (by simp)
      | cons level rest =>
          obtain ⟨same, known⟩ := List.cons_prefix_cons.mp known
          obtain ⟨cascading, cascades⟩ := List.forall_mem_cons.mp cascades
          rw [List.flatMap_cons, List.append_assoc] at said
          rcases climbs.of_heard same said with ⟨closed, -⟩ | ⟨-, t', r', rfl, said, further, rfl⟩
          · rw [closed] at cascading
            cases cascading
          · obtain ⟨t'', r'', rfl, said, last, rfl⟩ := ih further known cascades said
            refine ⟨t'', r'', ?_, said, last, ?_⟩
            · rw [List.flatMap_cons, List.append_assoc]
            · cases r'' <;> rfl

end Answers

/-- An answer to a request for an answer to select. -/
structure Confirmed where
  answer : Bytes
  ats : Bytes
  reads : parseAts answer = .ok ats

/-- The request for an answer to select, if there was one, with its answer. -/
def confirming (a : Activator) (confirmed : Option Confirmed) : List Chip.Event :=
  confirmed.toList.map fun c => ⟨.bytes (rats a.ratsParam) a.timeout, .ok c.answer⟩

section Confirming

variable {a : Activator} {sak : UInt8} {t : List Chip.Event} {confirmed : Option Confirmed}

theorem Confirms.of_ok {ats : Bytes} (confirms : Confirms a sak t (.ok ats)) :
    ∃ confirmed : Option Confirmed, confirmed.isSome = sakPart4 sak ∧
      t = confirming a confirmed ∧ ats = (confirmed.map Confirmed.ats).getD [] := by
  generalize came : Except.ok ats = r at confirms
  cases confirms with
  | unasked part4 =>
      cases came
      exact ⟨none, part4.symm, rfl, rfl⟩
  | asked answer part4 =>
      cases answer with
      | error e => cases came
      | ok answer => exact ⟨some ⟨answer, ats, came.symm⟩, part4.symm, rfl, rfl⟩

/-- An answer to select is asked for where it is announced, and what was answered decides. -/
theorem Confirms.of_said {outcome : Except Error Bytes} (confirms : Confirms a sak t outcome)
    (announced : confirmed.isSome = sakPart4 sak) (said : confirming a confirmed <+: t) :
    t = confirming a confirmed ∧ outcome = .ok ((confirmed.map Confirmed.ats).getD []) := by
  cases confirmed with
  | none =>
      cases confirms with
      | unasked => exact ⟨rfl, rfl⟩
      | asked answer part4 =>
          rw [part4] at announced
          cases announced
  | some c =>
      cases confirms with
      | unasked part4 =>
          rw [part4] at announced
          cases announced
      | asked answer =>
          obtain ⟨same, -⟩ := List.cons_prefix_cons.mp said
          have answered := eq_of_answer_bytes same
          subst answered
          exact ⟨rfl, c.reads⟩

end Confirming

/-- What a tag that is activated says. -/
structure Story where
  atqa : Octets 2
  /-- The levels before the last one. -/
  before : List Heard
  last : Heard
  levels : (before ++ [last]).map Heard.level <+: [.one, .two, .three]
  cascades : ∀ h ∈ before, sakCascade h.sak = true
  complete : sakCascade last.sak = false
  confirmed : Option Confirmed
  announced : confirmed.isSome = sakPart4 last.sak

namespace Story

variable (s : Story)

def heard : List Heard := s.before ++ [s.last]

def exchanges (a : Activator) : List Chip.Event :=
  a.woken (.ok (.ofBytes s.atqa.toList)) ::
    ((s.heard.flatMap fun h => h.exchanges a.timeout) ++
      s.confirmed.toList.map fun c =>
        ⟨.bytes (Crc.a.append [0xe0, a.ratsParam]) a.timeout, .ok c.answer⟩)

/-- Three bytes of each group before the last one, and four of that. -/
def uid : Uid where
  bytes := uidOfGroups (s.heard.map Heard.group)
  size := by
    obtain ⟨uid, -, bytes⟩ := exists_uid (show s.heard ≠ [] by simp [heard]) s.levels
    rw [← bytes]
    exact uid.size

def activation : Activation where
  target := .typeA s.atqa s.last.sak s.uid ((s.confirmed.map Confirmed.ats).getD [])
  warnings := s.heard.flatMap Heard.warnings

/-- An activator that has heard it. -/
def told (a : Activator) : Activator :=
  { a with
    stage := .activated
    level := s.last.level
    groups := s.heard.flatMap fun h => h.group.toList.take 4
    sak := s.last.sak
    warnings := [] }

theorem length_heard : s.heard.length = s.last.level.number := by
  have levels := s.levels
  have named : s.last.level ∈ (s.heard.map Heard.level).getLast? := by simp [heard]
  have taken := List.prefix_iff_eq_take.mp levels
  rw [List.length_map] at taken
  change s.heard.map Heard.level = [CascadeLevel.one, .two, .three].take s.heard.length at taken
  rw [taken] at named
  have most := levels.length_le
  have least : 0 < s.heard.length := by simp [heard]
  rw [List.length_map] at most
  change s.heard.length ≤ 3 at most
  obtain one | two | three : s.heard.length = 1 ∨ s.heard.length = 2 ∨ s.heard.length = 3 := by
    omega
  · rw [one] at named ⊢
    rw [← Option.some.inj named]
    rfl
  · rw [two] at named ⊢
    rw [← Option.some.inj named]
    rfl
  · rw [three] at named ⊢
    rw [← Option.some.inj named]
    rfl

theorem length_groups (a : Activator) : (s.told a).groups.length = 4 * s.last.level.number := by
  have each (heard : List Heard) :
      (heard.flatMap fun h => h.group.toList.take 4).length = 4 * heard.length := by
    induction heard with
    | nil => rfl
    | cons h heard ih =>
        rw [List.flatMap_cons, List.length_append, ih, List.length_take, h.group.length_toList,
          List.length_cons]
        omega
  rw [← s.length_heard]
  exact each s.heard

end Story

section Telling

variable {a a' : Activator} {t u : List Chip.Event} {r : Except Error (Option Activation)}

theorem begins_woken {x y : Except Error BitFrame}
    (said : a.woken x :: u <+: a.woken y :: t) : x = y ∧ u <+: t := by
  obtain ⟨first, rest⟩ := List.cons_prefix_cons.mp said
  exact ⟨eq_of_answer_bits first, rest⟩

namespace Story

variable (story : Story)

/-- What is asked for once the last level is known, and its answer. -/
def confirmation (a : Activator) : List Chip.Event :=
  story.confirmed.toList.map fun c => ⟨.bytes (rats a.ratsParam) a.timeout, .ok c.answer⟩

theorem of_climbs {v : List Chip.Event} {outcome : Except Error (List Heard × Heard)}
    (climbs : Climbs a.timeout [.one, .two, .three] t outcome)
    (said : (story.heard.flatMap fun h => h.exchanges a.timeout) ++ u <+: t ++ v) :
    t = (story.heard.flatMap fun h => h.exchanges a.timeout) ∧ u <+: v ∧
      outcome = .ok (story.before, story.last) := by
  obtain ⟨rest, levels⟩ := story.levels
  rw [List.map_append, List.append_assoc] at levels
  have remains : List.drop story.before.length [CascadeLevel.one, .two, .three] =
      story.last.level :: rest := by
    rw [← levels, List.drop_left' (List.length_map _)]
    rfl
  rw [heard, List.flatMap_append, List.append_assoc] at said
  obtain ⟨t', r', rfl, said, ends, rfl⟩ := climbs.of_all_heard ⟨_, levels⟩ story.cascades said
  rw [remains] at ends
  rw [List.flatMap_singleton] at said
  rcases ends.of_heard rfl said with ⟨-, rfl, rfl⟩ | ⟨cascades, -⟩
  · refine ⟨?_, (List.prefix_append_right_inj _).mp said, ?_⟩
    · rw [heard, List.flatMap_append, List.flatMap_singleton]
    · change Except.ok (story.before ++ [], story.last) = _
      rw [List.append_nil]
  · rw [story.complete] at cascades
    cases cascades

theorem of_confirms {outcome : Except Error Bytes}
    (confirms : Confirms a story.last.sak u outcome) (said : story.confirmation a <+: u) :
    u = story.confirmation a ∧ outcome = .ok ((story.confirmed.map Confirmed.ats).getD []) :=
  confirms.of_said story.announced said

/-- Whoever begins an activation with the words of a story has told it. -/
theorem of_course (course : a.Course t r a') (said : story.exchanges a <+: t) :
    t = story.exchanges a ∧ r = .ok (some story.activation) ∧ a' = story.told a := by
  have reads : ((Except.ok (.ofBytes story.atqa.toList) : Except Error BitFrame) >>=
      Activator.readAtqa) = .ok story.atqa := readAtqa_ofBytes story.atqa
  cases course with
  | absent =>
      exact nomatch (begins_woken said).1
  | unwoken failed =>
      obtain ⟨same, -⟩ := begins_woken said
      rw [← same, reads] at failed
      cases failed
  | @lost _ t' _ _ climbs =>
      obtain ⟨-, said⟩ := begins_woken said
      rw [← List.append_nil t'] at said
      obtain ⟨-, -, came⟩ := story.of_climbs climbs said
      cases came
  | unconfirmed climbs confirms =>
      obtain ⟨-, said⟩ := begins_woken said
      obtain ⟨-, said, came⟩ := story.of_climbs climbs said
      cases came
      obtain ⟨-, came⟩ := story.of_confirms confirms said
      cases came
  | @activated _ _ _ _ _ _ uid climbs confirms bytes =>
      obtain ⟨woken, spoken⟩ := begins_woken said
      obtain rfl := Octets.ext_toList (congrArg BitFrame.data (Except.ok.inj woken))
      obtain ⟨rfl, spoken, came⟩ := story.of_climbs climbs spoken
      cases came
      obtain ⟨rfl, came⟩ := story.of_confirms confirms spoken
      cases came
      obtain ⟨_, _⟩ := uid
      cases bytes
      exact ⟨rfl, rfl, rfl⟩

end Story

/-- Three levels that all ask for another one lead beyond the last level. -/
theorem Climbs.of_three {heard : List Heard} {outcome : Except Error (List Heard × Heard)}
    {v : List Chip.Event} (climbs : Climbs a.timeout [.one, .two, .three] t outcome)
    (levels : heard.map Heard.level = [.one, .two, .three])
    (cascades : ∀ h ∈ heard, sakCascade h.sak = true)
    (said : (heard.flatMap fun h => h.exchanges a.timeout) <+: t ++ v) :
    t = (heard.flatMap fun h => h.exchanges a.timeout) ∧ outcome = .error fourthLevel := by
  have three : heard.length = 3 := by
    rw [← List.length_map Heard.level, levels]
    rfl
  rw [← List.append_nil (heard.flatMap _)] at said
  obtain ⟨t', r', rfl, -, ends, rfl⟩ :=
    climbs.of_all_heard (levels ▸ List.prefix_refl _) cascades said
  rw [three] at ends
  cases ends with
  | beyond => exact ⟨List.append_nil _, rfl⟩

/-- An activation that succeeds has been told a story. -/
theorem exists_story {act : Activation} (course : a.Course t (.ok (some act)) a') :
    ∃ story : Story, story.exchanges a <+: t ∧ act = story.activation := by
  cases course with
  | @activated atqa t u before last ats uid climbs confirms bytes =>
      obtain ⟨levels, cascades, complete, rfl⟩ := climbs.of_ok
      obtain ⟨c, announced, rfl, rfl⟩ := confirms.of_ok
      let story : Story := ⟨atqa, before, last, levels, cascades, complete, c, announced⟩
      have named : uid = story.uid := by
        obtain ⟨_, _⟩ := uid
        cases bytes
        rfl
      rw [named]
      exact ⟨story, List.prefix_refl _, rfl⟩

end Telling

/-- What an activation comes to is told by what was exchanged. -/
structure Activator.Tells (a : Activator) (t : List Chip.Event)
    (r : Except Error (Option Activation)) (a' : Activator) : Prop where
  absent : r = .ok none ↔ ∃ e, e.isTimeout = true ∧ [a.woken (.error e)] <+: t
  alone : r = .ok none → t.length = 1 ∧ a'.stage = .noTag
  found : ∀ act, r = .ok (some act) ↔
    ∃ story : Story, story.exchanges a <+: t ∧ act = story.activation
  whole : ∀ story : Story, story.exchanges a <+: t →
    t = story.exchanges a ∧ a' = story.told a ∧ a'.groups.length = 4 * a'.level.number
  beyond : ∀ (atqa : Octets 2) (heard : List Heard),
    heard.map Heard.level = [.one, .two, .three] → (∀ h ∈ heard, sakCascade h.sak = true) →
    a.woken (.ok (.ofBytes atqa.toList)) :: (heard.flatMap fun h => h.exchanges a.timeout) <+: t →
      r = .error fourthLevel ∧
        t = a.woken (.ok (.ofBytes atqa.toList)) :: heard.flatMap fun h => h.exchanges a.timeout
  failed : ∀ e, r = .error e → a'.stage.underWay = true
  /-- The wake-up is a short frame, and a group is selected with nine bytes. -/
  sizes : a.wakeup.frame.bits = 7 ∧ ∀ (story : Story), ∀ h ∈ story.heard,
    (Crc.a.append ([h.level.sel, 0x70] ++ h.group.toList)).length = 9

theorem Activator.Course.tells {a a' : Activator} {t : List Chip.Event}
    {r : Except Error (Option Activation)} (course : a.Course t r a') : a.Tells t r a' where
  absent := by
    constructor
    · rintro rfl
      cases course with
      | absent silent => exact ⟨_, silent, List.prefix_refl _⟩
    · rintro ⟨e, silent, said⟩
      cases course with
      | absent => rfl
      | unwoken failed loud =>
          obtain ⟨rfl, -⟩ := begins_woken said
          cases failed
          rw [silent] at loud
          cases loud
      | lost => cases (begins_woken said).1
      | unconfirmed => cases (begins_woken said).1
      | activated => cases (begins_woken said).1
  alone := by
    rintro rfl
    cases course with
    | absent => exact ⟨rfl, rfl⟩
  found act := by
    constructor
    · rintro rfl
      exact exists_story course
    · rintro ⟨story, said, rfl⟩
      exact (story.of_course course said).2.1
  whole story said := by
    obtain ⟨whole, -, rfl⟩ := story.of_course course said
    exact ⟨whole, rfl, story.length_groups a⟩
  beyond atqa heard levels cascades said := by
    cases course with
    | absent => cases (begins_woken said).1
    | unwoken failed =>
        obtain ⟨rfl, -⟩ := begins_woken said
        have read : readAtqa (.ofBytes atqa.toList) = .error _ := failed
        rw [readAtqa_ofBytes] at read
        cases read
    | @lost _ t _ _ climbs =>
        obtain ⟨woken, spoken⟩ := begins_woken said
        rw [← List.append_nil t] at spoken
        obtain ⟨rfl, came⟩ := climbs.of_three levels cascades spoken
        cases came
        rw [woken]
        exact ⟨rfl, rfl⟩
    | unconfirmed climbs => cases (climbs.of_three levels cascades (begins_woken said).2).2
    | activated climbs => cases (climbs.of_three levels cascades (begins_woken said).2).2
  failed := by
    rintro e rfl
    cases course with
    | unwoken _ _ underWay => exact underWay
    | lost _ underWay => exact underWay
    | unconfirmed _ _ underWay => exact underWay
  sizes := by
    refine ⟨?_, fun _ h _ => length_select h.level h.group⟩
    cases a.wakeup <;> rfl

/-- Whatever a tag answers and however exchanges fail, over a chip that switches as it is told an
activation comes to what its exchanges tell, and gives framing back. -/
theorem activation_told {τ : Type} {h : Handler Chip τ} (obliging : Chip.Obliging h)
    (a : Activator) (n : Nat) (p : τ) :
    ∃ t r a' p', Dialogue.Held h (Activator.activate none n a) p (Chip.rawly t) (r, a') p' ∧
      a.Tells t r a' := by
  obtain ⟨t, r, a', p', held, course⟩ :=
    Chip.held_withRawFraming obliging (assures_attempt a) n p
  exact ⟨t, r, a', p', held, course.tells⟩

/-- A tag of two levels whose first group has a wrong check byte and no cascade tag. -/
def oddBench : Bench where
  answers := [.ok (.ofBytes [0x44, 0x00]), .ok (.ofBytes [0x04, 0x01, 0x02, 0x03, 0xff]),
    .ok (.ofBytes [0x04]), .ok (.ofBytes [0x05, 0x06, 0x07, 0x08, 0x0c]), .ok (.ofBytes [0x20]),
    .ok (.ofBytes [0x02, 0x78])]

def oddActivation : Activation where
  target := .typeA ⟨[0x44, 0x00], rfl⟩ 0x20
    ⟨[0x01, 0x02, 0x03, 0x05, 0x06, 0x07, 0x08], .inr (.inl rfl)⟩ [0x78]
  warnings := [.bccMismatch .one 0x04 0xff, .cascadeTagMismatch .one 0x04]

theorem activation_told_odd :
    Chip.Obliging Bench.handler ∧ ∃ t a' p',
      Dialogue.Held Bench.handler (Activator.activate none 0 (.ofConfig {})) oddBench
        (Chip.rawly t) (.ok (some oddActivation), a') p' ∧
      (Activator.ofConfig {}).Tells t (.ok (some oddActivation)) a' := by
  have obliging : Chip.Obliging Bench.handler := fun _ _ _ => rfl
  obtain ⟨t, r, a', p', held, tells⟩ := activation_told obliging (.ofConfig {}) 0 oddBench
  have run : (((Activator.activate none 0 (.ofConfig {})).run Bench.handler oddBench).1.map
      Prod.fst) = some (.ok (some oddActivation)) := by
    rfl
  rw [held.run] at run
  cases run
  exact ⟨obliging, t, a', p', held, tells⟩

end Contactless.TypeA
