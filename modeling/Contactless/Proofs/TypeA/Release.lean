import Contactless.Device.Selection
import Contactless.Proofs.TypeA.Ats
import Contactless.Proofs.TypeA.Direct

/-!
How a tag that was activated is released. Whether its session is ended or the tag is halted is read
off the answer to select it is kept with, and that is empty when the tag answered with nothing but
the length of its answer.
-/
namespace Contactless

open Act

namespace TypeA

section Answers

variable {answer ats : Bytes}

/-- The first byte counts itself and what is kept of the answer. -/
theorem length_of_parseAts (reads : parseAts answer = .ok ats) :
    ∃ tl, answer.head? = some tl ∧ tl.toNat = ats.length + 1 := by
  cases parseAts_eq_ok_iff.mp reads with
  | plain counted => exact ⟨_, rfl, counted⟩
  | checked counted => exact ⟨_, rfl, counted⟩

/-- An answer of its length byte alone is kept as an empty one. -/
theorem eq_nil_of_parseAts (reads : parseAts answer = .ok ats) :
    ats = [] ↔ answer.head? = some 0x01 := by
  obtain ⟨tl, first, counts⟩ := length_of_parseAts reads
  rw [first, Option.some_inj, ← List.length_eq_zero_iff]
  constructor
  · intro none
    exact UInt8.toNat_inj.mp (by rw [counts, none]; rfl)
  · rintro rfl
    change 1 = ats.length + 1 at counts
    omega

end Answers

/-- A request for an answer to select, whatever came of it. -/
def asksAts : Chip.Event → Bool
  | ⟨.bytes frame _, _⟩ => frame.head? == some ratsCode
  | _ => false

section Asked

variable {a : Activator} {wait : Timeout}

theorem filter_heard (heard : List Heard) :
    (heard.flatMap fun h => h.exchanges wait).filter asksAts = [] := by
  induction heard with
  | nil => rfl
  | cons h heard ih =>
      have own : (h.exchanges wait).filter asksAts = [] := by
        obtain ⟨level, group, answer, sak, reads⟩ := h
        cases level <;> rfl
      rw [List.flatMap_cons, List.filter_append, own, ih]
      rfl

theorem filter_selecting {levels : List CascadeLevel} {groups : List (Octets 5)}
    {acks : List Acknowledge} :
    (selecting wait (List.zipWith select levels groups) acks).filter asksAts = [] := by
  induction levels generalizing groups acks with
  | nil => rfl
  | cons level levels ih =>
      cases groups with
      | nil => rfl
      | cons group groups =>
          cases acks with
          | nil => rfl
          | cons k acks =>
              have own : asksAts ⟨.bytes (select level group) wait, .ok k.answer⟩ = false := by
                cases level <;> rfl
              change List.filter asksAts (_ :: selecting wait _ acks) = []
              rw [List.filter_cons_of_neg (Bool.eq_false_iff.mp own), ih]

theorem filter_confirming (confirmed : Option Confirmed) :
    (confirming a confirmed).filter asksAts = confirming a confirmed := by
  cases confirmed <;> rfl

theorem filter_rawly (t : List Chip.Event) :
    (Chip.rawly t).filter asksAts = t.filter asksAts := by
  change List.filter asksAts (t ++ [_, _]) = _
  rw [List.filter_append]
  exact List.append_nil _

end Asked

/-- An answer to select that says more than how long it is. -/
def Confirmed.Speaks (c : Confirmed) : Prop := c.answer.head? ≠ some 0x01

end TypeA

open TypeA

/-- What is said to release a tag. -/
inductive Released (frame : Bytes) (wait : Timeout) : List Chip.Event → Prop
  | refused (e : Error) : Released frame wait [⟨.configure .handleCrc false, .error e⟩]
  | sent (answer : Except Error Bytes) (restored : Except Error Unit) :
      Released frame wait
        [⟨.configure .handleCrc false, .ok ()⟩, ⟨.bytes frame wait, answer⟩,
          ⟨.configure .handleCrc true, restored⟩]

/-- A device that has selected a target releases it with a frame, and forgets it. -/
def Target.ReleasedBy (target : Target) (frame : Bytes) : Prop :=
  ∀ d : Device .initiator, d.selected = some target →
    Device.deselect.Assures d fun t _ d' =>
      d'.selected = none ∧ Released frame d.config.commandTimeout t

namespace Device

variable {d : Device .initiator}

theorem assures_sendRelease (frame : Bytes) (answered : Bool) (wait : Timeout) :
    (sendRelease frame answered wait).Assures d fun t _ d' =>
      (∃ answer, t = [⟨.bytes frame wait, answer⟩]) ∧ d' = d := by
  have asked : (Chip.bytes frame wait : Act Chip (Device .initiator) Bytes).Assures d
      fun t r d' => t = [⟨.bytes frame wait, r⟩] ∧ d' = d := assures_request fun r => ⟨rfl, rfl⟩
  refine asked.attempt_bind ?_
  rintro _ answer _ ⟨rfl, rfl⟩
  cases answer with
  | ok data => exact assures_pure ⟨⟨_, rfl⟩, rfl⟩
  | error e =>
      dsimp only
      split
      · exact assures_pure ⟨⟨_, rfl⟩, rfl⟩
      · exact assures_throw ⟨⟨_, rfl⟩, rfl⟩

theorem releasedBy_of_releaseFrame {target : Target} {frame : Bytes}
    (known : releaseFrame target = some frame) : target.ReleasedBy frame := by
  intro d selected
  refine assures_get_bind ?_
  rw [selected]
  refine assures_modify_bind ?_
  rw [known]
  have sent := assures_sendRelease frame target.isPart4 d.config.commandTimeout
    (d := { d with selected := none })
  refine (Chip.assures_withoutHardwareCrc sent).mono ?_
  rintro _ _ _ ⟨unchecked, rfl⟩
  cases unchecked with
  | refused e => exact ⟨rfl, .refused e⟩
  | through restored said =>
      obtain ⟨answer, rfl⟩ := said
      exact ⟨rfl, .sent answer restored⟩

end Device

namespace TypeA

/-- How a tag that was activated entered ISO/IEC 14443-4, or did not, and what becomes of it. -/
structure Entered (a : Activator) (t : List Chip.Event) (target : Target)
    (confirmed : Option Confirmed) : Prop where
  /-- It was asked for its answer to select once, and answered, or was not asked. -/
  asked : t.filter asksAts = confirming a confirmed
  announced : ∃ atqa sak uid, confirmed.isSome = sakPart4 sak ∧
    target = .typeA atqa sak uid ((confirmed.map Confirmed.ats).getD [])
  told : target.isPart4 = true ↔ ∃ c ∈ confirmed, c.Speaks
  /-- Its session is ended if it has said more than the length of its answer. -/
  ended : (∃ c ∈ confirmed, c.Speaks) → target.ReleasedBy TypeA.deselect
  halted : (¬ ∃ c ∈ confirmed, c.Speaks) → target.ReleasedBy TypeA.halt

section Entered

variable {a : Activator} {t : List Chip.Event}

theorem isPart4_iff {atqa : Octets 2} {sak : UInt8} {uid : Uid} {confirmed : Option Confirmed} :
    (Target.typeA atqa sak uid ((confirmed.map Confirmed.ats).getD [])).isPart4 = true ↔
      ∃ c ∈ confirmed, c.Speaks := by
  cases confirmed with
  | none => exact ⟨nofun, nofun⟩
  | some c =>
      have kept := eq_nil_of_parseAts c.reads
      have shown : (!c.ats.isEmpty) = true ↔ c.ats ≠ [] := by
        rw [Bool.not_eq_true', List.isEmpty_eq_false_iff]
      refine shown.trans ((not_congr kept).trans ⟨fun speaks => ⟨c, rfl, speaks⟩, ?_⟩)
      rintro ⟨_, ⟨⟩, speaks⟩
      exact speaks

theorem entered_of_confirming {atqa : Octets 2} {sak : UInt8} {uid : Uid}
    {confirmed : Option Confirmed} (announced : confirmed.isSome = sakPart4 sak)
    (asked : t.filter asksAts = confirming a confirmed) :
    Entered a t (.typeA atqa sak uid ((confirmed.map Confirmed.ats).getD [])) confirmed where
  asked := asked
  announced := ⟨atqa, sak, uid, announced, rfl⟩
  told := isPart4_iff
  ended speaks := Device.releasedBy_of_releaseFrame (if_pos (isPart4_iff.mpr speaks))
  halted silent := Device.releasedBy_of_releaseFrame (if_neg (mt isPart4_iff.mp silent))

theorem Activator.Course.entered {a' : Activator} {act : Activation}
    (course : a.Course t (.ok (some act)) a') :
    ∃ confirmed, Entered a (Chip.rawly t) act.target confirmed := by
  obtain ⟨story, said, rfl⟩ := exists_story course
  obtain ⟨rfl, -, -⟩ := story.of_course course said
  refine ⟨story.confirmed, entered_of_confirming story.announced ?_⟩
  have whole : (story.exchanges a).filter asksAts =
      ((story.heard.flatMap fun h => h.exchanges a.timeout) ++
        confirming a story.confirmed).filter asksAts := rfl
  rw [filter_rawly, whole, List.filter_append, filter_heard, filter_confirming]
  rfl

theorem Activator.Approaches.entered {u : Uid} {act : Activation}
    (bracketed : Chip.Bracketed (a.Approaches u) t (.ok (some act))) :
    ∃ confirmed, Entered a t act.target confirmed := by
  obtain ⟨c, rfl, rfl⟩ := exists_choice bracketed
  refine ⟨c.confirmed, entered_of_confirming c.announced ?_⟩
  have whole : (c.exchanges a).filter asksAts =
      (selecting a.timeout (List.zipWith TypeA.select [.one, .two, .three] u.groups)
        (c.before ++ [c.last]) ++ confirming a c.confirmed).filter asksAts := rfl
  rw [filter_rawly, whole, List.filter_append, filter_selecting, filter_confirming]
  rfl

end Entered

/-- Whatever the chip and the tag answer, a tag that was activated is released by what its answer to
select says. -/
theorem released_by_answer (a : Activator) (wanted : Option Uid) :
    (Activator.activate wanted).Assures a fun t r _ => ∀ act, r = .ok (some act) →
      ∃ confirmed, Entered a t act.target confirmed := by
  cases wanted with
  | none =>
      have body : (Activator.attempt none).Assures a fun t r _ => ∃ a', a.Course t r a' :=
        (assures_attempt a).mono fun t r a' course => ⟨a', course⟩
      refine (Chip.assures_withRawFraming body).mono ?_
      rintro t _ _ bracketed act rfl
      obtain ⟨u, rfl, a', course⟩ := bracketed.of_ok
      exact course.entered
  | some u =>
      refine (assures_activate_given a u).mono ?_
      rintro t _ _ bracketed act rfl
      exact Activator.Approaches.entered bracketed

/-- A tag of one level that answers a request for its answer to select with `answer`. -/
def answered (answer : Bytes) : List Chip.Event :=
  Chip.rawly [⟨.bits reqa .standard, .ok (.ofBytes [0x04, 0x03])⟩,
    ⟨.bits (.ofBytes (anticollision .one)) .standard,
      .ok (.ofBytes [0x08, 0x41, 0x52, 0x63, 0x78])⟩,
    ⟨.bytes (select .one (group 0x08 0x41 0x52 0x63)) .standard, .ok [0x20]⟩,
    ⟨.bytes (rats 0x50) .standard, .ok answer⟩]

def answeredTarget (ats : Bytes) : Target :=
  .typeA ⟨[0x04, 0x03], rfl⟩ 0x20 ⟨[0x08, 0x41, 0x52, 0x63], .inl rfl⟩ ats

theorem released_by_answer_spoken :
    ∃ a', (Activator.activate none).Yields (.ofConfig {}) (answered [0x02, 0x78])
        (.ok (some ⟨answeredTarget [0x78], []⟩)) a' ∧
      ∃ confirmed, Entered (.ofConfig {}) (answered [0x02, 0x78]) (answeredTarget [0x78])
        confirmed := by
  have yields : (Activator.activate none).Yields (.ofConfig {}) (answered [0x02, 0x78])
      (.ok (some ⟨answeredTarget [0x78], []⟩)) _ :=
    ⟨0, .ask _ (.ask _ (.ask _ (.ask _ (.ask _ (.ask _ (.ask _ (.ask _ (.done _))))))))⟩
  exact ⟨_, yields, (released_by_answer _ none).of_yields yields _ rfl⟩

/-- A tag that answers with a length byte alone has entered ISO/IEC 14443-4, and is halted. -/
theorem terse_tag_halted :
    (Device.activate none).Yields ⟨{}, none⟩ (answered [0x01])
      (.ok (some ⟨answeredTarget [], []⟩)) ⟨{}, some (answeredTarget [])⟩ ∧
    parseAts [0x01] = .ok [] ∧ (answeredTarget []).isPart4 = false ∧
    Device.deselect.Yields ⟨{}, some (answeredTarget [])⟩
      [⟨.configure .handleCrc false, .ok ()⟩, ⟨.bytes TypeA.halt .standard, .error .timeout⟩,
        ⟨.configure .handleCrc true, .ok ()⟩]
      (.ok ()) ⟨{}, none⟩ := by
  refine ⟨⟨0, ?_⟩, rfl, rfl, ⟨0, ?_⟩⟩
  · exact .ask _ (.ask _ (.ask _ (.ask _ (.ask _ (.ask _ (.ask _ (.ask _ (.done _))))))))
  · exact .ask _ (.ask _ (.ask _ (.done _)))

end TypeA

end Contactless
