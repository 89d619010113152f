import Contactless.Proofs.Exchange
import Contactless.Proofs.Initiator.Framing
import Contactless.TypeA.Magic
import Mathlib.Data.List.Forall2

/-! The identifier of a card with a back door. Five frames set it, and each one goes out only when
the answer to the one before it was taken for an acknowledge. More is taken for one than a card
acknowledges with: a whole byte counts by its low half, and so does a frame of any length below a
byte. -/
namespace Contactless.TypeA.Magic

/-- The card agrees, with four bits that are the code or with a whole byte that is. -/
inductive Acknowledges : BitFrame → Prop
  | nibble {frame : BitFrame} {b : UInt8} : frame.bits = 4 → frame.data = [b] →
      b &&& 0x0f = 0x0a → Acknowledges frame
  | byte {frame : BitFrame} : frame.bits = 8 → frame.data = [0x0a] → Acknowledges frame

/-- What is taken for an acknowledge and is none: a whole byte with more than the code, or a frame
of another length below a byte. -/
inductive Mistaken : BitFrame → Prop
  | marked {frame : BitFrame} {b : UInt8} : frame.bits = 8 → frame.data = [b] →
      b &&& 0x0f = 0x0a → b ≠ 0x0a → Mistaken frame
  | uneven {frame : BitFrame} {b : UInt8} : frame.bits < 8 → frame.bits ≠ 4 → frame.data = [b] →
      b &&& 0x0f = 0x0a → Mistaken frame

/-- What is taken for an acknowledge. -/
def Taken (frame : BitFrame) : Prop := Acknowledges frame ∨ Mistaken frame

/-- A frame was answered with one that is taken for an acknowledge by mistake. -/
def Misheard (event : Chip.Event) : Prop :=
  ∃ frame wait answer, event = ⟨.bits frame wait, .ok answer⟩ ∧ Mistaken answer

/-- A frame, and the answers to it that let what follows go out. -/
structure Step where
  frame : BitFrame
  passes : Except Error BitFrame → Prop

/-- A step was taken, and the answer lets the next one. -/
def Passed (wait : Timeout) (step : Step) (event : Chip.Event) : Prop :=
  ∃ answer, step.passes answer ∧ event = ⟨.bits step.frame wait, answer⟩

/-- Steps in turn. Each one is taken only when the answer to the one before it let it, unless the
chip refuses a switch. -/
inductive Course (wait : Timeout) (refused : Error → Prop) :
    List Step → List Chip.Event → Except Error Unit → Prop
  | done : Course wait refused [] [] (.ok ())
  | refused {e : Error} (steps : List Step) : refused e → Course wait refused steps [] (.error e)
  | stopped {step : Step} {answer : Except Error BitFrame} (rest : List Step) (e : Error) :
      ¬ step.passes answer →
      Course wait refused (step :: rest) [⟨.bits step.frame wait, answer⟩] (.error e)
  | passed {step : Step} {answer : Except Error BitFrame} {rest : List Step}
      {t : List Chip.Event} {r : Except Error Unit} : step.passes answer →
      Course wait refused rest t r →
      Course wait refused (step :: rest) (⟨.bits step.frame wait, answer⟩ :: t) r

/-- A halt is answered, or nobody says anything. -/
def halting : Step := ⟨.ofBytes (Crc.a.append [0x50, 0x00]), fun answer =>
  ∀ e, answer = .error e → e.isTimeout = true⟩

section Frames

variable (accepts : BitFrame → Prop)

def acked (frame : BitFrame) : Step := ⟨frame, fun answer => ∃ f, answer = .ok f ∧ accepts f⟩

/-- The frames that open the back door of a card that was halted. -/
def opening : List BitFrame := [⟨[0x40], 7, rfl⟩, .ofBytes [0x43]]

/-- The frames that write block zero. -/
def writing (data : Octets 16) : List BitFrame :=
  [.ofBytes (Crc.a.append [0xa0, 0x00]), .ofBytes (Crc.a.append data.toList)]

/-- The five steps that set an identifier, with the frames that pass for an acknowledge. -/
def setting (uid : Octets 4) (sak : UInt8) (atqa : Octets 2) : List Step :=
  halting :: (opening ++ writing (blockZero uid sak atqa)).map (acked accepts)

end Frames

section Acknowledges

variable {frame : BitFrame}

theorem Mistaken.not_acknowledges (mistaken : Mistaken frame) : ¬ Acknowledges frame := by
  intro acknowledges
  cases mistaken with
  | marked whole held _ more =>
      cases acknowledges with
      | nibble four => omega
      | byte _ held' =>
          rw [held'] at held
          exact more (List.cons.inj held).1.symm
  | uneven short odd =>
      cases acknowledges with
      | nibble four => exact odd four
      | byte whole => omega

theorem expectAck_eq_ok_iff :
    expectAck frame = .ok () ↔ Taken frame := by
  obtain ⟨data, bits, length⟩ := frame
  unfold expectAck
  cases data with
  | nil =>
      refine ⟨nofun, ?_⟩
      rintro ((⟨-, held, -⟩ | ⟨-, held⟩) | (⟨-, held, -, -⟩ | ⟨-, -, held, -⟩)) <;> cases held
  | cons b rest =>
      dsimp only
      constructor
      · intro taken
        split at taken
        · rename_i low
          obtain ⟨low, short⟩ := low
          obtain rfl : rest = [] := List.length_eq_zero_iff.mp (by
            rw [List.length_cons] at length
            omega)
          by_cases whole : bits = 8
          · by_cases code : b = 0x0a
            · exact .inl (.byte whole (by rw [code]))
            · exact .inr (.marked whole rfl low code)
          · by_cases four : bits = 4
            · exact .inl (.nibble four rfl low)
            · exact .inr (.uneven (Nat.lt_of_le_of_ne short whole) four rfl low)
        · cases taken
      · intro either
        have taken : b &&& 0x0f = ackCode ∧ bits ≤ 8 := by
          rcases either with (⟨four, held, low⟩ | ⟨whole, held⟩) |
            (⟨whole, held, low, -⟩ | ⟨short, -, held, low⟩)
          all_goals obtain ⟨rfl, -⟩ := List.cons.inj held
          · exact ⟨low, Nat.le_trans (Nat.le_of_eq four) (by decide)⟩
          · exact ⟨by decide, Nat.le_of_eq whole⟩
          · exact ⟨low, Nat.le_of_eq whole⟩
          · exact ⟨low, Nat.le_of_lt short⟩
        rw [if_pos taken]

end Acknowledges

namespace Course

variable {wait : Timeout} {refused refused' : Error → Prop} {steps steps' : List Step}
  {t u : List Chip.Event} {r : Except Error Unit}

theorem mono (course : Course wait refused steps t r) (more : ∀ e, refused e → refused' e) :
    Course wait refused' steps t r := by
  induction course with
  | done => exact .done
  | refused steps held => exact .refused steps (more _ held)
  | stopped rest e other => exact .stopped rest e other
  | passed passes _ ih => exact .passed passes ih

/-- A switch that is refused at the end fails what went well before. -/
theorem spoiled (course : Course wait refused steps t (.ok ())) {e : Error} (refuses : refused e) :
    Course wait refused steps t (.error e) := by
  generalize came : Except.ok () = r at course
  induction course with
  | done => exact .refused [] refuses
  | refused | stopped => cases came
  | passed passes _ ih => exact .passed passes (ih came)

theorem append (first : Course wait refused steps t (.ok ()))
    (rest : Course wait refused steps' u r) :
    Course wait refused (steps ++ steps') (t ++ u) r := by
  generalize came : Except.ok () = outcome at first
  induction first with
  | done => exact rest
  | refused | stopped => cases came
  | passed passes _ ih => exact .passed passes (ih came)

theorem append_failed {e : Error} (first : Course wait refused steps t (.error e)) :
    Course wait refused (steps ++ steps') t (.error e) := by
  generalize came : Except.error e = outcome at first
  induction first with
  | done => cases came
  | refused steps held =>
      cases came
      exact .refused _ held
  | stopped rest e' other =>
      cases came
      exact .stopped _ _ other
  | passed passes _ ih => exact .passed passes (ih came)

/-- A course that goes well takes every step, and every answer lets the next one. -/
theorem eq_ok_iff (clear : ∀ e, ¬ refused e) (course : Course wait refused steps t r) :
    r = .ok () ↔ List.Forall₂ (Passed wait) steps t := by
  induction course with
  | done => exact ⟨fun _ => .nil, fun _ => rfl⟩
  | refused steps held => exact absurd held (clear _)
  | stopped rest e other =>
      refine ⟨nofun, fun all => ?_⟩
      obtain ⟨answer, passes, same⟩ := (List.forall₂_cons.mp all).1
      cases same
      exact absurd passes other
  | @passed step answer rest t r passes _ ih =>
      refine ih.trans ⟨fun all => .cons ⟨answer, passes, rfl⟩ all, fun all => ?_⟩
      exact (List.forall₂_cons.mp all).2

theorem refused_of_nil {e : Error} (course : Course wait refused steps [] (.error e)) :
    refused e := by
  cases course with
  | refused _ held => exact held

/-- Frames that are told apart from acknowledges are taken for nothing else. -/
theorem acknowledged {frames : List BitFrame}
    (course : Course wait refused (frames.map (acked Taken)) t r)
    (clear : ∀ event ∈ t, ¬ Misheard event) :
    Course wait refused (frames.map (acked Acknowledges)) t r := by
  induction frames generalizing t with
  | nil =>
      cases course with
      | done => exact .done
      | refused _ held => exact .refused [] held
  | cons frame frames ih =>
      cases course with
      | refused _ held => exact .refused _ held
      | stopped _ e other =>
          refine .stopped _ e fun passes => other ?_
          obtain ⟨f, same, acknowledges⟩ := passes
          exact ⟨f, same, .inl acknowledges⟩
      | passed passes later =>
          obtain ⟨f, rfl, acknowledges | mistaken⟩ := passes
          · exact .passed ⟨f, rfl, acknowledges⟩
              (ih later fun event member => clear event (.tail _ member))
          · exact absurd ⟨_, _, f, rfl, mistaken⟩ (clear _ (.head _))

/-- After a frame that is taken for an acknowledge by mistake, the steps go on. -/
theorem not_misheard {frames : List BitFrame} (clear : ∀ e, ¬ refused e)
    (course : Course wait refused (frames.map (acked Taken)) t r)
    (strict : Course wait refused (frames.map (acked Acknowledges)) t r) :
    ∀ event ∈ t, ¬ Misheard event := by
  -- The courses share a log, so that neither takes a frame for an acknowledge alone.
  induction frames generalizing t with
  | nil =>
      cases course with
      | done => exact fun _ member => nomatch member
      | refused _ held => exact absurd held (clear _)
  | cons frame frames ih =>
      cases course with
      | refused _ held => exact absurd held (clear _)
      | stopped _ e other =>
          intro event member
          rw [List.mem_singleton.mp member]
          rintro ⟨_, _, f, ⟨⟩, mistaken⟩
          exact other ⟨f, rfl, .inr mistaken⟩
      | passed passes later =>
          cases strict with
          | stopped _ e other => exact absurd later.refused_of_nil (clear _)
          | passed agreed rest =>
              intro event member
              rcases List.mem_cons.mp member with rfl | further
              · rintro ⟨_, _, f, ⟨⟩, mistaken⟩
                obtain ⟨_, ⟨⟩, acknowledges⟩ := agreed
                exact mistaken.not_acknowledges acknowledges
              · exact ih later rest event further

/-- The halt comes first, and nothing it is answered with counts as an acknowledge. -/
theorem acknowledged_tail {frames : List BitFrame}
    (course : Course wait refused (halting :: frames.map (acked Taken)) t r)
    (clear : ∀ event ∈ t.tail, ¬ Misheard event) :
    Course wait refused (halting :: frames.map (acked Acknowledges)) t r := by
  cases course with
  | refused _ held => exact .refused _ held
  | stopped _ e other => exact .stopped _ e other
  | passed passes later => exact .passed passes (later.acknowledged clear)

theorem not_misheard_tail {frames : List BitFrame} (clear : ∀ e, ¬ refused e)
    (course : Course wait refused (halting :: frames.map (acked Taken)) t r)
    (strict : Course wait refused (halting :: frames.map (acked Acknowledges)) t r) :
    ∀ event ∈ t.tail, ¬ Misheard event := by
  cases course with
  | refused _ held => exact absurd held (clear _)
  | stopped _ e other => exact fun _ member => nomatch member
  | passed passes later =>
      cases strict with
      | stopped _ e other => exact absurd passes other
      | passed _ rest => exact later.not_misheard clear rest

end Course

section Sections

variable {wait : Timeout} {steps : List Step} {t : List Chip.Event} {r : Except Error Unit}

/-- The chip refused a switch with this failure. -/
def Refuses (t : List Chip.Event) (e : Error) : Prop :=
  ∃ switch on, ⟨.configure switch on, .error e⟩ ∈ t

def exchanged (t : List Chip.Event) : List Chip.Event := t.filter fun event => event.1.isExchange

theorem exchanged_append (t u : List Chip.Event) :
    exchanged (t ++ u) = exchanged t ++ exchanged u := List.filter_append t u

theorem Course.exchanged_eq {refused : Error → Prop} (course : Course wait refused steps t r) :
    exchanged t = t := by
  refine List.filter_eq_self.mpr fun event member => ?_
  induction course with
  | done | refused => cases member
  | stopped rest e other =>
      rw [List.mem_singleton.mp member]
      rfl
  | passed _ _ ih =>
      rcases List.mem_cons.mp member with rfl | later
      · rfl
      · exact ih later

theorem Course.around {u v : List Chip.Event} {outcome restored : Except Error Unit}
    (course : Course wait (fun _ => False) steps u outcome) (mute : exchanged v = [])
    (blamed : ∀ e, restored = .error e → Refuses v e) :
    Course wait (Refuses (⟨.configure .handleCrc false, .ok ()⟩ ::
        ⟨.configure .easyFraming false, .ok ()⟩ :: (u ++ v))) steps
      (exchanged (⟨.configure .handleCrc false, .ok ()⟩ ::
        ⟨.configure .easyFraming false, .ok ()⟩ :: (u ++ v)))
      (Chip.firstFailure outcome restored) := by
  have said : exchanged (u ++ v) = u := by
    rw [exchanged_append, course.exchanged_eq, mute, List.append_nil]
  change Course wait _ steps (exchanged (u ++ v)) _
  rw [said]
  cases outcome with
  | error e => exact course.mono fun _ => False.elim
  | ok done =>
      cases restored with
      | ok done => exact course.mono fun _ => False.elim
      | error e =>
          obtain ⟨switch, on, member⟩ := blamed e rfl
          exact (course.mono fun _ => False.elim).spoiled
            ⟨switch, on, .tail _ (.tail _ (List.mem_append_right u member))⟩

/-- A section with raw framing takes the steps of its body. -/
theorem course_of_bracketed
    (bracketed : Chip.Bracketed (Course wait (fun _ => False) steps) t r) :
    Course wait (Refuses t) steps (exchanged t) r := by
  cases bracketed with
  | refused e => exact .refused steps ⟨_, _, .head _⟩
  | half e => exact .refused steps ⟨_, _, .tail _ (.head _)⟩
  | stuck e course =>
      refine course.around rfl fun e' same => ?_
      cases same
      exact ⟨_, _, .head _⟩
  | through restored course =>
      refine course.around rfl fun e' same => ?_
      cases same
      exact ⟨_, _, .tail _ (.head _)⟩

/-- The exchanges of a transcript are steps in turn, and no switch was refused if all went well. -/
structure Runs (wait : Timeout) (steps : List Step) (t : List Chip.Event)
    (r : Except Error Unit) : Prop where
  course : Course wait (Refuses t) steps (exchanged t) r
  obliges : r = .ok () → Chip.Obliges t

theorem runs_of_bracketed
    (bracketed : Chip.Bracketed (Course wait (fun _ => False) steps) t r) :
    Runs wait steps t r := by
  refine ⟨course_of_bracketed bracketed, ?_⟩
  rintro rfl
  obtain ⟨u, rfl, course⟩ := bracketed.of_ok
  have own : ∀ event ∈ u, Chip.Event.refused event = false := by
    intro event member
    rw [← course.exchanged_eq] at member
    obtain ⟨call, answer⟩ := event
    have exchanges := (List.mem_filter.mp member).2
    cases call with
    | configure => cases exchanges
    | _ => rfl
  intro event member
  simp only [Chip.rawly, List.mem_cons, List.mem_append, List.not_mem_nil, or_false] at member
  rcases member with rfl | rfl | inside | rfl | rfl
  · rfl
  · rfl
  · exact own event inside
  · rfl
  · rfl

theorem Refuses.mono {u : List Chip.Event} {e : Error} (refuses : Refuses t e)
    (within : ∀ event ∈ t, event ∈ u) : Refuses u e := by
  obtain ⟨switch, on, member⟩ := refuses
  exact ⟨switch, on, within _ member⟩

theorem not_refuses_of_obliges (obliges : Chip.Obliges t) (e : Error) : ¬ Refuses t e := by
  rintro ⟨switch, on, member⟩
  cases obliges _ member

namespace Runs

theorem append {steps' : List Step} {u : List Chip.Event} (first : Runs wait steps t (.ok ()))
    (rest : Runs wait steps' u r) : Runs wait (steps ++ steps') (t ++ u) r where
  course := by
    rw [exchanged_append]
    exact (first.course.mono fun e refuses => refuses.mono fun _ => List.mem_append_left u).append
      (rest.course.mono fun e refuses => refuses.mono fun _ => List.mem_append_right t)
  obliges well event member :=
    (List.mem_append.mp member).elim (first.obliges rfl event) (rest.obliges well event)

theorem append_failed {steps' : List Step} {e : Error} (first : Runs wait steps t (.error e)) :
    Runs wait (steps ++ steps') t (.error e) where
  course := first.course.append_failed
  obliges := nofun

end Runs

end Sections

section Programs

variable {wait : Timeout} {d : Device .initiator} {data : Octets 16}

/-- One exchange, by which it is decided whether what follows is done. -/
def Decides (wait : Timeout) (step : Step) (t : List Chip.Event) (passes : Prop) : Prop :=
  ∃ answer, t = [⟨.bits step.frame wait, answer⟩] ∧ (passes ↔ step.passes answer)

theorem Course.step {α : Type} {step : Step} {rest : List Step}
    {x : Act Chip (Device .initiator) α} {f : α → Act Chip (Device .initiator) Unit}
    (first : x.Assures d fun t r d' => Decides wait step t (∃ a, r = .ok a) ∧ d' = d)
    (later : ∀ a, (f a).Assures d fun t r d' => Course wait (fun _ => False) rest t r ∧ d' = d) :
    (x >>= f).Assures d fun t r d' => Course wait (fun _ => False) (step :: rest) t r ∧ d' = d := by
  refine first.bind ?_ ?_
  · rintro _ a _ ⟨⟨answer, rfl, passes⟩, rfl⟩
    refine (later a).mono ?_
    rintro t r _ ⟨course, rfl⟩
    exact ⟨.passed (passes.mp ⟨a, rfl⟩) course, rfl⟩
  · rintro _ e _ ⟨⟨answer, rfl, passes⟩, rfl⟩
    refine ⟨.stopped rest e fun passed => ?_, rfl⟩
    obtain ⟨_, ⟨⟩⟩ := passes.mpr passed

theorem Course.last {step : Step} {x : Act Chip (Device .initiator) Unit}
    (first : x.Assures d fun t r d' => Decides wait step t (∃ a, r = .ok a) ∧ d' = d) :
    x.Assures d fun t r d' => Course wait (fun _ => False) [step] t r ∧ d' = d := by
  rw [← bind_pure x]
  exact Course.step first fun _ => Act.assures_pure ⟨.done, rfl⟩

theorem assures_halt :
    (Chip.silentAsNone (Chip.bits (.ofBytes TypeA.halt) wait)).Assures d fun t r d' =>
      Decides wait halting t (∃ a, r = .ok a) ∧ d' = d := by
  have asked : (Chip.bits (.ofBytes TypeA.halt) wait).Assures d fun t r d' =>
      t = [⟨.bits halting.frame wait, r⟩] ∧ d' = d := Act.assures_request fun _ => ⟨rfl, rfl⟩
  refine Chip.assures_silentAsNone asked ?_ ?_ ?_
  · rintro _ frame _ ⟨rfl, rfl⟩
    exact ⟨⟨.ok frame, rfl, fun _ => nofun, fun _ => ⟨_, rfl⟩⟩, rfl⟩
  · rintro _ e _ ⟨rfl, rfl⟩ silent
    refine ⟨⟨.error e, rfl, fun _ => ?_, fun _ => ⟨_, rfl⟩⟩, rfl⟩
    rintro _ ⟨⟩
    exact silent
  · rintro _ e _ ⟨rfl, rfl⟩ loud
    refine ⟨⟨.error e, rfl, nofun, fun passes => ?_⟩, rfl⟩
    cases (passes e rfl).symm.trans loud

theorem assures_sendAcked (frame : BitFrame) :
    (sendAcked frame wait).Assures d fun t r d' =>
      Decides wait (acked Taken frame) t (∃ a, r = .ok a) ∧ d' = d := by
  have asked : (Chip.bits frame wait).Assures d fun t r d' =>
      t = [⟨.bits frame wait, r⟩] ∧ d' = d := Act.assures_request fun _ => ⟨rfl, rfl⟩
  refine (asked.read expectAck).mono ?_
  rintro _ _ _ ⟨answer, rfl, rfl, rfl⟩
  refine ⟨⟨answer, rfl, ?_⟩, rfl⟩
  constructor
  · rintro ⟨⟨⟩, agreed⟩
    obtain ⟨frame, rfl, taken⟩ := bind_eq_ok_iff.mp agreed
    exact ⟨frame, rfl, expectAck_eq_ok_iff.mp taken⟩
  · rintro ⟨frame, rfl, taken⟩
    exact ⟨(), expectAck_eq_ok_iff.mpr taken⟩

/-- A program run with raw framing, which takes the wait from the settings. -/
theorem assures_raw {x : Timeout → Act Chip (Device .initiator) Unit} {steps : List Step}
    (assures : ∀ d : Device .initiator, (x wait).Assures d fun t r d' =>
      Course wait (fun _ => False) steps t r ∧ d' = d)
    (timed : d.config.commandTimeout = wait) :
    (raw x).Assures d fun t r d' => Runs wait steps t r ∧ d' = { d with selected := none } := by
  subst timed
  refine Device.assures_timeout_bind (Act.assures_modify_bind ?_)
  refine (Chip.assures_withRawFraming_kept (assures _) rfl).mono ?_
  rintro t r d' ⟨bracketed, rfl⟩
  exact ⟨runs_of_bracketed bracketed, rfl⟩

theorem assures_unlock (timed : d.config.commandTimeout = wait) :
    unlock.Assures d fun t r d' =>
      Runs wait (halting :: opening.map (acked Taken)) t r ∧ d' = { d with selected := none } :=
  assures_raw (fun _ => Course.step assures_halt fun _ =>
    Course.step (assures_sendAcked _) fun _ => Course.last (assures_sendAcked _)) timed

theorem assures_writeBlockZero (timed : d.config.commandTimeout = wait) :
    (writeBlockZero data).Assures d fun t r d' =>
      Runs wait ((writing data).map (acked Taken)) t r ∧ d' = { d with selected := none } :=
  assures_raw (fun _ => Course.step (assures_sendAcked _) fun _ =>
    Course.last (assures_sendAcked _)) timed

theorem assures_setUid (uid : Octets 4) (sak : UInt8) (atqa : Octets 2)
    (timed : d.config.commandTimeout = wait) :
    (setUid uid sak atqa).Assures d fun t r d' =>
      Runs wait (setting Taken uid sak atqa) t r ∧ d' = { d with selected := none } := by
  refine (assures_unlock timed).bind ?_ ?_
  · rintro t _ _ ⟨opened, rfl⟩
    refine (assures_writeBlockZero (d := { d with selected := none }) timed).mono ?_
    rintro u r _ ⟨written, rfl⟩
    exact ⟨opened.append written, rfl⟩
  · rintro t e _ ⟨opened, rfl⟩
    exact ⟨opened.append_failed, rfl⟩

end Programs

section Setting

variable {accepts : BitFrame → Prop} {uid : Octets 4} {sak : UInt8} {atqa : Octets 2}
  {wait : Timeout} {t : List Chip.Event} {r : Except Error Unit}

/-- How an identifier is set, when these frames pass for an acknowledge: step by step, and with
success exactly when every switch was obeyed and every step was let pass. -/
structure Sets (accepts : BitFrame → Prop) (uid : Octets 4) (sak : UInt8) (atqa : Octets 2)
    (wait : Timeout) (t : List Chip.Event) (r : Except Error Unit) : Prop where
  course : Course wait (Refuses t) (setting accepts uid sak atqa) (exchanged t) r
  succeeds : r = .ok () ↔ Chip.Obliges t ∧
    List.Forall₂ (Passed wait) (setting accepts uid sak atqa) (exchanged t)

theorem Runs.sets (runs : Runs wait (setting accepts uid sak atqa) t r) :
    Sets accepts uid sak atqa wait t r where
  course := runs.course
  succeeds := by
    constructor
    · intro well
      have obliges := runs.obliges well
      exact ⟨obliges, (runs.course.eq_ok_iff (not_refuses_of_obliges obliges)).mp well⟩
    · rintro ⟨obliges, all⟩
      exact (runs.course.eq_ok_iff (not_refuses_of_obliges obliges)).mpr all

/-- The five frames that set an identifier go out in turn, each after an answer that is taken for an
acknowledge, and whatever else is answered ends the operation with a failure. As long as nothing is
mistaken for an acknowledge, that is what lets the frames go out; and over a chip that switches as
it is told nothing else does. -/
theorem identifier_set (uid : Octets 4) (sak : UInt8) (atqa : Octets 2) (d : Device .initiator) :
    (setUid uid sak atqa).Assures d fun t r _ =>
      Sets Taken uid sak atqa d.config.commandTimeout t r ∧
        ((∀ event ∈ (exchanged t).tail, ¬ Misheard event) →
          Sets Acknowledges uid sak atqa d.config.commandTimeout t r) ∧
        (Chip.Obliges t → Sets Acknowledges uid sak atqa d.config.commandTimeout t r →
          ∀ event ∈ (exchanged t).tail, ¬ Misheard event) := by
  refine (assures_setUid uid sak atqa rfl).mono ?_
  rintro t r _ ⟨runs, -⟩
  refine ⟨runs.sets, fun clear => ?_, fun obliges strict => ?_⟩
  · have strict : Runs d.config.commandTimeout (setting Acknowledges uid sak atqa) t r :=
      ⟨runs.course.acknowledged_tail clear, runs.obliges⟩
    exact strict.sets
  · exact runs.course.not_misheard_tail (not_refuses_of_obliges obliges) strict.course

def sampleUid : Octets 4 := ⟨[0xde, 0xad, 0xbe, 0xef], rfl⟩

def sampleAtqa : Octets 2 := ⟨[0x00, 0x04], rfl⟩

/-- Four bits that acknowledge. -/
def sampleAck : BitFrame := ⟨[0x0a], 4, rfl⟩

/-- A card answers the first frame of its back door with a whole byte of which only the low half is
the code. -/
def sampleMistaken : List Chip.Event :=
  Chip.rawly [⟨.bits (.ofBytes TypeA.halt) .standard, .error .rfTimeout⟩,
    ⟨.bits TypeA.magicWakeup .standard, .ok (.ofBytes [0xfa])⟩,
    ⟨.bits (.ofBytes [0x43]) .standard, .ok sampleAck⟩] ++
  Chip.rawly [⟨.bits (.ofBytes (TypeA.writeBlock 0)) .standard, .ok sampleAck⟩,
    ⟨.bits (.ofBytes (Crc.a.append (blockZero sampleUid 0x08 sampleAtqa).toList)) .standard,
      .ok sampleAck⟩]

/-- The identifier is set all the same. -/
theorem whole_byte_mistaken :
    (setUid sampleUid 0x08 sampleAtqa).Yields ⟨{}, none⟩ sampleMistaken (.ok ()) ⟨{}, none⟩ ∧
      ¬ Sets Acknowledges sampleUid 0x08 sampleAtqa .standard sampleMistaken (.ok ()) := by
  refine ⟨⟨0, .ask _ (.ask _ (.ask _ (.ask _ (.ask _ (.ask _ (.ask _ (.ask _ (.ask _ (.ask _
    (.ask _ (.ask _ (.ask _ (.done _)))))))))))))⟩, fun sets => ?_⟩
  obtain ⟨-, all⟩ := sets.succeeds.mp rfl
  obtain ⟨_, ⟨f, rfl, acknowledges⟩, same⟩ := (List.forall₂_cons.mp (List.forall₂_cons.mp all).2).1
  cases same
  cases acknowledges with
  | nibble four => cases four
  | byte _ held => cases held

end Setting

end Contactless.TypeA.Magic
