import Contactless.Proofs.TypeA.Direct

/-!
Tags that are activated by their identifier. Which answers lead there is known from the frames that
an activation may exchange; here the tag and the chip are held to them, and the activation is led
from one to the next.
-/
namespace Contactless.TypeA

open Act

variable {τ : Type} {h : Handler Chip τ} {p p' p'' : τ}

section Told

variable {a : Activator} {u : Uid} {wait : Timeout} {frames : List Bytes} {t v w : List Chip.Event}

theorem Rises.exists_first {frame : Bytes} {rest : List Bytes}
    {r : Except Error (List Acknowledge × Acknowledge)} (rises : Rises wait (frame :: rest) t r) :
    ∃ answer t', t = ⟨.bytes frame wait, answer⟩ :: t' := by
  cases rises with
  | broken => exact ⟨_, [], rfl⟩
  | short k => exact ⟨_, [], rfl⟩
  | last k => exact ⟨_, [], rfl⟩
  | more k => exact ⟨_, _, rfl⟩

/-- Whoever hears a final acknowledge for the last frame and no other before has come to the end. -/
theorem Rises.of_answers {r : Except Error (List Acknowledge × Acknowledge)}
    {before : List Acknowledge} {last : Acknowledge} (rises : Rises wait frames t r)
    (count : before.length + 1 = frames.length) (cascades : ∀ k ∈ before, sakCascade k.sak = true)
    (closed : sakCascade last.sak = false) (answers : h.Answers p (t ++ v) p')
    (tells : h.Answers p (selecting wait frames (before ++ [last]) ++ w) p'') :
    r = .ok (before, last) ∧ ∃ p₁, h.Answers p₁ v p' ∧ h.Answers p₁ w p'' := by
  -- On the acknowledges before the last one: each of them answers the next frame.
  induction before generalizing frames t r p with
  | nil =>
      cases frames with
      | nil => cases count
      | cons frame rest =>
          obtain rfl : rest = [] := List.length_eq_zero_iff.mp (Nat.succ.inj count).symm
          obtain ⟨answer, t', rfl⟩ := rises.exists_first
          obtain ⟨rfl, p₁, further, further'⟩ := answers.head tells
          rcases rises.of_first (List.prefix_refl (_ :: (t' ++ v))) with
            ⟨-, ended, ⟨left, -⟩ | ⟨-, rfl⟩⟩ | ⟨cascading, -⟩
          · exact absurd rfl left
          · cases ended
            exact ⟨rfl, p₁, further, further'⟩
          · rw [closed] at cascading
            cases cascading
  | cons k before ih =>
      cases frames with
      | nil => cases count
      | cons frame rest =>
          obtain ⟨cascading, cascades⟩ := List.forall_mem_cons.mp cascades
          obtain ⟨answer, t', rfl⟩ := rises.exists_first
          obtain ⟨rfl, p₁, further, further'⟩ := answers.head tells
          rcases rises.of_first (List.prefix_refl (_ :: (t' ++ v))) with
            ⟨final, -⟩ | ⟨-, t'', r', same, -, rises', rfl⟩
          · rw [final] at cascading
            cases cascading
          · cases same
            obtain ⟨rfl, onward⟩ := ih rises' (Nat.succ.inj count) cascades further further'
            exact ⟨rfl, onward⟩

theorem Confirms.of_answers {sak : UInt8} {outcome : Except Error Bytes}
    {confirmed : Option Confirmed} (confirms : Confirms a sak t outcome)
    (announced : confirmed.isSome = sakPart4 sak) (answers : h.Answers p t p')
    (tells : h.Answers p (confirming a confirmed) p'') :
    outcome = .ok ((confirmed.map Confirmed.ats).getD []) := by
  have said : confirming a confirmed <+: t := by
    cases confirmed with
    | none => exact List.nil_prefix
    | some c =>
        cases confirms with
        | unasked part4 =>
            rw [part4] at announced
            cases announced
        | asked answer part4 =>
            obtain ⟨rfl, -⟩ := answers.head tells
            exact List.prefix_refl _
  exact (confirms.of_said announced said).2

namespace Choice

variable (c : Choice u)
include c

theorem of_answers_identified {r : Except Error Activation}
    (identified : a.Identified u c.atqa t r) (answers : h.Answers p t p')
    (tells : h.Answers p (selecting a.timeout u.selects (c.before ++ [c.last]) ++
      confirming a c.confirmed) p'') : r = .ok c.activation := by
  have count : c.before.length + 1 = u.selects.length := c.count.trans u.length_selects.symm
  cases identified with
  | lost rises =>
      rw [← List.append_nil t] at answers
      cases (rises.of_answers count c.cascades c.complete answers tells).1
  | unconfirmed rises confirms =>
      obtain ⟨came, p₁, answers, tells⟩ :=
        rises.of_answers count c.cascades c.complete answers tells
      cases came
      cases confirms.of_answers c.announced answers tells
  | identified rises confirms =>
      obtain ⟨came, p₁, answers, tells⟩ :=
        rises.of_answers count c.cascades c.complete answers tells
      cases came
      cases confirms.of_answers c.announced answers tells
      rfl

theorem of_answers {r : Except Error (Option Activation)} (approaches : a.Approaches u t r)
    (answers : h.Answers p t p') (tells : h.Answers p (c.exchanges a) p'') :
    r = .ok (some c.activation) := by
  obtain ⟨a', attempted⟩ := approaches
  cases attempted with
  | absent => cases (answers.head tells).1
  | unwoken failed =>
      obtain ⟨rfl, -⟩ := answers.head tells
      have read : Activator.readAtqa (.ofBytes c.atqa.toList) = .error _ := failed
      rw [readAtqa_ofBytes] at read
      cases read
  | @woken atqa t' r' _ identified =>
      obtain ⟨same, p₁, further, further'⟩ := answers.head tells
      obtain rfl := Octets.ext_toList (congrArg BitFrame.data (Except.ok.inj same))
      rw [c.of_answers_identified identified further further']
      rfl

end Choice

end Told

/-- What a tag of one level says that is not asked for an answer to select. -/
def Choice.single {u : Uid} (level : u.levels = 1) (atqa : Octets 2) (last : Acknowledge)
    (complete : sakCascade last.sak = false) (unasked : sakPart4 last.sak = false) : Choice u where
  atqa := atqa
  before := []
  last := last
  count := level.symm
  cascades := List.forall_mem_nil _
  complete := complete
  confirmed := none
  announced := unasked.symm

/-- A tag is activated by its identifier if it says what a choice says, whatever else the chip and
the tag would say to other frames. -/
theorem exists_activated (obliging : Chip.Obliging h) {u : Uid} (c : Choice u) (a : Activator)
    (n : Nat)
    (tells : h.Answers (h (.configure .easyFraming false) (h (.configure .handleCrc false) p).2).2
      (c.exchanges a) p') :
    ∃ a' p', Ends h (Activator.activate (some u)) n a p (.ok (some c.activation)) a' p' := by
  obtain ⟨t, r, a', p', held, approaches⟩ :=
    Chip.held_withRawFraming obliging (assures_attempt_given a u) n p
  cases held.answers with
  | cons first rest =>
      cases rest with
      | cons second rest =>
          obtain ⟨p₂, answers⟩ := rest.exists_left
          rw [first, second] at tells
          obtain rfl := c.of_answers approaches answers tells
          exact ⟨a', p', held.run⟩

section Samples

def plainUid : Uid := ⟨[0x04, 0x03, 0x02, 0x01], .inl rfl⟩

def plainBench : Bench where
  answers := [.ok (.ofBytes [0x04, 0x00]), .ok (.ofBytes [0x08])]

theorem exists_activated_plain : ∃ a' p', Ends Bench.handler (Activator.activate (some plainUid))
    0 (.ofConfig {}) plainBench (.ok (some ⟨.typeA ⟨[0x04, 0x00], rfl⟩ 0x08 plainUid [], []⟩))
    a' p' :=
  exists_activated (fun _ _ _ => rfl) (.single rfl ⟨[0x04, 0x00], rfl⟩ ⟨[0x08], 0x08, rfl⟩ rfl rfl)
    (.ofConfig {}) 0 (.cons rfl (.cons rfl (.nil _)))

end Samples

end Contactless.TypeA
