import Contactless.Proofs.TypeA.Story

/-!
Activation of a tag whose identifier is given. The groups of the identifier are selected one level
after the other, and the acknowledges of the tag must ask for just as many levels. A tag that is
activated has the identifier that was given; where the tag counts its levels differently, the
activation fails with a breach of the protocol.
-/
namespace Contactless

namespace Uid

variable (u : Uid)

/-- The frames that select the identifier, one for each level. -/
def selects : List Bytes := List.zipWith TypeA.select [.one, .two, .three] u.groups

theorem length_groups_eq : u.groups.length = u.levels := by
  unfold groups levels
  obtain ⟨a, b, c, d, h⟩ | ⟨a, b, c, d, e, f, g, h⟩ | ⟨a, b, c, d, e, f, g, i, j, k, h⟩ :=
    u.bytes_cases <;> rw [h] <;> rfl

theorem length_selects : u.selects.length = u.levels := by
  have most := u.length_groups.2
  rw [selects, List.length_zipWith, ← u.length_groups_eq]
  exact Nat.min_eq_right most

/-- How the groups carry the identifier. -/
structure Carried : Prop where
  count : u.groups.length = u.levels
  whole : uidOfGroups u.groups = u.bytes
  checked : ∀ group ∈ u.groups, TypeA.checkBcc group = .valid
  tagged : ∀ group ∈ u.groups.dropLast, TypeA.groupHead group = cascadeTag

theorem carried : u.Carried where
  count := u.length_groups_eq
  whole := u.uidOfGroups_groups
  checked _ := TypeA.checkBcc_cascadeGroups u.bytes
  tagged group member := by
    obtain ⟨i, inside, rfl⟩ := List.mem_iff_getElem.mp member
    rw [List.length_dropLast] at inside
    apply TypeA.groupHead_cascadeGroups u.bytes (i := i)
    · rw [List.getElem_dropLast]
      exact List.getElem?_eq_getElem _
    · change i + 1 < u.groups.length
      omega

end Uid

namespace TypeA

open Act

/-- A select acknowledge that can be read. -/
structure Acknowledge where
  answer : Bytes
  sak : UInt8
  reads : parseSak answer = .ok sak

/-- Some frames sent one after the other, with the acknowledges they got. -/
def selecting (wait : Timeout) (frames : List Bytes) (acks : List Acknowledge) :
    List Chip.Event :=
  List.zipWith (fun frame k => ⟨.bytes frame wait, .ok k.answer⟩) frames acks

/-- All ways up the levels of an identifier that is given, by the frames that are left to send. -/
inductive Rises (wait : Timeout) :
    List Bytes → List Chip.Event → Except Error (List Acknowledge × Acknowledge) → Prop
  | beyond (detail : String) : Rises wait [] [] (.error (.rfProtocol detail))
  | broken {frame : Bytes} {rest : List Bytes} {answer : Except Error Bytes} {e : Error} :
      (answer >>= parseSak) = .error e →
      Rises wait (frame :: rest) [⟨.bytes frame wait, answer⟩] (.error e)
  /-- The tag is complete while there are groups left. -/
  | short {frame : Bytes} {rest : List Bytes} (k : Acknowledge) (detail : String) :
      sakCascade k.sak = false → rest ≠ [] →
      Rises wait (frame :: rest) [⟨.bytes frame wait, .ok k.answer⟩]
        (.error (.rfProtocol detail))
  | last {frame : Bytes} (k : Acknowledge) : sakCascade k.sak = false →
      Rises wait [frame] [⟨.bytes frame wait, .ok k.answer⟩] (.ok ([], k))
  | more {frame : Bytes} {rest : List Bytes} {t : List Chip.Event}
      {r : Except Error (List Acknowledge × Acknowledge)} (k : Acknowledge) :
      sakCascade k.sak = true → Rises wait rest t r →
      Rises wait (frame :: rest) (⟨.bytes frame wait, .ok k.answer⟩ :: t)
        (r.map fun risen => (k :: risen.1, risen.2))

namespace Rises

variable {wait : Timeout} {frames : List Bytes} {t u v : List Chip.Event}
  {r : Except Error (List Acknowledge × Acknowledge)} {before : List Acknowledge}
  {last : Acknowledge}

/-- Who comes to the end has got an acknowledge for each frame, and only the last one is final. -/
theorem of_ok (rises : Rises wait frames t (.ok (before, last))) :
    before.length + 1 = frames.length ∧ (∀ k ∈ before, sakCascade k.sak = true) ∧
      sakCascade last.sak = false ∧ t = selecting wait frames (before ++ [last]) := by
  generalize came : Except.ok (before, last) = r at rises
  induction rises generalizing before with
  | beyond => cases came
  | broken => cases came
  | short => cases came
  | last k closed =>
      cases came
      exact ⟨rfl, List.forall_mem_nil _, closed, rfl⟩
  | @more frame rest t r k cascades _ ih =>
      cases r with
      | error e => cases came
      | ok risen =>
          cases came
          obtain ⟨count, all, closed, rfl⟩ := ih rfl
          exact ⟨congrArg Nat.succ count, List.forall_mem_cons.mpr ⟨cascades, all⟩, closed, rfl⟩

/-- The acknowledge of the first frame decides how it goes on. -/
theorem of_first {frame : Bytes} {rest : List Bytes} {k : Acknowledge}
    (rises : Rises wait (frame :: rest) t r)
    (said : (⟨.bytes frame wait, .ok k.answer⟩ : Chip.Event) :: u <+: t ++ v) :
    (sakCascade k.sak = false ∧ t = [⟨.bytes frame wait, .ok k.answer⟩] ∧
      (rest ≠ [] ∧ (∃ detail, r = .error (.rfProtocol detail)) ∨ rest = [] ∧ r = .ok ([], k))) ∨
      (sakCascade k.sak = true ∧ ∃ t' r', t = ⟨.bytes frame wait, .ok k.answer⟩ :: t' ∧
        u <+: t' ++ v ∧ Rises wait rest t' r' ∧
          r = r'.map fun risen => (k :: risen.1, risen.2)) := by
  have named {k' : Acknowledge} {w : List Chip.Event}
      (said : (⟨.bytes frame wait, .ok k.answer⟩ : Chip.Event) :: u <+:
        ⟨.bytes frame wait, .ok k'.answer⟩ :: w) : k = k' ∧ u <+: w := by
    obtain ⟨same, later⟩ := List.cons_prefix_cons.mp said
    refine ⟨?_, later⟩
    have answers := Except.ok.inj (eq_of_answer_bytes same)
    obtain ⟨answer, sak, reads⟩ := k
    obtain ⟨answer', sak', reads'⟩ := k'
    obtain rfl : answer = answer' := answers
    obtain rfl : sak = sak' := Except.ok.inj (reads.symm.trans reads')
    rfl
  cases rises with
  | broken failed =>
      obtain ⟨same, -⟩ := List.cons_prefix_cons.mp said
      rw [← eq_of_answer_bytes same] at failed
      have read : parseSak k.answer = .error _ := failed
      rw [k.reads] at read
      cases read
  | short k' detail closed left =>
      obtain ⟨rfl, -⟩ := named said
      exact .inl ⟨closed, rfl, .inl ⟨left, detail, rfl⟩⟩
  | last k' closed =>
      obtain ⟨rfl, -⟩ := named said
      exact .inl ⟨closed, rfl, .inr ⟨rfl, rfl⟩⟩
  | @more _ _ t' r' k' cascades rises =>
      obtain ⟨rfl, later⟩ := named said
      exact .inr ⟨cascades, t', r', rfl, later, rises, rfl⟩

theorem plain (rises : Rises wait frames t r) :
    ∀ event ∈ t, ∃ frame wait answer, event = ⟨.bytes frame wait, answer⟩ := by
  induction rises with
  | beyond => exact List.forall_mem_nil _
  | broken | short | last => exact List.forall_mem_singleton.mpr ⟨_, _, _, rfl⟩
  | more k cascades rises ih => exact List.forall_mem_cons.mpr ⟨⟨_, _, _, rfl⟩, ih⟩

end Rises

/-- An activator further on, with nothing more to warn of. -/
structure Activator.Onward (a b : Activator) : Prop where
  wait : b.timeout = a.timeout
  param : b.ratsParam = a.ratsParam
  quiet : b.warnings = a.warnings

section Levels

variable {a b : Activator} {groups : List (Octets 5)} {level : CascadeLevel} {group : Octets 5}

theorem assures_resolveLevel_beyond (absent : groups[level.index]? = none) (resolved : Bytes) :
    (Activator.resolveLevel (some groups) level resolved).Assures b fun t r _ =>
      t = [] ∧ ∃ detail, r = .error (.rfProtocol detail) := by
  refine assures_modify_bind ?_
  simp only [Activator.groupAt, absent]
  intro n
  exact ⟨rfl, _, rfl⟩

/-- A group that is given goes out as it is, and the acknowledge decides about the next one. Only
the last group may start with another byte than the cascade tag. -/
theorem assures_resolveLevel_given (found : groups[level.index]? = some group)
    (tagged : level.index + 1 < groups.length → groupHead group = cascadeTag)
    (onward : a.Onward b) (resolved : Bytes) :
    (Activator.resolveLevel (some groups) level resolved).Assures b fun t r b' =>
      match r with
      | .ok (.complete uid sak) =>
          ∃ k : Acknowledge, t = [⟨.bytes (select level group) a.timeout, .ok k.answer⟩] ∧
            sakCascade k.sak = false ∧ groups.length = level.index + 1 ∧ sak = k.sak ∧
            uid = resolved ++ group.toList.take 4 ∧ a.Onward b'
      | .ok (.cascade resolved') =>
          ∃ k : Acknowledge, t = [⟨.bytes (select level group) a.timeout, .ok k.answer⟩] ∧
            sakCascade k.sak = true ∧ resolved' = resolved ++ (group.toList.drop 1).take 3 ∧
            (level.index + 1 < groups.length → a.Onward b')
      | .error e =>
          (∃ answer, t = [⟨.bytes (select level group) a.timeout, answer⟩] ∧
            (answer >>= parseSak) = .error e) ∨
          ∃ (k : Acknowledge) (detail : String),
            t = [⟨.bytes (select level group) a.timeout, .ok k.answer⟩] ∧
            sakCascade k.sak = false ∧ groups.length ≠ level.index + 1 ∧
            e = .rfProtocol detail := by
  rw [← onward.wait]
  refine assures_modify_bind ?_
  simp only [Activator.groupAt, found]
  refine (assures_select _ level group).bind ?_ ?_
  · rintro _ sak _ ⟨answer, rfl, reads, rfl⟩
    cases answer with
    | error e => cases reads
    | ok answer =>
        let k : Acknowledge := ⟨answer, sak, reads.symm⟩
        refine assures_modify_bind ?_
        by_cases cascades : sakCascade sak = true
        · rw [if_pos cascades]
          by_cases untagged : groupHead group ≠ cascadeTag
          · rw [if_pos untagged]
            refine assures_modify_bind (assures_pure ⟨k, rfl, cascades, rfl, ?_⟩)
            intro more
            exact absurd (tagged more) untagged
          · rw [if_neg untagged]
            refine assures_pure ⟨k, rfl, cascades, rfl, ?_⟩
            intro more
            exact ⟨onward.wait, onward.param, onward.quiet⟩
        · have closed : sakCascade sak = false := Bool.eq_false_iff.mpr cascades
          rw [if_neg cascades]
          by_cases all : groups.length = level.index + 1
          · simp only [Activator.checkComplete, if_pos all]
            refine assures_pure ⟨k, rfl, closed, all, rfl, rfl, ?_⟩
            exact ⟨onward.wait, onward.param, onward.quiet⟩
          · simp only [Activator.checkComplete, if_neg all]
            exact assures_throw (.inr ⟨k, _, rfl, closed, all, rfl⟩)
  · rintro _ e _ ⟨answer, rfl, failed, rfl⟩
    exact .inl ⟨answer, rfl, failed.symm⟩

end Levels

section Identifiers

variable {a b : Activator} (u : Uid)

/-- The frames from a level on start with the one that selects the group of that level. -/
theorem drop_selects {i : Nat} {level : CascadeLevel} {group : Octets 5}
    (levels : [CascadeLevel.one, .two, .three].drop i =
      level :: [CascadeLevel.one, .two, .three].drop (i + 1))
    (found : u.groups[i]? = some group) :
    u.selects.drop i = select level group :: u.selects.drop (i + 1) := by
  obtain ⟨inside, same⟩ := List.getElem?_eq_some_iff.mp found
  simp only [Uid.selects, List.drop_zipWith]
  rw [levels, List.drop_eq_getElem_cons inside, same]
  rfl

/-- Where there are no groups left, there are no frames left. -/
theorem drop_selects_eq_nil {i : Nat} (absent : u.groups[i]? = none) :
    u.selects.drop i = [] := by
  rw [List.drop_eq_nil_iff, u.length_selects, ← u.length_groups_eq]
  exact List.getElem?_eq_none_iff.mp absent

/-- The levels from one on, after the bytes of the levels before it. The bytes are known to be those
of the identifier as long as there are groups left; beyond them nothing is read any more. -/
theorem assures_resolve_given (levels : List CascadeLevel) (i : Nat)
    (left : levels = [CascadeLevel.one, .two, .three].drop i) (resolved : Bytes)
    (whole : i < u.groups.length → resolved ++ uidOfGroups (u.groups.drop i) = u.bytes)
    (onward : i < u.groups.length → a.Onward b) :
    (Activator.resolve (some u.groups) levels resolved).Assures b fun t r b' =>
      match r with
      | .ok found =>
          ∃ before last, Rises a.timeout (u.selects.drop i) t (.ok (before, last)) ∧
            found = (u.bytes, last.sak) ∧ a.Onward b'
      | .error e => Rises a.timeout (u.selects.drop i) t (.error e) := by
  induction levels generalizing i resolved b with
  | nil =>
      have beyond : 3 ≤ i := List.drop_eq_nil_iff.mp left.symm
      have none : u.groups[i]? = none :=
        List.getElem?_eq_none_iff.mpr (Nat.le_trans u.length_groups.2 beyond)
      rw [drop_selects_eq_nil u none]
      exact assures_throw (.beyond _)
  | cons level rest ih =>
      have within : i < 3 := by
        apply Nat.lt_of_not_le
        intro beyond
        rw [List.drop_eq_nil_iff.mpr beyond] at left
        cases left
      obtain ⟨level', known, levels⟩ := drop_levels within
      obtain ⟨rfl, rfl⟩ := List.cons.inj (left.trans levels)
      have index := index_eq known
      cases found : u.groups[i]? with
      | none =>
          rw [drop_selects_eq_nil u found]
          rw [← index] at found
          refine (assures_resolveLevel_beyond found resolved).bind ?_ ?_
          · rintro _ _ _ ⟨-, _, came⟩
            cases came
          · rintro _ _ _ ⟨rfl, detail, came⟩
            cases came
            exact .beyond detail
      | some group =>
          have inside : i < u.groups.length := (List.getElem?_eq_some_iff.mp found).1
          have tagged : level.index + 1 < u.groups.length → groupHead group = cascadeTag := by
            rw [index]
            exact groupHead_cascadeGroups u.bytes found
          have split : u.groups.drop i = group :: u.groups.drop (i + 1) := by
            obtain ⟨_, rfl⟩ := List.getElem?_eq_some_iff.mp found
            exact List.drop_eq_getElem_cons inside
          rw [drop_selects u levels found]
          rw [← index] at found
          refine (assures_resolveLevel_given found tagged (onward inside) resolved).bind ?_ ?_
          · rintro _ (⟨uid, sak⟩ | resolved') b' came
            · obtain ⟨k, rfl, closed, all, rfl, rfl, onward'⟩ := came
              rw [index] at all
              have last : u.groups.drop (i + 1) = [] := List.drop_eq_nil_iff.mpr (by omega)
              have ended : u.selects.drop (i + 1) = [] :=
                drop_selects_eq_nil u (List.getElem?_eq_none_iff.mpr (by omega))
              rw [ended]
              refine assures_pure ⟨[], k, .last k closed, ?_, onward'⟩
              rw [← whole inside, split, last]
              rfl
            · obtain ⟨k, rfl, cascades, rfl, onward'⟩ := came
              rw [index] at onward'
              refine (ih (i + 1) rfl _ ?_ onward').mono ?_
              · intro more
                have further : u.groups.drop (i + 1) ≠ [] := by
                  rw [Ne, List.drop_eq_nil_iff]
                  omega
                rw [← whole inside, split, uidOfGroups_cons _ further, List.append_assoc]
              · rintro t (e | found) b' came
                · exact .more k cascades came
                · obtain ⟨before, last, rises, same, onward'⟩ := came
                  exact ⟨k :: before, last, .more k cascades rises, same, onward'⟩
          · rintro _ e _ (⟨answer, rfl, failed⟩ | ⟨k, detail, rfl, closed, left, rfl⟩)
            · exact .broken failed
            · refine .short k detail closed ?_
              rw [Ne, List.drop_eq_nil_iff, u.length_selects, ← u.length_groups_eq]
              omega

end Identifiers

/-- All ways to identify a tag that has been woken and is selected by an identifier. -/
inductive Activator.Identified (a : Activator) (u : Uid) (atqa : Octets 2) :
    List Chip.Event → Except Error Activation → Prop
  | lost {t : List Chip.Event} {e : Error} : Rises a.timeout u.selects t (.error e) →
      Identified a u atqa t (.error e)
  | unconfirmed {t v : List Chip.Event} {before : List Acknowledge} {last : Acknowledge}
      {e : Error} : Rises a.timeout u.selects t (.ok (before, last)) →
      Confirms a last.sak v (.error e) → Identified a u atqa (t ++ v) (.error e)
  | identified {t v : List Chip.Event} {before : List Acknowledge} {last : Acknowledge}
      {ats : Bytes} : Rises a.timeout u.selects t (.ok (before, last)) →
      Confirms a last.sak v (.ok ats) →
      Identified a u atqa (t ++ v) (.ok ⟨.typeA atqa last.sak u ats, []⟩)

/-- An attempt by an identifier, whatever state it leaves. -/
def Activator.Approaches (a : Activator) (u : Uid) (t : List Chip.Event)
    (r : Except Error (Option Activation)) : Prop :=
  ∃ a', a.Attempted (fun atqa t r _ => a.Identified u atqa t r) t r a'

section Attempts

variable {a a' : Activator} {u : Uid} {atqa : Octets 2} {t v said : List Chip.Event}

theorem assures_identify_given (a : Activator) (u : Uid) (atqa : Octets 2) :
    (Activator.identify (some u) atqa).Assures { a.reset with stage := .requested } fun t r _ =>
      a.Identified u atqa t r := by
  have onward : a.reset.Onward { a.reset with stage := .requested } := ⟨rfl, rfl, rfl⟩
  refine (assures_resolve_given u _ 0 rfl [] (fun _ => u.uidOfGroups_groups)
    fun _ => onward).bind ?_ ?_
  · rintro t _ b ⟨before, last, rises, rfl, onward⟩
    refine (assures_confirm a onward.wait onward.param atqa last.sak (ofBytes_bytes u)).mono ?_
    rintro v (e | act) b' came
    · exact .unconfirmed rises came.1
    · obtain ⟨ats, confirms, rfl, -⟩ := came
      rw [onward.quiet]
      exact .identified rises confirms
  · rintro t e b rises
    exact .lost rises

theorem assures_attempt_given (a : Activator) (u : Uid) :
    (Activator.attempt (some u)).Assures a fun t r _ => a.Approaches u t r := by
  refine (assures_attempt_of fun atqa => assures_identify_given a u atqa).mono ?_
  exact fun t r a' attempted => ⟨a', attempted⟩

/-- Whatever a tag answers, an activation by an identifier is such an attempt between switches. -/
theorem assures_activate_given (a : Activator) (u : Uid) :
    (Activator.activate (some u)).Assures a fun t r _ =>
      Chip.Bracketed (a.Approaches u) t r :=
  Chip.assures_withRawFraming (assures_attempt_given a u)

theorem Confirms.plain {sak : UInt8} {r : Except Error Bytes} (confirms : Confirms a sak t r) :
    ∀ event ∈ t, ∃ frame wait answer, event = ⟨.bytes frame wait, answer⟩ := by
  cases confirms with
  | unasked => exact List.forall_mem_nil _
  | asked => exact List.forall_mem_singleton.mpr ⟨_, _, _, rfl⟩

namespace Activator

theorem Identified.rises {r : Except Error Activation} (identified : a.Identified u atqa t r) :
    ∃ t' v outcome, t = t' ++ v ∧ Rises a.timeout u.selects t' outcome ∧
      ∀ e, outcome = .error e → r = .error e := by
  cases identified with
  | lost rises =>
      refine ⟨t, [], _, (List.append_nil t).symm, rises, ?_⟩
      rintro e ⟨⟩
      rfl
  | unconfirmed rises => exact ⟨_, _, _, rfl, rises, fun e came => nomatch came⟩
  | identified rises => exact ⟨_, _, _, rfl, rises, fun e came => nomatch came⟩

theorem Identified.plain {r : Except Error Activation} (identified : a.Identified u atqa t r) :
    ∀ event ∈ t, ∃ frame wait answer, event = ⟨.bytes frame wait, answer⟩ := by
  cases identified with
  | lost rises => exact rises.plain
  | unconfirmed rises confirms | identified rises confirms =>
      intro event member
      rcases List.mem_append.mp member with early | late
      · exact rises.plain event early
      · exact confirms.plain event late

end Activator

end Attempts

/-- What a tag says that is activated by an identifier. -/
structure Choice (u : Uid) where
  atqa : Octets 2
  /-- The acknowledges before the last one. -/
  before : List Acknowledge
  last : Acknowledge
  count : before.length + 1 = u.levels
  cascades : ∀ k ∈ before, sakCascade k.sak = true
  complete : sakCascade last.sak = false
  confirmed : Option Confirmed
  announced : confirmed.isSome = sakPart4 last.sak

namespace Choice

variable {u : Uid} (c : Choice u)

def exchanges (a : Activator) : List Chip.Event :=
  a.woken (.ok (.ofBytes c.atqa.toList)) ::
    (selecting a.timeout u.selects (c.before ++ [c.last]) ++ confirming a c.confirmed)

def activation : Activation where
  target := .typeA c.atqa c.last.sak u ((c.confirmed.map Confirmed.ats).getD [])
  warnings := []

variable {a : Activator} {t : List Chip.Event}

theorem exists_of_identified {atqa : Octets 2} {act : Activation}
    (identified : a.Identified u atqa t (.ok act)) :
    ∃ c : Choice u, a.woken (.ok (.ofBytes atqa.toList)) :: t = c.exchanges a ∧
      act = c.activation := by
  cases identified with
  | identified rises confirms =>
      obtain ⟨count, cascades, complete, rfl⟩ := rises.of_ok
      obtain ⟨confirmed, announced, rfl, rfl⟩ := confirms.of_ok
      exact ⟨⟨atqa, _, _, count.trans u.length_selects, cascades, complete, confirmed, announced⟩,
        rfl, rfl⟩

end Choice

/-- The frame of a request to select. -/
def selected : Chip.Event → Option Bytes
  | ⟨.bytes frame _, _⟩ =>
      if frame.take 2 ∈ [CascadeLevel.one, .two, .three].map fun level => [level.sel, nvbSelect]
      then some frame else none
  | _ => none

section Selected

end Selected

section Choosing

variable {a : Activator} {u : Uid} {t : List Chip.Event} {r : Except Error (Option Activation)}

/-- Short frames are for the wake-up only. -/
theorem Activator.Approaches.bits {frame : BitFrame} {wait : Timeout}
    {heard : Except Error BitFrame} (approaches : a.Approaches u t r)
    (member : ⟨.bits frame wait, heard⟩ ∈ t) : frame = a.wakeup.frame := by
  have woken {answer : Except Error BitFrame}
      (same : (⟨.bits frame wait, heard⟩ : Chip.Event) = a.woken answer) :
      frame = a.wakeup.frame := by
    cases same
    rfl
  obtain ⟨a', attempted⟩ := approaches
  cases attempted with
  | absent => exact woken (List.mem_singleton.mp member)
  | unwoken => exact woken (List.mem_singleton.mp member)
  | woken identified =>
      rcases List.mem_cons.mp member with same | later
      · exact woken same
      · obtain ⟨_, _, _, same⟩ := identified.plain _ later
        cases same

/-- An activation that succeeds has got an acknowledge for each group. -/
theorem Activator.Approaches.exists_choice {act : Activation}
    (bracketed : Chip.Bracketed (a.Approaches u) t (.ok (some act))) :
    ∃ c : Choice u, t = Chip.rawly (c.exchanges a) ∧ act = c.activation := by
  obtain ⟨t₀, rfl, a', attempted⟩ := bracketed.of_ok
  generalize came : Except.ok (some act) = r at attempted
  cases attempted with
  | absent => cases came
  | unwoken => cases came
  | @woken atqa t' r' _ identified =>
      cases r' with
      | error e => cases came
      | ok act' =>
          cases came
          obtain ⟨c, said, rfl⟩ := Choice.exists_of_identified identified
          exact ⟨c, congrArg Chip.rawly said, rfl⟩

end Choosing

end TypeA

end Contactless
