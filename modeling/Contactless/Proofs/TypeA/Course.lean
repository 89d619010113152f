import Contactless.Proofs.Exchange
import Contactless.Proofs.TypeA.Activation
import Contactless.Proofs.TypeA.Failure

/-!
Activation of a tag that may answer anything. A tag that is activated has gone up the cascade level
by level, and what it said there tells the identifier, the warnings and the state. Every other
course breaks off at the first answer that is missing or cannot be read, or leads beyond the last
level.
-/
namespace Contactless.TypeA

open Act

/-! What a tag says on its way up. -/

/-- A level as a tag goes through it: its group, and its answer to being selected. -/
structure Heard where
  level : CascadeLevel
  group : Octets 5
  answer : Bytes
  sak : UInt8
  reads : parseSak answer = .ok sak

/-- Oddities of the check byte. -/
def bccWarnings (level : CascadeLevel) (group : Octets 5) : List Warning :=
  if bcc (group.toList.take 4) = group.get (Fin.last 4) then []
  else [.bccMismatch level (bcc (group.toList.take 4)) (group.get (Fin.last 4))]

namespace Heard

variable (h : Heard)

def exchanges (wait : Timeout) : List Chip.Event :=
  [⟨.bits (.ofBytes [h.level.sel, 0x20]) wait, .ok (.ofBytes h.group.toList)⟩,
    ⟨.bytes (Crc.a.append ([h.level.sel, 0x70] ++ h.group.toList)) wait, .ok h.answer⟩]

/-- A group that another one follows starts with the cascade tag. -/
def tagWarnings : List Warning :=
  if sakCascade h.sak = true ∧ groupHead h.group ≠ cascadeTag then
    [.cascadeTagMismatch h.level (groupHead h.group)]
  else []

def warnings : List Warning := bccWarnings h.level h.group ++ h.tagWarnings

/-- What the level comes to, after the identifier bytes of the levels before it. -/
def ended (resolved : Bytes) : Activator.LevelEnd :=
  if sakCascade h.sak then .cascade (resolved ++ (h.group.toList.drop 1).take 3)
  else .complete (resolved ++ h.group.toList.take 4) h.sak

/-- An activator after the level. -/
def noted (a : Activator) : Activator :=
  { a with
    stage := .selected h.level
    level := h.level
    groups := a.groups ++ h.group.toList.take 4
    sak := h.sak
    warnings := a.warnings ++ bccWarnings h.level h.group ++ h.tagWarnings }

end Heard

/-- A level breaks off at a group or at an acknowledge that is missing or cannot be read. -/
inductive Breaks (wait : Timeout) (level : CascadeLevel) : List Chip.Event → Error → Prop
  | group {heard : Except Error BitFrame} {e : Error} :
      (heard >>= Activator.readGroup) = .error e →
      Breaks wait level [⟨.bits (.ofBytes (anticollision level)) wait, heard⟩] e
  | acknowledge {group : Octets 5} {answer : Except Error Bytes} {e : Error} :
      (answer >>= parseSak) = .error e →
      Breaks wait level
        [⟨.bits (.ofBytes (anticollision level)) wait, .ok (.ofBytes group.toList)⟩,
          ⟨.bytes (select level group) wait, answer⟩] e

/-- All ways up some levels: to the last one of the tag, beyond the last one there is, or to where a
level breaks off. -/
inductive Climbs (wait : Timeout) :
    List CascadeLevel → List Chip.Event → Except Error (List Heard × Heard) → Prop
  | beyond : Climbs wait [] [] (.error fourthLevel)
  | broken {level : CascadeLevel} {rest : List CascadeLevel} {t : List Chip.Event} {e : Error} :
      Breaks wait level t e → Climbs wait (level :: rest) t (.error e)
  | last {rest : List CascadeLevel} (h : Heard) : sakCascade h.sak = false →
      Climbs wait (h.level :: rest) (h.exchanges wait) (.ok ([], h))
  | more {rest : List CascadeLevel} {t : List Chip.Event}
      {r : Except Error (List Heard × Heard)} (h : Heard) : sakCascade h.sak = true →
      Climbs wait rest t r →
      Climbs wait (h.level :: rest) (h.exchanges wait ++ t)
        (r.map fun climbed => (h :: climbed.1, climbed.2))

section Readers

theorem eq_ofBytes_of_readAtqa {frame : BitFrame} {atqa : Octets 2}
    (reads : Activator.readAtqa frame = .ok atqa) : frame = .ofBytes atqa.toList := by
  obtain ⟨data, bits, length⟩ := frame
  unfold Activator.readAtqa at reads
  dsimp only at reads
  split at reads
  · rename_i whole
    cases reads
    have same : data.length * 8 = bits := by omega
    subst same
    rfl
  · cases reads

/-- An answer that cannot be read is not taken for silence. -/
theorem isTimeout_of_readAtqa {frame : BitFrame} {e : Error}
    (failed : Activator.readAtqa frame = .error e) : e.isTimeout = false := by
  unfold Activator.readAtqa at failed
  split at failed
  split at failed
  · cases failed
  · cases failed
    rfl

theorem eq_ofBytes_of_readGroup {frame : BitFrame} {group : Octets 5}
    (reads : Activator.readGroup frame = .ok group) : frame = .ofBytes group.toList := by
  obtain ⟨data, bits, length⟩ := frame
  unfold Activator.readGroup Octets.ofBytes at reads
  split at reads
  · rename_i whole
    split at reads
    · have aligned : bits % 8 = 0 := eq_of_beq whole
      cases reads
      have same : data.length * 8 = bits := by omega
      subst same
      rfl
    · cases reads
  · cases reads

end Readers

section Frames

variable {σ : Type} {s : σ} {wait : Timeout}

theorem assures_exchangeFrame {frame : BitFrame} (short : frame.byteLength ≤ Chip.frameLimit) :
    (Chip.exchangeFrame frame wait : Act Chip σ BitFrame).Assures s fun t r s' =>
      t = [⟨.bits frame wait, r⟩] ∧ s' = s := by
  unfold Chip.exchangeFrame
  rw [if_neg (Nat.not_lt.mpr short)]
  exact assures_request fun r => ⟨rfl, rfl⟩

variable (a : Activator)

theorem assures_wake :
    Activator.wake.Assures a fun t r a' =>
      ∃ woken, t = [⟨.bits a.wakeup.frame a.timeout, woken⟩] ∧
        r = (woken >>= Activator.readAtqa) ∧ a' = { a with stage := .requested } := by
  have short : a.wakeup.frame.byteLength ≤ Chip.frameLimit := by cases a.wakeup <;> decide
  exact assures_modify_bind (assures_get_bind ((assures_exchangeFrame short).read _))

theorem assures_anticollision (level : CascadeLevel) :
    (Activator.anticollision level).Assures a fun t r a' =>
      match r with
      | .ok group =>
          t = [⟨.bits (.ofBytes (anticollision level)) a.timeout, .ok (.ofBytes group.toList)⟩] ∧
            a' = { a with
              stage := .arbitration level
              warnings := a.warnings ++ bccWarnings level group }
      | .error e => Breaks a.timeout level t e ∧ a'.stage = .arbitration level := by
  have short : (BitFrame.ofBytes (anticollision level)).byteLength ≤ Chip.frameLimit := by
    cases level <;> decide
  refine assures_modify_bind (assures_get_bind ((assures_exchangeFrame short).bind ?_ ?_))
  · rintro _ frame _ ⟨rfl, rfl⟩
    refine assures_ofExcept_bind ?_ fun e failed => ⟨.group failed, rfl⟩
    intro group reads
    obtain rfl := eq_ofBytes_of_readGroup reads
    by_cases right : bcc (group.toList.take 4) = group.get (Fin.last 4)
    · have checked : checkBcc group = .valid := if_pos right
      have quiet : bccWarnings level group = [] := if_pos right
      rw [checked]
      refine assures_pure ⟨rfl, ?_⟩
      rw [quiet, List.append_nil]
    · have checked : checkBcc group = .mismatch _ (group.get (Fin.last 4)) := if_neg right
      have warned : bccWarnings level group = [.bccMismatch level _ _] := if_neg right
      rw [checked]
      refine assures_modify_bind (assures_pure ⟨rfl, ?_⟩)
      rw [warned]
  · rintro _ e _ ⟨rfl, rfl⟩
    exact ⟨.group rfl, rfl⟩

theorem assures_select (level : CascadeLevel) (group : Octets 5) :
    (Activator.select level group).Assures a fun t r a' =>
      ∃ answer, t = [⟨.bytes (select level group) a.timeout, answer⟩] ∧
        r = (answer >>= parseSak) ∧ a' = a := by
  have short : (select level group).length ≤ Chip.frameLimit := by
    rw [length_select]
    decide
  exact assures_get_bind ((Chip.assures_exchangeBytes (List.cons_ne_nil _ _) short).read parseSak)

theorem assures_rats :
    Activator.rats.Assures a fun t r a' =>
      ∃ answer, t = [⟨.bytes (rats a.ratsParam) a.timeout, answer⟩] ∧
        r = (answer >>= parseAts) ∧ a' = a := by
  have fits : 4 ≤ Chip.frameLimit := by decide
  have whole : (rats a.ratsParam).length = 4 := Crc.length_append _ _
  exact assures_get_bind ((Chip.assures_exchangeBytes (List.cons_ne_nil _ _)
    (whole ▸ fits)).read parseAts)

theorem assures_resolveLevel (level : CascadeLevel) (resolved : Bytes) :
    (Activator.resolveLevel none level resolved).Assures a fun t r a' =>
      match r with
      | .ok ended =>
          ∃ h : Heard, h.level = level ∧ t = h.exchanges a.timeout ∧ ended = h.ended resolved ∧
            a' = h.noted a
      | .error e => Breaks a.timeout level t e ∧ a'.stage = .arbitration level := by
  refine assures_modify_bind ((assures_anticollision _ level).bind ?_ fun t e a' => id)
  rintro _ group _ ⟨rfl, rfl⟩
  refine (assures_select _ level group).bind ?_ ?_
  · rintro _ sak _ ⟨answer, rfl, reads, rfl⟩
    cases answer with
    | error e => cases reads
    | ok answer =>
        let h : Heard := ⟨level, group, answer, sak, reads.symm⟩
        refine assures_modify_bind ?_
        by_cases more : sakCascade sak = true
        · have ended : h.ended resolved = .cascade (resolved ++ (group.toList.drop 1).take 3) :=
            if_pos more
          rw [if_pos more]
          by_cases untagged : groupHead group ≠ cascadeTag
          · have warned : h.tagWarnings = [.cascadeTagMismatch level (groupHead group)] :=
              if_pos ⟨more, untagged⟩
            rw [if_pos untagged]
            refine assures_modify_bind (assures_pure ⟨h, rfl, rfl, ended.symm, ?_⟩)
            rw [Heard.noted, warned]
          · have warned : h.tagWarnings = [] := if_neg fun both => untagged both.2
            rw [if_neg untagged]
            refine assures_pure ⟨h, rfl, rfl, ended.symm, ?_⟩
            rw [Heard.noted, warned, List.append_nil]
        · have ended : h.ended resolved = .complete (resolved ++ group.toList.take 4) sak :=
            if_neg more
          have warned : h.tagWarnings = [] := if_neg fun both => more both.1
          rw [if_neg more]
          refine assures_pure ⟨h, rfl, rfl, ended.symm, ?_⟩
          rw [Heard.noted, warned, List.append_nil]
  · rintro _ e _ ⟨answer, rfl, failed, rfl⟩
    exact ⟨.acknowledge failed.symm, rfl⟩

end Frames

/-- An attempt that has begun and not ended. -/
def Stage.underWay : Stage → Bool
  | .requested | .arbitration _ | .selected _ | .ratsSent => true
  | .idle | .activated | .noTag => false

section Levels

variable {wait : Timeout} {levels : List CascadeLevel} {t u : List Chip.Event}

/-- An activator after some levels. -/
def notedAll (heard : List Heard) (a : Activator) : Activator :=
  heard.foldl (fun a h => h.noted a) a

theorem notedAll_concat (heard : List Heard) (last : Heard) (a : Activator) :
    notedAll (heard ++ [last]) a =
      { a with
        stage := .selected last.level
        level := last.level
        groups := a.groups ++ (heard ++ [last]).flatMap fun h => h.group.toList.take 4
        sak := last.sak
        warnings := a.warnings ++ (heard ++ [last]).flatMap Heard.warnings } := by
  induction heard generalizing a with
  | nil => simp [notedAll, Heard.noted, Heard.warnings]
  | cons first heard ih =>
      change notedAll (heard ++ [last]) (first.noted a) = _
      rw [ih]
      simp [Heard.noted, Heard.warnings]

theorem uidOfGroups_cons (group : Octets 5) {rest : List (Octets 5)} (more : rest ≠ []) :
    uidOfGroups (group :: rest) = (group.toList.drop 1).take 3 ++ uidOfGroups rest := by
  cases rest with
  | nil => exact absurd rfl more
  | cons => rfl

theorem length_uidOfGroups {groups : List (Octets 5)} (some : groups ≠ []) :
    (uidOfGroups groups).length = 3 * groups.length + 1 := by
  induction groups with
  | nil => exact absurd rfl some
  | cons group rest ih =>
      have whole := group.length_toList
      cases rest with
      | nil => simp [uidOfGroups, whole]
      | cons next rest =>
          have more : next :: rest ≠ [] := List.cons_ne_nil next rest
          rw [uidOfGroups_cons group more, List.length_append, ih more]
          simp [whole]
          omega

/-- All that is heard on the way up to the last level of a tag. -/
theorem Climbs.of_ok {before : List Heard} {last : Heard}
    (climbs : Climbs wait levels t (.ok (before, last))) :
    (before ++ [last]).map Heard.level <+: levels ∧
      (∀ h ∈ before, sakCascade h.sak = true) ∧ sakCascade last.sak = false ∧
      t = (before ++ [last]).flatMap fun h => h.exchanges wait := by
  generalize came : Except.ok (before, last) = r at climbs
  induction climbs generalizing before with
  | beyond => cases came
  | broken => cases came
  | @last rest h closed =>
      cases came
      exact ⟨⟨rest, rfl⟩, List.forall_mem_nil _, closed, (List.append_nil _).symm⟩
  | @more rest t r h cascades _ ih =>
      cases r with
      | error e => cases came
      | ok climbed =>
          cases came
          obtain ⟨below, all, closed, rfl⟩ := ih rfl
          exact ⟨List.cons_prefix_cons.mpr ⟨rfl, below⟩, List.forall_mem_cons.mpr ⟨cascades, all⟩,
            closed, rfl⟩

theorem assures_resolve (levels : List CascadeLevel) (resolved : Bytes) (a : Activator)
    (underWay : a.stage.underWay = true) :
    (Activator.resolve none levels resolved).Assures a fun t r a' =>
      match r with
      | .ok found =>
          ∃ before last, Climbs a.timeout levels t (.ok (before, last)) ∧
            found = (resolved ++ uidOfGroups ((before ++ [last]).map Heard.group), last.sak) ∧
            a' = notedAll (before ++ [last]) a
      | .error e => Climbs a.timeout levels t (.error e) ∧ a'.stage.underWay = true := by
  induction levels generalizing resolved a with
  | nil => exact assures_throw ⟨.beyond, underWay⟩
  | cons level rest ih =>
      refine (assures_resolveLevel a level resolved).bind ?_ ?_
      · rintro _ _ _ ⟨h, rfl, rfl, rfl, rfl⟩
        cases cascades : sakCascade h.sak with
        | false =>
            have ended : h.ended resolved = .complete (resolved ++ h.group.toList.take 4) h.sak :=
              if_neg (Bool.eq_false_iff.mp cascades)
            rw [ended]
            refine assures_pure ⟨[], h, ?_, rfl, rfl⟩
            rw [List.append_nil]
            exact .last h cascades
        | true =>
            have ended : h.ended resolved =
                .cascade (resolved ++ (h.group.toList.drop 1).take 3) := if_pos cascades
            rw [ended]
            refine (ih _ (h.noted a) rfl).mono ?_
            rintro t (e | found) a' holds
            · exact ⟨.more h cascades holds.1, holds.2⟩
            · obtain ⟨before, last, climbs, rfl, rfl⟩ := holds
              refine ⟨h :: before, last, .more h cascades climbs, ?_, rfl⟩
              have further : (before ++ [last]).map Heard.group ≠ [] := by simp
              rw [List.cons_append, List.map_cons, uidOfGroups_cons _ further, List.append_assoc]
      · rintro t e a' ⟨breaks, stage⟩
        refine ⟨.broken breaks, ?_⟩
        rw [stage]
        rfl

end Levels

/-- An answer to select, asked for only where it is announced. -/
inductive Confirms (a : Activator) (sak : UInt8) : List Chip.Event → Except Error Bytes → Prop
  | unasked : sakPart4 sak = false → Confirms a sak [] (.ok [])
  | asked (answer : Except Error Bytes) : sakPart4 sak = true →
      Confirms a sak [⟨.bytes (rats a.ratsParam) a.timeout, answer⟩] (answer >>= parseAts)

namespace Activator

/-- The wake-up and its answer. -/
def woken (a : Activator) (answer : Except Error BitFrame) : Chip.Event :=
  ⟨.bits a.wakeup.frame a.timeout, answer⟩

/-- All courses of an attempt. -/
inductive Course (a : Activator) :
    List Chip.Event → Except Error (Option Activation) → Activator → Prop
  | absent {e : Error} : e.isTimeout = true →
      Course a [a.woken (.error e)] (.ok none) { a.reset with stage := .noTag }
  | unwoken {answer : Except Error BitFrame} {e : Error} {a' : Activator} :
      (answer >>= readAtqa) = .error e → e.isTimeout = false → a'.stage.underWay = true →
      Course a [a.woken answer] (.error e) a'
  | lost {atqa : Octets 2} {t : List Chip.Event} {e : Error} {a' : Activator} :
      Climbs a.timeout [.one, .two, .three] t (.error e) → a'.stage.underWay = true →
      Course a (a.woken (.ok (.ofBytes atqa.toList)) :: t) (.error e) a'
  | unconfirmed {atqa : Octets 2} {t u : List Chip.Event} {before : List Heard} {last : Heard}
      {e : Error} {a' : Activator} :
      Climbs a.timeout [.one, .two, .three] t (.ok (before, last)) →
      Confirms a last.sak u (.error e) → a'.stage.underWay = true →
      Course a (a.woken (.ok (.ofBytes atqa.toList)) :: (t ++ u)) (.error e) a'
  | activated {atqa : Octets 2} {t u : List Chip.Event} {before : List Heard} {last : Heard}
      {ats : Bytes} {uid : Uid} :
      Climbs a.timeout [.one, .two, .three] t (.ok (before, last)) →
      Confirms a last.sak u (.ok ats) →
      uid.bytes = uidOfGroups ((before ++ [last]).map Heard.group) →
      Course a (a.woken (.ok (.ofBytes atqa.toList)) :: (t ++ u))
        (.ok (some ⟨.typeA atqa last.sak uid ats, (before ++ [last]).flatMap Heard.warnings⟩))
        { a with
          stage := .activated
          level := last.level
          groups := (before ++ [last]).flatMap fun h => h.group.toList.take 4
          sak := last.sak
          warnings := [] }

end Activator

section Attempts

/-- As many levels as there can be give an identifier of a length there is. -/
theorem exists_uid {heard : List Heard} (some : heard ≠ [])
    (levels : heard.map Heard.level <+: [.one, .two, .three]) :
    ∃ uid, Uid.ofBytes (uidOfGroups (heard.map Heard.group)) = .ok uid ∧
      uid.bytes = uidOfGroups (heard.map Heard.group) := by
  have most := levels.length_le
  have least := List.length_pos_iff.mpr some
  have count : (uidOfGroups (heard.map Heard.group)).length = 3 * heard.length + 1 := by
    rw [length_uidOfGroups (by simpa using some), List.length_map]
  rw [List.length_map] at most
  have fits : (uidOfGroups (heard.map Heard.group)).length = 4 ∨
      (uidOfGroups (heard.map Heard.group)).length = 7 ∨
      (uidOfGroups (heard.map Heard.group)).length = 10 := by
    change heard.length ≤ 3 at most
    omega
  exact ⟨⟨_, fits⟩, dif_pos fits, rfl⟩

theorem assures_finish (a : Activator) (atqa : Octets 2) (sak : UInt8) (ats : Bytes)
    {resolved : Bytes} {uid : Uid} (read : Uid.ofBytes resolved = .ok uid) :
    (do
      let uid ← Act.ofExcept (Uid.ofBytes resolved)
      Activator.enter .activated
      modifyGet fun a => ((⟨.typeA atqa sak uid ats, a.warnings⟩ : Activation),
        { a with warnings := [] }) : Act Chip Activator Activation).Assures a fun t r a' =>
      t = [] ∧ r = .ok ⟨.typeA atqa sak uid ats, a.warnings⟩ ∧
        a' = { a with stage := .activated, warnings := [] } := by
  rw [read]
  refine assures_ofExcept_bind ?_ fun e => nofun
  intro _ same
  cases same
  exact assures_modify_bind (assures_modifyGet ⟨rfl, rfl, rfl⟩)

/-- What follows the last level: an answer to select where one is announced, then the identifier. -/
theorem assures_confirm (a : Activator) {b : Activator} (wait : b.timeout = a.timeout)
    (param : b.ratsParam = a.ratsParam) (atqa : Octets 2) (sak : UInt8) {resolved : Bytes}
    {uid : Uid} (read : Uid.ofBytes resolved = .ok uid) :
    (do
      let ats ← if sakPart4 sak then do
          Activator.enter .ratsSent
          Activator.rats
        else pure []
      let uid ← Act.ofExcept (Uid.ofBytes resolved)
      Activator.enter .activated
      modifyGet fun a => ((⟨.typeA atqa sak uid ats, a.warnings⟩ : Activation),
        { a with warnings := [] }) : Act Chip Activator Activation).Assures b fun t r b' =>
      match r with
      | .ok act =>
          ∃ ats, Confirms a sak t (.ok ats) ∧ act = ⟨.typeA atqa sak uid ats, b.warnings⟩ ∧
            b' = { b with stage := .activated, warnings := [] }
      | .error e => Confirms a sak t (.error e) ∧ b'.stage.underWay = true := by
  have confirmed (stage : Stage) (answer : Except Error Bytes) (part4 : sakPart4 sak = true) :
      Confirms a sak [⟨.bytes (rats { b with stage }.ratsParam) { b with stage }.timeout, answer⟩]
        (answer >>= parseAts) := by
    dsimp only
    rw [wait, param]
    exact .asked answer part4
  dsimp only
  split
  · rename_i part4
    refine assures_modify_bind ((assures_rats _).bind ?_ ?_)
    · rintro _ ats _ ⟨answer, rfl, reads, rfl⟩
      refine (assures_finish _ atqa sak ats read).mono ?_
      rintro _ _ _ ⟨rfl, rfl, rfl⟩
      refine ⟨ats, ?_, rfl, rfl⟩
      rw [reads]
      exact confirmed .ratsSent answer part4
    · rintro _ e _ ⟨answer, rfl, failed, rfl⟩
      refine ⟨?_, rfl⟩
      rw [failed]
      exact confirmed .ratsSent answer part4
  · rename_i part4
    refine (assures_finish _ atqa sak [] read).mono ?_
    rintro _ _ _ ⟨rfl, rfl, rfl⟩
    exact ⟨[], .unasked (Bool.eq_false_iff.mpr part4), rfl, rfl⟩

/-- What an identification comes to, as a course of the attempt that has been woken. -/
theorem assures_identify (a : Activator) (atqa : Octets 2) :
    (Activator.identify none atqa).Assures { a.reset with stage := .requested } fun t r a' =>
      a.Course (a.woken (.ok (.ofBytes atqa.toList)) :: t) (r.map some) a' := by
  refine (assures_resolve _ [] _ rfl).bind ?_ ?_
  · rintro t _ _ ⟨before, last, climbs, rfl, rfl⟩
    obtain ⟨levels, -, -, -⟩ := climbs.of_ok
    obtain ⟨uid, read, bytes⟩ := exists_uid (by simp) levels
    rw [notedAll_concat]
    refine (assures_confirm a (by rfl) (by rfl) atqa last.sak read).mono ?_
    rintro u (e | act) a' holds
    · obtain ⟨confirms, underWay⟩ := holds
      exact .unconfirmed climbs confirms underWay
    · obtain ⟨ats, confirms, rfl, rfl⟩ := holds
      exact .activated climbs confirms bytes
  · rintro t e a' ⟨climbs, underWay⟩
    exact .lost climbs underWay

/-- All ways of an attempt, given those of the identification of a tag that has been woken. -/
inductive Activator.Attempted (a : Activator)
    (identified : Octets 2 → List Chip.Event → Except Error Activation → Activator → Prop) :
    List Chip.Event → Except Error (Option Activation) → Activator → Prop
  | absent {e : Error} : e.isTimeout = true →
      Attempted a identified [a.woken (.error e)] (.ok none) { a.reset with stage := .noTag }
  | unwoken {answer : Except Error BitFrame} {e : Error} :
      (answer >>= readAtqa) = .error e → e.isTimeout = false →
      Attempted a identified [a.woken answer] (.error e) { a.reset with stage := .requested }
  | woken {atqa : Octets 2} {t : List Chip.Event} {r : Except Error Activation}
      {a' : Activator} : identified atqa t r a' →
      Attempted a identified (a.woken (.ok (.ofBytes atqa.toList)) :: t) (r.map some) a'

theorem assures_attempt_of {wanted : Option Uid} {a : Activator}
    {identified : Octets 2 → List Chip.Event → Except Error Activation → Activator → Prop}
    (identifies : ∀ atqa, (Activator.identify wanted atqa).Assures
      { a.reset with stage := .requested } (identified atqa)) :
    (Activator.attempt wanted).Assures a (a.Attempted identified) := by
  refine assures_modify_bind ((assures_wake a.reset).attempt_bind ?_)
  rintro _ _ _ ⟨answer, rfl, rfl, rfl⟩
  cases woken : answer >>= Activator.readAtqa with
  | ok atqa =>
      cases answer with
      | error e => cases woken
      | ok frame =>
          obtain rfl := eq_ofBytes_of_readAtqa woken
          refine (identifies atqa).bind ?_ ?_
          · intro t act a' came
            refine assures_pure ?_
            rw [List.append_nil]
            exact .woken came
          · exact fun _ _ _ came => .woken came
  | error e =>
      dsimp only
      split
      · rename_i silent
        cases answer with
        | error e' =>
            cases woken
            exact assures_modify_bind (assures_pure (.absent silent))
        | ok frame =>
            rw [isTimeout_of_readAtqa woken] at silent
            exact absurd silent Bool.false_ne_true
      · rename_i loud
        exact assures_throw (.unwoken woken (Bool.eq_false_iff.mpr loud))

/-- Whatever a tag answers, an attempt takes one of the courses. -/
theorem assures_attempt (a : Activator) : (Activator.attempt none).Assures a a.Course := by
  refine (assures_attempt_of (assures_identify a)).mono ?_
  intro t r a' attempted
  cases attempted with
  | absent silent => exact .absent silent
  | unwoken failed loud => exact .unwoken failed loud rfl
  | woken course => exact course

end Attempts

end Contactless.TypeA
