import Contactless.Proofs.Relay.Conduct
import Contactless.Proofs.TypeA.Failure

/-! What the log of a half tells: the frames its link took and delivered, the exchanges with the tag
and the answers handed to the reader. Each half keeps these in step by itself. -/
namespace Contactless.Relay

/-- Frames that the link took. -/
def outgoing (t : HalfLog) : List LinkFrame :=
  t.filterMap fun
    | ⟨.inr (.send frame), .ok ()⟩ => some frame
    | _ => none

/-- Frames that the link delivered. -/
def incoming (t : HalfLog) : List LinkFrame :=
  t.filterMap fun
    | ⟨.inr (.recv _), .ok frame⟩ => some frame
    | _ => none

/-- Commands that the tag answered, each with the answer. -/
def exchanges (t : HalfLog) : List (Bytes × Bytes) :=
  t.filterMap fun
    | ⟨.inl (.bytes command _), .ok answer⟩ => some (command, answer)
    | _ => none

def toReader (t : HalfLog) : List Bytes :=
  t.filterMap fun
    | ⟨.inl (.send answer _), .ok ()⟩ => some answer
    | _ => none

def commands (frames : List LinkFrame) : List Bytes :=
  frames.filterMap fun
    | .command c => some c
    | _ => none

def responses (frames : List LinkFrame) : List Bytes :=
  frames.filterMap fun
    | .response a => some a
    | _ => none

theorem outgoing_inLeft (u : List Chip.Event) : outgoing (u.map Interface.Event.inLeft) = [] := by
  induction u with
  | nil => rfl
  | cons event u ih => exact ih

theorem incoming_inLeft (u : List Chip.Event) : incoming (u.map Interface.Event.inLeft) = [] := by
  induction u with
  | nil => rfl
  | cons event u ih => exact ih

theorem outgoing_append (t u : HalfLog) : outgoing (t ++ u) = outgoing t ++ outgoing u :=
  List.filterMap_append

theorem incoming_append (t u : HalfLog) : incoming (t ++ u) = incoming t ++ incoming u :=
  List.filterMap_append

/-- The frames that describe a tag and answer commands, or only the goodbye. -/
def Announced (frames : List LinkFrame) : Prop :=
  ∀ first rest, frames = first :: rest → (first = .shutdown ∨ ∃ real, first = .target real) ∧
    ∀ frame ∈ rest, frame = .shutdown ∨ ∃ answer, frame = .response answer

/-- An error that stands for a frame which nobody waited for. -/
def Unexpected (e : Error) : Prop := ∃ frame, e = unexpected frame

def Reported (t : HalfLog) (e : Error) : Prop :=
  Chip.Fails (lefts t) e ∨ ∃ call ∈ rights t, Link.Event.failure call = some e

section Reports

variable {t u : HalfLog} {e : Error}

theorem Reported.append_left (reported : Reported u e) : Reported (t ++ u) e := by
  unfold Reported
  rw [lefts_append, rights_append]
  rcases reported with fails | ⟨call, member, failed⟩
  · exact .inl (fails.mono fun _ => List.mem_append_right _)
  · exact .inr ⟨call, List.mem_append_right _ member, failed⟩

theorem Reported.cons (reported : Reported t e) (event : ChipAndLink.Event) :
    Reported (event :: t) e :=
  Reported.append_left (t := [event]) reported

theorem not_unexpected_refusal {command : Bytes} (refused : refusal command = some e) :
    ¬ Unexpected e := by
  rintro ⟨frame, rfl⟩
  unfold refusal unexpected at refused
  split at refused
  · cases refused
  · split at refused
    · cases refused
    · cases refused

theorem not_unexpected_emulatedBy {c : Config} {real : Target}
    (hidden : emulatedBy c real = .error e) : ¬ Unexpected e := by
  rintro ⟨frame, rfl⟩
  unfold emulatedBy Config.relayUid? at hidden
  have shown {uid : Option Uid} : emulatedTarget real uid ≠ .error (unexpected frame) := by
    intro same
    cases real <;> cases same
  split at hidden
  · exact shown hidden
  · unfold Uid.ofBytes at hidden
    split at hidden
    · exact shown hidden
    · cases hidden

/-- The error of a stray frame starts with another word than that of a fourth cascade level. -/
theorem not_unexpected_of_ordinary (ordinary : TypeA.Ordinary e) : ¬ Unexpected e := by
  rintro ⟨frame, rfl⟩
  have same := ordinary _ rfl
  unfold unexpected TypeA.fourthLevel at same
  have letters := congrArg String.toList (Error.rfProtocol.inj same)
  rw [String.toList_append] at letters
  change 'u' :: _ = 'c' :: _ at letters
  cases letters

end Reports

theorem prefix_of_eq_nil {α : Type} {l m : List α} (nil : l = []) : l <+: m :=
  nil ▸ List.nil_prefix

section Leaving

variable {σ : Type} {e : Error} {s : σ} {t : HalfLog} {o : Option (Except Error Nat × σ)}

theorem Leaving.tells (h : Leaving e s t o) : ∀ frame ∈ outgoing t, frame = .shutdown := by
  cases h with
  | begun =>
      intro frame member
      cases member
  | gone r =>
      cases r with
      | error e =>
          intro frame member
          cases member
      | ok done => exact fun frame member => List.mem_singleton.mp member

theorem Leaving.responses (h : Leaving e s t o) : responses (outgoing t) = [] := by
  cases h with
  | begun => rfl
  | gone r => cases r <;> rfl

theorem Leaving.exchanges (h : Leaving e s t o) : exchanges t = [] := by
  cases h <;> rfl

theorem Leaving.outcome (h : Leaving e s t o) : o = none ∨ o = some (.error e, s) := by
  cases h with
  | begun => exact .inl rfl
  | gone r => exact .inr rfl

end Leaving

namespace InitiatorHalf

variable {d : Device .initiator} {served : Nat} {t : HalfLog}
  {o : Option (Except Error Nat × Device .initiator)}

theorem Serving.answers (h : Serving d served t o) :
    responses (outgoing t) <+: (exchanges t).map Prod.snd := by
  induction h with
  | served _ ih => exact List.cons_prefix_cons.mpr ⟨rfl, ih⟩
  | stray _ _ _ leaving | refused _ _ leaving | failed _ leaving =>
      exact prefix_of_eq_nil leaving.responses
  | _ => exact List.nil_prefix

theorem Serving.asks (h : Serving d served t o) :
    (exchanges t).map Prod.fst <+: commands (incoming t) := by
  induction h with
  | served _ ih => exact List.cons_prefix_cons.mpr ⟨rfl, ih⟩
  | answered | untold => exact List.prefix_rfl
  | stray _ _ _ leaving | refused _ _ leaving | failed _ leaving =>
      exact prefix_of_eq_nil (congrArg (List.map Prod.fst) leaving.exchanges)
  | _ => exact List.nil_prefix

theorem Serving.count (h : Serving d served t o) {count : Nat} {d' : Device .initiator}
    (ends : o = some (.ok count, d')) : count = served + (responses (outgoing t)).length := by
  induction h with
  | served _ ih =>
      rw [ih ends]
      exact Nat.succ_add_eq_add_succ _ _
  | stopped =>
      cases ends
      rfl
  | stray _ _ _ leaving | refused _ _ leaving | failed _ leaving =>
      subst ends
      rcases leaving.outcome with same | same <;> cases same
  | _ => cases ends

/-- Once the tag was described, only answers are told, and the goodbye. -/
theorem Serving.tells (h : Serving d served t o) :
    ∀ frame ∈ outgoing t, frame = .shutdown ∨ ∃ answer, frame = .response answer := by
  induction h with
  | served _ ih =>
      intro frame member
      rcases List.mem_cons.mp member with rfl | later
      · exact .inr ⟨_, rfl⟩
      · exact ih frame later
  | stray _ _ _ leaving | refused _ _ leaving | failed _ leaving =>
      exact fun frame member => .inl (leaving.tells frame member)
  | _ =>
      intro frame member
      cases member

/-- A frame that is no command and no goodbye. -/
def Stray (frame : LinkFrame) : Prop := frame ≠ .shutdown ∧ ∀ command, frame ≠ .command command

theorem Serving.blame (h : Serving d served t o) {e : Error} {d' : Device .initiator}
    (ends : o = some (.error e, d')) (odd : Unexpected e) :
    Reported t e ∨ ∃ frame ∈ incoming t, Stray frame := by
  induction h with
  | lost served e' =>
      cases ends
      exact .inl (.inr ⟨_, List.mem_cons_self, rfl⟩)
  | stray _ noCommand noGoodbye =>
      exact .inr ⟨_, List.mem_cons_self, noGoodbye, noCommand⟩
  | refused _ refused leaving =>
      subst ends
      rcases leaving.outcome with same | same
      · cases same
      · cases same
        exact absurd odd (not_unexpected_refusal refused)
  | failed _ leaving =>
      subst ends
      rcases leaving.outcome with same | same
      · cases same
      · cases same
        exact .inl (.inl (Chip.fails_head rfl))
  | untold served command answer wait e' =>
      cases ends
      exact .inl (.inr ⟨_, List.mem_cons_of_mem _ List.mem_cons_self, rfl⟩)
  | served _ ih =>
      rcases ih ends with reported | ⟨frame, member, stray⟩
      · exact .inl (((reported.cons _).cons _).cons _)
      · exact .inr ⟨frame, List.mem_cons_of_mem _ member, stray⟩
  | _ => cases ends

/-- After the search, the answers told and the commands received are those of the exchanges. -/
theorem Conduct.relays {n : Nat} (h : Conduct n d t o) :
    ∃ search rest, t = search.map Interface.Event.inLeft ++ rest ∧
      (∃ x, (waitForTag n d).Reaches search x) ∧
      responses (outgoing t) <+: (exchanges rest).map Prod.snd ∧
      (exchanges rest).map Prod.fst <+: commands (incoming t) := by
  cases h with
  | @searching u x search =>
      refine ⟨u, [], (List.append_nil _).symm, ⟨x, search⟩, ?_, List.nil_prefix⟩
      rw [outgoing_inLeft]
      exact List.nil_prefix
  | @unfound u e d' rest _ search leaving =>
      refine ⟨u, rest, rfl, ⟨_, search.reaches⟩, ?_, ?_⟩
      · rw [outgoing_append, outgoing_inLeft, List.nil_append]
        exact prefix_of_eq_nil leaving.responses
      · exact prefix_of_eq_nil (congrArg (List.map Prod.fst) leaving.exchanges)
  | @undescribed u real d' e search =>
      refine ⟨u, _, rfl, ⟨_, search.reaches⟩, ?_, List.nil_prefix⟩
      rw [outgoing_append, outgoing_inLeft]
      exact List.nil_prefix
  | @described u real d' rest _ search serving =>
      refine ⟨u, _, rfl, ⟨_, search.reaches⟩, ?_, ?_⟩
      · rw [outgoing_append, outgoing_inLeft]
        exact serving.answers
      · rw [incoming_append, incoming_inLeft]
        exact serving.asks

theorem Conduct.announces {n : Nat} (h : Conduct n d t o) : Announced (outgoing t) := by
  intro first rest frames
  cases h with
  | @searching u x search =>
      rw [outgoing_inLeft] at frames
      cases frames
  | @unfound u e d' v _ search leaving =>
      rw [outgoing_append, outgoing_inLeft, List.nil_append] at frames
      refine ⟨.inl (leaving.tells _ ?_), fun frame member => .inl (leaving.tells _ ?_)⟩
      · rw [frames]
        exact List.mem_cons_self
      · rw [frames]
        exact List.mem_cons_of_mem _ member
  | @undescribed u real d' e search =>
      rw [outgoing_append, outgoing_inLeft] at frames
      cases frames
  | @described u real d' v _ search serving =>
      rw [outgoing_append, outgoing_inLeft] at frames
      cases frames
      exact ⟨.inr ⟨real, rfl⟩, serving.tells⟩

theorem Conduct.count {n : Nat} (h : Conduct n d t o) {count : Nat} {d' : Device .initiator}
    (ends : o = some (.ok count, d')) : count = (responses (outgoing t)).length := by
  cases h with
  | searching => cases ends
  | unfound _ leaving =>
      subst ends
      rcases leaving.outcome with same | same <;> cases same
  | undescribed => cases ends
  | described _ serving =>
      rw [outgoing_append, outgoing_inLeft]
      exact (serving.count ends).trans (Nat.zero_add _)

theorem Conduct.blame {n : Nat} (h : Conduct n d t o) {e : Error} {d' : Device .initiator}
    (ends : o = some (.error e, d')) (odd : Unexpected e) :
    Reported t e ∨ ∃ frame ∈ incoming t, Stray frame := by
  cases h with
  | searching => cases ends
  | unfound search leaving =>
      subst ends
      rcases leaving.outcome with same | same
      · cases same
      · cases same
        rcases faults_waitForTag _ _ _ _ _ search with ordinary | fails
        · exact absurd odd (not_unexpected_of_ordinary ordinary)
        · refine .inl (.inl ?_)
          rw [lefts_append, lefts_inLeft]
          exact fails.mono fun _ => List.mem_append_left _
  | undescribed e search =>
      cases ends
      exact .inl (Reported.append_left (.inr ⟨_, List.mem_cons_self, rfl⟩))
  | described search serving =>
      rcases serving.blame ends odd with reported | ⟨frame, member, stray⟩
      · exact .inl ((reported.cons _).append_left)
      · refine .inr ⟨frame, ?_, stray⟩
        rw [incoming_append]
        exact List.mem_append_right _ member

end InitiatorHalf

namespace TargetHalf

variable {s : TargetHalf} {t : HalfLog} {o : Option (Except Error Nat × TargetHalf)}

section Closing

variable {e : Error}

theorem Closing.tells (h : Closing e s t o) : ∀ frame ∈ outgoing t, frame = .shutdown := by
  cases h with
  | begun =>
      intro frame member
      cases member
  | told r | normal r | failed r =>
      cases r with
      | error e =>
          intro frame member
          cases member
      | ok done => exact fun frame member => List.mem_singleton.mp member

theorem Closing.commands_le (h : Closing e s t o) (n : Nat) :
    (commands (outgoing t)).length ≤ n := by
  cases h with
  | begun => exact Nat.zero_le n
  | told r | normal r | failed r => cases r <;> exact Nat.zero_le n

theorem Closing.toReader (h : Closing e s t o) : toReader t = [] := by
  cases h <;> rfl

theorem Closing.toReader_le (h : Closing e s t o) (n : Nat) : (Relay.toReader t).length ≤ n := by
  rw [h.toReader]
  exact Nat.zero_le n

theorem Closing.count (h : Closing e s t o) {r : Except Error Nat} {s' : TargetHalf}
    (ends : o = some (r, s')) : s'.exchanged = s.exchanged + (Relay.toReader t).length ∧
      ∀ count, r = .ok count → count = s'.exchanged := by
  rw [h.toReader]
  cases h with
  | begun | told => cases ends
  | normal =>
      cases ends
      exact ⟨rfl, fun count ok => (Except.ok.inj ok).symm⟩
  | failed =>
      cases ends
      exact ⟨rfl, fun count ok => nomatch ok⟩

theorem Closing.error_eq (h : Closing e s t o) {e' : Error} {s' : TargetHalf}
    (ends : o = some (.error e', s')) : e' = e := by
  cases h with
  | begun | told | normal => cases ends
  | failed =>
      cases ends
      rfl

end Closing

section Passing

variable {wait : Timeout} {command : Bytes}

/-- A command is sent only when all answers to the ones before it were handed to the reader. -/
theorem Passing.commands_le (h : Passing wait s command t o) :
    (commands (outgoing t)).length ≤ (toReader t).length + 1 := by
  induction h with
  | passed _ ih => exact Nat.succ_le_succ ih
  | ready => exact Nat.zero_le _
  | unsent closing =>
      have none := closing.commands_le 0
      exact Nat.le_trans none (Nat.zero_le _)
  | lost closing | stray _ _ closing | ungiven closing =>
      have none := closing.commands_le 0
      exact Nat.succ_le_succ (Nat.le_trans none (Nat.zero_le _))
  | released closing =>
      have none := closing.commands_le 0
      exact Nat.succ_le_succ (Nat.le_trans none (Nat.zero_le _))
  | waiting | stopped | answered => exact Nat.le_refl 1
  | given => exact Nat.le_succ 1

theorem Passing.toReader_le (h : Passing wait s command t o) :
    (toReader t).length ≤ (responses (incoming t)).length := by
  induction h with
  | passed _ ih => exact Nat.succ_le_succ ih
  | unsent closing | lost closing | stray _ _ closing | ungiven closing =>
      have none := closing.toReader_le 0
      exact Nat.le_trans none (Nat.zero_le _)
  | released closing =>
      have none := closing.toReader_le 0
      exact Nat.succ_le_succ (Nat.le_trans none (Nat.zero_le _))
  | given => exact Nat.le_refl 1
  | _ => exact Nat.zero_le _

theorem Passing.tells (h : Passing wait s command t o) :
    ∀ frame ∈ outgoing t, frame = .shutdown ∨ ∃ command, frame = .command command := by
  have first {command : Bytes} {frames : List LinkFrame}
      (rest : ∀ frame ∈ frames, frame = .shutdown ∨ ∃ command, frame = .command command) :
      ∀ frame ∈ LinkFrame.command command :: frames,
        frame = .shutdown ∨ ∃ command, frame = .command command := by
    intro frame member
    rcases List.mem_cons.mp member with rfl | later
    · exact .inr ⟨_, rfl⟩
    · exact rest frame later
  induction h with
  | passed _ ih => exact first ih
  | ready =>
      intro frame member
      cases member
  | unsent closing => exact fun frame member => .inl (closing.tells frame member)
  | lost closing | stray _ _ closing | ungiven closing | released closing =>
      exact first fun frame member => .inl (closing.tells frame member)
  | _ => exact first fun frame member => nomatch member

theorem Passing.count (h : Passing wait s command t o) {r : Except Error Nat} {s' : TargetHalf}
    (ends : o = some (r, s')) : s'.exchanged = s.exchanged + (toReader t).length ∧
      ∀ count, r = .ok count → count = s'.exchanged := by
  induction h with
  | passed _ ih =>
      obtain ⟨exchanged, same⟩ := ih ends
      exact ⟨exchanged.trans (Nat.succ_add_eq_add_succ _ _), same⟩
  | unsent closing | lost closing | stray _ _ closing | ungiven closing =>
      have closes := closing.count ends
      exact closes
  | released closing =>
      obtain ⟨exchanged, same⟩ := closing.count ends
      exact ⟨exchanged.trans (Nat.succ_add_eq_add_succ _ _), same⟩
  | stopped =>
      cases ends
      exact ⟨rfl, fun count ok => (Except.ok.inj ok).symm⟩
  | _ => cases ends

/-- A frame that is no answer and no goodbye. -/
def Stray (frame : LinkFrame) : Prop := frame ≠ .shutdown ∧ ∀ answer, frame ≠ .response answer

theorem Passing.blame (h : Passing wait s command t o) {e : Error} {s' : TargetHalf}
    (ends : o = some (.error e, s')) : Reported t e ∨ ∃ frame ∈ incoming t, Stray frame := by
  induction h with
  | unsent closing =>
      obtain rfl := closing.error_eq ends
      exact .inl (.inr ⟨_, List.mem_cons_self, rfl⟩)
  | lost closing =>
      obtain rfl := closing.error_eq ends
      exact .inl (.inr ⟨_, List.mem_cons_of_mem _ List.mem_cons_self, rfl⟩)
  | stray noAnswer noGoodbye => exact .inr ⟨_, List.mem_cons_self, noGoodbye, noAnswer⟩
  | ungiven closing =>
      obtain rfl := closing.error_eq ends
      exact .inl (.inl (Chip.fails_head rfl))
  | released closing =>
      obtain rfl := closing.error_eq ends
      exact .inl (.inl ⟨_, List.mem_cons_of_mem _ List.mem_cons_self, rfl⟩)
  | passed _ ih =>
      rcases ih ends with reported | ⟨frame, member, stray⟩
      · exact .inl ((((reported.cons _).cons _).cons _).cons _)
      · exact .inr ⟨frame, List.mem_cons_of_mem _ member, stray⟩
  | _ => cases ends

end Passing

theorem Conduct.commands_le (h : Conduct s t o) :
    (commands (outgoing t)).length ≤ (toReader t).length + 1 := by
  cases h with
  | shown _ passing => exact passing.commands_le
  | lost closing | stray _ _ closing | hidden _ closing | unseen _ closing =>
      have none := closing.commands_le 0
      exact Nat.le_trans none (Nat.zero_le _)
  | _ => exact Nat.zero_le _

theorem Conduct.toReader_le (h : Conduct s t o) :
    (toReader t).length ≤ (responses (incoming t)).length := by
  cases h with
  | shown _ passing => exact passing.toReader_le
  | lost closing | stray _ _ closing | hidden _ closing | unseen _ closing =>
      have none := closing.toReader_le 0
      exact Nat.le_trans none (Nat.zero_le _)
  | _ => exact Nat.zero_le _

theorem Conduct.tells (h : Conduct s t o) :
    ∀ frame ∈ outgoing t, frame = .shutdown ∨ ∃ command, frame = .command command := by
  cases h with
  | shown _ passing => exact passing.tells
  | lost closing | stray _ _ closing | hidden _ closing | unseen _ closing =>
      exact fun frame member => .inl (closing.tells frame member)
  | _ =>
      intro frame member
      cases member

theorem Conduct.count (h : Conduct s t o) {r : Except Error Nat} {s' : TargetHalf}
    (ends : o = some (r, s')) : s'.exchanged = s.exchanged + (toReader t).length ∧
      ∀ count, r = .ok count → count = s'.exchanged := by
  cases h with
  | shown _ passing =>
      have passes := passing.count ends
      exact passes
  | lost closing | stray _ _ closing | hidden _ closing | unseen _ closing =>
      have closes := closing.count ends
      exact closes
  | stopped =>
      cases ends
      exact ⟨rfl, fun count ok => (Except.ok.inj ok).symm⟩
  | _ => cases ends

theorem Conduct.blame (h : Conduct s t o) {e : Error} {s' : TargetHalf}
    (ends : o = some (.error e, s')) (odd : Unexpected e) :
    Reported t e ∨ ¬ Announced (incoming t) := by
  cases h with
  | lost closing =>
      obtain rfl := closing.error_eq ends
      exact .inl (.inr ⟨_, List.mem_cons_self, rfl⟩)
  | stray noTarget noGoodbye =>
      refine .inr fun announced => ?_
      rcases (announced _ _ rfl).1 with goodbye | ⟨real, target⟩
      · exact noGoodbye goodbye
      · exact noTarget real target
  | hidden hides closing =>
      obtain rfl := closing.error_eq ends
      exact absurd odd (not_unexpected_emulatedBy hides)
  | unseen _ closing =>
      obtain rfl := closing.error_eq ends
      exact .inl (.inl (Chip.fails_head rfl))
  | shown _ passing =>
      rcases passing.blame ends with reported | ⟨frame, member, noGoodbye, noAnswer⟩
      · exact .inl ((reported.cons _).cons _)
      · refine .inr fun announced => ?_
        rcases (announced _ _ rfl).2 frame member with goodbye | ⟨answer, told⟩
        · exact noGoodbye goodbye
        · exact noAnswer answer told
  | _ => cases ends

end TargetHalf

end Contactless.Relay
