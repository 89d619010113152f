import Contactless.Proofs.Dep.Calls

/-! The discipline of the data exchange target. Whatever is called and whatever the chip answers,
the parts of its state fit together, calls out of turn are refused without a trace, and receptions
and answers alternate for as long as a link lasts. -/
namespace Contactless.Dep

namespace TargetSide

/-- What holds of a target between two calls, and between two frames of a reception. -/
structure Sound (s : TargetSide) : Prop where
  number : s.pni ≤ 3
  peer : s.turn = .unlinked ↔ s.initiator = none
  described : s.turn ≠ .unlinked → s.description.isSome

theorem sound_new (device : Device .target) : (new device).Sound where
  number := show (0 : UInt8) ≤ 3 by decide
  peer := ⟨fun _ => rfl, fun _ => rfl⟩
  described := fun linked => absurd rfl linked

section Preservation

variable {s s' : TargetSide}

theorem linked_of_turn {turn : Turn} (holds : s.turn = turn) (lasts : turn ≠ .unlinked) :
    s.turn ≠ .unlinked := by
  rw [holds]
  exact lasts

theorem Sound.present (sound : s.Sound) (linked : s.turn ≠ .unlinked) :
    ∃ i, s.initiator = some i :=
  Option.ne_none_iff_exists'.mp fun absent => linked (sound.peer.mpr absent)

theorem Sound.counted (sound : s.Sound) (counted : Counted s s') : s'.Sound := by
  have same := counted.same
  refine ⟨counted.small sound.number, ?_, ?_⟩
  · rw [same]
    exact sound.peer
  · rw [same]
    exact sound.described

/-- The turn goes to the other side of a link that lasts. -/
theorem Sound.turned (sound : s.Sound) (linked : s.turn ≠ .unlinked) {turn : Turn}
    (lasts : turn ≠ .unlinked) : (s.turned turn).Sound where
  number := sound.number
  peer := by
    obtain ⟨i, known⟩ := sound.present linked
    constructor
    · intro gone
      exact absurd gone lasts
    · intro absent
      have gone : s.initiator = none := absent
      rw [gone] at known
      cases known
  described := fun _ => sound.described linked

theorem Sound.setBaud (sound : s.Sound) (baud : BaudRate) : (s.setBaud baud).Sound where
  number := sound.number
  peer := by
    change s.turn = .unlinked ↔ s.initiator.map _ = none
    rw [Option.map_eq_none_iff]
    exact sound.peer
  described := sound.described

theorem Sound.unlinked (sound : s.Sound) : s.unlinked.Sound where
  number := sound.number
  peer := ⟨fun _ => rfl, fun _ => rfl⟩
  described := fun linked => absurd rfl linked

theorem sound_linkedTo {own : DepInfo} (described : s.description = some own)
    (request : AtrRequest) : (s.linkedTo own request).Sound where
  number := show (0 : UInt8) ≤ 3 by decide
  peer := by
    constructor
    · intro gone
      cases gone
    · intro absent
      cases absent
  described := fun _ => by
    change s.description.isSome = true
    rw [described]
    rfl

theorem Sound.prepared (sound : s.Sound) (own : DepInfo) : (s.prepared own).Sound where
  number := sound.number
  peer := ⟨fun _ => rfl, fun _ => rfl⟩
  described := fun _ => rfl

end Preservation

inductive Reacts (s : TargetSide) : Reaction → Prop
  | refuse {e : Error} : (s.description.isSome → Malformed e) → Reacts s (.refuse e)
  | complete (payload : Bytes) : Reacts s (.complete payload)
  | attention {frame : Except Error Bytes} (pieces : Bytes) : Framed frame →
      Reacts s (.reply frame (.ok pieces) s)
  | acknowledge {frame : Except Error Bytes} (pieces : Bytes) : Framed frame →
      Reacts s (.reply frame (.ok pieces) s.advanced)
  | retune {frame : Except Error Bytes} (pieces : Bytes) (baud : BaudRate) : Framed frame →
      Reacts s (.reply frame (.ok pieces) (s.setBaud baud))
  | relink {frame : Except Error Bytes} {own : DepInfo} (request : AtrRequest) : Framed frame →
      s.description = some own → Reacts s (.reply frame (.ok []) (s.linkedTo own request))
  | release {frame : Except Error Bytes} : Framed frame →
      Reacts s (.reply frame (.error .targetReleased) s.unlinked)

theorem react_reacts (s : TargetSide) (received : Bytes) (content : InitiatorFrame) :
    Reacts s (s.react received content) := by
  cases content with
  | atr request =>
      unfold react
      cases described : s.description with
      | none =>
          refine .refuse fun given => ?_
          rw [described] at given
          cases given
      | some own => exact .relink request (AtrAnswer.framed_encode _) described
  | psl did baud fsl => exact .retune received baud (framed_build _ _ _)
  | dsl => exact .release (framed_build _ _ _)
  | rls => exact .release (framed_build _ _ _)
  | data pdu =>
      change Reacts s (s.reactData received pdu)
      unfold reactData
      cases pdu.pfb with
      | information more k =>
          dsimp only
          by_cases current : k = s.pni
          · rw [if_pos current]
            cases more with
            | true => exact .acknowledge _ (Pdu.framed_encode _ _)
            | false => exact .complete _
          · rw [if_neg current]
            exact .refuse fun _ => .protocol _
      | attention => exact .attention received (Pdu.framed_encode _ _)
      | ack k => exact .refuse fun _ => .protocol _
      | nack k => exact .refuse fun _ => .protocol _
      | timeoutExtension => exact .refuse fun _ => .protocol _

section Receiving

variable {wait : Timeout} {s s' : TargetSide} {received : Bytes} {t : List Chip.Event}
  {r : Except Error Bytes}

/-- A listening target that replies listens on, or it was released. -/
theorem Sound.reply (sound : s.Sound) (turn : s.turn = .receive) {content : InitiatorFrame}
    {frame after : Except Error Bytes} {next : TargetSide}
    (reacts : s.react received content = .reply frame after next) :
    Framed frame ∧ next.Sound ∧
      ((∃ pieces, after = .ok pieces) ∧ next.turn = .receive ∨
        after = .error .targetReleased ∧ next.turn = .unlinked) := by
  have possible := react_reacts s received content
  rw [reacts] at possible
  cases possible with
  | attention pieces framed => exact ⟨framed, sound, .inl ⟨⟨pieces, rfl⟩, turn⟩⟩
  | acknowledge pieces framed =>
      exact ⟨framed, sound.counted (counted_advanced s), .inl ⟨⟨pieces, rfl⟩, turn⟩⟩
  | retune pieces baud framed => exact ⟨framed, sound.setBaud baud, .inl ⟨⟨pieces, rfl⟩, turn⟩⟩
  | relink request framed described =>
      exact ⟨framed, sound_linkedTo described request, .inl ⟨⟨[], rfl⟩, rfl⟩⟩
  | release framed => exact ⟨framed, sound.unlinked, .inr ⟨rfl, rfl⟩⟩

/-- A reception hands the turn over, keeps it with a failure, or ends the link. -/
inductive Ended (t : List Chip.Event) : Except Error Bytes → Turn → Prop
  | handed (payload : Bytes) : Ended t (.ok payload) .send
  | kept {e : Error} : Blames t (.error e : Except Error Bytes) → Ended t (.error e) .receive
  | released : Ended t (.error .targetReleased) .unlinked

theorem ended_kept {e : Error} (turn : s.turn = .receive)
    (blames : Blames t (.error e : Except Error Bytes)) : Ended t (.error e) s.turn := by
  rw [turn]
  exact .kept blames

theorem Ended.mono {turn : Turn} {u : List Chip.Event} (ended : Ended t r turn)
    (h : ∀ event ∈ t, event ∈ u) : Ended u r turn := by
  cases ended with
  | handed payload => exact .handed payload
  | kept blames => exact .kept (blames.mono h)
  | released => exact .released

theorem Receiving.ends (h : Receiving wait s received t r s') (sound : s.Sound)
    (turn : s.turn = .receive) : s'.Sound ∧ Ended t r s'.turn := by
  induction h with
  | lost e => exact ⟨sound, ended_kept turn (blames_of_fails (Chip.fails_head rfl))⟩
  | unreadable unread =>
      exact ⟨sound, ended_kept turn ((InitiatorFrame.framed_decode _ _ unread).framed.blames _)⟩
  | @refused s received _ content _ _ reacts =>
      have linked := linked_of_turn turn Turn.noConfusion
      have possible := react_reacts s received content
      rw [reacts] at possible
      cases possible with
      | refuse malformed =>
          exact ⟨sound, ended_kept turn ((malformed (sound.described linked)).framed.blames _)⟩
  | completed =>
      have linked := linked_of_turn turn Turn.noConfusion
      exact ⟨sound.turned linked Turn.noConfusion, .handed _⟩
  | unbuilt _ reacts =>
      obtain ⟨framed, -⟩ := sound.reply turn reacts
      exact ⟨sound, ended_kept turn ((framed _ rfl).framed.blames _)⟩
  | unsent e =>
      exact ⟨sound, ended_kept turn
        (blames_of_fails ⟨_, List.mem_cons_of_mem _ List.mem_cons_self, rfl⟩)⟩
  | stopped _ reacts =>
      obtain ⟨-, after, ⟨⟨_, goes⟩, -⟩ | ⟨released, gone⟩⟩ := sound.reply turn reacts
      · cases goes
      · rw [gone, released]
        exact ⟨after, .released⟩
  | replied _ reacts _ ih =>
      obtain ⟨-, after, ⟨-, listens⟩ | ⟨released, -⟩⟩ := sound.reply turn reacts
      · obtain ⟨later, ended⟩ := ih after listens
        exact ⟨later, ended.mono fun _ member =>
          List.mem_cons_of_mem _ (List.mem_cons_of_mem _ member)⟩
      · cases released

end Receiving

end TargetSide

/-- The failure of a target that is to describe itself and was never told how. -/
def uninitialised : Error := .invalidParameter "DEP target not initialised"

/-- What a call makes of the turn. -/
inductive Turns : Turn → Episode → Turn → Prop
  | opened {turn target wait t first} : Turns turn ⟨.init target wait, t, .ok first⟩ .receive
  | unopened {turn target wait t e} : Blames t (.error e : Except Error Bytes) →
      Turns turn ⟨.init target wait, t, .error e⟩ .unlinked
  | refused {turn call detail} : Error.invalidParameter detail ≠ uninitialised →
      Turns turn ⟨call, [], .error (.invalidParameter detail)⟩ turn
  | received {wait t payload} : Turns .receive ⟨.receive wait, t, .ok payload⟩ .send
  | sent {payload wait t} : Turns .send ⟨.send payload wait, t, .ok ()⟩ .receive
  | granted {rtox wait t} : Turns .send ⟨.requestTime rtox wait, t, .ok ()⟩ .send
  | failed {turn call t e} : turn ≠ .unlinked → Blames t (.error e : Except Error Bytes) →
      Turns turn ⟨call, t, .error e⟩ turn
  | released {wait t} : Turns .receive ⟨.receive wait, t, .error .targetReleased⟩ .unlinked

section Steps

open TargetSide

variable {s s' : TargetSide} {n : Nat} {t : List Chip.Event} {target : Target} {wait : Timeout}
  {payload : Bytes} {rtox : UInt8}

theorem init_turns {r : Except Error Bytes} (sound : s.Sound)
    (h : (TargetSide.init target wait n s).Yields t (r, s')) :
    s'.Sound ∧ Turns s.turn ⟨.init target wait, t, r⟩ s'.turn := by
  by_cases dep : ∃ own, target = .dep own
  · obtain ⟨own, rfl⟩ := dep
    rcases init_yields h with ⟨first, request, rfl, rfl⟩ | ⟨e, rfl, rfl, blames⟩
    · exact ⟨sound_linkedTo rfl request, .opened⟩
    · exact ⟨sound.prepared own, .unopened blames⟩
  · rw [init_refused wait n s fun own same => dep ⟨own, same⟩] at h
    cases h
    refine ⟨sound, .refused ?_⟩
    generalize target.modulation.technology = technology
    cases technology <;> decide

theorem receive_turns {r : Except Error Bytes} (sound : s.Sound)
    (h : (TargetSide.receive wait n s).Yields t (r, s')) :
    s'.Sound ∧ Turns s.turn ⟨.receive wait, t, r⟩ s'.turn := by
  by_cases turn : s.turn = .receive
  · rw [receive_apply wait n s turn] at h
    obtain ⟨after, ended⟩ := (receiving_of_yields n h).ends sound turn
    refine ⟨after, ?_⟩
    rw [turn]
    generalize s'.turn = next at ended
    cases ended with
    | handed payload => exact .received
    | kept blames => exact .failed Turn.noConfusion blames
    | released => exact .released
  · rw [receive_refused wait n s turn] at h
    cases h
    refine ⟨sound, .refused ?_⟩
    cases s.turn <;> decide

theorem send_turns {r : Except Error Unit} (sound : s.Sound)
    (h : (TargetSide.send payload wait n s).Yields t (r, s')) :
    s'.Sound ∧ Turns s.turn ⟨.send payload wait, t, r⟩ s'.turn := by
  by_cases turn : s.turn = .send
  · rcases send_yields turn h with ⟨rfl, s₁, counted, rfl⟩ | ⟨e, rfl, counted, blames⟩
    · have still : s₁.turn = .send := by
        rw [counted.same]
        exact turn
      have linked := linked_of_turn still Turn.noConfusion
      refine ⟨(sound.counted counted).turned linked Turn.noConfusion, ?_⟩
      rw [turn]
      exact .sent
    · have still : s'.turn = s.turn := by
        rw [counted.same]
      refine ⟨sound.counted counted, ?_⟩
      rw [still]
      exact .failed (linked_of_turn turn Turn.noConfusion) blames.error
  · rw [send_refused wait n s payload turn] at h
    cases h
    refine ⟨sound, .refused ?_⟩
    cases s.turn <;> decide

theorem requestTime_turns {r : Except Error Unit} (sound : s.Sound)
    (h : (TargetSide.requestTime rtox wait n s).Yields t (r, s')) :
    s'.Sound ∧ Turns s.turn ⟨.requestTime rtox wait, t, r⟩ s'.turn := by
  by_cases turn : s.turn = .send
  · obtain ⟨rfl, blames⟩ := requestTime_yields turn h
    refine ⟨sound, ?_⟩
    rw [turn]
    cases r with
    | error e => exact .failed Turn.noConfusion blames.error
    | ok done => exact .granted
  · rw [requestTime_refused wait n s rtox turn] at h
    cases h
    exact ⟨sound, .refused (by decide)⟩

theorem call_turns {e : Episode} (sound : s.Sound)
    (h : e.call.act.Yields s e.transcript e.outcome s') : s'.Sound ∧ Turns s.turn e s'.turn := by
  obtain ⟨call, t, r⟩ := e
  obtain ⟨n, h⟩ := h
  cases call with
  | init target wait => exact init_turns sound h
  | receive wait => exact receive_turns sound h
  | send payload wait => exact send_turns sound h
  | requestTime rtox wait => exact requestTime_turns sound h

end Steps

inductive Course : Turn → List Episode → Turn → Prop
  | nil (turn : Turn) : Course turn [] turn
  | cons {first mid last : Turn} {e : Episode} {rest : List Episode} : Turns first e mid →
      Course mid rest last → Course first (e :: rest) last

namespace Episode

def Opens (e : Episode) : Prop :=
  (∃ target wait, e.call = .init target wait) ∧ ∃ value, e.outcome = .ok value

/-- The half of an exchange that a successful call completes. -/
def half : Episode → Option Turn
  | ⟨.receive _, _, .ok _⟩ => some .receive
  | ⟨.send .., _, .ok _⟩ => some .send
  | _ => none

/-- Refused before anything was asked of the chip. -/
def Refused (e : Episode) : Prop :=
  e.transcript = [] ∧ ∃ detail, e.outcome = .error (.invalidParameter detail)

end Episode

/-- Receptions and answers take turns, and the next one is known. -/
def Alternates : Turn → List Turn → Prop
  | _, [] => True
  | .receive, .receive :: rest => Alternates .send rest
  | .send, .send :: rest => Alternates .receive rest
  | _, _ :: _ => False

theorem Alternates.of_unlinked {halves : List Turn} (h : Alternates .unlinked halves)
    (turn : Turn) : Alternates turn halves := by
  cases halves with
  | nil => cases turn <;> trivial
  | cons half rest => cases half <;> exact h.elim

section Courses

variable {first last : Turn} {es before after : List Episode} {e : Episode}

theorem Course.split (course : Course first (before ++ e :: after) last) :
    ∃ turn next, Turns turn e next ∧ Course next after last := by
  induction before generalizing first with
  | nil =>
      cases course with
      | cons turns rest => exact ⟨_, _, turns, rest⟩
  | cons other before ih =>
      cases course with
      | cons _ rest => exact ih rest

/-- Until another link is opened, what succeeds alternates from the turn at hand on. -/
theorem Course.alternates (course : Course first es last) (closed : ∀ e ∈ es, ¬ e.Opens) :
    Alternates first (es.filterMap Episode.half) := by
  induction course with
  | nil turn => cases turn <;> trivial
  | @cons first mid last e rest turns _ ih =>
      have later := ih fun e member => closed e (List.mem_cons_of_mem _ member)
      have here := closed _ List.mem_cons_self
      cases turns with
      | opened => exact absurd ⟨⟨_, _, rfl⟩, _, rfl⟩ here
      | unopened => exact later.of_unlinked first
      | released => exact later.of_unlinked .receive
      | received => exact later
      | sent => exact later
      | granted => exact later
      | @refused _ call => cases call <;> exact later
      | @failed _ call => cases call <;> exact later

/-- Without a link every call is refused but the one that opens one. -/
theorem Course.refused (course : Course .unlinked es last) (closed : ∀ e ∈ es, ¬ e.Opens) :
    ∀ e ∈ es, (∀ target wait, e.call ≠ .init target wait) → e.Refused := by
  generalize gone : Turn.unlinked = first at course
  induction course with
  | nil => exact fun e member => absurd member List.not_mem_nil
  | @cons first mid last e rest turns _ ih =>
      subst gone
      have here := closed _ List.mem_cons_self
      have step : mid = .unlinked ∧ ((∀ target wait, e.call ≠ .init target wait) → e.Refused) := by
        cases turns with
        | opened => exact absurd ⟨⟨_, _, rfl⟩, _, rfl⟩ here
        | unopened => exact ⟨rfl, fun other => absurd rfl (other _ _)⟩
        | refused => exact ⟨rfl, fun _ => ⟨rfl, _, rfl⟩⟩
        | failed linked => exact absurd rfl linked
      intro other member
      rcases List.mem_cons.mp member with rfl | later
      · exact step.2
      · exact ih (fun e member => closed e (List.mem_cons_of_mem _ member)) step.1.symm other later

theorem Turns.fails_uninitialised {turn next : Turn} (turns : Turns turn e next)
    (failed : e.outcome = .error uninitialised) : Chip.Fails e.transcript uninitialised := by
  have wellFormed : ¬ Malformed uninitialised := fun malformed => malformed.not_refusal _ rfl
  cases turns with
  | unopened blames =>
      rw [Except.error.inj failed] at blames
      exact blames.fails wellFormed
  | failed _ blames =>
      rw [Except.error.inj failed] at blames
      exact blames.fails wellFormed
  | refused other => exact absurd (Except.error.inj failed) other
  | opened => cases failed
  | received => cases failed
  | sent => cases failed
  | granted => cases failed
  | released => cases failed

theorem Turns.opens_link {turn next : Turn} (turns : Turns turn e next) (opens : e.Opens) :
    next = .receive := by
  obtain ⟨⟨target, wait, called⟩, value, succeeded⟩ := opens
  cases turns with
  | opened => rfl
  | received => cases called
  | sent => cases called
  | granted => cases called
  | unopened => cases succeeded
  | refused => cases succeeded
  | failed => cases succeeded
  | released => cases succeeded

/-- A release that is not a failure of the chip passed on ends the link. -/
theorem Turns.ends_link {turn next : Turn} (turns : Turns turn e next)
    (ended : e.outcome = .error .targetReleased) (own : ¬ Chip.Fails e.transcript .targetReleased) :
    next = .unlinked := by
  cases turns with
  | unopened => rfl
  | released => rfl
  | failed _ blames =>
      rw [Except.error.inj ended] at blames
      exact absurd (blames.fails fun malformed => malformed.not_released rfl) own
  | refused => cases ended
  | opened => cases ended
  | received => cases ended
  | sent => cases ended
  | granted => cases ended

end Courses

section Runs

variable {s s' : TargetSide} {es : List Episode}

theorem run_course (run : Run s es s') (sound : s.Sound) : s'.Sound ∧ Course s.turn es s'.turn := by
  induction run with
  | nil s => exact ⟨sound, .nil s.turn⟩
  | cons step _ ih =>
      obtain ⟨between, turns⟩ := call_turns sound step
      obtain ⟨after, course⟩ := ih between
      exact ⟨after, .cons turns course⟩

theorem call_refused (call : Call) (s : TargetSide) (untaken : ¬ call.Takes s.turn) :
    ∃ detail, ∀ n, call.act n s = .done (.error (.invalidParameter detail), s) := by
  cases call with
  | init target wait => exact absurd trivial untaken
  | receive wait => exact ⟨_, fun n => TargetSide.receive_refused wait n s untaken⟩
  | send payload wait => exact ⟨_, fun n => TargetSide.send_refused wait n s payload untaken⟩
  | requestTime rtox wait =>
      exact ⟨_, fun n => TargetSide.requestTime_refused wait n s rtox untaken⟩

/-- What holds of a target after some calls, and of the calls. -/
structure Disciplined (es : List Episode) (s : TargetSide) : Prop where
  sound : s.Sound
  initialised : ∀ e ∈ es, e.outcome = .error uninitialised → Chip.Fails e.transcript uninitialised
  refuses : ∀ call : Call, ¬ call.Takes s.turn →
    ∃ detail, ∀ n, call.act n s = .done (.error (.invalidParameter detail), s)
  alternates : ∀ before e after, es = before ++ e :: after → e.Opens →
    (∀ later ∈ after, ¬ later.Opens) → Alternates .receive (after.filterMap Episode.half)
  released : ∀ before e after, es = before ++ e :: after → e.outcome = .error .targetReleased →
    ¬ Chip.Fails e.transcript .targetReleased → (∀ later ∈ after, ¬ later.Opens) →
    ∀ later ∈ after, (∀ target wait, later.call ≠ .init target wait) → later.Refused

/-- Any calls on a new target, in any order, with any answers of the chip. -/
theorem run_disciplined {device : Device .target} (run : Run (.new device) es s) :
    Disciplined es s := by
  obtain ⟨sound, course⟩ := run_course run (TargetSide.sound_new device)
  refine ⟨sound, ?_, fun call => call_refused call s, ?_, ?_⟩
  · intro e member failed
    obtain ⟨before, after, rfl⟩ := List.append_of_mem member
    obtain ⟨turn, next, turns, -⟩ := course.split
    exact turns.fails_uninitialised failed
  · rintro before e after rfl opens closed
    obtain ⟨turn, next, turns, rest⟩ := course.split
    rw [turns.opens_link opens] at rest
    exact rest.alternates closed
  · rintro before e after rfl ended own closed
    obtain ⟨turn, next, turns, rest⟩ := course.split
    rw [turns.ends_link ended own] at rest
    exact rest.refused closed

def Episode.gone : Episode :=
  ⟨.receive .forever, [⟨.receive .forever, .error .targetReleased⟩], .error .targetReleased⟩

def Episode.next : Episode :=
  ⟨.receive .forever, [⟨.receive .forever, .ok [0x05, 0xd4, 0x06, 0x00, 0xaa]⟩], .ok [0xaa]⟩

/-- After a release that the chip told of, the next reception is taken all the same. -/
theorem release_passed_on :
    ¬ ∀ (device : Device .target) (es : List Episode) (s : TargetSide), Run (.new device) es s →
      ∀ before e after, es = before ++ e :: after → e.outcome = .error .targetReleased →
        (∀ later ∈ after, ¬ later.Opens) →
        ∀ later ∈ after, (∀ target wait, later.call ≠ .init target wait) → later.Refused := by
  intro refused
  have run : Run .fresh [.opening, .gone, .next] (TargetSide.opened.turned .send) :=
    .of_opening (.cons ⟨1, .ask _ (.done _)⟩ (.cons ⟨1, .ask _ (.done _)⟩ (.nil _)))
  have closed : ∀ later ∈ [Episode.next], ¬ later.Opens := by
    intro later member
    rw [List.mem_singleton.mp member]
    rintro ⟨⟨target, wait, called⟩, -⟩
    cases called
  obtain ⟨silent, -⟩ := refused _ _ _ run [.opening] .gone [.next] rfl rfl closed .next
    List.mem_cons_self fun target wait => Call.noConfusion
  cases silent

theorem run_disciplined_released :
    Disciplined
      [.opening,
        ⟨.receive .forever, [⟨.receive .forever, .ok [0x03, 0xd4, 0x08]⟩,
          ⟨.send [0x03, 0xd5, 0x09] .forever, .ok ()⟩], .error .targetReleased⟩,
        ⟨.receive .forever, [], .error (.invalidParameter
          "receive called while the target expects Unlinked")⟩]
      TargetSide.opened.unlinked :=
  run_disciplined (.of_opening (.cons ⟨1, .ask _ (.ask _ (.done _))⟩
    (.cons ⟨0, .done _⟩ (.nil _))))

end Runs

end Contactless.Dep
