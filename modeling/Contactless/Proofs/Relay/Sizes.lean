import Contactless.Proofs.Initiator.Refusals
import Contactless.Proofs.Relay.Conduct
import Contactless.Proofs.Relay.Course

/-! Sizes of the frames that relays pass on. A command of the reader reaches the chip of the tag as
it is, or not at all: the one that the chip could not hold ends the relay with a failure. -/
namespace Contactless

open Chip (Holds)

namespace Chip

/-- The command of a reader that a chip hands over. -/
def Event.command : Chip.Event → Option Bytes
  | ⟨.arm .., .ok command⟩ => some command
  | ⟨.receive _, .ok command⟩ => some command
  | _ => none

end Chip

namespace Relay

open Dialogue (reaches_done reaches_ask)

section Fitting

variable {α : Type}

theorem fits_waitForTag : waitForTag.Asks Chip.Call.Fits :=
  Act.asks_get.bind fun _ => fits_searching (Device.minds_pollUntilFound [.typeA] _)

theorem fits_exchange (command : Bytes) : (Device.exchange command).Asks Chip.Call.Fits :=
  (Device.minds_exchange command).fits

/-- What either chip of a relay is asked. -/
abbrev Fits : Chips.Query → Prop := Sum.elim Chip.Call.Fits Chip.Call.Fits

theorem fits_onTag {x : Act Chip (Device .initiator) α} (fits : x.Asks Chip.Call.Fits) :
    (onTag x).Asks Fits :=
  Act.Asks.zoom (fits.left _) Devices.initiator fun initiator d => { d with initiator }

theorem fits_onReader {call : Chip.Call} (value : call.Answer → Except Error α)
    (quiet : call.isExchange = false) : (onReader (Chip.request call value)).Asks Fits :=
  Act.Asks.zoom ((Act.asks_request (Chip.Call.fits_of_quiet quiet)).right _) Devices.target
    fun target d => { d with target }

theorem fits_passOn (wait : Timeout) (command : Bytes) : (passOn wait command).Asks Fits := by
  refine (fits_onTag (fits_exchange command)).bind fun answer => ?_
  refine (fits_onReader _ rfl).bind fun sent => ?_
  refine (Act.asks_modify _).bind fun counted => ?_
  refine (fits_onReader _ rfl).bind fun next => ?_
  exact Act.asks_pure _

theorem fits_arm (shown : Target) (wait : Timeout) :
    (onReader (Device.arm shown wait)).Asks Fits :=
  fun _ _ => ⟨trivial, fun _ => trivial⟩

theorem fits_session : session.Asks Fits := by
  refine (fits_onTag fits_waitForTag).bind fun real => ?_
  refine Act.asks_get.bind fun d => ?_
  refine (Act.asks_ofExcept _).bind fun shown => ?_
  refine (Act.asks_modify _).bind fun noted => ?_
  refine (fits_arm _ _).bind fun first => ?_
  exact Act.Asks.loop (fits_passOn _) _

theorem fits_run : run.Asks Fits := by
  refine (Act.asks_modify _).bind fun reset => ?_
  refine fits_session.attempt.bind fun outcome => ?_
  refine (fits_onTag (Act.asks_request (Chip.Call.fits_of_quiet rfl))).bind fun cleared => ?_
  refine (fits_onReader _ rfl).bind fun both => ?_
  cases outcome with
  | ok nothing => exact nomatch nothing
  | error e =>
      dsimp only
      split
      · exact Act.asks_get.bind fun _ => Act.asks_pure _
      · exact Act.asks_throw e

namespace InitiatorHalf

/-- What the chip and the link of a half are asked. -/
abbrev Fits : ChipAndLink.Query → Prop := Sum.elim Chip.Call.Fits fun _ => True

variable {σ α : Type}

theorem fits_sendLink (frame : LinkFrame) : (sendLink frame : Act ChipAndLink σ Unit).Asks Fits :=
  fun _ _ => ⟨trivial, fun _ => trivial⟩

theorem fits_recvLink : (recvLink : Act ChipAndLink σ LinkFrame).Asks Fits :=
  fun _ _ => ⟨trivial, fun _ => trivial⟩

theorem fits_shutDown (e : Error) : (shutDown e : Act ChipAndLink σ α).Asks Fits := by
  have told : (sayGoodbye : Act ChipAndLink σ Unit).Asks Fits :=
    (fits_sendLink _).attempt.bind fun _ => Act.asks_pure ()
  exact told.bind fun _ => Act.asks_throw e

theorem fits_orShutDown (outcome : Except Error α) :
    (orShutDown outcome : Act ChipAndLink σ α).Asks Fits := by
  cases outcome with
  | ok a => exact Act.asks_pure a
  | error e => exact fits_shutDown e

theorem fits_serve (served : Nat) : (serve served).Asks Fits := by
  refine fits_recvLink.bind fun frame => ?_
  cases frame with
  | command command =>
      refine ((fits_exchange command).left _).attempt.bind fun outcome => ?_
      refine (fits_orShutDown outcome).bind fun answer => ?_
      exact (fits_sendLink _).bind fun sent => Act.asks_pure _
  | shutdown => exact Act.asks_pure _
  | target t => exact fits_shutDown _
  | response answer => exact fits_shutDown _

theorem fits_run : run.Asks Fits := by
  refine (fits_waitForTag.left _).attempt.bind fun outcome => ?_
  refine (fits_orShutDown outcome).bind fun real => ?_
  refine (fits_sendLink _).bind fun described => ?_
  exact Act.Asks.loop fits_serve 0

end InitiatorHalf

end Fitting

section Refusals

variable {command : Bytes}

/-- A command that the chip of the tag cannot hold is refused, which is no normal stop. -/
theorem exists_refusal (unheld : ¬ Holds command.length) :
    ∃ e, refusal command = some e ∧ isNormalStop e = false := by
  unfold refusal
  by_cases none : command.isEmpty
  · rw [if_pos none]
    exact ⟨_, rfl, rfl⟩
  · rw [if_neg none]
    have some : 1 ≤ command.length :=
      List.length_pos_iff.mpr fun empty => none (by rw [empty]; rfl)
    rw [if_pos (Nat.not_le.mp fun short => unheld ⟨some, short⟩)]
    exact ⟨_, rfl, rfl⟩

namespace Devices

/-- What a relay asks once it has failed. -/
abbrev Clearing : Chips.Query → Prop := Sum.elim (· = .clearAbort) (· = .clearAbort)

theorem refuses_stopping {e : Error} (loud : isNormalStop e = false) (s : Devices) :
    (stopping e s).Refuses Clearing := by
  intro _ _
  change Failing Clearing _ (if isNormalStop e then _ else _)
  rw [loud]
  refine ⟨⟨e, rfl⟩, ?_⟩
  exact List.forall_mem_cons.mpr ⟨rfl, List.forall_mem_singleton.mpr rfl⟩

variable {n fuel : Nat} {wait : Timeout} {s : Devices} {t : List Chips.Event} {call : Chip.Call}
  {next : call.Answer → Dialogue Chips (Except Error Stats × Devices)} {r : call.Answer}

/-- A relay that has failed is handed no command. -/
theorem not_handed_stopping {e : Error} {s : Devices}
    (reaches : (stopping e s).Reaches t (.ask (.inr call) next))
    (hands : Chip.Event.command ⟨call, r⟩ = some command) : False := by
  rcases reaches_ask reaches with ⟨-, same⟩ | ⟨_, u, -, rest⟩
  · cases same
  · rcases reaches_ask rest with ⟨-, same⟩ | ⟨_, v, -, last⟩
    · cases same
      cases hands
    · cases (reaches_done last).2

theorem refuses_called (enough : 0 < fuel) (unheld : ¬ Holds command.length) :
    (called n fuel wait s (.ok command)).Refuses Clearing := by
  obtain ⟨fuel, rfl⟩ := Nat.exists_eq_succ_of_ne_zero (Nat.ne_of_gt enough)
  obtain ⟨e, refused, loud⟩ := exists_refusal unheld
  change (passing n (fuel + 1) wait s command).Refuses Clearing
  rw [passing_succ, asked_of_refused n fuel wait s refused]
  exact refuses_stopping loud s

/-- Each round takes three questions, so the horizon outlasts the commands of a transcript. -/
theorem refuses_passing {first : Bytes} (enough : t.length < fuel)
    (reaches : (passing n fuel wait s first).Reaches t (.ask (.inr call) next))
    (hands : Chip.Event.command ⟨call, r⟩ = some command) (unheld : ¬ Holds command.length) :
    (next r).Refuses Clearing := by
  induction fuel generalizing t s first with
  | zero => cases enough
  | succ fuel ih =>
      rw [passing_succ] at reaches
      cases refused : refusal first with
      | some e =>
          rw [asked_of_refused n fuel wait s refused] at reaches
          exact (not_handed_stopping reaches hands).elim
      | none =>
          rw [asked_of_passes n fuel wait s refused] at reaches
          obtain ⟨-, same⟩ | ⟨answer, t, rfl, answers⟩ := reaches_ask reaches
          · cases same
          rcases answer with e | answer
          · exact (not_handed_stopping answers hands).elim
          obtain ⟨-, same⟩ | ⟨sent, t, rfl, gives⟩ := reaches_ask answers
          · cases same
            cases hands
          rcases sent with e | sent
          · exact (not_handed_stopping gives hands).elim
          obtain ⟨rfl, same⟩ | ⟨received, t, rfl, calls⟩ := reaches_ask gives
          · cases same
            rcases r with e | received
            · cases hands
            · cases hands
              simp only [List.length_cons] at enough
              exact refuses_called (by omega) unheld
          rcases received with e | received
          · exact (not_handed_stopping calls hands).elim
          · simp only [List.length_cons] at enough
            exact ih (by omega) calls

theorem refuses_run (enough : t.length < n) (reaches : (run n s).Reaches t (.ask (.inr call) next))
    (hands : Chip.Event.command ⟨call, r⟩ = some command) (unheld : ¬ Holds command.length) :
    (next r).Refuses Clearing := by
  rw [run_eq] at reaches
  rcases Dialogue.reaches_bind_ask reaches with
    ⟨next', searching, -⟩ | ⟨u, v, ⟨outcome, d⟩, rfl, -, reaches⟩
  · exact (Dialogue.not_reaches_left searching).elim
  · rw [List.length_append] at enough
    rcases outcome with e | real
    · exact (not_handed_stopping reaches hands).elim
    · change (revealed n s.target d real (emulatedBy s.target.config real)).Reaches v _ at reaches
      cases shows : emulatedBy s.target.config real with
      | error e =>
          rw [shows] at reaches
          exact (not_handed_stopping reaches hands).elim
      | ok shown =>
          rw [shows] at reaches
          obtain ⟨-, same⟩ | ⟨first, v, rfl, calls⟩ := reaches_ask reaches
          · cases same
            rcases r with e | first
            · cases hands
            · cases hands
              exact refuses_called (by omega) unheld
          rcases first with e | first
          · exact (not_handed_stopping calls hands).elim
          · simp only [List.length_cons] at enough
            exact refuses_passing (by omega) calls hands unheld

end Devices

namespace InitiatorHalf

/-- What a half asks that stops with a failure. -/
abbrev Leaving : ChipAndLink.Query → Prop :=
  Sum.elim (fun _ => False) (· = LinkCall.send .shutdown)

theorem refuses_leaving (e : Error) (d : Device .initiator) :
    (leaving e d : Dialogue ChipAndLink (Except Error Nat × Device .initiator)).Refuses Leaving :=
  fun _ => ⟨⟨e, rfl⟩, List.forall_mem_singleton.mpr rfl⟩

variable {n fuel served : Nat} {d : Device .initiator} {t : List ChipAndLink.Event}
  {wait : Timeout}
  {next : Except Error LinkFrame → Dialogue ChipAndLink (Except Error Nat × Device .initiator)}

/-- A half that stops receives no more. -/
theorem not_received_leaving {e : Error} :
    ¬ (leaving e d).Reaches t (.ask (.inr (.recv wait)) next) := by
  intro reaches
  rcases reaches_ask reaches with ⟨-, same⟩ | ⟨_, u, -, rest⟩
  · cases same
  · cases (reaches_done rest).2

theorem refuses_serving
    (reaches : (serving n fuel served d).Reaches t (.ask (.inr (.recv wait)) next))
    (unheld : ¬ Holds command.length) : (next (.ok (.command command))).Refuses Leaving := by
  induction fuel generalizing t served d with
  | zero => cases reaches
  | succ fuel ih =>
      rw [serving_succ] at reaches
      obtain ⟨-, same⟩ | ⟨received, t, rfl, hears⟩ := reaches_ask reaches
      · cases same
        obtain ⟨e, refused, -⟩ := exists_refusal unheld
        change (asked n fuel served d command).Refuses Leaving
        rw [asked_of_refused n fuel served d refused]
        exact refuses_leaving e d
      rcases received with e | frame
      · cases (reaches_done hears).2
      cases frame with
      | target t => exact (not_received_leaving hears).elim
      | response answer => exact (not_received_leaving hears).elim
      | shutdown => cases (reaches_done hears).2
      | command first =>
          change (asked n fuel served d first).Reaches t _ at hears
          cases refused : refusal first with
          | some e =>
              rw [asked_of_refused n fuel served d refused] at hears
              exact (not_received_leaving hears).elim
          | none =>
              rw [asked_of_passes n fuel served d refused] at hears
              obtain ⟨-, same⟩ | ⟨answer, t, rfl, answers⟩ := reaches_ask hears
              · cases same
              rcases answer with e | answer
              · exact (not_received_leaving answers).elim
              obtain ⟨-, same⟩ | ⟨sent, t, rfl, tells⟩ := reaches_ask answers
              · cases same
              rcases sent with e | sent
              · cases (reaches_done tells).2
              · exact ih tells

theorem refuses_run (reaches : (run n d).Reaches t (.ask (.inr (.recv wait)) next))
    (unheld : ¬ Holds command.length) : (next (.ok (.command command))).Refuses Leaving := by
  rw [run_eq] at reaches
  rcases Dialogue.reaches_bind_ask reaches with
    ⟨next', searching, -⟩ | ⟨u, v, ⟨outcome, d⟩, rfl, -, reaches⟩
  · exact (Dialogue.not_reaches_left searching).elim
  · rcases outcome with e | real
    · exact (not_received_leaving reaches).elim
    · obtain ⟨-, same⟩ | ⟨sent, v, rfl, describes⟩ := reaches_ask reaches
      · cases same
      rcases sent with e | sent
      · cases (reaches_done describes).2
      · exact refuses_serving describes unheld

end InitiatorHalf

end Refusals

end Relay

/-- No frame is exchanged that the chip cannot hold, by no operation of an initiator, no relay and
no half of one, whatever they are asked to send and whatever they are answered. Arguments that would
need such a frame are refused, and so is a command of the reader that is to be relayed: the
operation or the relay fails, and sends nothing on their behalf. -/
theorem exchanges_fit :
    (∀ op : Operation, op.run.Asks Chip.Call.Fits) ∧
    (∀ d : Device .initiator, (d.idle : Act Chip Unit (Device .idle)).Asks Chip.Call.Fits) ∧
    (Chip.abortPending : Act Chip (Device .initiator) Unit).Asks Chip.Call.Fits ∧
    Relay.run.Asks Relay.Fits ∧
    Relay.InitiatorHalf.run.Asks Relay.InitiatorHalf.Fits ∧
    (∀ (op : Operation) (s : Dep.InitiatorSide) (size : Nat),
      op.size s.device.config = some size → ¬ Holds size → op.run.Refuses op.Parting s) ∧
    (∀ (n : Nat) (s : Relay.Devices) (t : List Relay.Chips.Event) (call : Chip.Call)
      (next : call.Answer → Dialogue Relay.Chips (Except Error Relay.Stats × Relay.Devices))
      (r : call.Answer) (command : Bytes),
      (Relay.run n s).Reaches t (.ask (.inr call) next) → t.length < n →
      Chip.Event.command ⟨call, r⟩ = some command → ¬ Holds command.length →
      (next r).Refuses Relay.Devices.Clearing) ∧
    (∀ (n : Nat) (d : Device .initiator) (t : List Relay.ChipAndLink.Event) (wait : Timeout)
      (next : Except Error Relay.LinkFrame →
        Dialogue Relay.ChipAndLink (Except Error Nat × Device .initiator))
      (command : Bytes),
      (Relay.InitiatorHalf.run n d).Reaches t (.ask (.inr (.recv wait)) next) →
      ¬ Holds command.length →
      (next (.ok (.command command))).Refuses Relay.InitiatorHalf.Leaving) := by
  refine ⟨Operation.fits_run, fun d => ?_, Act.asks_request trivial, Relay.fits_run,
    Relay.InitiatorHalf.fits_run, ?_, ?_, ?_⟩
  · exact (Act.asks_request (Chip.Call.fits_of_quiet rfl)).bind fun _ => Act.asks_pure _
  · exact fun op s size => Operation.refuses_run
  · intro n s t call next r command reaches enough
    exact Relay.Devices.refuses_run enough reaches
  · intro n d t wait next command
    exact Relay.InitiatorHalf.refuses_run

section Samples

open Relay (Devices LinkFrame)
open Relay.InitiatorHalf (sampleSearch sampleTag)

/-- An empty frame, and an empty command once a tag was found and shown or described. -/
theorem exchanges_fit_refusing :
    (Operation.bytes [] none).run.Refuses (fun _ => False) (.new ⟨{}, none⟩) ∧
    (∃ next : Except Error Bytes → Dialogue Relay.Chips (Except Error Relay.Stats × Devices),
      (Relay.run 9 ⟨⟨{}, none⟩, ⟨{}, none⟩, {}⟩).Reaches
        (sampleSearch.map Interface.Event.inLeft) (.ask (.inr (.arm sampleTag .forever)) next) ∧
      (next (.ok [])).Refuses Devices.Clearing) ∧
    (∃ next : Except Error LinkFrame →
        Dialogue Relay.ChipAndLink (Except Error Nat × Device .initiator),
      (Relay.InitiatorHalf.run 9 ⟨{}, none⟩).Reaches
        (sampleSearch.map Interface.Event.inLeft ++ [⟨.inr (.send (.target sampleTag)), .ok ()⟩])
        (.ask (.inr (.recv .forever)) next) ∧
      (next (.ok (.command []))).Refuses Relay.InitiatorHalf.Leaving) := by
  obtain ⟨-, -, -, -, -, refuses, relays, serves⟩ := exchanges_fit
  refine ⟨refuses (.bytes [] none) (.new ⟨{}, none⟩) 0 rfl (by decide), ?_, ?_⟩
  · have shows : (Relay.run 9 ⟨⟨{}, none⟩, ⟨{}, none⟩, {}⟩).Reaches
        (sampleSearch.map Interface.Event.inLeft) (.ask (.inr (.arm sampleTag .forever)) _) :=
      .ask _ (.ask _ (.ask _ (.ask _ (.ask _ (.ask _ (.ask _ (.ask _ (.refl _))))))))
    exact ⟨_, shows, relays 9 _ _ _ _ (Except.ok []) [] shows (by decide) rfl (by decide)⟩
  · have describes : (Relay.InitiatorHalf.run 9 ⟨{}, none⟩).Reaches
        (sampleSearch.map Interface.Event.inLeft ++ [⟨.inr (.send (.target sampleTag)), .ok ()⟩])
        (.ask (.inr (.recv .forever)) _) :=
      .ask _ (.ask _ (.ask _ (.ask _ (.ask _ (.ask _ (.ask _ (.ask _ (.ask _ (.refl _)))))))))
    exact ⟨_, describes, serves 9 _ _ .forever _ [] describes (by decide)⟩

end Samples

end Contactless
