import Contactless.Device.Selection
import Contactless.Proofs.Loopback.Checks
import Contactless.Proofs.Loopback.Host
import Contactless.Proofs.Loopback.Search
import Contactless.Proofs.TypeA.Activation

/-! Listing the tags of a field in which one emulated type A tag is. A tag that is halted after its
activation is not found again; one whose session is ended answers the next request as it did the
first one. -/
namespace Contactless

open Loopback Act
open TypeA (Activation Activator Tag)

namespace Device

/-- How a listing goes on after a search. -/
def listed (max : Nat) : Option Activation → Act Chip (Device .initiator) (List Target)
  | none => pure []
  | some a => do
    select (some a.target)
    deselect
    return a.target :: (← listTypeA max)

/-- The search of a listing, which halted tags do not answer. -/
def searchAwake (d : Device .initiator) : Act Chip (Device .initiator) (Option Activation) :=
  Act.within { Activator.ofConfig d.config with wakeup := .reqa } (Activator.activate none)

variable {γ : Type} {n : Nat} {d : Device .initiator}

theorem listTypeA_succ (max : Nat) (k : List Target → Act Chip (Device .initiator) γ) :
    (listTypeA (max + 1) >>= k) n d =
      (searchAwake d >>= fun found => listed max found >>= k) n d := by
  have split : listTypeA (max + 1) = (get >>= fun d => searchAwake d >>= listed max) := by
    unfold listTypeA searchAwake
    congr
  rw [split]
  simp only [LawfulMonad.bind_assoc]
  rfl

theorem listed_some (max : Nat) (a : Activation)
    (k : List Target → Act Chip (Device .initiator) γ) :
    (listed max (some a) >>= k) n d =
      (deselect >>= fun _ => listTypeA max >>= fun rest => k (a.target :: rest)) n
        { d with selected := some a.target } := by
  unfold listed
  simp only [LawfulMonad.bind_assoc, LawfulMonad.pure_bind]
  rfl

/-- What sending a release frame comes to, by the answer to it. -/
def releaseOutcome (answered : Bool) : Except Error Bytes → Except Error Unit
  | .ok _ => .ok ()
  | .error e => if e.isTimeout && !answered then .ok () else .error e

theorem sendRelease_apply (frame : Bytes) (answered : Bool) (wait : Timeout) :
    sendRelease frame answered wait n d =
      .ask (.bytes frame wait) fun r => .done (releaseOutcome answered r, d) := by
  refine Dialogue.ask_congr (I := Chip) (q := .bytes frame wait) fun r => ?_
  cases r with
  | ok reply => rfl
  | error e =>
      change (if e.isTimeout && !answered then pure () else throw e :
        Act Chip (Device .initiator) Unit) n d = _
      unfold releaseOutcome
      by_cases forgiven : (e.isTimeout && !answered) = true
      · simp only [if_pos forgiven]
        rfl
      · simp only [if_neg forgiven]
        rfl

/-- A release, question by question. -/
theorem deselect_bind {target : Target} {frame : Bytes} (selected : d.selected = some target)
    (known : releaseFrame target = some frame) (k : Unit → Act Chip (Device .initiator) γ) :
    ∃ (raw : Except Error Unit → _) (sent : Except Error Bytes → _)
      (restored : Except Error Bytes → Except Error Unit → Dialogue Chip _),
      (deselect >>= k) n d = .ask (.configure .handleCrc false) raw ∧
      raw (.ok ()) = .ask (.bytes frame d.config.commandTimeout) sent ∧
      (∀ r, sent r = .ask (.configure .handleCrc true) (restored r)) ∧
      ∀ r, releaseOutcome target.isPart4 r = .ok () →
        restored r (.ok ()) = k () n { d with selected := none } := by
  have begins : (deselect >>= k) n d = (Chip.withoutHardwareCrc
      (sendRelease frame target.isPart4 d.config.commandTimeout) >>= k) n
        { d with selected := none } := by
    unfold deselect
    rw [bind_apply, bind_apply, get_apply, Dialogue.bind_done_left, resume_ok, selected]
    dsimp only
    rw [known]
    rfl
  rw [begins]
  refine ⟨_, fun r => .ask (.configure .handleCrc true) fun b =>
    (Act.ofExcept (Chip.firstFailure (releaseOutcome target.isPart4 r) b) >>= k) n
      { d with selected := none }, _, rfl, ?_, fun _ => rfl, fun r released => ?_⟩
  · change (((sendRelease frame target.isPart4 d.config.commandTimeout).attempt >>= fun outcome =>
      (Chip.configure .handleCrc true).attempt >>= fun restored =>
        Act.ofExcept (Chip.firstFailure outcome restored)) >>= k) n { d with selected := none } = _
    rw [bind_apply, attempt_bind, sendRelease_apply]
    rfl
  · rw [released]
    rfl

theorem searching_searchAwake (d : Device .initiator) : (searchAwake d).Searching :=
  (searching_of_minds (Activator.minds_attempt none)).withRawFraming.within

end Device

section Searches

variable {tag : Tag} {phase : Phase} {n : Nat} {d : Device .initiator} {host : End}
  {toInitiator : List Bytes} {handleCrc : Bool}

/-- A tag that is not halted is found. -/
theorem ends_searchAwake (awake : phase ≠ .halted)
    (given : TypeA.sakPart4 tag.sak → tag.ats ≠ []) (short : tag.ats.length ≤ 254) :
    Ends (Pair.alone .initiator) (Device.searchAwake d) n d
      (.quiet ⟨tag.target, phase⟩ toInitiator handleCrc host) (.ok (some ⟨tag.found, []⟩)) d
      (.quiet ⟨tag.target, tag.reached⟩ toInitiator true host) := by
  obtain ⟨s, quiet, ends⟩ := TypeA.ends_attempt
    (p := .quiet ⟨tag.target, phase⟩ toInitiator handleCrc host) (t := tag) (n := n)
    (a := { Activator.ofConfig d.config with wakeup := .reqa }) (.inr awake) none
  obtain ⟨a', attempted⟩ := ends _ _ (TypeA.meets_identify (.inl rfl) given short quiet)
  exact (TypeA.ends_withRawFraming rfl rfl attempted).within

/-- A halted tag is not. -/
theorem ends_searchAwake_halted :
    Ends (Pair.alone .initiator) (Device.searchAwake d) n d
      (.quiet ⟨tag.target, .halted⟩ toInitiator handleCrc host) (.ok none) d
      (.quiet ⟨tag.target, .halted⟩ toInitiator true host) := by
  have silent : (Armed.mk tag.target .halted).react Wakeup.reqa.frame false =
      (.silent, ⟨tag.target, .halted⟩) := react_halted (by decide) false
  let p := Pair.quiet ⟨tag.target, .halted⟩ toInitiator handleCrc host
  have unwoken (a : Activator) : Ends (Pair.alone .initiator)
      (Chip.exchangeFrame Wakeup.reqa.frame a.timeout) n a (p.withTag tag.target .halted)
      (.error .rfTimeout) a (p.withTag tag.target .halted) :=
    ends_bits (by decide) (offer_silent silent)
  have attempted : Ends (Pair.alone .initiator) (Activator.attempt none) n
      { Activator.ofConfig d.config with wakeup := .reqa } (p.withTag tag.target .halted)
      (.ok none) _ (p.withTag tag.target .halted) :=
    (ends_modify _).bind (.bind (.attempt ((ends_modify _).bind (ends_get.bind
      (unwoken _).bind_error))) ((ends_modify _).bind (ends_pure none)))
  exact (TypeA.ends_withRawFraming rfl rfl attempted).within

end Searches

section Releases

variable {β γ : Type} {goal : Play (Except Error γ × Device .initiator) β → Prop} {tag : Tag}
  {n : Nat} {d : Device .initiator} {host : End} {toInitiator : List Bytes}
  {next : Except Error Bytes → Dialogue Terminal β} {t : Thread β}
  {k : Unit → Act Chip (Device .initiator) γ}

theorem react_deselect (tag : Tag) :
    (Armed.mk tag.target .active).react (.ofBytes TypeA.deselect) false =
      (.forward [0xc2], ⟨tag.target, .active⟩) := by
  refine (react_long (whole_bits TypeA.deselect) false).trans ?_
  change (Reaction.forward (hostPart false (Crc.a.append [0xc2])), _) = _
  rw [hostPart_append (List.cons_ne_nil _ _)]
  rfl

/-- The end of a session is left to the host of the tag, and the chip goes on as it was. -/
theorem inevitable_ended {count : Nat} (hosts : Hosts (count + 1) next)
    (free : host.aborted = false) (lasts : Lasting d.config.commandTimeout)
    (part4 : tag.found.isPart4 = true) (selected : d.selected = some tag.found)
    (later : ∀ listening t', Hosts count listening → Resting listening t' →
      Inevitable Play.Turn goal
        ⟨.running (k () n { d with selected := none }).left, t',
          .quiet ⟨tag.target, .active⟩ [] true host⟩)
    (resting : Resting next t) :
    Inevitable Play.Turn goal
      ⟨.running ((Device.deselect >>= k) n d).left, t,
        .quiet ⟨tag.target, .active⟩ toInitiator true host⟩ := by
  have carries := carries_inevitable goal
  obtain ⟨raw, sent, restored, begins, sends, restores, ends⟩ :=
    Device.deselect_bind (n := n) selected (if_pos part4) k
  rw [begins]
  refine carries.beside resting (calm_quiet _ _ _ free) (goes_settled rfl fun t₁ still => ?_)
  rw [sends]
  refine inevitable_round hosts free lasts (react_deselect tag)
    (fun reply listening t₂ further still => ?_) still
  rw [restores]
  refine carries.beside still (calm_quiet _ _ _ free) (goes_settled rfl fun t₃ still => ?_)
  rw [ends (.ok reply) rfl]
  exact later listening t₃ further still

/-- A halt is not answered, and that is no failure. -/
theorem inevitable_halted (free : host.aborted = false) (plain : tag.found.isPart4 = false)
    (selected : d.selected = some tag.found)
    (later : ∀ t', Resting next t' → Inevitable Play.Turn goal
      ⟨.running (k () n { d with selected := none }).left, t',
        .quiet ⟨tag.target, .halted⟩ toInitiator true host⟩)
    (resting : Resting next t) :
    Inevitable Play.Turn goal
      ⟨.running ((Device.deselect >>= k) n d).left, t,
        .quiet ⟨tag.target, .selected⟩ toInitiator true host⟩ := by
  have carries := carries_inevitable goal
  obtain ⟨raw, sent, restored, begins, sends, restores, ends⟩ :=
    Device.deselect_bind (n := n) selected
      (if_neg (Bool.eq_false_iff.mp plain) : Device.releaseFrame tag.found = some TypeA.halt) k
  have halts : (Armed.mk tag.target .selected).react (.ofBytes TypeA.halt) false =
      (.silent, ⟨tag.target, .halted⟩) := react_halt (List.prefix_append _ _) false
  have looks : (Pair.quiet ⟨tag.target, .selected⟩ toInitiator false host).look .initiator
      (.presence (.ofBytes TypeA.halt) d.config.commandTimeout) =
        (.found (.error .rfTimeout), .quiet ⟨tag.target, .halted⟩ toInitiator false host) := by
    refine (look_presence _ _ _ [] toInitiator false host).trans ?_
    rw [halts]
    rfl
  rw [begins]
  refine carries.beside resting (calm_quiet _ _ _ free) (goes_settled rfl fun t₁ still => ?_)
  rw [sends]
  refine carries.beside still (calm_quiet _ _ _ free) (goes_waits rfl fun _ t₂ still => ?_)
  refine carries.beside still (calm_quiet _ _ _ free) (goes_found looks fun t₃ still => ?_)
  change Inevitable Play.Turn goal ⟨.running (sent (.error .rfTimeout)).left, t₃, _⟩
  rw [restores]
  refine carries.beside still (calm_quiet _ _ _ free) (goes_settled rfl fun t₄ still => ?_)
  rw [ends (.error .rfTimeout) (by rw [plain]; rfl)]
  exact later t₄ still

end Releases

/-- How many times a listing finds the only tag there is. -/
def TypeA.Tag.times (tag : Tag) (max : Nat) : Nat :=
  if TypeA.sakPart4 tag.sak then max else min 1 max

theorem TypeA.Tag.times_eq_one_iff (tag : Tag) {max : Nat} (some : 1 ≤ max) :
    tag.times max = 1 ↔ max = 1 ∨ TypeA.sakPart4 tag.sak = false := by
  unfold TypeA.Tag.times
  cases TypeA.sakPart4 tag.sak with
  | true => exact ⟨.inl, fun once => once.resolve_right nofun⟩
  | false => exact ⟨fun _ => .inr rfl, fun _ => Nat.min_eq_left some⟩

/-- A device that has released all it found, if it was to look for any. -/
def Device.relieved (d : Device .initiator) (max : Nat) : Device .initiator :=
  { d with selected := if max = 0 then d.selected else none }

section Listings

variable {β γ : Type} {goal : Play (Except Error γ × Device .initiator) β → Prop} {tag : Tag}
  {phase : Phase} {n max : Nat} {d : Device .initiator} {host : End} {toInitiator : List Bytes}
  {handleCrc : Bool} {next : Except Error Bytes → Dialogue Terminal β} {t : Thread β}
  {k : List Target → Act Chip (Device .initiator) γ}

theorem isPart4_found (given : TypeA.sakPart4 tag.sak → tag.ats ≠ []) :
    tag.found.isPart4 = TypeA.sakPart4 tag.sak := by
  unfold Tag.found Target.isPart4
  cases announced : TypeA.sakPart4 tag.sak with
  | true =>
      change (!tag.ats.isEmpty) = true
      rw [List.isEmpty_eq_false_iff.mpr (given announced)]
      rfl
  | false => rfl

theorem inevitable_searched {a a' : Armed} {found : Option Activation}
    (ends : Ends (Pair.alone .initiator) (Device.searchAwake d) n d
      (.quiet a toInitiator handleCrc host) (.ok found) d (.quiet a' toInitiator true host))
    (free : host.aborted = false)
    (later : ∀ t', Resting next t' → Inevitable Play.Turn goal
      ⟨.running ((Device.listed max found >>= k) n d).left, t',
        .quiet a' toInitiator true host⟩)
    (resting : Resting next t) :
    Inevitable Play.Turn goal
      ⟨.running ((Device.listTypeA (max + 1) >>= k) n d).left, t,
        .quiet a toInitiator handleCrc host⟩ := by
  rw [Device.listTypeA_succ, bind_apply]
  exact (carries_inevitable goal).search (Device.searching_searchAwake d n d) rfl
    (fun _ => later) (calm_quiet _ _ _ free) ends resting

/-- A tag whose session is ended is found as often as it is looked for. -/
theorem inevitable_repeated (hosts : Hosts max next) (free : host.aborted = false)
    (lasts : Lasting d.config.commandTimeout) (awake : phase ≠ .halted)
    (part4 : TypeA.sakPart4 tag.sak = true) (given : tag.ats ≠ [])
    (short : tag.ats.length ≤ 254)
    (later : ∀ phase' toInitiator' handleCrc' next' t', Resting next' t' →
      Inevitable Play.Turn goal
        ⟨.running (k (List.replicate max tag.found) n (d.relieved max)).left, t',
          .quiet ⟨tag.target, phase'⟩ toInitiator' handleCrc' host⟩)
    (resting : Resting next t) :
    Inevitable Play.Turn goal
      ⟨.running ((Device.listTypeA max >>= k) n d).left, t,
        .quiet ⟨tag.target, phase⟩ toInitiator handleCrc host⟩ := by
  induction max generalizing d phase toInitiator handleCrc next t k with
  | zero => exact later phase toInitiator handleCrc next t resting
  | succ max ih =>
      have reached : tag.reached = .active := if_pos part4
      refine inevitable_searched (ends_searchAwake awake (fun _ => given) short) free
        (fun t₁ still => ?_) resting
      rw [reached]
      rw [Device.listed_some]
      refine inevitable_ended hosts free lasts ((isPart4_found fun _ => given).trans part4) rfl
        (fun listening t₂ further still => ?_) still
      refine ih further lasts nofun (fun phase' r' c' next' t' still => ?_) still
      have relieved : Device.relieved { d with selected := none } max = d.relieved (max + 1) := by
        unfold Device.relieved
        simp
      have again := later phase' r' c' next' t' still
      rw [← relieved] at again
      exact again

/-- A tag that halts is found once. -/
theorem inevitable_once (free : host.aborted = false) (awake : phase ≠ .halted)
    (plain : TypeA.sakPart4 tag.sak = false) (short : tag.ats.length ≤ 254)
    (later : ∀ phase' handleCrc' t', Resting next t' →
      Inevitable Play.Turn goal
        ⟨.running (k (List.replicate (min 1 max) tag.found) n (d.relieved max)).left, t',
          .quiet ⟨tag.target, phase'⟩ toInitiator handleCrc' host⟩)
    (resting : Resting next t) :
    Inevitable Play.Turn goal
      ⟨.running ((Device.listTypeA max >>= k) n d).left, t,
        .quiet ⟨tag.target, phase⟩ toInitiator handleCrc host⟩ := by
  have absent : TypeA.sakPart4 tag.sak → tag.ats ≠ [] := fun announced =>
    absurd announced (Bool.eq_false_iff.mp plain)
  have reached : tag.reached = .selected := if_neg (Bool.eq_false_iff.mp plain)
  cases max with
  | zero => exact later phase handleCrc t resting
  | succ max =>
      refine inevitable_searched (ends_searchAwake awake absent short) free
        (fun t₁ still => ?_) resting
      rw [reached]
      rw [Device.listed_some]
      refine inevitable_halted free ((isPart4_found absent).trans plain) rfl
        (fun t₂ still => ?_) still
      cases max with
      | zero => exact later .halted true t₂ still
      | succ max =>
          refine inevitable_searched ends_searchAwake_halted free (fun t₃ still => ?_) still
          exact later .halted true t₃ still

/-- A listing that returns its reports is finished with the next go. -/
theorem inevitable_returned (free : host.aborted = false) (reports : List Target)
    (resting : Resting next t) :
    Inevitable Play.Turn (fun play => play.initiator = .finished (some (.ok reports, d)))
      ⟨.running ((pure reports : Act Chip _ _) n d).left, t,
        .quiet ⟨tag.target, phase⟩ toInitiator handleCrc host⟩ :=
  (carries_inevitable _).beside resting (calm_quiet _ _ _ free)
    ⟨id, fun _ => ⟨_, _, rfl, fun _ _ => .here rfl⟩⟩

theorem inevitable_listed {p : Pair} (calm : p.Calm)
    (placed : p.field.presence = .armed ⟨tag.target, phase⟩) (awake : phase ≠ .halted)
    (given : TypeA.sakPart4 tag.sak → tag.ats ≠ []) (short : tag.ats.length ≤ 254)
    (hosts : TypeA.sakPart4 tag.sak → Hosts max next)
    (lasts : TypeA.sakPart4 tag.sak → Lasting d.config.commandTimeout) (resting : Resting next t)
    (n : Nat) :
    Inevitable Play.Turn
      (fun play => play.initiator = .finished
        (some (.ok (List.replicate (tag.times max) tag.found), d.relieved max)))
      ⟨.running (Device.list .typeA max n d).left, t, p⟩ := by
  have whole : Device.list .typeA max = (Device.listTypeA max >>= pure) :=
    (if_pos rfl).trans (Act.bind_pure _).symm
  rw [whole, calm.eq_quiet placed]
  by_cases part4 : TypeA.sakPart4 tag.sak = true
  · have often : tag.times max = max := if_pos part4
    rw [often]
    exact inevitable_repeated (hosts part4) calm.target (lasts part4) awake part4 (given part4)
      short (fun _ _ _ _ _ still => inevitable_returned calm.target _ still) resting
  · have once : tag.times max = min 1 max := if_neg part4
    rw [once]
    exact inevitable_once calm.target awake (Bool.eq_false_iff.mpr part4) short
      (fun _ _ _ still => inevitable_returned calm.target _ still) resting

/-- A type A tag alone in the field, which is not halted, is listed once if it does not announce an
answer to select, and up to the maximum if it does: the request that follows the end of its session
it answers like the first one. This is so in whatever order the device and the host of the tag go
on, as long as no wait in vain runs out, and in a run of both. -/
theorem listing_counts {p : Pair} (calm : p.Calm)
    (placed : p.field.presence = .armed ⟨tag.target, phase⟩) (awake : phase ≠ .halted)
    (given : TypeA.sakPart4 tag.sak → tag.ats ≠ []) (short : tag.ats.length ≤ 254)
    (hosts : TypeA.sakPart4 tag.sak → Hosts max next)
    (lasts : TypeA.sakPart4 tag.sak → Lasting d.config.commandTimeout) (n : Nat) :
    let lister := (Device.list .typeA max n d).left
    let listed := (.ok (List.replicate (tag.times max) tag.found), d.relieved max)
    (∀ t : Thread β, Resting next t →
      Inevitable Play.Turn (fun play => play.initiator = .finished (some listed))
        ⟨.running lister, t, p⟩) ∧
    (∀ wait, Lasting wait → ∃ least, ∀ horizon, least ≤ horizon →
      (Pair.runBoth horizon p lister (.ask (.inl (.receive wait)) next)).1 = some listed) ∧
    (1 ≤ max → (tag.times max = 1 ↔ max = 1 ∨ TypeA.sakPart4 tag.sak = false)) := by
  intro lister listed
  have inevitable {t : Thread β} (resting : Resting next t) :
      Inevitable Play.Turn (fun play => play.initiator = .finished (some listed))
        ⟨.running lister, t, p⟩ :=
    inevitable_listed calm placed awake given short hosts lasts resting n
  exact ⟨fun t => inevitable, fun wait patient => runBoth_of_inevitable (inevitable
    (.calls patient)), tag.times_eq_one_iff⟩

end Listings

section Samples

/-- A tag that answers a request for its answer to select. -/
def sessionTag : Tag :=
  ⟨⟨[0x02, 0x03], rfl⟩, 0x20, ⟨[0x08, 0x21, 0x32, 0x43], .inl rfl⟩, [0x78]⟩

def sessionPair : Pair := ({} : Pair).armed sessionTag.target

/-- A card that confirms whatever it is told. -/
def confirmingCard : Card Unit := fun _ _ => (.answer [0xc2], ())

/-- The host of such a card, with so many commands to answer. -/
def confirmingHost (count : Nat) :
    Except Error Bytes → Dialogue Terminal (Except Error Emulation.Exit × Emulation.Session Unit)
  | .ok command =>
    (Emulation.serving confirmingCard .standard 0 count
      { device := ⟨{}, none⟩, target := sessionTag.target, card := () } command).left
  | .error _ => .cut

theorem lasting_standard : Lasting .standard := by
  unfold Lasting
  decide

theorem hosts_confirmingHost (count : Nat) : Hosts count (confirmingHost count) :=
  hosts_serving lasting_standard (fun _ _ => ⟨[0xc2], (), rfl, List.cons_ne_nil _ _⟩) 0 count _
    fun _ => rfl

theorem calm_sessionPair : sessionPair.Calm := ⟨⟨_, rfl⟩, rfl, rfl, rfl⟩

theorem listing_counts_session :
    ∃ least, ∀ horizon, least ≤ horizon →
      (Pair.runBoth horizon sessionPair (Device.list .typeA 3 0 ⟨{}, none⟩).left
        (.ask (.inl (.receive .standard)) (confirmingHost 3))).1 =
      some (.ok [sessionTag.target, sessionTag.target, sessionTag.target], ⟨{}, none⟩) :=
  (listing_counts (d := ⟨{}, none⟩) calm_sessionPair rfl nofun (fun _ => List.cons_ne_nil _ _)
    (by decide) (fun _ => hosts_confirmingHost 3) (fun _ => lasting_standard) 0).2.1 .standard
      lasting_standard

/-- The same tag is listed twice. -/
theorem session_listed_twice :
    ∃ least, ∀ horizon, least ≤ horizon → ∃ reports d,
      (Pair.runBoth horizon sessionPair (Device.list .typeA 2 0 ⟨{}, none⟩).left
        (.ask (.inl (.receive .standard)) (confirmingHost 2))).1 = some (.ok reports, d) ∧
      reports = [sessionTag.found, sessionTag.found] ∧ reports.length ≠ 1 := by
  have inevitable := inevitable_listed (d := ⟨{}, none⟩) calm_sessionPair rfl nofun
    (fun _ => List.cons_ne_nil _ _) (by decide) (fun _ => hosts_confirmingHost 2)
    (fun _ => lasting_standard) (Resting.calls lasting_standard) 0
  obtain ⟨least, runs⟩ := runBoth_of_inevitable inevitable
  exact ⟨least, fun horizon enough => ⟨_, _, runs horizon enough, rfl, by decide⟩⟩

end Samples

end Contactless
