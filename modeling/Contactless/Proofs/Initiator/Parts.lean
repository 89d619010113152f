import Contactless.Proofs.Initiator.Manners

/-! The parts of an operation: the programs in it that talk to targets. An operation runs its parts
one after the other, and exchanges nothing in between. -/
namespace Contactless

section Composition

variable {σ τ α β : Type} {P : ∀ σ α : Type, Act Chip σ α → Prop}

namespace Dialogue

/-- A dialogue that runs some programs one after the other. It may ask for an abort request or sleep
in between. -/
inductive Composed (P : ∀ σ α : Type, Act Chip σ α → Prop) : Dialogue Chip β → Prop
  | done (b : β) : Composed P (.done b)
  | cut : Composed P .cut
  | aside {call : Chip.Call} {next : call.Answer → Dialogue Chip β} :
      call.isExchange = false → call.isSwitch = false → (∀ r, Composed P (next r)) →
      Composed P (.ask call next)
  | part {σ α : Type} {x : Act Chip σ α} (n : Nat) (s : σ)
      {k : Except Error α × σ → Dialogue Chip β} :
      P σ α x → (∀ r, Composed P (k r)) → Composed P ((x n s).bind k)

/-- A dialogue is about to ask a call on behalf of one of its programs, after some events before
that program began and some since. -/
inductive Inside (P : ∀ σ α : Type, Act Chip σ α → Prop) (d : Dialogue Chip β) :
    List Chip.Event → List Chip.Event → (call : Chip.Call) →
      (call.Answer → Dialogue Chip β) → Prop
  | part {σ α : Type} {x : Act Chip σ α} {n : Nat} {s : σ}
      {k : Except Error α × σ → Dialogue Chip β} {before own : List Chip.Event}
      {call : Chip.Call} {next : call.Answer → Dialogue Chip (Except Error α × σ)} :
      P σ α x → d.Reaches before ((x n s).bind k) → (x n s).Reaches own (.ask call next) →
      Inside P d before own call fun r => (next r).bind k

theorem Composed.bind {d : Dialogue Chip α} {k : α → Dialogue Chip β} (first : d.Composed P)
    (rest : ∀ a, (k a).Composed P) : (d.bind k).Composed P := by
  induction first with
  | done a => exact rest a
  | cut => exact .cut
  | aside exchanges switches _ ih => exact .aside exchanges switches ih
  | part n s part _ ih =>
      rw [bind_bind]
      exact .part n s part ih

/-- A program is composed of itself. -/
theorem composed_part {x : Act Chip σ α} (part : P σ α x) (n : Nat) (s : σ) :
    (x n s).Composed P := by
  rw [← bind_done (x n s)]
  exact .part n s part .done

theorem Inside.after {d e : Dialogue Chip β} {t before own : List Chip.Event} {call : Chip.Call}
    {next : call.Answer → Dialogue Chip β} (inside : e.Inside P before own call next)
    (reaches : d.Reaches t e) : d.Inside P (t ++ before) own call next := by
  cases inside with
  | part part begins rest => exact .part part (reaches.trans begins) rest

variable {d : Dialogue Chip β}

/-- What asides and whole programs keep holds before each program of a dialogue, each exchange of
which is one of a program. -/
theorem Composed.inside (composed : d.Composed P) (kept : List Chip.Event → Prop)
    (aside : ∀ t call r, kept t → call.isExchange = false → call.isSwitch = false →
      kept (t ++ [⟨call, r⟩]))
    (whole : ∀ σ α x n s t u r, P σ α x → kept t → (x n s).Yields u r → kept (t ++ u))
    (earlier : List Chip.Event) (holds : kept earlier) {t : List Chip.Event} {call : Chip.Call}
    {next : call.Answer → Dialogue Chip β} (reaches : d.Reaches t (.ask call next))
    (exchanges : call.isExchange = true) :
    ∃ before own, t = before ++ own ∧ kept (earlier ++ before) ∧
      d.Inside P before own call next := by
  induction composed generalizing t earlier with
  | done b => cases (reaches_done reaches).2
  | cut => cases reaches
  | @aside q _ quiet switchless _ ih =>
      rcases reaches_ask reaches with ⟨-, same⟩ | ⟨r, u, rfl, rest⟩
      · cases same
        rw [quiet] at exchanges
        cases exchanges
      · obtain ⟨before, own, rfl, holds, inside⟩ :=
          ih r _ (aside earlier q r holds quiet switchless) rest
        rw [List.append_assoc] at holds
        exact ⟨_, own, rfl, holds, inside.after (.ask r (.refl _))⟩
  | @part σ α x n s k part _ ih =>
      have later {u v : List Chip.Event} {r : Except Error α × σ} (first : (x n s).Yields u r)
          (rest : (k r).Reaches v (.ask call next)) :
          ∃ before own, u ++ v = before ++ own ∧ kept (earlier ++ before) ∧
            ((x n s).bind k).Inside P before own call next := by
        obtain ⟨before, own, rfl, holds, inside⟩ :=
          ih r _ (whole _ _ x n s earlier u r part holds first) rest
        rw [List.append_assoc] at holds
        exact ⟨u ++ before, own, (List.append_assoc ..).symm, holds,
          inside.after first.reaches_bind⟩
      rcases reaches_bind reaches with ⟨y, first, same⟩ | ⟨u, v, r, rfl, first, rest⟩
      · cases y with
        | done r =>
            rw [← List.append_nil t]
            exact later first.yields (same ▸ .refl _)
        | cut => cases same
        | ask q next' =>
            cases same
            exact ⟨[], t, rfl, by rwa [List.append_nil], .part part (.refl _) first⟩
      · exact later first rest

theorem Composed.ends {kept : List Chip.Event → Prop} (composed : d.Composed P)
    (aside : ∀ t call r, kept t → call.isExchange = false → call.isSwitch = false →
      kept (t ++ [⟨call, r⟩]))
    (whole : ∀ σ α x n s t u r, P σ α x → kept t → (x n s).Yields u r → kept (t ++ u))
    {t earlier : List Chip.Event} (holds : kept earlier) {b : β} (yields : d.Yields t b) :
    kept (earlier ++ t) := by
  induction composed generalizing t earlier with
  | done b =>
      cases yields
      rwa [List.append_nil]
  | cut => cases yields
  | @aside q _ quiet switchless _ ih =>
      obtain ⟨r, u, rfl, rest⟩ := yields_ask_iff.mp yields
      have later := ih r (aside earlier q r holds quiet switchless) rest
      rwa [List.append_assoc] at later
  | @part σ α x n s k part _ ih =>
      obtain ⟨u, v, r, rfl, first, rest⟩ := yields_bind_iff.mp yields
      have later := ih r (whole _ _ x n s earlier u r part holds first) rest
      rwa [List.append_assoc] at later

end Dialogue

namespace Act

/-- An action that runs some programs one after the other. -/
def Composed (P : ∀ σ α : Type, Act Chip σ α → Prop) (x : Act Chip σ α) : Prop :=
  ∀ n s, (x n s).Composed P

theorem composed_part {x : Act Chip σ α} (part : P σ α x) : x.Composed P :=
  Dialogue.composed_part part

theorem composed_ofExcept (r : Except Error α) : (ofExcept r : Act Chip σ α).Composed P :=
  fun _ s => .done (r, s)

theorem composed_pure (a : α) : (pure a : Act Chip σ α).Composed P := composed_ofExcept (.ok a)

theorem composed_throw (e : Error) : (throw e : Act Chip σ α).Composed P :=
  composed_ofExcept (.error e)

theorem composed_get : (get : Act Chip σ σ).Composed P := fun _ s => .done (Except.ok s, s)

theorem composed_modify (f : σ → σ) : (modify f : Act Chip σ PUnit).Composed P :=
  fun _ s => .done (Except.ok PUnit.unit, f s)

theorem Composed.bind {x : Act Chip σ α} {f : α → Act Chip σ β} (first : x.Composed P)
    (rest : ∀ a, (f a).Composed P) : (x >>= f).Composed P := by
  intro n s
  rw [bind_apply]
  refine (first n s).bind fun (r, s) => ?_
  cases r with
  | error e => exact .done _
  | ok a => exact rest a n s

theorem Composed.quiet {x : Act Chip σ α} (composed : x.Composed P) : x.quiet.Composed P :=
  composed.bind fun _ => composed_pure ()

theorem Composed.zoom {x : Act Chip τ α} (composed : x.Composed P) (part : σ → τ)
    (put : τ → σ → σ) : (zoom part put x).Composed P := by
  intro n s
  rw [zoom_apply]
  exact (composed n (part s)).bind fun _ => .done _

theorem Composed.within {x : Act Chip τ α} (composed : x.Composed P) (t : τ) :
    (within t x : Act Chip σ α).Composed P :=
  fun n _ => (composed n t).bind fun _ => .done _

theorem Composed.loop {body : β → Act Chip σ (β ⊕ α)} (each : ∀ b, (body b).Composed P) (b : β) :
    (loop body b).Composed P := by
  have turns (fuel : Nat) (b : β) : (steps body fuel b).Composed P := by
    induction fuel generalizing b with
    | zero => exact fun _ _ => .cut
    | succ fuel ih =>
        refine (each b).bind fun next => ?_
        cases next with
        | inl b => exact ih b
        | inr a => exact composed_pure a
  exact fun n s => turns n b n s

end Act

end Composition

/-- Framing left to the chip: whether it handles checks, and whether it adds framing bytes. -/
structure Framing where
  checks : Bool
  easy : Bool
deriving DecidableEq

namespace Framing

def normal : Framing := ⟨true, true⟩

/-- Frames go out exactly as built. -/
def raw : Framing := ⟨false, false⟩

/-- Checks are computed here and not by the chip. -/
def unchecked : Framing := ⟨false, true⟩

end Framing

/-- The framing with which targets of a technology are searched for. -/
def Technology.framing : Technology → Framing
  | .iso14443a => .raw
  | .iso14443b2sr => .unchecked
  | _ => .normal

namespace Operation

/-- The programs of an operation that talk to targets, each with its framing. A program for one
target is a part of a list or of polling. -/
inductive Part : Operation → Framing → ∀ σ α : Type, Act Chip σ α → Prop
  | activation (wanted : Option Uid) :
      Part (.activate wanted) .raw _ _ (Device.activate wanted)
  | selection (m : Modulation) (hint : Option Bytes) :
      Part (.select m hint) m.technology.framing _ _ (Device.selectPassive m hint)
  | listing {m : Modulation} (max : Nat) : m.technology = .iso14443a →
      Part (.list m max) .raw _ _ (TypeA.Activator.activate none)
  | halting {m : Modulation} (max : Nat) : m.technology = .iso14443a →
      Part (.list m max) .unchecked _ _ Device.deselect
  | alone {m : Modulation} (max : Nat) : m.technology ≠ .iso14443a →
      Part (.list m max) m.technology.framing _ _ (Device.selectPassive m none)
  | polling {m : Modulation} {modulations : List Modulation} (attempts : UInt8)
      (period : Duration) : m ∈ modulations →
      Part (.poll modulations attempts period) m.technology.framing _ _
        (Device.selectPassive m none)
  | release : Part .deselect .unchecked _ _ Device.deselect
  | bytes (data : Bytes) (wait : Option Timeout) :
      Part (.bytes data wait) .normal _ _ (run (.bytes data wait))
  | bits (data : Bytes) (count : Nat) :
      Part (.bits data count) .normal _ _ (Device.exchangeBits data count)
  | magic (operation : TypeA.Magic.Operation) : Part (.magic operation) .raw _ _ operation.run
  | srx (operation : Srx.Tag.Operation) : Part (.srx operation) .unchecked _ _ operation.run
  | felica (operation : Felica.Card.Operation) :
      Part (.felica operation) .normal _ _ operation.run
  | jewel (operation : Jewel.Tag.Operation) : Part (.jewel operation) .normal _ _ operation.run
  | depSelection (mode : DepMode) (baud : BaudRate) (generalBytes : Option Bytes)
      (wait : Timeout) : Part (.dep (.select mode baud generalBytes wait)) .normal _ _
        (Dep.InitiatorSide.select mode baud generalBytes wait)
  | depPolling (mode : DepMode) (baud : BaudRate) (wait : Timeout) :
      Part (.dep (.poll mode baud wait)) .normal _ _ (Dep.InitiatorSide.poll mode baud wait)
  | dep {operation : Dep.InitiatorSide.Operation} : operation.searches = false →
      Part (.dep operation) .normal _ _ operation.run

/-- The parts of an operation, with whatever framing. -/
def Parts (op : Operation) (σ α : Type) (x : Act Chip σ α) : Prop := ∃ f, op.Part f σ α x

section Composition

open Dep.InitiatorSide (onDevice)

variable {op : Operation} {α : Type}

theorem composed_onDevice {x : Act Chip (Device .initiator) α} (composed : x.Composed op.Parts) :
    (onDevice x).Composed op.Parts :=
  Act.Composed.zoom composed Dep.InitiatorSide.device fun device s => { s with device }

theorem composed_listTypeA {m : Modulation} (bound : Nat) (typeA : m.technology = .iso14443a)
    (max : Nat) : (Device.listTypeA max).Composed (Operation.list m bound).Parts := by
  induction max with
  | zero => exact Act.composed_pure []
  | succ max ih =>
      have activates : (TypeA.Activator.activate none).Composed (Operation.list m bound).Parts :=
        Act.composed_part ⟨_, .listing bound typeA⟩
      have halts : Device.deselect.Composed (Operation.list m bound).Parts :=
        Act.composed_part ⟨_, .halting bound typeA⟩
      refine Act.composed_get.bind fun d => (activates.within _).bind fun found => ?_
      cases found with
      | none => exact Act.composed_pure []
      | some a =>
          exact (Act.composed_modify _).bind fun _ => halts.bind fun _ =>
            ih.bind fun _ => Act.composed_pure _

theorem composed_list (m : Modulation) (max : Nat) :
    (Device.list m max).Composed (Operation.list m max).Parts := by
  unfold Device.list
  split
  · exact composed_listTypeA max ‹_› max
  · exact (Act.composed_part ⟨_, .alone max ‹_›⟩).bind fun _ => Act.composed_pure _

section Polling

variable {modulations : List Modulation} (attempts : UInt8) (period : Duration)

theorem composed_selectFirst {chosen : List Modulation} (sub : chosen ⊆ modulations) :
    (Device.selectFirst chosen).Composed (Operation.poll modulations attempts period).Parts := by
  induction chosen with
  | nil => exact Act.composed_pure none
  | cons m rest ih =>
      have selects : (Device.selectPassive m none).Composed
          (Operation.poll modulations attempts period).Parts :=
        Act.composed_part ⟨_, .polling attempts period (sub List.mem_cons_self)⟩
      refine selects.bind fun found => ?_
      cases found with
      | none => exact ih fun _ member => sub (List.mem_cons_of_mem m member)
      | some t => exact Act.composed_pure _

theorem composed_pollRound : (Device.pollRound modulations).Composed
    (Operation.poll modulations attempts period).Parts := by
  have checks : (Chip.checkAbort : Act Chip (Device .initiator) Unit).Composed
      (Operation.poll modulations attempts period).Parts :=
    fun _ _ => .aside rfl rfl fun _ => .done _
  exact checks.bind fun _ => composed_selectFirst attempts period (List.Subset.refl _)

theorem composed_sleep (pause : Timeout) :
    (Chip.sleep pause : Act Chip (Device .initiator) Unit).Composed op.Parts :=
  fun _ _ => .aside rfl rfl fun _ => .done _

theorem composed_pollRounds (pause : Timeout) (rounds : Nat) :
    (Device.pollRounds modulations pause rounds).Composed
      (Operation.poll modulations attempts period).Parts := by
  induction rounds with
  | zero => exact Act.composed_pure none
  | succ rounds ih =>
      refine (composed_pollRound attempts period).bind fun found => ?_
      cases found with
      | some t => exact Act.composed_pure _
      | none =>
          dsimp only
          split
          · exact Act.composed_pure none
          · exact (composed_sleep pause).bind fun _ => ih

theorem composed_poll : (Device.poll modulations attempts period).Composed
    (Operation.poll modulations attempts period).Parts := by
  unfold Device.poll
  split
  · exact Act.composed_throw _
  · split
    · rw [← bind_pure_comp]
      refine Act.Composed.bind (Act.Composed.loop (fun _ => ?_) ()) fun _ => Act.composed_pure _
      refine (composed_pollRound attempts period).bind fun found => ?_
      cases found with
      | some t => exact Act.composed_pure _
      | none => exact (composed_sleep _).bind fun _ => Act.composed_pure _
    · exact composed_pollRounds attempts period _ _

end Polling

/-- An operation runs its parts one after the other. -/
theorem composed_run (op : Operation) : op.run.Composed op.Parts := by
  cases op with
  | settings config => exact composed_onDevice (Act.composed_modify _)
  | activate wanted =>
      exact composed_onDevice (Act.composed_part ⟨_, .activation wanted⟩).quiet
  | select m hint => exact composed_onDevice (Act.composed_part ⟨_, .selection m hint⟩).quiet
  | list m max => exact composed_onDevice (composed_list m max).quiet
  | poll modulations attempts period =>
      exact composed_onDevice (composed_poll attempts period).quiet
  | deselect => exact composed_onDevice (Act.composed_part ⟨_, .release⟩)
  | bytes data wait => exact Act.composed_part ⟨_, .bytes data wait⟩
  | bits data count => exact composed_onDevice (Act.composed_part ⟨_, .bits data count⟩).quiet
  | magic operation => exact composed_onDevice (Act.composed_part ⟨_, .magic operation⟩)
  | srx operation => exact composed_onDevice (Act.composed_part ⟨_, .srx operation⟩)
  | felica operation => exact composed_onDevice (Act.composed_part ⟨_, .felica operation⟩)
  | jewel operation => exact composed_onDevice (Act.composed_part ⟨_, .jewel operation⟩)
  | dep operation =>
      cases operation with
      | select mode baud generalBytes wait =>
          exact (Act.composed_part ⟨_, .depSelection mode baud generalBytes wait⟩).quiet
      | poll mode baud wait => exact (Act.composed_part ⟨_, .depPolling mode baud wait⟩).quiet
      | _ => exact Act.composed_part ⟨_, .dep rfl⟩
  | dropLink => exact Act.composed_modify _

end Composition

end Operation

end Contactless
