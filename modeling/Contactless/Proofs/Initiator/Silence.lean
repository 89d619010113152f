import Contactless.Proofs.Initiator.Parts

/-! What silence and other failures of an exchange do to an operation. Silence is forgiven where a
search opens and at frames that are obeyed without an answer; every other failure ends the operation
and is what it fails with. -/
namespace Contactless

open Chip (Event.lost Manner Opening Following Unanswered opening_exchanges searching releasing)

section Judgement

variable {σ τ α β : Type} {opens : Chip.Call → Prop}

namespace Dialogue

/-- Silence at an opening frame makes a dialogue come to a certain result. -/
inductive Settles (opens : Chip.Call → Prop) (comes : Error → Except Error α) :
    Dialogue Chip (Except Error α × σ) → Prop
  | done (a : Except Error α × σ) : Settles opens comes (.done a)
  | cut : Settles opens comes .cut
  | ask {call : Chip.Call} {next : call.Answer → Dialogue Chip (Except Error α × σ)} :
      (opens call → ∀ r e, Event.lost ⟨call, r⟩ = some e → e.isTimeout = true →
        (next r).Comes (comes e)) →
      (∀ r, Settles opens comes (next r)) → Settles opens comes (.ask call next)

variable {comes : Error → Except Error α} {comes' : Error → Except Error β}
  {d : Dialogue Chip (Except Error α × σ)}
  {k : Except Error α × σ → Dialogue Chip (Except Error β × τ)}

theorem Settles.bind (first : d.Settles opens comes)
    (silent : ∀ e s, e.isTimeout = true → (k (comes e, s)).Comes (comes' e))
    (rest : ∀ a, (k a).Settles opens comes') : (d.bind k).Settles opens comes' := by
  induction first with
  | done a => exact rest a
  | cut => exact .cut
  | ask lost _ ih =>
      exact .ask (fun opening r e failed quiet =>
        (lost opening r e failed quiet).bind fun s => silent e s quiet) ih

/-- What follows a dialogue without opening frames. -/
theorem Minds.settles_bind {m : Manner} (first : d.Minds m)
    (others : ∀ call, m.asks call → ¬ opens call) (rest : ∀ a, (k a).Settles opens comes') :
    (d.bind k).Settles opens comes' := by
  induction first with
  | done a => exact rest a
  | cut => exact .cut
  | @ask call next asks _ _ ih => exact .ask (fun opening => absurd opening (others call asks)) ih

theorem Minds.settles {m : Manner} (minds : d.Minds m)
    (others : ∀ call, m.asks call → ¬ opens call) : d.Settles opens comes := by
  rw [← bind_done d]
  exact minds.settles_bind others .done

/-- A strict dialogue comes to the failure itself. -/
theorem Minds.settles_strict {asks : Chip.Call → Prop} (minds : d.Minds (.strict asks)) :
    d.Settles opens .error := by
  induction minds with
  | done a => exact .done a
  | cut => exact .cut
  | ask _ heeds _ ih =>
      exact .ask (fun _ r e lost _ => heeds.passes r e lost fun _ => False.elim) ih

theorem Settles.reaches (settles : d.Settles opens comes) {t : List Chip.Event} {call : Chip.Call}
    {next : call.Answer → Dialogue Chip (Except Error α × σ)}
    (reaches : d.Reaches t (.ask call next)) (opening : opens call) {r : call.Answer} {e : Error}
    (lost : Event.lost ⟨call, r⟩ = some e) (silent : e.isTimeout = true) :
    (next r).Comes (comes e) := by
  induction settles generalizing t with
  | done a => cases (reaches_done reaches).2
  | cut => cases reaches
  | ask settled _ ih =>
      rcases reaches_ask reaches with ⟨-, same⟩ | ⟨r', u, -, rest⟩
      · cases same
        exact settled opening r e lost silent
      · exact ih r' rest

end Dialogue

namespace Act

/-- Silence at an opening frame makes an action find nothing. -/
def Seeks (opens : Chip.Call → Prop) (x : Act Chip σ (Option α)) : Prop :=
  ∀ n s, (x n s).Settles opens fun _ => .ok none

variable {x : Act Chip σ (Option α)}

theorem Minds.seeks {m : Manner} (minds : x.Minds m)
    (others : ∀ call, m.asks call → ¬ opens call) : x.Seeks opens :=
  fun n s => (minds n s).settles others

theorem Seeks.bind {f : Option α → Act Chip σ (Option β)} (first : x.Seeks opens)
    (none : ∀ n s, (f none n s).Comes (.ok none)) (rest : ∀ a, (f a).Seeks opens) :
    (x >>= f).Seeks opens := by
  intro n s
  rw [bind_apply]
  refine (first n s).bind (fun e s _ => none n s) fun (r, s) => ?_
  cases r with
  | error e => exact .done _
  | ok a => exact rest a n s

/-- What follows an action without opening frames. -/
theorem Minds.seeks_bind {m : Manner} {x : Act Chip σ α} {f : α → Act Chip σ (Option β)}
    (first : x.Minds m) (others : ∀ call, m.asks call → ¬ opens call)
    (rest : ∀ a, (f a).Seeks opens) : (x >>= f).Seeks opens := by
  intro n s
  rw [bind_apply]
  refine (first n s).settles_bind others fun (r, s) => ?_
  cases r with
  | error e => exact .done _
  | ok a => exact rest a n s

/-- What follows an action that asks nothing. -/
theorem Minds.mute_seeks {x : Act Chip σ α} {f : α → Act Chip σ (Option β)}
    (first : x.Minds (.strict fun _ => False)) (rest : ∀ a, (f a).Seeks opens) :
    (x >>= f).Seeks opens :=
  first.seeks_bind (fun _ => False.elim) rest

/-- What follows the attempt of a strict action takes silence for nobody there. -/
theorem Minds.seeks_attempt {asks : Chip.Call → Prop} {x : Act Chip σ α}
    {f : Except Error α → Act Chip σ (Option β)} (first : x.Minds (.strict asks))
    (silent : ∀ e n s, e.isTimeout = true → (f (.error e) n s).Comes (.ok none))
    (rest : ∀ r, (f r).Seeks opens) : (x.attempt >>= f).Seeks opens := by
  intro n s
  rw [Act.attempt_bind]
  exact (first n s).settles_strict.bind (fun e s => silent e n s) fun (r, s) => rest r n s

theorem Seeks.within {x : Act Chip τ (Option α)} (seeks : x.Seeks opens) (t : τ) :
    (within t x : Act Chip σ (Option α)).Seeks opens :=
  fun n _ => (seeks n t).bind (fun _ _ _ => .done _) fun _ => .done _

end Act

namespace Chip

variable {x : Act Chip σ (Option α)}

theorem seeks_silentAsNone {asks : Call → Prop} {x : Act Chip σ α}
    (strict : x.Minds (.strict asks)) : (silentAsNone x).Seeks opens := by
  refine strict.seeks_attempt (fun e n s silent => ?_) fun outcome => ?_
  · dsimp only
    rw [if_pos silent]
    exact .done s
  · cases outcome with
    | ok a => exact fun _ _ => .done _
    | error e =>
        dsimp only
        split
        · exact fun _ _ => .done _
        · exact fun _ _ => .done _

variable (exchanges : ∀ call, opens call → call.isExchange = true)
include exchanges

theorem others_of_quiet (call : Call) (quiet : call.isExchange = false) : ¬ opens call :=
  fun opening => absurd (exchanges call opening) (Bool.eq_false_iff.mp quiet)

theorem seeks_withRawFraming (seeks : x.Seeks opens) : (withRawFraming x).Seeks opens := by
  have switches (switch : Switch) (on : Bool) := quiet_configure (σ := σ) switch on
  have quiet := others_of_quiet exchanges
  refine (switches _ _).seeks_bind quiet fun _ => (switches _ _).seeks_bind quiet fun _ n s => ?_
  have restores : (restoreFraming : Act Chip σ Unit).Minds (.strict (·.isExchange = false)) :=
    (switches _ _).bind fun _ => switches _ _
  rw [Act.attempt_bind]
  refine (seeks n s).bind (fun e s _ => comes_restored (.ok none)) fun (r, s) => ?_
  rw [Act.attempt_bind]
  exact (restores n s).settles_bind quiet fun _ => .done _

theorem seeks_withoutHardwareCrc (seeks : x.Seeks opens) :
    (withoutHardwareCrc x).Seeks opens := by
  have switches (switch : Switch) (on : Bool) := quiet_configure (σ := σ) switch on
  have quiet := others_of_quiet exchanges
  refine (switches _ _).seeks_bind quiet fun _ n s => ?_
  rw [Act.attempt_bind]
  refine (seeks n s).bind (fun e s _ => comes_rechecked (.ok none)) fun (r, s) => ?_
  rw [Act.attempt_bind]
  exact (switches _ _ n s).settles_bind quiet fun _ => .done _

end Chip

end Judgement

section Searches

variable {σ : Type}

theorem following_others (call : Chip.Call) (following : Following call) : ¬ Opening call :=
  following.not_opening

namespace TypeA.Activator

theorem seeks_attempt (wanted : Option Uid) : (attempt wanted).Seeks Opening := by
  refine (Act.minds_modify _).mute_seeks fun _ =>
    minds_wake.seeks_attempt (fun e n s silent => ?_) fun woken => ?_
  · dsimp only
    rw [if_pos silent]
    exact .done _
  · cases woken with
    | ok atqa =>
        exact (minds_identify wanted atqa).seeks_bind following_others fun _ _ _ => .done _
    | error e =>
        dsimp only
        split
        · exact fun _ _ => .done _
        · exact fun _ _ => .done _

theorem seeks_activate (wanted : Option Uid) : (activate wanted).Seeks Opening :=
  Chip.seeks_withRawFraming opening_exchanges (seeks_attempt wanted)

end TypeA.Activator

namespace Search

theorem seeks_typeB (family : UInt8) (wait : Timeout) :
    (typeB family wait : Act Chip σ (Option Target)).Seeks Opening := by
  refine (Chip.seeks_silentAsNone (Chip.strict_bytes (Opening.reqb family wait))).bind
    (fun n s => .done s) fun answer => ?_
  cases answer with
  | none => exact fun _ _ => .done _
  | some answer => exact (Act.minds_ofExcept _).mute_seeks fun _ _ _ => .done _

theorem seeks_felica (baud : BaudRate) (system : UInt16) (wait : Timeout) :
    (felica baud system wait : Act Chip σ (Option Target)).Seeks Opening := by
  refine (Chip.seeks_silentAsNone (Chip.strict_bytes (Opening.polling system wait))).bind
    (fun n s => .done s) fun answer => ?_
  cases answer with
  | none => exact fun _ _ => .done _
  | some answer => exact (Act.minds_ofExcept _).mute_seeks fun _ _ _ => .done _

theorem seeks_srxUnchecked (wait : Timeout) :
    (srxUnchecked wait : Act Chip σ (Option Target)).Seeks Opening := by
  refine (Chip.seeks_silentAsNone (Chip.strict_exchangeChecked (Opening.initiate wait))).bind
    (fun n s => .done s) fun answer => ?_
  cases answer with
  | none => exact fun _ _ => .done _
  | some answer => exact (minds_srxAnswered answer wait).seeks following_others

theorem seeks_jewel (wait : Timeout) :
    (jewel wait : Act Chip σ (Option Target)).Seeks Opening := by
  refine (Chip.seeks_silentAsNone (Chip.strict_bits (Opening.wakeup .reqa wait))).bind
    (fun n s => .done s) fun answer => ?_
  cases answer with
  | none => exact fun _ _ => .done _
  | some frame => exact (minds_jewelAnswered frame wait).seeks following_others

end Search

namespace Device

theorem seeks_activate (wanted : Option Uid) : (activate wanted).Seeks Opening :=
  Act.minds_get.mute_seeks fun _ =>
    ((TypeA.Activator.seeks_activate wanted).within _).bind (fun _ _ => .done _) fun _ _ _ =>
    .done _

theorem seeks_find (m : Modulation) (hint : Option Bytes) : (find m hint).Seeks Opening := by
  refine minds_timeout.mute_seeks fun wait => ?_
  split
  · exact (Act.minds_ofExcept _).mute_seeks fun wanted =>
      (seeks_activate wanted).bind (fun _ _ => .done _) fun _ _ _ => .done _
  · exact Search.seeks_typeB _ wait
  · exact Chip.seeks_withoutHardwareCrc opening_exchanges (Search.seeks_srxUnchecked wait)
  · exact (Act.minds_ofExcept _).mute_seeks fun system => Search.seeks_felica _ system wait
  · exact Search.seeks_jewel wait
  · exact fun _ _ => .done _
  · exact fun _ _ => .done _
  · exact fun _ _ => .done _
  · exact fun _ _ => .done _

theorem seeks_selectPassive (m : Modulation) (hint : Option Bytes) :
    (selectPassive m hint).Seeks Opening :=
  (seeks_find m hint).bind (fun _ _ => .done _) fun _ _ _ => .done _

end Device

namespace Dep.InitiatorSide

theorem seeks_select (mode : DepMode) (baud : BaudRate) (generalBytes : Option Bytes)
    (wait : Timeout) : (select mode baud generalBytes wait).Seeks Greeting := by
  refine minds_deselect.seeks_bind (fun _ release => release.not_greeting) fun _ =>
    Act.minds_get.mute_seeks fun s => (Act.minds_ofExcept _).mute_seeks fun frame => ?_
  have opens : (Chip.exchangeBytes frame wait : Act Chip InitiatorSide Bytes).Minds Chip.plain :=
    Chip.strict_exchangeBytes rfl
  refine (Chip.seeks_silentAsNone opens).bind (fun _ _ => .done _) fun answer => ?_
  cases answer with
  | none => exact fun _ _ => .done _
  | some answer => exact (Act.minds_ofExcept _).mute_seeks fun _ _ _ => .done _

end Dep.InitiatorSide

end Searches

namespace Operation

open Dep.InitiatorSide (onDevice minds_onDevice)

/-- The frames by which an operation looks for a target. -/
def Opens : Operation → Chip.Call → Prop
  | .activate _ | .select .. | .list .. | .poll .. => Opening
  | .dep operation => fun call => operation.searches = true ∧ Dep.Greeting call
  | _ => fun _ => False

/-- The frames of an operation that are obeyed without an answer. -/
def Obeys : Operation → Chip.Call → Prop
  | .list .. | .deselect | .magic _ | .srx _ => Unanswered
  | _ => fun _ => False

def manner (op : Operation) : Manner :=
  ⟨fun _ => True, fun call => op.Opens call ∨ op.Obeys call, op.Obeys⟩

section Manners

variable {σ α : Type} {x : Act Chip σ α}

theorem minds_of_plain {op : Operation} (minds : x.Minds Chip.plain.sized)
    (strict : ∀ call, ¬ op.Obeys call) : x.Minds op.manner :=
  minds.mono fun call _ => ⟨trivial, False.elim, fun obeys => strict call obeys⟩

theorem minds_of_searching {op : Operation} (minds : x.Minds searching.around)
    (opens : ∀ call, Opening call → op.Opens call)
    (obeys : ∀ call, op.Obeys call → Unanswered call) : x.Minds op.manner := by
  refine minds.mono fun call asks => ⟨trivial, fun opening => .inl (opens call opening), ?_⟩
  intro obeyed
  have unanswered := obeys call obeyed
  rcases asks with (opening | following) | quiet
  · exact opening.not_unanswered unanswered
  · exact following.not_unanswered unanswered
  · cases unanswered <;> cases quiet

theorem minds_of_obeying {m : Manner} {op : Operation} (minds : x.Minds m)
    (forgives : ∀ call, m.forgives call → op.Obeys call)
    (obeys : ∀ call, op.Obeys call → m.ignores call) : x.Minds op.manner :=
  minds.mono fun call _ => ⟨trivial, fun forgiven => .inr (forgives call forgiven), obeys call⟩

theorem minds_listTypeA (m : Modulation) (bound max : Nat) :
    (Device.listTypeA max).Minds (Operation.list m bound).manner := by
  induction max with
  | zero => exact Act.minds_pure []
  | succ max ih =>
      have activates : (TypeA.Activator.activate none).Minds (Operation.list m bound).manner :=
        minds_of_searching (TypeA.Activator.minds_activate none) (fun _ => id) fun _ => id
      have halts : Device.deselect.Minds (Operation.list m bound).manner :=
        minds_of_obeying Device.minds_deselect (fun _ => id) fun _ => id
      refine Act.minds_get.bind fun d => (activates.within _).bind fun found => ?_
      cases found with
      | none => exact Act.minds_pure []
      | some a =>
          exact (Act.minds_modify _).bind fun _ => halts.bind fun _ =>
            ih.bind fun _ => Act.minds_pure _

theorem minds_list (m : Modulation) (max : Nat) :
    (Device.list m max).Minds (Operation.list m max).manner := by
  unfold Device.list
  split
  · exact minds_listTypeA m max max
  · exact (minds_of_searching (Device.minds_selectPassive m none) (fun _ => id) fun _ => id).bind
      fun _ => Act.minds_pure _

theorem quiet_minds {m : Manner} (minds : x.Minds m) : x.quiet.Minds m :=
  minds.bind fun _ => Act.minds_pure ()

theorem minds_run (op : Operation) : op.run.Minds op.manner := by
  cases op with
  | settings config => exact minds_onDevice (Act.minds_modify _)
  | activate wanted =>
      exact minds_onDevice (quiet_minds (minds_of_searching (Device.minds_activate wanted)
        (fun _ => id) fun _ => False.elim))
  | select m hint =>
      exact minds_onDevice (quiet_minds (minds_of_searching (Device.minds_selectPassive m hint)
        (fun _ => id) fun _ => False.elim))
  | list m max => exact minds_onDevice (quiet_minds (minds_list m max))
  | poll modulations attempts period =>
      exact minds_onDevice (quiet_minds (minds_of_searching
        (Device.minds_poll modulations attempts period) (fun _ => id) fun _ => False.elim))
  | deselect =>
      exact minds_onDevice (minds_of_obeying Device.minds_deselect (fun _ => id) fun _ => id)
  | bytes data wait => exact minds_of_plain (minds_bytes data wait) fun _ => id
  | bits data count =>
      exact minds_onDevice (quiet_minds (minds_of_plain (Device.minds_exchangeBits data count)
        fun _ => id))
  | magic operation =>
      exact minds_onDevice (minds_of_obeying (TypeA.Magic.minds_operation operation)
        (fun _ => id) fun _ => id)
  | srx operation =>
      exact minds_onDevice (minds_of_obeying (Srx.Tag.minds_operation operation)
        (fun _ => id) fun _ => id)
  | felica operation =>
      exact minds_onDevice (minds_of_plain (Felica.Card.minds_operation operation) fun _ => id)
  | jewel operation =>
      exact minds_onDevice (minds_of_plain (Jewel.Tag.minds_operation operation) fun _ => id)
  | dep operation =>
      cases searches : operation.searches with
      | false =>
          exact minds_of_plain (Dep.InitiatorSide.minds_operation searches) fun _ => id
      | true =>
          have links {β : Type} {y : Act Chip Dep.InitiatorSide β} (minds : y.Minds Dep.linking) :
              y.Minds (Operation.dep operation).manner :=
            minds.mono fun _ _ => ⟨trivial, fun greeting => .inl ⟨searches, greeting⟩, id⟩
          cases operation with
          | select mode baud generalBytes wait =>
              exact quiet_minds (links (Dep.InitiatorSide.minds_select _ _ _ _))
          | poll mode baud wait =>
              exact quiet_minds (links (Dep.InitiatorSide.minds_select _ _ _ _))
          | _ => cases searches
  | dropLink => exact Act.minds_modify _

end Manners

/-- Silence ended a search of an operation, which found nobody. -/
inductive Unfound (op : Operation) (d : Dialogue Chip (Except Error Unit × Dep.InitiatorSide)) :
    (call : Chip.Call) → call.Answer →
      (call.Answer → Dialogue Chip (Except Error Unit × Dep.InitiatorSide)) → Prop
  | search {σ α : Type} {f : Framing} {x : Act Chip σ (Option α)} {n : Nat} {s : σ}
      {k : Except Error (Option α) × σ → Dialogue Chip (Except Error Unit × Dep.InitiatorSide)}
      {before own : List Chip.Event} {call : Chip.Call} {r : call.Answer}
      {next : call.Answer → Dialogue Chip (Except Error (Option α) × σ)} :
      op.Part f σ (Option α) x → d.Reaches before ((x n s).bind k) →
      (x n s).Reaches own (.ask call next) → (next r).Comes (.ok none) →
      Unfound op d call r fun r => (next r).bind k

/-- An operation asks an opening frame on behalf of a search that takes silence for nobody there. -/
theorem Part.unfound {op : Operation} {f : Framing} {σ α : Type} {x : Act Chip σ α} {n : Nat}
    {s : σ} {k : Except Error α × σ → Dialogue Chip (Except Error Unit × Dep.InitiatorSide)}
    {d : Dialogue Chip (Except Error Unit × Dep.InitiatorSide)} {before own : List Chip.Event}
    {call : Chip.Call} {next : call.Answer → Dialogue Chip (Except Error α × σ)}
    (part : op.Part f σ α x) (begins : d.Reaches before ((x n s).bind k))
    (asks : (x n s).Reaches own (.ask call next)) (opens : op.Opens call) {r : call.Answer}
    {e : Error} (lost : Event.lost ⟨call, r⟩ = some e) (silent : e.isTimeout = true) :
    op.Unfound d call r fun r => (next r).bind k := by
  cases part with
  | activation wanted =>
      exact .search (.activation wanted) begins asks
        ((Device.seeks_activate wanted n s).reaches asks opens lost silent)
  | selection m hint =>
      exact .search (.selection m hint) begins asks
        ((Device.seeks_selectPassive m hint n s).reaches asks opens lost silent)
  | listing max typeA =>
      exact .search (.listing max typeA) begins asks
        ((TypeA.Activator.seeks_activate none n s).reaches asks opens lost silent)
  | halting max typeA =>
      rcases ((Device.minds_deselect n s).reaches asks).1 with releasing | quiet
      · exact absurd opens releasing.not_opening
      · exact absurd (opening_exchanges call opens) (Bool.eq_false_iff.mp quiet)
  | alone max other =>
      exact .search (.alone max other) begins asks
        ((Device.seeks_selectPassive _ none n s).reaches asks opens lost silent)
  | polling attempts period member =>
      exact .search (.polling attempts period member) begins asks
        ((Device.seeks_selectPassive _ none n s).reaches asks opens lost silent)
  | depSelection mode baud generalBytes wait =>
      exact .search (.depSelection mode baud generalBytes wait) begins asks
        ((Dep.InitiatorSide.seeks_select _ _ _ _ n s).reaches asks opens.2 lost silent)
  | depPolling mode baud wait =>
      exact .search (.depPolling mode baud wait) begins asks
        ((Dep.InitiatorSide.seeks_select _ _ _ _ n s).reaches asks opens.2 lost silent)
  | dep link =>
      cases link.symm.trans opens.1
  | _ => cases opens

end Operation

/-- A failed exchange ends an operation with just that failure and no further frame, unless it was
silence at a frame by which a target is looked for or at one that is obeyed without an answer. Then
the search has found nobody, or the operation goes on as after an answer. -/
theorem failures_end_operations {op : Operation} {n : Nat} {s : Dep.InitiatorSide}
    {t : List Chip.Event} {call : Chip.Call}
    {next : call.Answer → Dialogue Chip (Except Error Unit × Dep.InitiatorSide)}
    (reaches : (op.run n s).Reaches t (.ask call next)) {r : call.Answer} {e : Error}
    (lost : Event.lost ⟨call, r⟩ = some e) :
    (¬ (e.isTimeout = true ∧ (op.Opens call ∨ op.Obeys call)) → (next r).Comes (.error e)) ∧
      (e.isTimeout = true → op.Opens call → op.Unfound (op.run n s) call r next) ∧
      (e.isTimeout = true → op.Obeys call →
        ∃ answer, Event.lost ⟨call, answer⟩ = none ∧ next r = next answer) := by
  obtain ⟨-, heeds⟩ := (op.minds_run n s).reaches reaches
  refine ⟨fun unforgiven => heeds.passes r e lost fun silent forgiven =>
    unforgiven ⟨silent, forgiven⟩, fun silent opens => ?_, fun silent obeys =>
    heeds.ignores r e lost silent obeys⟩
  have exchanges := Chip.isExchange_of_lost lost
  obtain ⟨before, own, -, -, inside⟩ := (op.composed_run n s).inside (fun _ => True)
    (fun _ _ _ _ _ _ => trivial) (fun _ _ _ _ _ _ _ _ _ _ _ => trivial) [] trivial reaches
    exchanges
  cases inside with
  | part part begins asks =>
      obtain ⟨f, part⟩ := part
      exact part.unfound begins asks opens lost silent

/-- The first frame of an activation, aborted or unanswered. -/
theorem failures_end_operations_wakeup :
    ∃ next, ((Operation.activate none).run 0 (.new ⟨{}, none⟩)).Reaches
        [⟨.configure .handleCrc false, .ok ()⟩, ⟨.configure .easyFraming false, .ok ()⟩]
        (.ask (.bits TypeA.reqa .standard) next) ∧
      (next (.error .aborted)).Comes (.error .aborted) ∧
      (Operation.activate none).Unfound ((Operation.activate none).run 0 (.new ⟨{}, none⟩))
        (.bits TypeA.reqa .standard) (.error .rfTimeout) next := by
  obtain ⟨next, reaches⟩ : ∃ next, ((Operation.activate none).run 0 (.new ⟨{}, none⟩)).Reaches
      [⟨.configure .handleCrc false, .ok ()⟩, ⟨.configure .easyFraming false, .ok ()⟩]
      (.ask (.bits TypeA.reqa .standard) next) := ⟨_, .ask _ (.ask _ (.refl _))⟩
  have aborted := failures_end_operations reaches (r := Except.error .aborted) rfl
  have silent := failures_end_operations reaches (r := Except.error .rfTimeout) rfl
  exact ⟨next, reaches, aborted.1 fun forgiven => Bool.false_ne_true forgiven.1,
    silent.2.1 rfl (.wakeup .reqa .standard)⟩

end Contactless
