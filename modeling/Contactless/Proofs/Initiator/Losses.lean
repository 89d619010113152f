import Contactless.Proofs.Reach

/-! What becomes of an exchange that fails. A program may pass every failure on, or forgive silence
at some of its frames. One rule for each way of building a program tells which it does. -/
namespace Contactless

namespace Chip

def Call.isExchange : Call → Bool
  | .bits .. | .bytes .. => true
  | _ => false

def Call.isSwitch : Call → Bool
  | .configure .. => true
  | _ => false

theorem isSwitch_of_isExchange {call : Call} (exchanges : call.isExchange = true) :
    call.isSwitch = false := by
  cases call with
  | bits | bytes => rfl
  | _ => cases exchanges

/-- The failure of an exchange. -/
def Event.lost : Chip.Event → Option Error
  | ⟨.bits .., .error e⟩ => some e
  | ⟨.bytes .., .error e⟩ => some e
  | _ => none

/-- What a program may ask of the chip, and how it takes silence. -/
structure Manner where
  asks : Call → Prop
  /-- Silence need not end the program. -/
  forgives : Call → Prop
  /-- Silence is as good as some answer. -/
  ignores : Call → Prop

theorem isExchange_of_lost {call : Call} {r : call.Answer} {e : Error}
    (lost : Event.lost ⟨call, r⟩ = some e) : call.isExchange = true := by
  cases call with
  | bits | bytes => rfl
  | _ => cases lost

theorem eq_error_of_lost_bits {frame : BitFrame} {wait : Timeout} {r : Except Error BitFrame}
    {e : Error} (lost : Event.lost ⟨.bits frame wait, r⟩ = some e) : r = .error e := by
  cases r with
  | error e' =>
      cases lost
      rfl
  | ok answer => cases lost

theorem eq_error_of_lost_bytes {frame : Bytes} {wait : Timeout} {r : Except Error Bytes}
    {e : Error} (lost : Event.lost ⟨.bytes frame wait, r⟩ = some e) : r = .error e := by
  cases r with
  | error e' =>
      cases lost
      rfl
  | ok answer => cases lost

namespace Manner

/-- No silence is forgiven. -/
def strict (asks : Call → Prop) : Manner := ⟨asks, fun _ => False, fun _ => False⟩

/-- The same with other calls than exchanges around them. -/
def around (m : Manner) : Manner :=
  { m with asks := fun call => m.asks call ∨ call.isExchange = false }

end Manner

end Chip

open Chip (Manner Event.lost)

namespace Dialogue

variable {σ τ α β : Type} {m : Manner}

/-- A dialogue comes to a result without one more exchange, over a chip that switches as it is
told. -/
inductive Comes (r : Except Error α) : Dialogue Chip (Except Error α × σ) → Prop
  | done (s : σ) : Comes r (.done (r, s))
  | configure {switch : Switch} {on : Bool}
      {next : Except Error Unit → Dialogue Chip (Except Error α × σ)} :
      Comes r (next (.ok ())) → Comes r (.ask (.configure switch on) next)

theorem Comes.bind {r : Except Error α} {r' : Except Error β}
    {d : Dialogue Chip (Except Error α × σ)}
    {k : Except Error α × σ → Dialogue Chip (Except Error β × τ)} (comes : d.Comes r)
    (rest : ∀ s, (k (r, s)).Comes r') : (d.bind k).Comes r' := by
  induction comes with
  | done s => exact rest s
  | configure _ ih => exact .configure ih

/-- A lost exchange ends a dialogue with its failure, unless silence is forgiven. -/
structure Heeds (m : Manner) (call : Chip.Call)
    (next : call.Answer → Dialogue Chip (Except Error α × σ)) : Prop where
  passes : ∀ r e, Event.lost ⟨call, r⟩ = some e → (e.isTimeout = true → ¬ m.forgives call) →
    (next r).Comes (.error e)
  ignores : ∀ r e, Event.lost ⟨call, r⟩ = some e → e.isTimeout = true → m.ignores call →
    ∃ answer, Event.lost ⟨call, answer⟩ = none ∧ next r = next answer

inductive Minds (m : Manner) : Dialogue Chip (Except Error α × σ) → Prop
  | done (a : Except Error α × σ) : Minds m (.done a)
  | cut : Minds m .cut
  | ask {call : Chip.Call} {next : call.Answer → Dialogue Chip (Except Error α × σ)} :
      m.asks call → Heeds m call next → (∀ r, Minds m (next r)) → Minds m (.ask call next)

section Rules

variable {d : Dialogue Chip (Except Error α × σ)} {call : Chip.Call}
  {next : call.Answer → Dialogue Chip (Except Error α × σ)}
  {k : Except Error α × σ → Dialogue Chip (Except Error β × τ)}

theorem Minds.reaches {t : List Chip.Event} (minds : d.Minds m)
    (reaches : d.Reaches t (.ask call next)) : m.asks call ∧ Heeds m call next := by
  induction minds generalizing t with
  | done a => cases (reaches_done reaches).2
  | cut => cases reaches
  | ask asks heeds _ ih =>
      rcases reaches_ask reaches with ⟨-, same⟩ | ⟨r, u, -, rest⟩
      · cases same
        exact ⟨asks, heeds⟩
      · exact ih r rest

theorem Minds.asked {t : List Chip.Event} {a : Except Error α × σ} (minds : d.Minds m)
    (yields : d.Yields t a) : ∀ event ∈ t, m.asks event.1 := by
  induction minds generalizing t with
  | done b =>
      cases yields
      exact List.forall_mem_nil _
  | cut => cases yields
  | ask asks _ _ ih =>
      obtain ⟨r, u, rfl, rest⟩ := yields_ask_iff.mp yields
      exact List.forall_mem_cons.mpr ⟨asks, ih r rest⟩

theorem Heeds.bind (heeds : Heeds m call next)
    (passes : ∀ e s, (k (.error e, s)).Comes (.error e)) :
    Heeds m call fun r => (next r).bind k where
  passes r e lost unforgiven := (heeds.passes r e lost unforgiven).bind (passes e)
  ignores r e lost silent ignored := by
    obtain ⟨answer, given, same⟩ := heeds.ignores r e lost silent ignored
    exact ⟨answer, given, congrArg (fun x => x.bind k) same⟩

/-- What follows has to pass failures on. -/
theorem Minds.bind (first : d.Minds m) (passes : ∀ e s, (k (.error e, s)).Comes (.error e))
    (rest : ∀ a, (k a).Minds m) : (d.bind k).Minds m := by
  induction first with
  | done a => exact rest a
  | cut => exact .cut
  | ask asks heeds _ ih => exact .ask asks (heeds.bind passes) ih

/-- What follows may forgive silence at all frames of a strict dialogue. -/
theorem Minds.forgive {asks : Chip.Call → Prop} (first : d.Minds (.strict asks))
    (forgiven : ∀ call, asks call → m.asks call ∧ m.forgives call ∧ ¬ m.ignores call)
    (passes : ∀ e s, e.isTimeout = false → (k (.error e, s)).Comes (.error e))
    (rest : ∀ a, (k a).Minds m) : (d.bind k).Minds m := by
  induction first with
  | done a => exact rest a
  | cut => exact .cut
  | @ask call next asks heeds _ ih =>
      obtain ⟨asked, forgives, heeded⟩ := forgiven call asks
      refine .ask asked ?_ ih
      constructor
      · intro r e lost unforgiven
        have loud : e.isTimeout = false :=
          Bool.eq_false_iff.mpr fun silent => unforgiven silent forgives
        exact (heeds.passes r e lost fun _ => False.elim).bind fun s => passes e s loud
      · exact fun _ _ _ _ ignored => absurd ignored heeded

theorem heeds_quiet (quiet : call.isExchange = false) : Heeds m call next where
  passes _ _ lost := absurd (Chip.isExchange_of_lost lost) (Bool.eq_false_iff.mp quiet)
  ignores _ _ lost := absurd (Chip.isExchange_of_lost lost) (Bool.eq_false_iff.mp quiet)

/-- What follows a dialogue without exchanges may do as it likes. -/
theorem Minds.quiet {asks : Chip.Call → Prop} (first : d.Minds (.strict asks))
    (quiet : ∀ call, asks call → m.asks call ∧ call.isExchange = false)
    (rest : ∀ a, (k a).Minds m) : (d.bind k).Minds m := by
  induction first with
  | done a => exact rest a
  | cut => exact .cut
  | @ask call next asks _ _ ih =>
      obtain ⟨asked, silent⟩ := quiet call asks
      exact .ask asked (heeds_quiet silent) ih

theorem Minds.mono {m' : Manner} (minds : d.Minds m)
    (le : ∀ call, m.asks call → m'.asks call ∧ (m.forgives call → m'.forgives call) ∧
      (m'.ignores call → m.ignores call)) : d.Minds m' := by
  induction minds with
  | done a => exact .done a
  | cut => exact .cut
  | @ask call next asks heeds _ ih =>
      obtain ⟨asked, forgiven, ignored⟩ := le call asks
      refine .ask asked ?_ ih
      constructor
      · intro r e lost unforgiven
        exact heeds.passes r e lost fun silent forgives => unforgiven silent (forgiven forgives)
      · exact fun r e lost silent ignores => heeds.ignores r e lost silent (ignored ignores)

end Rules

end Dialogue

namespace Act

variable {σ τ α β : Type} {m m' : Manner} {x : Act Chip σ α}

def Minds (m : Manner) (x : Act Chip σ α) : Prop := ∀ n s, (x n s).Minds m

section Rules

theorem minds_ofExcept (r : Except Error α) : Minds m (ofExcept r : Act Chip σ α) :=
  fun _ s => .done (r, s)

theorem minds_pure (a : α) : Minds m (pure a : Act Chip σ α) := minds_ofExcept (.ok a)

theorem minds_throw (e : Error) : Minds m (throw e : Act Chip σ α) := minds_ofExcept (.error e)

theorem minds_get : Minds m (get : Act Chip σ σ) := fun _ s => .done (.ok s, s)

theorem minds_modify (f : σ → σ) : Minds m (modify f : Act Chip σ PUnit) :=
  fun _ s => .done (.ok PUnit.unit, f s)

theorem minds_modifyGet (f : σ → α × σ) : Minds m (modifyGet f : Act Chip σ α) :=
  fun _ s => .done (.ok (f s).1, (f s).2)

theorem minds_request {call : Chip.Call} {value : call.Answer → Except Error α}
    (asked : m.asks call) (heeded : ¬ m.ignores call)
    (blamed : ∀ r e, Event.lost ⟨call, r⟩ = some e → value r = .error e) :
    Minds m (Chip.request call value : Act Chip σ α) := by
  intro n s
  refine .ask asked ?_ fun r => .done _
  constructor
  · intro r e lost _
    rw [blamed r e lost]
    exact .done s
  · exact fun _ _ _ _ ignored => absurd ignored heeded

theorem minds_request_quiet {call : Chip.Call} {value : call.Answer → Except Error α}
    (asked : m.asks call) (quiet : call.isExchange = false) :
    Minds m (Chip.request call value : Act Chip σ α) :=
  fun _ _ => .ask asked (Dialogue.heeds_quiet quiet) fun _ => .done _

theorem Minds.bind {f : α → Act Chip σ β} (first : x.Minds m) (rest : ∀ a, (f a).Minds m) :
    (x >>= f).Minds m := by
  intro n s
  rw [bind_apply]
  refine (first n s).bind (fun e s => .done s) fun (r, s) => ?_
  cases r with
  | error e => exact .done _
  | ok a => exact rest a n s

/-- What follows a value that there may be no good one of. -/
theorem minds_ofExcept_bind {r : Except Error α} {f : α → Act Chip σ β}
    (rest : ∀ a, r = .ok a → (f a).Minds m) : (ofExcept r >>= f).Minds m := by
  cases r with
  | error e => exact fun _ s => .done (.error e, s)
  | ok a => exact rest a rfl

/-- What follows an attempt passes its failure on. -/
theorem Minds.attempt_bind {f : Except Error α → Act Chip σ β} (first : x.Minds m)
    (passes : ∀ e n s, (f (.error e) n s).Comes (.error e)) (rest : ∀ r, (f r).Minds m) :
    (x.attempt >>= f).Minds m := by
  intro n s
  rw [Act.attempt_bind]
  exact (first n s).bind (fun e s => passes e n s) fun (r, s) => rest r n s

/-- What follows an attempt may forgive silence. -/
theorem Minds.forgive {asks : Chip.Call → Prop} {f : Except Error α → Act Chip σ β}
    (first : x.Minds (.strict asks))
    (forgiven : ∀ call, asks call → m.asks call ∧ m.forgives call ∧ ¬ m.ignores call)
    (passes : ∀ e n s, e.isTimeout = false → (f (.error e) n s).Comes (.error e))
    (rest : ∀ r, (f r).Minds m) : (x.attempt >>= f).Minds m := by
  intro n s
  rw [Act.attempt_bind]
  exact (first n s).forgive forgiven (fun e s => passes e n s) fun (r, s) => rest r n s

theorem Minds.mono (minds : x.Minds m)
    (le : ∀ call, m.asks call → m'.asks call ∧ (m.forgives call → m'.forgives call) ∧
      (m'.ignores call → m.ignores call)) : x.Minds m' :=
  fun n s => (minds n s).mono le

theorem Minds.around (minds : x.Minds m) : x.Minds m.around :=
  minds.mono fun _ asks => ⟨.inl asks, id, id⟩

theorem Minds.strict_mono {asks asks' : Chip.Call → Prop} (minds : x.Minds (.strict asks))
    (le : ∀ call, asks call → asks' call) : x.Minds (.strict asks') :=
  minds.mono fun call asked => ⟨le call asked, id, id⟩

theorem Minds.zoom {x : Act Chip τ α} (minds : x.Minds m) (part : σ → τ) (put : τ → σ → σ) :
    (zoom part put x).Minds m := by
  intro n s
  rw [zoom_apply]
  exact (minds n (part s)).bind (fun e _ => .done _) fun _ => .done _

theorem Minds.within {x : Act Chip τ α} (minds : x.Minds m) (t : τ) :
    (within t x : Act Chip σ α).Minds m :=
  fun n _ => (minds n t).bind (fun _ _ => .done _) fun _ => .done _

theorem Minds.forM {f : β → Act Chip σ PUnit} (each : ∀ b, (f b).Minds m) (l : List β) :
    (l.forM f).Minds m := by
  induction l with
  | nil => exact minds_pure PUnit.unit
  | cons b l ih => exact (each b).bind fun _ => ih

theorem Minds.loop {body : β → Act Chip σ (β ⊕ α)} (each : ∀ b, (body b).Minds m) (b : β) :
    (loop body b).Minds m := by
  have turns (fuel : Nat) (b : β) : (steps body fuel b).Minds m := by
    induction fuel generalizing b with
    | zero => exact fun _ _ => .cut
    | succ fuel ih =>
        refine (each b).bind fun next => ?_
        cases next with
        | inl b => exact ih b
        | inr a => exact minds_pure a
  exact fun n s => turns n b n s

end Rules

end Act

namespace Chip

variable {σ α β : Type} {m : Manner} {x : Act Chip σ α}

section Requests

theorem minds_bits {frame : BitFrame} {wait : Timeout} (asked : m.asks (.bits frame wait))
    (heeded : ¬ m.ignores (.bits frame wait)) :
    (bits frame wait : Act Chip σ BitFrame).Minds m :=
  Act.minds_request asked heeded fun _ _ lost => eq_error_of_lost_bits lost

theorem minds_bytes {frame : Bytes} {wait : Timeout} (asked : m.asks (.bytes frame wait))
    (heeded : ¬ m.ignores (.bytes frame wait)) :
    (bytes frame wait : Act Chip σ Bytes).Minds m :=
  Act.minds_request asked heeded fun _ _ lost => eq_error_of_lost_bytes lost

theorem minds_exchangeFrame {frame : BitFrame} {wait : Timeout}
    (asked : m.asks (.bits frame wait)) (heeded : ¬ m.ignores (.bits frame wait)) :
    (exchangeFrame frame wait : Act Chip σ BitFrame).Minds m := by
  unfold exchangeFrame
  split
  · exact Act.minds_throw _
  · exact minds_bits asked heeded

theorem minds_exchangeBytes {frame : Bytes} {wait : Timeout}
    (asked : m.asks (.bytes frame wait)) (heeded : ¬ m.ignores (.bytes frame wait)) :
    (exchangeBytes frame wait : Act Chip σ Bytes).Minds m := by
  unfold exchangeBytes
  split
  · exact Act.minds_throw _
  · split
    · exact Act.minds_throw _
    · exact minds_bytes asked heeded

theorem minds_exchangeChecked {crc : Crc} {data : Bytes} {wait : Timeout}
    (asked : m.asks (.bytes (crc.append data) wait))
    (heeded : ¬ m.ignores (.bytes (crc.append data) wait)) :
    (exchangeChecked crc data wait : Act Chip σ Bytes).Minds m :=
  (minds_bytes asked heeded).bind fun _ => Act.minds_ofExcept _

section Strict

variable {asks : Call → Prop} {wait : Timeout}

theorem strict_exchangeFrame {frame : BitFrame} (asked : asks (.bits frame wait)) :
    (exchangeFrame frame wait : Act Chip σ BitFrame).Minds (.strict asks) :=
  minds_exchangeFrame asked id

theorem strict_exchangeBytes {frame : Bytes} (asked : asks (.bytes frame wait)) :
    (exchangeBytes frame wait : Act Chip σ Bytes).Minds (.strict asks) :=
  minds_exchangeBytes asked id

theorem strict_bits {frame : BitFrame} (asked : asks (.bits frame wait)) :
    (bits frame wait : Act Chip σ BitFrame).Minds (.strict asks) :=
  minds_bits asked id

theorem strict_bytes {frame : Bytes} (asked : asks (.bytes frame wait)) :
    (bytes frame wait : Act Chip σ Bytes).Minds (.strict asks) :=
  minds_bytes asked id

theorem strict_exchangeChecked {crc : Crc} {data : Bytes}
    (asked : asks (.bytes (crc.append data) wait)) :
    (exchangeChecked crc data wait : Act Chip σ Bytes).Minds (.strict asks) :=
  minds_exchangeChecked asked id

end Strict

theorem minds_checkAbort : (checkAbort : Act Chip σ Unit).Minds m.around :=
  Act.minds_request_quiet (.inr rfl) rfl

theorem minds_sleep (wait : Timeout) : (sleep wait : Act Chip σ Unit).Minds m.around :=
  Act.minds_request_quiet (.inr rfl) rfl

theorem minds_configure (switch : Switch) (on : Bool) :
    (configure switch on : Act Chip σ Unit).Minds m.around :=
  Act.minds_request_quiet (.inr rfl) rfl

/-- Giving framing back to the chip exchanges nothing. -/
theorem quiet_configure (switch : Switch) (on : Bool) :
    (configure switch on : Act Chip σ Unit).Minds (.strict (·.isExchange = false)) :=
  Act.minds_request_quiet rfl rfl

end Requests

section Brackets

/-- Giving framing back to the chip passes a result on when the chip switches as it is told. -/
theorem comes_restored {n : Nat} {s : σ} (outcome : Except Error α) :
    ((restoreFraming.attempt >>= fun restored =>
      Act.ofExcept (firstFailure outcome restored) : Act Chip σ α) n s).Comes outcome := by
  refine .configure (.configure ?_)
  cases outcome <;> exact .done s

theorem comes_rechecked {n : Nat} {s : σ} (outcome : Except Error α) :
    (((configure .handleCrc true).attempt >>= fun restored =>
      Act.ofExcept (firstFailure outcome restored) : Act Chip σ α) n s).Comes outcome := by
  refine .configure ?_
  cases outcome <;> exact .done s

theorem minds_withRawFraming (minds : x.Minds m) : (withRawFraming x).Minds m.around := by
  refine (minds_configure _ _).bind fun _ => (minds_configure _ _).bind fun _ =>
    minds.around.attempt_bind (fun e n s => comes_restored (.error e)) fun outcome n s => ?_
  have restores : (restoreFraming : Act Chip σ Unit).Minds (.strict (·.isExchange = false)) :=
    (quiet_configure _ _).bind fun _ => quiet_configure _ _
  rw [Act.attempt_bind]
  exact (restores n s).quiet (fun _ quiet => ⟨.inr quiet, quiet⟩) fun _ => .done _

theorem minds_withoutHardwareCrc (minds : x.Minds m) : (withoutHardwareCrc x).Minds m.around := by
  refine (minds_configure _ _).bind fun _ =>
    minds.around.attempt_bind (fun e n s => comes_rechecked (.error e)) fun outcome n s => ?_
  rw [Act.attempt_bind]
  exact (quiet_configure _ _ n s).quiet (fun _ quiet => ⟨.inr quiet, quiet⟩) fun _ => .done _

/-- Silence at all frames of a strict action means that nobody is there. -/
theorem minds_silentAsNone {asks : Call → Prop} (strict : x.Minds (.strict asks))
    (forgiven : ∀ call, asks call → m.asks call ∧ m.forgives call ∧ ¬ m.ignores call) :
    (silentAsNone x).Minds m := by
  refine strict.forgive forgiven (fun e n s loud => ?_) fun outcome => ?_
  · dsimp only
    rw [loud]
    exact .done s
  · cases outcome with
    | ok a => exact Act.minds_pure _
    | error e =>
        dsimp only
        split
        · exact Act.minds_pure _
        · exact Act.minds_throw e

/-- What a forgiving action goes on with once its exchange came to something. -/
def heard (y : Act Chip σ β) (n : Nat) (s : σ) :
    Except Error α → Dialogue Chip (Except Error β × σ)
  | .ok _ => y n s
  | .error e => if e.isTimeout then y n s else .done (.error e, s)

theorem heard_silent {y : Act Chip σ β} {n : Nat} {s : σ} {e : Error}
    (silent : e.isTimeout = true) : heard (α := α) y n s (.error e) = y n s := if_pos silent

theorem heard_loud {y : Act Chip σ β} {n : Nat} {s : σ} {e : Error} (loud : e.isTimeout = false) :
    heard (α := α) y n s (.error e) = .done (.error e, s) := if_neg (Bool.eq_false_iff.mp loud)

theorem silentAsNone_request_bind {call : Call} (value : call.Answer → Except Error α)
    (y : Act Chip σ β) (n : Nat) (s : σ) :
    (silentAsNone (request call value : Act Chip σ α) >>= fun _ => y) n s =
      .ask call fun r => heard y n s (value r) := by
  refine Dialogue.ask_congr fun r => ?_
  change (Dialogue.bind ((match value r with
    | .ok a => return some a
    | .error e => if e.isTimeout then return none else throw e : Act Chip σ (Option α)) n s) _) = _
  cases value r with
  | ok a => rfl
  | error e =>
      unfold heard
      dsimp only
      cases e.isTimeout <;> rfl

/-- Silence at a frame is as good as an answer when the answer does not matter. -/
theorem minds_unanswered {call : Call} {value : call.Answer → Except Error α} {y : Act Chip σ β}
    (asked : m.asks call) (forgiven : m.forgives call)
    (blamed : ∀ r e, Event.lost ⟨call, r⟩ = some e → value r = .error e)
    (given : ∃ r a, Event.lost ⟨call, r⟩ = none ∧ value r = .ok a) (rest : y.Minds m) :
    (silentAsNone (request call value : Act Chip σ α) >>= fun _ => y).Minds m := by
  intro n s
  rw [silentAsNone_request_bind]
  refine .ask asked ?_ fun r => ?_
  · constructor
    · intro r e lost unforgiven
      have loud : e.isTimeout = false :=
        Bool.eq_false_iff.mpr fun silent => unforgiven silent forgiven
      rw [blamed r e lost, heard_loud loud]
      exact .done s
    · intro r e lost silent _
      obtain ⟨answer, a, none, given⟩ := given
      refine ⟨answer, none, ?_⟩
      rw [blamed r e lost, given, heard_silent silent]
      rfl
  · cases value r with
    | ok a => exact rest n s
    | error e =>
        cases silent : e.isTimeout with
        | false =>
            rw [heard_loud silent]
            exact .done _
        | true =>
            rw [heard_silent silent]
            exact rest n s

/-- An exchange with a check is one question. -/
theorem exchangeChecked_eq (crc : Crc) (data : Bytes) (wait : Timeout) :
    (exchangeChecked crc data wait : Act Chip σ Bytes) =
      request (.bytes (crc.append data) wait) fun r => r.bind crc.strip := by
  funext n s
  refine Dialogue.ask_congr fun (r : Except Error Bytes) => ?_
  cases r <;> rfl

end Brackets

end Chip

end Contactless
