import Contactless.Bench
import Contactless.Proofs.Initiator.Parts

/-! The chip's framing while operations run. Each operation begins and ends with framing as it is by
default, over a chip that switches as it is told, and in between its frames go out with the framing
of the part that sends them. -/
namespace Contactless

/-- The settings once something was asked and answered. -/
def Settings.take (s : Settings) : Chip.Event → Settings
  | ⟨.configure switch on, .ok ()⟩ => s.set switch on
  | _ => s

def Settings.after (s : Settings) (t : List Chip.Event) : Settings := t.foldl Settings.take s

namespace Chip

/-- The chip did not switch as it was told. -/
def Event.refused : Chip.Event → Bool
  | ⟨.configure .., .error _⟩ => true
  | _ => false

def Obliges (t : List Chip.Event) : Prop := ∀ event ∈ t, Event.refused event = false

end Chip

namespace Framing

/-- The settings are these. -/
def In (f : Framing) (s : Settings) : Prop :=
  s .handleCrc = some f.checks ∧ s .easyFraming = some f.easy

def set (f : Framing) : Switch → Bool → Framing
  | .handleCrc, on => { f with checks := on }
  | .easyFraming, on => { f with easy := on }
  | _, _ => f

theorem In.set {f : Framing} {s : Settings} (holds : f.In s) (switch : Switch) (on : Bool) :
    (f.set switch on).In (s.set switch on) := by
  obtain ⟨checks, easy⟩ := holds
  cases switch with
  | handleCrc => exact ⟨rfl, easy⟩
  | easyFraming => exact ⟨checks, rfl⟩
  | _ => exact ⟨checks, easy⟩

end Framing

section Transcripts

variable {s : Settings} {t u : List Chip.Event}

theorem after_append (s : Settings) (t u : List Chip.Event) :
    s.after (t ++ u) = (s.after t).after u := List.foldl_append

theorem take_of_not_switch {call : Chip.Call} (r : call.Answer) (other : call.isSwitch = false) :
    s.take ⟨call, r⟩ = s := by
  cases call with
  | configure => cases other
  | _ => rfl

theorem Framing.In.take {f : Framing} (holds : f.In s) {call : Chip.Call} (r : call.Answer)
    (other : call.isSwitch = false) : f.In (s.take ⟨call, r⟩) := by
  rwa [take_of_not_switch r other]

theorem Chip.Obliges.left (obliges : Chip.Obliges (t ++ u)) : Chip.Obliges t :=
  fun event member => obliges event (List.mem_append_left u member)

theorem Chip.Obliges.right (obliges : Chip.Obliges (t ++ u)) : Chip.Obliges u :=
  fun event member => obliges event (List.mem_append_right t member)

theorem Chip.Obliges.tail {event : Chip.Event} (obliges : Chip.Obliges (event :: t)) :
    Chip.Obliges t := obliges.right (t := [event])

theorem Chip.Obliges.append (first : Chip.Obliges t) (rest : Chip.Obliges u) :
    Chip.Obliges (t ++ u) :=
  fun event member => (List.mem_append.mp member).elim (first event) (rest event)

theorem Chip.Obliges.head {switch : Switch} {on : Bool} {r : Except Error Unit}
    (obliges : Chip.Obliges (⟨.configure switch on, r⟩ :: t)) : r = .ok () := by
  have accepted := obliges _ List.mem_cons_self
  cases r with
  | error e => cases accepted
  | ok done => rfl

end Transcripts

namespace Dialogue

variable {σ α β : Type} {f g h : Framing}

/-- A dialogue that begins with one framing and ends with another, and whose exchanges are all made
with a third, over a chip that switches as it is told. -/
inductive Frames (f h : Framing) : Framing → Dialogue Chip α → Prop
  | done (a : α) : Frames f h h (.done a)
  | cut (g : Framing) : Frames f h g .cut
  | exchange {call : Chip.Call} {next : call.Answer → Dialogue Chip α} :
      call.isSwitch = false → (∀ r, Frames f h f (next r)) → Frames f h f (.ask call next)
  | aside {g : Framing} {call : Chip.Call} {next : call.Answer → Dialogue Chip α} :
      call.isExchange = false → call.isSwitch = false → (∀ r, Frames f h g (next r)) →
      Frames f h g (.ask call next)
  | switch {g : Framing} {switch : Switch} {on : Bool}
      {next : Except Error Unit → Dialogue Chip α} : Frames f h (g.set switch on) (next (.ok ())) →
      Frames f h g (.ask (.configure switch on) next)

variable {d : Dialogue Chip α}

theorem Frames.bind {g' : Framing} {k : α → Dialogue Chip β} (first : d.Frames f h g)
    (rest : ∀ a, (k a).Frames f g' h) : (d.bind k).Frames f g' g := by
  induction first with
  | done a => exact rest a
  | cut g => exact .cut g
  | exchange other _ ih => exact .exchange other ih
  | aside exchanges switches _ ih => exact .aside exchanges switches ih
  | switch _ ih => exact .switch ih

/-- A dialogue that only exchanges frames leaves framing as it is. -/
theorem Minds.frames {m : Chip.Manner} {d : Dialogue Chip (Except Error α × σ)} (minds : d.Minds m)
    (exchanges : ∀ call, m.asks call → call.isExchange = true) : d.Frames f f f := by
  induction minds with
  | done a => exact .done a
  | cut => exact .cut f
  | @ask call next asks _ _ ih =>
      exact .exchange (Chip.isSwitch_of_isExchange (exchanges call asks)) ih

theorem Frames.ends (frames : d.Frames f h g) {s : Settings} {t : List Chip.Event} {a : α}
    (begins : g.In s) (obliges : Chip.Obliges t) (yields : d.Yields t a) : h.In (s.after t) := by
  induction frames generalizing s t with
  | done b =>
      cases yields
      exact begins
  | cut g => cases yields
  | exchange other _ ih | aside _ other _ ih =>
      obtain ⟨r, u, rfl, rest⟩ := yields_ask_iff.mp yields
      exact ih r (s := s.take _) (begins.take r other) obliges.tail rest
  | @switch g switch on next _ ih =>
      obtain ⟨r, u, rfl, rest⟩ := yields_ask_iff.mp yields
      obtain rfl := obliges.head
      exact ih (s := s.set switch on) (begins.set switch on) obliges.tail rest

theorem Frames.speaks (frames : d.Frames f h g) {s : Settings} {t : List Chip.Event}
    {call : Chip.Call} {next : call.Answer → Dialogue Chip α} (begins : g.In s)
    (obliges : Chip.Obliges t) (reaches : d.Reaches t (.ask call next))
    (exchanges : call.isExchange = true) : f.In (s.after t) := by
  induction frames generalizing s t with
  | done b => cases (reaches_done reaches).2
  | cut g => cases reaches
  | exchange other _ ih =>
      rcases reaches_ask reaches with ⟨rfl, -⟩ | ⟨r, u, rfl, rest⟩
      · exact begins
      · exact ih r (s := s.take _) (begins.take r other) obliges.tail rest
  | aside quiet other _ ih =>
      rcases reaches_ask reaches with ⟨-, same⟩ | ⟨r, u, rfl, rest⟩
      · cases same
        rw [quiet] at exchanges
        cases exchanges
      · exact ih r (s := s.take _) (begins.take r other) obliges.tail rest
  | @switch g switch on next _ ih =>
      rcases reaches_ask reaches with ⟨-, same⟩ | ⟨r, u, rfl, rest⟩
      · cases same
        cases exchanges
      · obtain rfl := obliges.head
        exact ih (s := s.set switch on) (begins.set switch on) obliges.tail rest

end Dialogue

namespace Act

variable {σ τ α β : Type} {f : Framing} {x : Act Chip σ α}

/-- An action that begins and ends with framing as it is by default. -/
def Frames (f : Framing) (x : Act Chip σ α) : Prop := ∀ n s, (x n s).Frames f .normal .normal

theorem frames_ofExcept (r : Except Error α) : (ofExcept r : Act Chip σ α).Frames f :=
  fun _ s => .done (r, s)

theorem frames_pure (a : α) : (pure a : Act Chip σ α).Frames f := frames_ofExcept (.ok a)

theorem frames_throw (e : Error) : (throw e : Act Chip σ α).Frames f := frames_ofExcept (.error e)

theorem frames_get : (get : Act Chip σ σ).Frames f := fun _ s => .done (Except.ok s, s)

theorem frames_modify (g : σ → σ) : (modify g : Act Chip σ PUnit).Frames f :=
  fun _ s => .done (Except.ok PUnit.unit, g s)

theorem Frames.bind {k : α → Act Chip σ β} (first : x.Frames f) (rest : ∀ a, (k a).Frames f) :
    (x >>= k).Frames f := by
  intro n s
  rw [bind_apply]
  refine (first n s).bind fun (r, s) => ?_
  cases r with
  | error e => exact .done _
  | ok a => exact rest a n s

theorem Frames.within {x : Act Chip τ α} (frames : x.Frames f) (t : τ) :
    (within t x : Act Chip σ α).Frames f :=
  fun n _ => (frames n t).bind fun _ => .done _

/-- An action that only exchanges frames does so with the chip's own framing. -/
theorem Minds.frames {m : Chip.Manner} (minds : x.Minds m)
    (exchanges : ∀ call, m.asks call → call.isExchange = true) : x.Frames .normal :=
  fun n s => (minds n s).frames exchanges

end Act

namespace Chip

variable {σ α : Type} {x : Act Chip σ α} {m : Manner}

theorem frames_withRawFraming (minds : x.Minds m)
    (exchanges : ∀ call, m.asks call → call.isExchange = true) :
    (withRawFraming x).Frames .raw := by
  intro n s
  refine .switch (.switch ?_)
  change ((x.attempt >>= _) n s).Frames .raw .normal .raw
  rw [Act.attempt_bind]
  exact ((minds n s).frames exchanges).bind fun _ => .switch (.switch (.done _))

theorem frames_withoutHardwareCrc (minds : x.Minds m)
    (exchanges : ∀ call, m.asks call → call.isExchange = true) :
    (withoutHardwareCrc x).Frames .unchecked := by
  intro n s
  refine .switch ?_
  change ((x.attempt >>= _) n s).Frames .unchecked .normal .unchecked
  rw [Act.attempt_bind]
  exact ((minds n s).frames exchanges).bind fun _ => .switch (.done _)

end Chip

section Parts

open Chip (searching_exchanges releasing_exchanges)

namespace TypeA

theorem Activator.frames_activate (wanted : Option Uid) : (activate wanted).Frames .raw :=
  Chip.frames_withRawFraming (minds_attempt wanted) searching_exchanges

theorem Magic.frames_raw {x : Timeout → Act Chip (Device .initiator) Unit}
    (minds : ∀ wait, (x wait).Minds Chip.obeyed.sized) : (raw x).Frames .raw :=
  Act.frames_get.bind fun _ => (Act.frames_modify _).bind fun _ =>
    Chip.frames_withRawFraming (minds _) fun _ => And.left

theorem Magic.frames_operation (operation : Operation) : operation.run.Frames .raw := by
  cases operation with
  | unlock => exact frames_raw minds_unlocking
  | wipe => exact frames_raw minds_wiping
  | writeBlockZero data => exact frames_raw (minds_writing data)
  | setUid uid sak atqa =>
      exact (frames_raw minds_unlocking).bind fun _ => frames_raw (minds_writing _)

end TypeA

namespace Device

theorem frames_timeout {f : Framing} : timeout.Frames f :=
  Act.frames_get.bind fun _ => Act.frames_pure _

theorem frames_activate (wanted : Option Uid) : (activate wanted).Frames .raw :=
  Act.frames_get.bind fun _ => ((TypeA.Activator.frames_activate wanted).within _).bind fun _ =>
    (Act.frames_modify _).bind fun _ => Act.frames_pure _

theorem frames_find (m : Modulation) (hint : Option Bytes) :
    (find m hint).Frames m.technology.framing := by
  refine frames_timeout.bind fun wait => ?_
  cases m.technology with
  | iso14443a =>
      exact (Act.frames_ofExcept _).bind fun wanted =>
        (frames_activate wanted).bind fun _ => Act.frames_pure _
  | iso14443b => exact (Search.minds_typeB _ wait).frames searching_exchanges
  | iso14443b2sr =>
      exact Chip.frames_withoutHardwareCrc (Search.minds_srxUnchecked wait) searching_exchanges
  | felica =>
      exact (Act.frames_ofExcept _).bind fun system =>
        (Search.minds_felica _ system wait).frames searching_exchanges
  | jewel => exact (Search.minds_jewel wait).frames searching_exchanges
  | _ => exact Act.frames_throw _

theorem frames_selectPassive (m : Modulation) (hint : Option Bytes) :
    (selectPassive m hint).Frames m.technology.framing :=
  (frames_find m hint).bind fun _ => (Act.frames_modify _).bind fun _ => Act.frames_pure _

theorem frames_deselect : deselect.Frames .unchecked := by
  refine Act.frames_get.bind fun d => ?_
  cases d.selected with
  | none => exact Act.frames_pure ()
  | some t =>
      refine (Act.frames_modify _).bind fun _ => ?_
      cases releases : releaseFrame t with
      | none => exact Act.frames_pure ()
      | some frame =>
          exact Chip.frames_withoutHardwareCrc (minds_sendRelease releases _) releasing_exchanges

end Device

namespace Srx.Tag

theorem frames_info {f : Framing} : info.Frames f := by
  refine Act.frames_get.bind fun d => ?_
  cases d.selected with
  | none => exact Act.frames_throw _
  | some t => exact Act.frames_ofExcept _

theorem frames_readBlockOf (c : ChipInfo) (block : UInt8) :
    (readBlockOf c block).Frames .unchecked :=
  (Act.frames_ofExcept _).bind fun _ => Device.frames_timeout.bind fun _ =>
    (Chip.frames_withoutHardwareCrc (m := Chip.plain) (Chip.minds_exchangeChecked rfl id)
      fun _ => id).bind fun _ => (Act.frames_ofExcept _).bind fun _ => Act.frames_pure _

theorem frames_sendSilent (frame : Bytes) (wait : Timeout) :
    (sendSilent frame wait).Frames .unchecked := by
  have sends : (Chip.exchangeChecked .b frame wait : Act Chip (Device .initiator) Bytes).Minds
      Chip.plain := Chip.strict_exchangeChecked rfl
  have forgiving : (Chip.silentAsNone (Chip.exchangeChecked .b frame wait) >>= fun _ => pure () :
      Act Chip (Device .initiator) Unit).Minds ⟨fun call => call.isExchange = true,
        fun _ => True, fun _ => False⟩ :=
    (Chip.minds_silentAsNone sends fun _ exchanges => ⟨exchanges, trivial, id⟩).bind fun _ =>
      Act.minds_pure ()
  exact Chip.frames_withoutHardwareCrc forgiving fun _ => id

theorem frames_writeBlock (block : UInt8) (data : Bytes) :
    (writeBlock block data).Frames .unchecked := by
  have sleeps : (Chip.sleep writeCycle : Act Chip (Device .initiator) Unit).Frames .unchecked :=
    fun _ _ => .aside rfl rfl fun _ => .done _
  refine frames_info.bind fun c => (Act.frames_ofExcept _).bind fun _ =>
    (Act.frames_ofExcept _).bind fun frame => Device.frames_timeout.bind fun wait =>
    (frames_sendSilent frame wait).bind fun _ => sleeps.bind fun _ =>
    (frames_readBlockOf c block).bind fun held => ?_
  split
  · exact Act.frames_throw _
  · exact Act.frames_pure ()

theorem frames_operation (operation : Operation) : operation.run.Frames .unchecked := by
  cases operation with
  | info => exact frames_info.bind fun _ => Act.frames_pure ()
  | readBlock block =>
      exact (frames_info.bind fun c => frames_readBlockOf c block).bind fun _ => Act.frames_pure ()
  | writeBlock block data => exact frames_writeBlock block data
  | complete =>
      exact frames_info.bind fun _ => Device.frames_timeout.bind fun wait =>
        (frames_sendSilent _ wait).bind fun _ => Act.frames_modify _

end Srx.Tag

theorem Felica.Card.frames_operation (operation : Operation) : operation.run.Frames .normal :=
  (minds_operation operation).frames fun _ => And.left

theorem Jewel.Tag.frames_operation (operation : Operation) : operation.run.Frames .normal :=
  (minds_operation operation).frames fun _ => And.left

namespace Operation

theorem frames_part {op : Operation} {f : Framing} {σ α : Type} {x : Act Chip σ α}
    (part : op.Part f σ α x) : x.Frames f := by
  cases part with
  | activation wanted => exact Device.frames_activate wanted
  | selection m hint => exact Device.frames_selectPassive m hint
  | listing => exact TypeA.Activator.frames_activate none
  | halting | release => exact Device.frames_deselect
  | alone | polling => exact Device.frames_selectPassive _ none
  | bytes data wait => exact (minds_bytes data wait).frames fun _ => And.left
  | bits data count => exact (Device.minds_exchangeBits data count).frames fun _ => And.left
  | magic operation => exact TypeA.Magic.frames_operation operation
  | srx operation => exact Srx.Tag.frames_operation operation
  | felica operation => exact Felica.Card.frames_operation operation
  | jewel operation => exact Jewel.Tag.frames_operation operation
  | depSelection mode baud generalBytes wait =>
      exact (Dep.InitiatorSide.minds_select mode baud generalBytes wait).frames
        Dep.linking_exchanges
  | depPolling mode baud wait =>
      exact (Dep.InitiatorSide.minds_select mode baud (some []) wait).frames Dep.linking_exchanges
  | @dep operation searches =>
      exact (Dep.InitiatorSide.minds_operation searches).frames fun _ => And.left

end Operation

end Parts

section Run

open Framing (normal)

variable {settings : Settings} {s s' : Dep.InitiatorSide} {n : Nat} {t past : List Chip.Event}

theorem yields_switched {β : Type} {switch : Switch} {on : Bool}
    {next : Except Error Unit → Dialogue Chip β} {b : β} (obliges : Chip.Obliges t)
    (yields : (Dialogue.ask (I := Chip) (.configure switch on) next).Yields t b) :
    ∃ u, t = ⟨.configure switch on, .ok ()⟩ :: u ∧ Chip.Obliges u ∧ (next (.ok ())).Yields u b := by
  obtain ⟨r, u, rfl, rest⟩ := Dialogue.yields_ask_iff.mp yields
  obtain rfl := obliges.head
  exact ⟨u, rfl, obliges.tail, rest⟩

/-- A device that becomes an initiator sets framing as it is by default. -/
theorem normal_of_asInitiator {σ : Type} {d : Device .idle} {device : Device .initiator}
    {x x' : σ} (opens : d.asInitiator.Yields x t (.ok device) x') (obliges : Chip.Obliges t) :
    normal.In (settings.after t) := by
  obtain ⟨n, opens⟩ := opens
  obtain ⟨r, t, rfl, field⟩ := Dialogue.yields_ask_iff.mp opens
  obtain ⟨t, rfl, obliges, checks⟩ := yields_switched obliges.tail field
  obtain ⟨t, rfl, obliges, easy⟩ := yields_switched obliges checks
  obtain ⟨t, rfl, obliges, session⟩ := yields_switched obliges easy
  obtain ⟨t, rfl, obliges, select⟩ := yields_switched obliges session
  obtain ⟨t, rfl, obliges, on⟩ := yields_switched obliges select
  obtain ⟨t, rfl, -, last⟩ := yields_switched obliges on
  cases last
  exact ⟨rfl, rfl⟩

/-- Framing is as by default after events that kept it so, as far as no switch was refused. -/
def Kept (settings : Settings) (t : List Chip.Event) : Prop :=
  Chip.Obliges t → normal.In (settings.after t)

theorem Kept.aside {call : Chip.Call} (r : call.Answer) (kept : Kept settings t)
    (other : call.isSwitch = false) : Kept settings (t ++ [⟨call, r⟩]) := by
  intro obliges
  rw [after_append]
  exact (kept obliges.left).take r other

theorem Kept.part {op : Operation} {σ α : Type} {x : Act Chip σ α} {v : σ} {u : List Chip.Event}
    {r : Except Error α × σ} (part : op.Parts σ α x) (kept : Kept settings t)
    (yields : (x n v).Yields u r) : Kept settings (t ++ u) := by
  intro obliges
  obtain ⟨f, part⟩ := part
  rw [after_append]
  exact (Operation.frames_part part n v).ends (kept obliges.left) obliges.right yields

theorem Kept.operation {op : Operation} {r : Except Error Unit × Dep.InitiatorSide}
    (kept : Kept settings past) (yields : (op.run n s).Yields t r) : Kept settings (past ++ t) :=
  (op.composed_run n s).ends (fun _ _ r kept _ other => kept.aside r other)
    (fun _ _ _ _ _ _ _ _ part kept yields => kept.part part yields) kept yields

theorem Kept.performed {opening : List Chip.Event} (performed : Performed s past s')
    (kept : Kept settings opening) : Kept settings (opening ++ past) := by
  induction performed with
  | none => rwa [List.append_nil]
  | more op _ yields ih =>
      obtain ⟨n, yields⟩ := yields
      rw [← List.append_assoc]
      exact ih.operation yields

/-- Between operations framing is as it is by default. Each frame of an operation goes out with the
framing of the part of the operation that sends it. -/
theorem framing_between_operations {d : Device .idle} {device : Device .initiator}
    {opening : List Chip.Event} (opens : d.asInitiator.Yields () opening (.ok device) ())
    (performed : Performed (.new device) past s) (obliges : Chip.Obliges (opening ++ past)) :
    normal.In (settings.after (opening ++ past)) ∧
      ∀ op n t call next, Chip.Obliges t → (Operation.run op n s).Reaches t (.ask call next) →
        call.isExchange = true → ∃ f before own, t = before ++ own ∧
          (op.run n s).Inside (op.Part f) before own call next ∧
          f.In (settings.after (opening ++ past ++ t)) := by
  have opened : Kept settings opening := fun obliges => normal_of_asInitiator opens obliges
  have kept := opened.performed performed
  refine ⟨kept obliges, fun op n t call next accepted reaches exchanges => ?_⟩
  obtain ⟨before, own, rfl, begins, inside⟩ := (op.composed_run n s).inside (Kept settings)
    (fun _ _ r kept _ other => kept.aside r other)
    (fun _ _ _ _ _ _ _ _ part kept yields => kept.part part yields) _ kept reaches exchanges
  cases inside with
  | @part _ _ x n v _ _ _ _ _ part starts asks =>
      obtain ⟨f, part⟩ := part
      refine ⟨f, before, own, rfl, .part part starts asks, ?_⟩
      rw [← List.append_assoc, after_append]
      exact (Operation.frames_part part n v).speaks (begins (obliges.append accepted.left))
        accepted.right asks exchanges

/-- A device becomes an initiator. -/
def sampleOpening : List Chip.Event :=
  [⟨.clearAbort, ()⟩, ⟨.configure .activateField false, .ok ()⟩,
    ⟨.configure .handleCrc true, .ok ()⟩, ⟨.configure .easyFraming true, .ok ()⟩,
    ⟨.configure .autoPart4 false, .ok ()⟩, ⟨.configure .infiniteSelect false, .ok ()⟩,
    ⟨.configure .activateField true, .ok ()⟩]

/-- Nobody answers a frame of the back door. -/
def sampleWipe : List Chip.Event :=
  [⟨.configure .handleCrc false, .ok ()⟩, ⟨.configure .easyFraming false, .ok ()⟩,
    ⟨.bits (.ofBytes [0x41]) .standard, .error .timeout⟩, ⟨.configure .handleCrc true, .ok ()⟩,
    ⟨.configure .easyFraming true, .ok ()⟩]

/-- A card is wiped in vain, and then an SRx tag is looked for. -/
theorem framing_between_operations_wipe :
    normal.In (Settings.initial.after (sampleOpening ++ sampleWipe)) ∧
      ∃ f before own next,
        ((Operation.select ⟨.iso14443b2sr, .baud106⟩ none).run 0 (.new ⟨{}, none⟩)).Inside
          (Operation.Part (.select ⟨.iso14443b2sr, .baud106⟩ none) f) before own
          (.bytes (Crc.b.append Srx.initiate) .standard) next ∧
        f.In (Settings.initial.after (sampleOpening ++ sampleWipe ++
          [⟨.configure .handleCrc false, .ok ()⟩])) := by
  have opens : (Device.asInitiator ⟨{}, none⟩ : Act Chip Unit (Device .initiator)).Yields ()
      sampleOpening (.ok ⟨{}, none⟩) () :=
    ⟨0, .ask _ (.ask _ (.ask _ (.ask _ (.ask _ (.ask _ (.ask _ (.done _)))))))⟩
  have wipes : (Operation.magic .wipe).run.Yields (.new ⟨{}, none⟩) sampleWipe (.error .timeout)
      (.new ⟨{}, none⟩) :=
    ⟨0, .ask _ (.ask _ (.ask _ (.ask _ (.ask _ (.done _)))))⟩
  have obliges : Chip.Obliges (sampleOpening ++ sampleWipe) := by
    unfold Chip.Obliges
    decide
  have accepted : Chip.Obliges [⟨.configure .handleCrc false, .ok ()⟩] := by
    unfold Chip.Obliges
    decide
  have performed := Performed.more (.magic .wipe) (.none (.new ⟨{}, none⟩)) wipes
  obtain ⟨begins, speaks⟩ :
      normal.In (Settings.initial.after (sampleOpening ++ sampleWipe)) ∧ _ :=
    framing_between_operations opens performed obliges
  obtain ⟨f, before, own, -, inside, holds⟩ := speaks (.select ⟨.iso14443b2sr, .baud106⟩ none) 0
    [⟨.configure .handleCrc false, .ok ()⟩] (.bytes (Crc.b.append Srx.initiate) .standard) _
    accepted (.ask _ (.refl _)) rfl
  exact ⟨begins, f, before, own, _, inside, holds⟩

end Run

end Contactless
