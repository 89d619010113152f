import Contactless.Proofs.Asks
import Contactless.Proofs.Assures
import Contactless.Proofs.Felica.Frame
import Contactless.Proofs.Initiator.Parts

/-! Operations and the sizes of their frames. No operation exchanges a frame that the chip cannot
hold, and arguments that would need one are refused: the operation fails, and nothing is sent on
their behalf. -/
namespace Contactless

open Chip (Manner Holds searching releasing)

section Fitting

variable {σ α β : Type} {m : Manner} {allowed : Chip.Call → Prop} {x : Act Chip σ α}

theorem Dialogue.Minds.asks {d : Dialogue Chip (Except Error α × σ)} (minds : d.Minds m)
    (le : ∀ call, m.asks call → allowed call) : d.Asks allowed := by
  induction minds with
  | done a => trivial
  | cut => trivial
  | ask asks _ _ ih => exact ⟨le _ asks, ih⟩

theorem Act.Minds.asks (minds : x.Minds m) (le : ∀ call, m.asks call → allowed call) :
    x.Asks allowed :=
  fun n s => (minds n s).asks le

/-- A dialogue asks no more than its programs and what it may ask in between. -/
theorem Dialogue.Composed.asks {P : ∀ σ α : Type, Act Chip σ α → Prop} {d : Dialogue Chip β}
    (composed : d.Composed P) (part : ∀ σ α x, P σ α x → x.Asks allowed)
    (aside : ∀ call, call.isExchange = false → allowed call) : d.Asks allowed := by
  induction composed with
  | done b => trivial
  | cut => trivial
  | @aside call _ quiet _ _ ih => exact ⟨aside call quiet, ih⟩
  | part n s one _ ih => exact (part _ _ _ one n s).bind ih

theorem Act.Minds.fits (minds : x.Minds m.sized) : x.Asks Chip.Call.Fits :=
  minds.asks fun _ asks => asks.2

/-- What programs ask around their exchanges has no size. -/
theorem Act.Minds.fits_around (minds : x.Minds m.around) (fits : ∀ call, m.asks call → call.Fits) :
    x.Asks Chip.Call.Fits :=
  minds.asks fun call asks => asks.elim (fits call) Chip.Call.fits_of_quiet

theorem fits_searching (minds : x.Minds searching.around) : x.Asks Chip.Call.Fits :=
  minds.fits_around fun _ asks => asks.elim Chip.Opening.fits Chip.Following.fits

theorem fits_releasing (minds : x.Minds releasing.around) : x.Asks Chip.Call.Fits :=
  minds.fits_around fun _ => Chip.Releasing.fits

theorem fits_linking (minds : x.Minds Dep.linking) : x.Asks Chip.Call.Fits :=
  minds.asks fun _ asks => asks.elim Dep.Greeting.fits Dep.Release.fits

end Fitting

namespace Operation

theorem fits_part {op : Operation} {σ α : Type} {x : Act Chip σ α} (part : op.Parts σ α x) :
    x.Asks Chip.Call.Fits := by
  obtain ⟨f, part⟩ := part
  cases part with
  | activation wanted => exact fits_searching (Device.minds_activate wanted)
  | selection m hint => exact fits_searching (Device.minds_selectPassive m hint)
  | listing => exact fits_searching (TypeA.Activator.minds_activate none)
  | halting | release => exact fits_releasing Device.minds_deselect
  | alone | polling => exact fits_searching (Device.minds_selectPassive _ none)
  | bytes data wait => exact (minds_bytes data wait).fits
  | bits data count => exact (Device.minds_exchangeBits data count).fits
  | magic operation =>
      exact (TypeA.Magic.minds_operation operation).fits_around fun _ asks => asks.2
  | srx operation => exact (Srx.Tag.minds_operation operation).fits_around fun _ asks => asks.2
  | felica operation => exact (Felica.Card.minds_operation operation).fits
  | jewel operation => exact (Jewel.Tag.minds_operation operation).fits
  | depSelection mode baud generalBytes wait =>
      exact fits_linking (Dep.InitiatorSide.minds_select mode baud generalBytes wait)
  | depPolling mode baud wait =>
      exact fits_linking (Dep.InitiatorSide.minds_select mode baud (some []) wait)
  | dep link => exact (Dep.InitiatorSide.minds_operation link).fits

/-- Whatever an operation is asked to send, and whatever it is answered. -/
theorem fits_run (op : Operation) : op.run.Asks Chip.Call.Fits :=
  fun n s => (op.composed_run n s).asks (fun _ _ _ => fits_part) fun _ => Chip.Call.fits_of_quiet

end Operation

section Judgement

variable {I : Interface} {σ τ α β : Type} {allowed : I.Query → Prop}

/-- A failure, with only such questions on the way to it. -/
def Failing (allowed : I.Query → Prop) (t : List I.Event) (r : Except Error α) : Prop :=
  (∃ e, r = .error e) ∧ ∀ event ∈ t, allowed event.1

/-- Whatever it is answered, a dialogue fails and asks only such questions. -/
def Dialogue.Refuses (allowed : I.Query → Prop) (d : Dialogue I (Except Error α × σ)) : Prop :=
  d.Assures fun t r => Failing allowed t r.1

def Act.Refuses (allowed : I.Query → Prop) (x : Act I σ α) (s : σ) : Prop :=
  x.Assures s fun t r _ => Failing allowed t r

theorem failing_nil (e : Error) : Failing (α := α) allowed [] (.error e) :=
  ⟨⟨e, rfl⟩, List.forall_mem_nil _⟩

variable {x : Act I σ α} {s : σ}

/-- Nothing follows an action that refuses. -/
theorem Act.Refuses.quiet (refuses : x.Refuses allowed s) : x.quiet.Refuses allowed s := by
  refine Act.Assures.bind refuses ?_ ?_
  · rintro t a s' ⟨⟨e, failed⟩, -⟩
    cases failed
  · rintro t e s' ⟨-, asked⟩
    exact ⟨⟨e, rfl⟩, asked⟩

theorem Act.refuses_ofExcept_bind {r : Except Error α} {f : α → Act I σ β}
    (rest : ∀ a, r = .ok a → (f a).Refuses allowed s) :
    (Act.ofExcept r >>= f).Refuses allowed s :=
  Act.assures_ofExcept_bind rest fun e _ => failing_nil e

theorem Act.refuses_throw (e : Error) : (throw e : Act I σ α).Refuses allowed s :=
  Act.assures_throw (failing_nil e)

/-- What follows an action that asks no more, if there is something to follow it. -/
theorem Act.refuses_bind {f : α → Act I σ β} {kept : σ → Prop}
    (first : x.Assures s fun t _ s' => (∀ event ∈ t, allowed event.1) ∧ kept s')
    (rest : ∀ a s', kept s' → (f a).Refuses allowed s') : (x >>= f).Refuses allowed s := by
  refine first.bind ?_ ?_
  · rintro t a s' ⟨asked, holds⟩
    refine (rest a s' holds).mono ?_
    rintro u r _ ⟨failed, later⟩
    exact ⟨failed, List.forall_mem_append.mpr ⟨asked, later⟩⟩
  · rintro t e s' ⟨asked, -⟩
    exact ⟨⟨e, rfl⟩, asked⟩

/-- A frame that the chip cannot hold is not even built. -/
theorem Act.refuses_encoded_bind {r : Except Error Bytes} {f : Bytes → Act I σ β} {size : Nat}
    (encodes : ∀ frame, r = .ok frame → frame.length = size ∧ Holds frame.length)
    (unheld : ¬ Holds size) : (Act.ofExcept r >>= f).Refuses allowed s := by
  refine Act.refuses_ofExcept_bind fun frame built => ?_
  obtain ⟨same, holds⟩ := encodes frame built
  rw [same] at holds
  exact absurd holds unheld

theorem Act.Refuses.zoom {x : Act I τ α} {part : σ → τ} (put : τ → σ → σ)
    (refuses : x.Refuses allowed (part s)) : (Act.zoom part put x).Refuses allowed s :=
  Act.Assures.zoom refuses

end Judgement

namespace Chip

variable {σ : Type} {s : σ} {allowed : Call → Prop}

theorem refuses_exchangeBytes {data : Bytes} (unheld : ¬ Holds data.length) (wait : Timeout) :
    (exchangeBytes data wait : Act Chip σ Bytes).Refuses allowed s := by
  unfold exchangeBytes
  split
  · exact Act.refuses_throw _
  · rename_i nonempty
    have some : 1 ≤ data.length :=
      List.length_pos_iff.mpr fun none => nonempty (by rw [none]; rfl)
    rw [if_pos (Nat.not_le.mp fun short => unheld ⟨some, short⟩)]
    exact Act.refuses_throw _

theorem refuses_exchangeBits {data : Bytes} {count : Nat} (unheld : ¬ Holds ((count + 7) / 8))
    (wait : Timeout) : (exchangeBits data count wait : Act Chip σ BitFrame).Refuses allowed s := by
  unfold exchangeBits
  split
  · exact Act.refuses_throw _
  · refine Act.refuses_ofExcept_bind fun frame built => ?_
    have long : frameLimit < frame.byteLength := by
      change frameLimit < frame.data.length
      rw [frame.length_data, bits_of_ofBits built]
      unfold Holds at unheld
      omega
    unfold exchangeFrame
    rw [if_pos long]
    exact Act.refuses_throw _

end Chip

namespace Felica

variable {services : List UInt16} {blocks : List BlockElement} {data : List BlockData} {idm : Idm}
  {payload frame : Bytes}

theorem holds_withLength (built : withLength payload = .ok frame) : Holds frame.length := by
  obtain ⟨size, short⟩ := length_withLength built
  unfold Holds Chip.frameLimit
  omega

theorem length_check (built : check idm services blocks = .ok frame) :
    frame.length = (lists services blocks).length + 10 ∧ Holds frame.length := by
  obtain ⟨-, built⟩ := check_eq_ok_iff.mp built
  have size := (length_withLength built).1
  rw [List.cons_append, List.length_cons, List.length_append, idm.length_toList] at size
  exact ⟨by omega, holds_withLength built⟩

theorem length_update (built : update idm services blocks data = .ok frame) :
    frame.length = (lists services blocks ++ data.flatMap (·.toList)).length + 10 ∧
      Holds frame.length := by
  obtain ⟨-, -, built⟩ := update_eq_ok_iff.mp built
  have size := (length_withLength built).1
  rw [List.append_assoc, List.cons_append, List.length_cons, List.length_append,
    idm.length_toList] at size
  exact ⟨by omega, holds_withLength built⟩

end Felica

namespace Device

variable {d : Device .initiator} {allowed : Chip.Call → Prop}

theorem refuses_exchange {data : Bytes} (unheld : ¬ Holds data.length) :
    (exchange data).Refuses allowed d :=
  fun n => Chip.refuses_exchangeBytes unheld d.config.commandTimeout n

theorem refuses_exchangeBits {data : Bytes} {count : Nat} (unheld : ¬ Holds ((count + 7) / 8)) :
    (exchangeBits data count).Refuses allowed d :=
  fun n => Chip.refuses_exchangeBits unheld d.config.commandTimeout n

/-- All that an exchange may ask, and it leaves the device as it is. -/
theorem assures_exchange (frame : Bytes) :
    (exchange frame).Assures d fun t _ d' =>
      (∀ event ∈ t, event.1 = .bytes frame d.config.commandTimeout) ∧ d' = d := by
  intro n
  change (Chip.exchangeBytes frame d.config.commandTimeout n d).Assures _
  unfold Chip.exchangeBytes
  split
  · exact ⟨List.forall_mem_nil _, rfl⟩
  · split
    · exact ⟨List.forall_mem_nil _, rfl⟩
    · intro r
      exact ⟨List.forall_mem_singleton.mpr rfl, rfl⟩

end Device

namespace Felica.Card

variable {d : Device .initiator} {allowed : Chip.Call → Prop}

theorem assures_idm :
    idm.Assures d fun t _ d' => (∀ event ∈ t, allowed event.1) ∧ d' = d := by
  refine Act.assures_get_bind ?_
  split
  · exact Act.assures_pure ⟨List.forall_mem_nil _, rfl⟩
  · exact Act.assures_throw ⟨List.forall_mem_nil _, rfl⟩

theorem refuses_read {services : List UInt16} {blocks : List BlockElement}
    (unheld : ¬ Holds ((lists services blocks).length + 10)) :
    (read services blocks).Refuses allowed d :=
  Act.refuses_bind assures_idm fun _ _ _ =>
    Act.refuses_encoded_bind (fun _ => length_check) unheld

theorem refuses_write {services : List UInt16} {blocks : List BlockElement}
    {data : List BlockData}
    (unheld : ¬ Holds ((lists services blocks ++ data.flatMap (·.toList)).length + 10)) :
    (write services blocks data).Refuses allowed d :=
  Act.refuses_bind assures_idm fun _ _ _ =>
    Act.refuses_encoded_bind (fun _ => length_update) unheld

end Felica.Card

namespace Dep.InitiatorSide

variable {s : InitiatorSide}

/-- A link is given up with its release frame alone, and the settings stay. -/
theorem assures_deselect :
    deselect.Assures s fun t _ s' =>
      (∀ event ∈ t, Release event.1) ∧ s'.device.config = s.device.config := by
  refine Act.assures_get_bind ?_
  cases s.link with
  | none => exact Act.assures_pure ⟨List.forall_mem_nil _, rfl⟩
  | some link =>
      refine Act.assures_modify_bind (Act.assures_ofExcept_bind (fun frame built => ?_) fun e _ =>
        ⟨List.forall_mem_nil _, rfl⟩)
      have asked := Device.assures_exchange (d := { s.device with selected := none }) frame
      have released : (onDevice (Device.exchange frame)).Assures
          { device := { s.device with selected := none }, link := none } fun t _ s' =>
            (∀ event ∈ t, Release event.1) ∧ s'.device.config = s.device.config := by
        refine Act.Assures.zoom (asked.mono ?_)
        rintro t r _ ⟨only, rfl⟩
        refine ⟨fun event member => ?_, rfl⟩
        rw [only event member]
        exact .request _ built
      refine released.bind ?_ fun _ _ _ => id
      rintro t answer s' ⟨only, same⟩
      refine Act.assures_ofExcept_bind (fun _ _ => Act.assures_pure ?_) fun e _ => ?_
      · rw [List.append_nil]
        exact ⟨only, same⟩
      · rw [List.append_nil]
        exact ⟨only, same⟩

theorem refuses_select {mode : DepMode} {baud : BaudRate} {generalBytes : Option Bytes}
    {wait : Timeout}
    (unheld : ¬ Holds ((request s.device.config generalBytes).generalBytes.length + 17)) :
    (select mode baud generalBytes wait).Refuses Release s := by
  refine Act.refuses_bind assures_deselect fun _ s' same => Act.assures_get_bind ?_
  rw [← same] at unheld
  exact Act.refuses_encoded_bind (fun _ => length_encode) unheld

end Dep.InitiatorSide

namespace Srx.Tag

variable {d : Device .initiator} {allowed : Chip.Call → Prop}

theorem refuses_writeBlock {block : UInt8} {data : Bytes} (unheld : ¬ Holds (data.length + 4)) :
    (writeBlock block data).Refuses allowed d := by
  have told : info.Assures d fun t _ d' => (∀ event ∈ t, allowed event.1) ∧ d' = d := by
    refine Act.assures_get_bind ?_
    cases d.selected with
    | none => exact Act.assures_throw ⟨List.forall_mem_nil _, rfl⟩
    | some t => exact Act.assures_ofExcept ⟨List.forall_mem_nil _, rfl⟩
  refine Act.refuses_bind told fun c _ _ => Act.refuses_ofExcept_bind fun _ _ =>
    Act.refuses_ofExcept_bind fun frame built => ?_
  obtain ⟨-, short⟩ := Chip.length_writeBlock built
  unfold Holds Chip.frameLimit at unheld
  omega

end Srx.Tag

namespace Operation

open Dep.InitiatorSide (onDevice)

/-- How many bytes a frame with the arguments of an operation would take. The frames of other
operations have sizes of their own, and a payload of the data exchange is cut to fit. -/
def size (c : Config) : Operation → Option Nat
  | bytes data _ => some data.length
  | bits _ count => some ((count + 7) / 8)
  | srx (.writeBlock _ data) => some (data.length + 4)
  | felica (.read services blocks) => some ((Felica.lists services blocks).length + 10)
  | felica (.write services blocks data) =>
    some ((Felica.lists services blocks ++ data.flatMap (·.toList)).length + 10)
  | dep (.select _ _ generalBytes _) =>
    some ((Dep.InitiatorSide.request c generalBytes).generalBytes.length + 17)
  | _ => none

/-- What an operation sends before it comes to its arguments: a link that is open is given up before
another one is looked for. -/
def Parting : Operation → Chip.Call → Prop
  | dep (.select ..) => Dep.Release
  | _ => fun _ => False

theorem refuses_run {op : Operation} {s : Dep.InitiatorSide} {size : Nat}
    (needs : op.size s.device.config = some size) (unheld : ¬ Holds size) :
    op.run.Refuses op.Parting s := by
  have device {α : Type} {x : Act Chip (Device .initiator) α}
      (refuses : x.Refuses op.Parting s.device) : (onDevice x).Refuses op.Parting s :=
    refuses.zoom fun device s => { s with device }
  cases op with
  | bytes data wait =>
      cases needs
      cases wait with
      | none => exact device (Device.refuses_exchange unheld).quiet
      | some wait => exact device (Chip.refuses_exchangeBytes unheld wait).quiet
  | bits data count =>
      cases needs
      exact device (Device.refuses_exchangeBits unheld).quiet
  | srx operation =>
      cases operation with
      | writeBlock block data =>
          cases needs
          exact device (Srx.Tag.refuses_writeBlock unheld)
      | _ => cases needs
  | felica operation =>
      cases operation with
      | read services blocks =>
          cases needs
          exact device (Felica.Card.refuses_read unheld).quiet
      | write services blocks data =>
          cases needs
          exact device (Felica.Card.refuses_write unheld)
      | _ => cases needs
  | dep operation =>
      cases operation with
      | select mode baud generalBytes wait =>
          cases needs
          exact (Dep.InitiatorSide.refuses_select unheld).quiet
      | _ => cases needs
  | _ => cases needs

end Operation

end Contactless
