import Contactless.Proofs.Initiator.Sizes

/-! How the programs of an initiator take silence. All of them pass every other failure on; a search
forgives silence when it opens, and some frames are obeyed without an answer. No program exchanges
a frame that the chip cannot hold. -/
namespace Contactless

namespace Chip

/-- A search takes silence for nobody there when it opens. -/
def searching : Manner := ⟨fun call => Opening call ∨ Following call, Opening, fun _ => False⟩

/-- Targets may be halted without an answer. -/
def releasing : Manner := ⟨Releasing, Unanswered, Unanswered⟩

/-- Targets obey some frames without an answer, and no others stay unanswered. -/
def obeyed : Manner := ⟨fun call => call.isExchange = true, Unanswered, Unanswered⟩

/-- Exchanges of which none may stay unanswered. -/
def plain : Manner := .strict fun call => call.isExchange = true

/-- The same with frames that the chip can hold. -/
def Manner.sized (m : Manner) : Manner := { m with asks := fun call => m.asks call ∧ call.Fits }

theorem opening_exchanges (call : Call) (opening : Opening call) : call.isExchange = true := by
  cases opening <;> rfl

theorem searching_exchanges (call : Call) (asks : searching.asks call) :
    call.isExchange = true := by
  rcases asks with opening | following
  · exact opening_exchanges call opening
  · cases following <;> rfl

theorem releasing_exchanges (call : Call) (asks : releasing.asks call) :
    call.isExchange = true := by
  cases asks <;> rfl

theorem Opening.forgiven {call : Call} (opening : Opening call) :
    searching.asks call ∧ searching.forgives call ∧ ¬ searching.ignores call :=
  ⟨.inl opening, opening, id⟩

section Manners

variable {σ α : Type} {x : Act Chip σ α}

theorem minds_searching (minds : x.Minds (.strict Following)) : x.Minds searching :=
  minds.mono fun _ following => ⟨.inr following, False.elim, id⟩

theorem sized_exchangeFrame {frame : BitFrame} (bits : 1 ≤ frame.bits) (wait : Timeout) :
    (exchangeFrame frame wait : Act Chip σ BitFrame).Minds plain.sized := by
  unfold exchangeFrame
  split
  · exact Act.minds_throw _
  · rename_i short
    exact minds_bits ⟨rfl, fits_bits _ bits (Nat.not_lt.mp short) wait⟩ id

theorem sized_exchangeBits (data : Bytes) (count : Nat) (wait : Timeout) :
    (exchangeBits data count wait : Act Chip σ BitFrame).Minds plain.sized := by
  unfold exchangeBits
  split
  · exact Act.minds_throw _
  · refine Act.minds_ofExcept_bind fun frame built => sized_exchangeFrame ?_ wait
    rw [bits_of_ofBits built]
    omega

theorem sized_exchangeBytes (frame : Bytes) (wait : Timeout) :
    (exchangeBytes frame wait : Act Chip σ Bytes).Minds plain.sized := by
  unfold exchangeBytes
  split
  · exact Act.minds_throw _
  · split
    · exact Act.minds_throw _
    · rename_i nonempty short
      have some : 1 ≤ frame.length :=
        List.length_pos_iff.mpr fun none => nonempty (by rw [none]; rfl)
      exact minds_bytes ⟨rfl, some, Nat.not_lt.mp short⟩ id

end Manners

end Chip

open Chip (Manner Opening Following Unanswered Releasing searching releasing obeyed
  plain)

namespace TypeA.Activator

theorem minds_wake : wake.Minds (.strict Opening) :=
  (Act.minds_modify _).bind fun _ => Act.minds_get.bind fun a =>
    (Chip.strict_exchangeFrame (Opening.wakeup a.wakeup a.timeout)).bind fun _ =>
    Act.minds_ofExcept _

theorem minds_anticollision (level : CascadeLevel) :
    (anticollision level).Minds (.strict Following) := by
  refine (Act.minds_modify _).bind fun _ => Act.minds_get.bind fun a =>
    (Chip.strict_exchangeFrame (Following.anticollision level a.timeout)).bind fun _ =>
    (Act.minds_ofExcept _).bind fun chunk => ?_
  cases checkBcc chunk with
  | valid => exact Act.minds_pure chunk
  | mismatch => exact (Act.minds_modify _).bind fun _ => Act.minds_pure _

theorem minds_select (level : CascadeLevel) (chunk : Octets 5) :
    (select level chunk).Minds (.strict Following) :=
  Act.minds_get.bind fun a =>
    (Chip.strict_exchangeBytes (Following.select level chunk a.timeout)).bind fun _ =>
    Act.minds_ofExcept _

theorem minds_rats : rats.Minds (.strict Following) :=
  Act.minds_get.bind fun a =>
    (Chip.strict_exchangeBytes (Following.rats a.ratsParam a.timeout)).bind fun _ =>
    Act.minds_ofExcept _

theorem minds_groupAt (wanted : Option (List (Octets 5))) (level : CascadeLevel) :
    (groupAt wanted level).Minds (.strict Following) := by
  unfold groupAt
  split
  · exact minds_anticollision level
  · split
    · exact Act.minds_pure _
    · exact Act.minds_throw _

theorem minds_resolveLevel (wanted : Option (List (Octets 5))) (level : CascadeLevel)
    (resolved : Bytes) : (resolveLevel wanted level resolved).Minds (.strict Following) := by
  refine (Act.minds_modify _).bind fun _ => (minds_groupAt wanted level).bind fun chunk =>
    (minds_select level chunk).bind fun sak => (Act.minds_modify _).bind fun _ => ?_
  split
  · split
    · exact (Act.minds_modify _).bind fun _ => Act.minds_pure _
    · exact (Act.minds_pure _).bind fun _ => Act.minds_pure _
  · exact (Act.minds_ofExcept _).bind fun _ => Act.minds_pure _

theorem minds_resolve (wanted : Option (List (Octets 5))) (levels : List CascadeLevel)
    (resolved : Bytes) : (resolve wanted levels resolved).Minds (.strict Following) := by
  induction levels generalizing resolved with
  | nil => exact Act.minds_throw _
  | cons level rest ih =>
      refine (minds_resolveLevel wanted level resolved).bind fun ended => ?_
      cases ended with
      | complete uid sak => exact Act.minds_pure _
      | cascade resolved => exact ih resolved

theorem minds_identify (wanted : Option Uid) (atqa : Octets 2) :
    (identify wanted atqa).Minds (.strict Following) := by
  refine (minds_resolve _ _ _).bind fun (resolved, sak) => ?_
  have rest (ats : Bytes) : Act.Minds (.strict Following) (do
      let uid ← Act.ofExcept (Uid.ofBytes resolved)
      enter .activated
      modifyGet fun a =>
        ((⟨.typeA atqa sak uid ats, a.warnings⟩ : Activation), { a with warnings := [] })) :=
    (Act.minds_ofExcept _).bind fun _ => (Act.minds_modify _).bind fun _ => Act.minds_modifyGet _
  dsimp only
  split
  · exact (Act.minds_modify _).bind fun _ => minds_rats.bind rest
  · exact rest []

theorem minds_attempt (wanted : Option Uid) : (attempt wanted).Minds searching := by
  refine (Act.minds_modify _).bind fun _ =>
    minds_wake.forgive (fun _ opening => opening.forgiven) (fun e n s loud => ?_) fun woken => ?_
  · dsimp only
    rw [loud]
    exact .done s
  · cases woken with
    | ok atqa =>
        exact (Chip.minds_searching (minds_identify wanted atqa)).bind fun _ => Act.minds_pure _
    | error e =>
        dsimp only
        split
        · exact (Act.minds_modify _).bind fun _ => Act.minds_pure _
        · exact Act.minds_throw e

theorem minds_activate (wanted : Option Uid) : (activate wanted).Minds searching.around :=
  Chip.minds_withRawFraming (minds_attempt wanted)

end TypeA.Activator

namespace Search

variable {σ : Type}

theorem minds_typeB (family : UInt8) (wait : Timeout) :
    (typeB family wait : Act Chip σ (Option Target)).Minds searching := by
  have opens := Chip.strict_bytes (σ := σ) (Opening.reqb family wait)
  refine (Chip.minds_silentAsNone opens fun _ opening => opening.forgiven).bind fun answer => ?_
  cases answer with
  | none => exact Act.minds_pure _
  | some answer => exact (Act.minds_ofExcept _).bind fun _ => Act.minds_pure _

theorem minds_felica (baud : BaudRate) (system : UInt16) (wait : Timeout) :
    (felica baud system wait : Act Chip σ (Option Target)).Minds searching := by
  have opens := Chip.strict_bytes (σ := σ) (Opening.polling system wait)
  refine (Chip.minds_silentAsNone opens fun _ opening => opening.forgiven).bind fun answer => ?_
  cases answer with
  | none => exact Act.minds_pure _
  | some answer => exact (Act.minds_ofExcept _).bind fun _ => Act.minds_pure _

/-- What the SRx search does with a tag that answered. -/
theorem minds_srxAnswered (answer : Bytes) (wait : Timeout) : Act.Minds (.strict Following) (do
    let chip ← Act.ofExcept (chipId answer)
    let selected ← Chip.exchangeChecked .b (Srx.select chip) wait
    Act.ofExcept do
      requireExactLength selected 1
      expectByte selected 0 chip
    let uid ← Chip.exchangeChecked .b Srx.getUid wait
    return some (← Act.ofExcept (Srx.parseUid uid)) : Act Chip σ (Option Target)) :=
  (Act.minds_ofExcept _).bind fun chip =>
    (Chip.strict_exchangeChecked (Following.srxSelect chip wait)).bind fun _ =>
    (Act.minds_ofExcept _).bind fun _ =>
    (Chip.strict_exchangeChecked (Following.srxUid wait)).bind fun _ =>
    (Act.minds_ofExcept _).bind fun _ => Act.minds_pure _

theorem minds_srxUnchecked (wait : Timeout) :
    (srxUnchecked wait : Act Chip σ (Option Target)).Minds searching := by
  have opens := Chip.strict_exchangeChecked (σ := σ) (Opening.initiate wait)
  refine (Chip.minds_silentAsNone opens fun _ opening => opening.forgiven).bind fun answer => ?_
  cases answer with
  | none => exact Act.minds_pure _
  | some answer => exact Chip.minds_searching (minds_srxAnswered answer wait)

theorem minds_srx (wait : Timeout) :
    (srx wait : Act Chip σ (Option Target)).Minds searching.around :=
  Chip.minds_withoutHardwareCrc (minds_srxUnchecked wait)

/-- What the Jewel search does with a tag that answered. -/
theorem minds_jewelAnswered (frame : BitFrame) (wait : Timeout) : Act.Minds (.strict Following) (do
    let atqa ← Act.ofExcept (octetsAt 2 frame.data 0)
    let answer ← Chip.bytes Jewel.Request.rid.encode wait
    match ← Act.ofExcept (Jewel.Response.decode Jewel.Request.rid.code answer) with
    | .rid _ uid => return some (.jewel atqa uid)
    | _ => throw (.rfProtocol "RID answer expected") : Act Chip σ (Option Target)) := by
  refine (Act.minds_ofExcept _).bind fun _ => (Chip.strict_bytes (Following.rid wait)).bind fun _ =>
    (Act.minds_ofExcept _).bind fun response => ?_
  cases response with
  | rid => exact Act.minds_pure _
  | _ => exact Act.minds_throw _

theorem minds_jewel (wait : Timeout) :
    (jewel wait : Act Chip σ (Option Target)).Minds searching := by
  have opens := Chip.strict_bits (σ := σ) (Opening.wakeup .reqa wait)
  refine (Chip.minds_silentAsNone opens fun _ opening => opening.forgiven).bind fun answer => ?_
  cases answer with
  | none => exact Act.minds_pure _
  | some frame => exact Chip.minds_searching (minds_jewelAnswered frame wait)

end Search

namespace Device

theorem minds_timeout {m : Manner} : timeout.Minds m :=
  Act.minds_get.bind fun _ => Act.minds_pure _

theorem minds_activate (wanted : Option Uid) : (activate wanted).Minds searching.around :=
  Act.minds_get.bind fun _ => ((TypeA.Activator.minds_activate wanted).within _).bind fun _ =>
    (Act.minds_modify _).bind fun _ => Act.minds_pure _

theorem minds_find (modulation : Modulation) (hint : Option Bytes) :
    (find modulation hint).Minds searching.around := by
  refine minds_timeout.bind fun wait => ?_
  split
  · exact (Act.minds_ofExcept _).bind fun wanted =>
      (minds_activate wanted).bind fun _ => Act.minds_pure _
  · exact (Search.minds_typeB _ wait).around
  · exact Search.minds_srx wait
  · exact (Act.minds_ofExcept _).bind fun system => (Search.minds_felica _ system wait).around
  · exact (Search.minds_jewel wait).around
  · exact Act.minds_throw _
  · exact Act.minds_throw _
  · exact Act.minds_throw _
  · exact Act.minds_throw _

theorem minds_selectPassive (modulation : Modulation) (hint : Option Bytes) :
    (selectPassive modulation hint).Minds searching.around :=
  (minds_find modulation hint).bind fun _ => (Act.minds_modify _).bind fun _ => Act.minds_pure _

theorem minds_deselectFrame (wait : Timeout) :
    (sendRelease TypeA.deselect true wait).Minds releasing := by
  have asks := Chip.minds_bytes (σ := Device .initiator) (m := releasing) (.deselect wait)
    (Chip.not_unanswered_bytes (by decide))
  refine asks.attempt_bind (fun e n s => ?_) fun outcome => ?_
  · dsimp only
    rw [Bool.not_true, Bool.and_false]
    exact .done s
  · cases outcome with
    | ok answer => exact Act.minds_pure ()
    | error e =>
        dsimp only
        split
        · exact Act.minds_pure ()
        · exact Act.minds_throw e

/-- An answer to a halt does not matter. -/
theorem sendRelease_false (frame : Bytes) (wait : Timeout) :
    sendRelease frame false wait = (Chip.silentAsNone (Chip.bytes frame wait)).quiet := by
  funext n d
  refine Dialogue.ask_congr fun (r : Except Error Bytes) => ?_
  cases r with
  | ok answer => rfl
  | error e =>
      change (if e.isTimeout && true then pure () else throw e :
        Act Chip (Device .initiator) Unit) n d = Dialogue.bind ((if e.isTimeout then pure none
          else throw e : Act Chip (Device .initiator) (Option Bytes)) n d) _
      cases e.isTimeout <;> rfl

theorem minds_halt (wait : Timeout) : (sendRelease TypeA.halt false wait).Minds releasing := by
  rw [sendRelease_false]
  exact Chip.minds_unanswered (.halt wait) (.halt wait)
    (fun r e lost => Chip.eq_error_of_lost_bytes lost) ⟨.ok [], [], rfl, rfl⟩ (Act.minds_pure ())

theorem minds_sendRelease {t : Target} {frame : Bytes} (releases : releaseFrame t = some frame)
    (wait : Timeout) : (sendRelease frame t.isPart4 wait).Minds releasing := by
  unfold releaseFrame at releases
  cases part4 : t.isPart4 with
  | true =>
      rw [part4] at releases
      cases releases
      exact minds_deselectFrame wait
  | false =>
      rw [part4] at releases
      cases t with
      | typeA =>
          cases releases
          exact minds_halt wait
      | _ => cases releases

theorem minds_deselect : deselect.Minds releasing.around := by
  refine Act.minds_get.bind fun d => ?_
  cases d.selected with
  | none => exact Act.minds_pure ()
  | some t =>
      refine (Act.minds_modify _).bind fun _ => ?_
      cases releases : releaseFrame t with
      | none => exact Act.minds_pure ()
      | some frame => exact Chip.minds_withoutHardwareCrc (minds_sendRelease releases _)

theorem minds_selectFirst (modulations : List Modulation) :
    (selectFirst modulations).Minds searching.around := by
  induction modulations with
  | nil => exact Act.minds_pure none
  | cons m rest ih =>
      refine (minds_selectPassive m none).bind fun found => ?_
      cases found with
      | none => exact ih
      | some t => exact Act.minds_pure (some t)

theorem minds_pollRound (modulations : List Modulation) :
    (pollRound modulations).Minds searching.around :=
  Chip.minds_checkAbort.bind fun _ => minds_selectFirst modulations

theorem minds_pollRounds (modulations : List Modulation) (pause : Timeout) (rounds : Nat) :
    (pollRounds modulations pause rounds).Minds searching.around := by
  induction rounds with
  | zero => exact Act.minds_pure none
  | succ rounds ih =>
      refine (minds_pollRound modulations).bind fun found => ?_
      cases found with
      | some t => exact Act.minds_pure (some t)
      | none =>
          dsimp only
          split
          · exact Act.minds_pure none
          · exact (Chip.minds_sleep _).bind fun _ => ih

theorem minds_pollUntilFound (modulations : List Modulation) (pause : Timeout) :
    (pollUntilFound modulations pause).Minds searching.around := by
  refine Act.Minds.loop (fun _ => (minds_pollRound modulations).bind fun found => ?_) ()
  cases found with
  | some t => exact Act.minds_pure _
  | none => exact (Chip.minds_sleep _).bind fun _ => Act.minds_pure _

theorem minds_poll (modulations : List Modulation) (attempts : UInt8) (period : Duration) :
    (poll modulations attempts period).Minds searching.around := by
  unfold poll
  split
  · exact Act.minds_throw _
  · split
    · rw [← bind_pure_comp]
      exact (minds_pollUntilFound modulations _).bind fun _ => Act.minds_pure _
    · exact minds_pollRounds modulations _ _

theorem minds_exchange (data : Bytes) : (exchange data).Minds plain.sized :=
  minds_timeout.bind fun wait => Chip.sized_exchangeBytes data wait

theorem minds_exchangeBits (data : Bytes) (count : Nat) :
    (exchangeBits data count).Minds plain.sized :=
  minds_timeout.bind fun wait => Chip.sized_exchangeBits data count wait

end Device

namespace TypeA.Magic

theorem minds_sendAcked {frame : BitFrame} {wait : Timeout}
    (fits : (Chip.Call.bits frame wait).Fits) (answered : ¬ Unanswered (.bits frame wait)) :
    (sendAcked frame wait).Minds obeyed.sized :=
  (Chip.minds_bits (m := obeyed.sized) ⟨rfl, fits⟩ answered).bind fun _ => Act.minds_ofExcept _

/-- A frame of whole bytes. -/
theorem minds_sendBytes {data : Bytes} {wait : Timeout} (holds : Chip.Holds data.length)
    (answered : ¬ Unanswered (.bits (.ofBytes data) wait)) :
    (sendAcked (.ofBytes data) wait).Minds obeyed.sized :=
  minds_sendAcked (Chip.fits_ofBytes _ holds wait) answered

theorem minds_raw {x : Timeout → Act Chip (Device .initiator) Unit}
    (minds : ∀ wait, (x wait).Minds obeyed.sized) : (raw x).Minds obeyed.sized.around :=
  Device.minds_timeout.bind fun wait => (Act.minds_modify _).bind fun _ =>
    Chip.minds_withRawFraming (minds wait)

theorem minds_unlocking (wait : Timeout) : Act.Minds obeyed.sized (do
    let _ ← Chip.silentAsNone (Chip.bits (.ofBytes TypeA.halt) wait)
    sendAcked TypeA.magicWakeup wait
    sendAcked (.ofBytes [0x43]) wait) :=
  Chip.minds_unanswered ⟨rfl, (Unanswered.haltBits wait).fits⟩ (.haltBits wait)
    (fun _ _ lost => Chip.eq_error_of_lost_bits lost) ⟨.ok (.ofBytes []), .ofBytes [], rfl, rfl⟩
    ((minds_sendAcked (Chip.fits_bits _ (by decide) (by decide) wait)
      (Chip.not_unanswered_bits (by decide))).bind fun _ =>
      minds_sendBytes (by decide) (Chip.not_unanswered_bits (by decide)))

theorem minds_unlock : unlock.Minds obeyed.sized.around := minds_raw minds_unlocking

theorem minds_wiping (wait : Timeout) : (sendAcked (.ofBytes [0x41]) wait).Minds obeyed.sized :=
  minds_sendBytes (by decide) (Chip.not_unanswered_bits (by decide))

theorem not_unanswered_block (data : Octets 16) (wait : Timeout) :
    ¬ Unanswered (.bits (.ofBytes (Crc.a.append data.toList)) wait) := by
  refine Chip.not_unanswered_bits ?_
  simp only [BitFrame.ofBytes, Crc.length_append, data.length_toList]
  simp [Chip.unansweredMarks]

theorem holds_block (data : Octets 16) : Chip.Holds (Crc.a.append data.toList).length := by
  apply Chip.holds_append
  rw [data.length_toList]
  decide

theorem minds_writing (data : Octets 16) (wait : Timeout) : Act.Minds obeyed.sized (do
    sendAcked (.ofBytes (TypeA.writeBlock 0)) wait
    sendAcked (.ofBytes (Crc.a.append data.toList)) wait) :=
  (minds_sendBytes (by decide) (Chip.not_unanswered_bits (by decide))).bind fun _ =>
    minds_sendBytes (holds_block data) (not_unanswered_block data wait)

theorem minds_operation (operation : Operation) : operation.run.Minds obeyed.sized.around := by
  cases operation with
  | unlock => exact minds_unlock
  | wipe => exact minds_raw minds_wiping
  | writeBlockZero data => exact minds_raw (minds_writing data)
  | setUid uid sak atqa => exact minds_unlock.bind fun _ => minds_raw (minds_writing _)

end TypeA.Magic

namespace Srx.Tag

theorem minds_info {m : Manner} : info.Minds m := by
  refine Act.minds_get.bind fun d => ?_
  cases d.selected with
  | none => exact Act.minds_throw _
  | some t => exact Act.minds_ofExcept _

theorem not_unanswered_readBlock (block : UInt8) (wait : Timeout) :
    ¬ Unanswered (.bytes (Crc.b.append (Srx.readBlock block)) wait) :=
  Chip.not_unanswered_bytes (by decide : (none, some 0x08) ∉ Chip.unansweredMarks)

theorem minds_readBlockOf (c : ChipInfo) (block : UInt8) :
    (readBlockOf c block).Minds obeyed.sized.around := by
  have holds : Chip.Holds (Crc.b.append (Srx.readBlock block)).length :=
    Chip.holds_append .b (by decide : 4 ≤ Chip.frameLimit)
  exact (Act.minds_ofExcept _).bind fun _ => Device.minds_timeout.bind fun wait =>
    (Chip.minds_withoutHardwareCrc (Chip.minds_exchangeChecked (m := obeyed.sized) ⟨rfl, holds⟩
      (not_unanswered_readBlock block wait))).bind fun _ =>
    (Act.minds_ofExcept _).bind fun _ => Act.minds_pure _

theorem minds_silent {frame : Bytes} {wait : Timeout}
    (unanswered : Unanswered (.bytes (Crc.b.append frame) wait)) :
    (Chip.silentAsNone (Chip.exchangeChecked .b frame wait) >>= fun _ => pure () :
      Act Chip (Device .initiator) Unit).Minds obeyed.sized := by
  rw [Chip.exchangeChecked_eq]
  refine Chip.minds_unanswered ⟨rfl, unanswered.fits⟩ unanswered (fun r e lost => ?_) ?_
    (Act.minds_pure ())
  · rw [Chip.eq_error_of_lost_bytes lost]
    rfl
  · exact ⟨Except.ok (Crc.b.append [0]), [0], rfl, Crc.strip_append .b [0] (List.cons_ne_nil _ _)⟩

theorem minds_sendSilent {frame : Bytes} {wait : Timeout}
    (unanswered : Unanswered (.bytes (Crc.b.append frame) wait)) :
    (sendSilent frame wait).Minds obeyed.sized.around :=
  Chip.minds_withoutHardwareCrc (minds_silent unanswered)

theorem minds_writeBlock (block : UInt8) (data : Bytes) :
    (writeBlock block data).Minds obeyed.sized.around := by
  refine minds_info.bind fun c => (Act.minds_ofExcept _).bind fun _ =>
    Act.minds_ofExcept_bind fun frame built => Device.minds_timeout.bind fun wait =>
    (minds_sendSilent (.writeBlock wait built)).bind fun _ => (Chip.minds_sleep _).bind fun _ =>
    (minds_readBlockOf c block).bind fun held => ?_
  split
  · exact Act.minds_throw _
  · exact Act.minds_pure ()

theorem minds_operation (operation : Operation) : operation.run.Minds obeyed.sized.around := by
  cases operation with
  | info => exact minds_info.bind fun _ => Act.minds_pure ()
  | readBlock block =>
      exact (minds_info.bind fun c => minds_readBlockOf c block).bind fun _ => Act.minds_pure ()
  | writeBlock block data => exact minds_writeBlock block data
  | complete =>
      exact minds_info.bind fun _ => Device.minds_timeout.bind fun wait =>
        (minds_sendSilent (.completion wait)).bind fun _ => Act.minds_modify _

end Srx.Tag

namespace Felica.Card

theorem minds_idm {m : Manner} : idm.Minds m := by
  refine Act.minds_get.bind fun d => ?_
  split
  · exact Act.minds_pure _
  · exact Act.minds_throw _

theorem minds_operation (operation : Operation) : operation.run.Minds plain.sized := by
  cases operation with
  | idm => exact minds_idm.bind fun _ => Act.minds_pure ()
  | read services blocks =>
      have reads : (Card.read services blocks).Minds plain.sized :=
        minds_idm.bind fun _ => (Act.minds_ofExcept _).bind fun _ =>
          (Device.minds_exchange _).bind fun _ => (Act.minds_ofExcept _).bind fun _ =>
          Act.minds_ofExcept _
      exact reads.bind fun _ => Act.minds_pure ()
  | write services blocks data =>
      exact minds_idm.bind fun _ => (Act.minds_ofExcept _).bind fun _ =>
        (Device.minds_exchange _).bind fun _ => Act.minds_ofExcept _

end Felica.Card

namespace Jewel.Tag

theorem minds_uid {m : Manner} : uid.Minds m := by
  refine Act.minds_get.bind fun d => ?_
  split
  · exact Act.minds_pure _
  · exact Act.minds_throw _

theorem minds_exchange (request : Request) : (exchange request).Minds plain.sized :=
  (Device.minds_exchange _).bind fun _ => Act.minds_ofExcept _

theorem minds_byteExchange (request : Request) : (byteExchange request).Minds plain.sized := by
  refine (minds_exchange request).bind fun response => ?_
  cases response with
  | byte => exact Act.minds_pure _
  | _ => exact Act.minds_throw _

theorem minds_blockExchange (request : Request) : (blockExchange request).Minds plain.sized := by
  refine (minds_exchange request).bind fun response => ?_
  cases response with
  | block => exact Act.minds_pure _
  | _ => exact Act.minds_throw _

theorem minds_readAll : readAll.Minds plain.sized := by
  refine minds_uid.bind fun id => (minds_exchange _).bind fun response => ?_
  cases response with
  | rall => exact Act.minds_pure _
  | _ => exact Act.minds_throw _

theorem minds_writeByteOf (id : TagId) (block byte data : UInt8) (erase : Bool) :
    (writeByteOf id block byte data erase).Minds plain.sized := by
  refine (Act.minds_ofExcept _).bind fun address => (minds_byteExchange _).bind fun held => ?_
  split
  · exact Act.minds_throw _
  · exact Act.minds_pure ()

theorem minds_operation (operation : Operation) : operation.run.Minds plain.sized := by
  have done (α : Type) (_ : α) : (pure () : Act Chip (Device .initiator) Unit).Minds plain.sized :=
    Act.minds_pure ()
  cases operation with
  | exchange request =>
      exact (minds_uid.bind fun _ => minds_exchange request).bind (done _)
  | readAll => exact minds_readAll.bind (done _)
  | readByte block byte =>
      exact (minds_uid.bind fun _ => (Act.minds_ofExcept _).bind fun _ =>
        minds_byteExchange _).bind (done _)
  | writeByte block byte data erase =>
      exact minds_uid.bind fun id => minds_writeByteOf id block byte data erase
  | readBlock block => exact (minds_uid.bind fun _ => minds_blockExchange _).bind (done _)
  | writeBlock block data erase =>
      exact minds_uid.bind fun _ => (minds_blockExchange _).bind (done _)
  | restore dump =>
      exact minds_uid.bind fun id => Act.Minds.forM (fun _ => minds_writeByteOf id _ _ _ true) _

end Jewel.Tag

namespace Dep

/-- A link is opened where a target answers; the one before it is given up first. -/
def linking : Manner :=
  ⟨fun call => Greeting call ∨ Release call, Greeting, fun _ => False⟩

theorem linking_exchanges (call : Chip.Call) (asks : linking.asks call) :
    call.isExchange = true := by
  rcases asks with ⟨_, _⟩ | ⟨_, _⟩ <;> rfl

section Exchanges

theorem minds_sendPdu (pdu : Pdu) (wait : Timeout) : (sendPdu pdu wait).Minds plain.sized :=
  (Act.minds_ofExcept _).bind fun frame => Chip.sized_exchangeBytes frame wait

theorem minds_settle (wait : Timeout) (answer : Bytes) :
    (settle wait answer).Minds plain.sized := by
  refine (Act.minds_ofExcept _).bind fun pdu => ?_
  split
  · exact (Act.minds_ofExcept _).bind fun _ => (minds_sendPdu _ _).bind fun _ => Act.minds_pure _
  · exact Act.minds_pure _

theorem minds_roundTrip (pdu : Pdu) (wait : Timeout) : (roundTrip pdu wait).Minds plain.sized :=
  (minds_sendPdu pdu wait).bind fun _ => Act.Minds.loop (minds_settle wait) _

end Exchanges

namespace Linked

theorem minds_onDevice {m : Manner} {α : Type} {x : Act Chip (Device .initiator) α}
    (minds : x.Minds m) : (onDevice x).Minds m :=
  Act.Minds.zoom minds Linked.device fun device s => { s with device }

theorem minds_roundTrip (pdu : Pdu) : (roundTrip pdu).Minds plain.sized :=
  Act.minds_get.bind fun _ => minds_onDevice (Dep.minds_roundTrip pdu _)

theorem minds_sendPiece (piece : Bytes) : (sendPiece piece).Minds plain.sized := by
  refine Act.minds_get.bind fun s => (minds_roundTrip _).bind fun answer => ?_
  split
  · exact Act.minds_modify _
  · exact Act.minds_throw _

theorem minds_collect (received : Bytes × Pdu) : (collect received).Minds plain.sized := by
  obtain ⟨payload, answer⟩ := received
  refine Act.minds_get.bind fun s => ?_
  dsimp only
  cases answer.pfb with
  | information more n =>
      by_cases inTurn : n = s.link.pni
      · dsimp only
        rw [if_pos inTurn]
        refine (Act.minds_modify _).bind fun _ => ?_
        cases more with
        | false => exact Act.minds_pure _
        | true => exact (minds_roundTrip _).bind fun _ => Act.minds_pure _
      · dsimp only
        rw [if_neg inTurn]
        exact Act.minds_throw _
  | _ => exact Act.minds_throw _

theorem minds_transceive (payload : Bytes) : (transceive payload).Minds plain.sized :=
  Act.minds_get.bind fun _ => (Act.Minds.forM minds_sendPiece _).bind fun _ =>
    Act.minds_get.bind fun _ => (minds_roundTrip _).bind fun _ => Act.Minds.loop minds_collect _

theorem minds_attention : attention.Minds plain.sized := by
  refine (minds_roundTrip _).bind fun answer => ?_
  split
  · exact Act.minds_throw _
  · exact Act.minds_pure ()

theorem minds_exchange (frame : Bytes) : (exchange frame).Minds plain.sized :=
  minds_onDevice (Device.minds_exchange frame)

theorem minds_setBaud (baud : BaudRate) : (setBaud baud).Minds plain.sized := by
  have rest (info : DepInfo) : Act.Minds plain.sized (do
      let request ← Act.ofExcept (psl info.did baud (info.pp >>> 4))
      let answer ← exchange request
      let _ ← Act.ofExcept (unbuildAs .answer pslAnswer answer)
      modify fun s =>
        let info := { s.link.info with baud }
        { device := { s.device with selected := some (.dep info) }
          link := { s.link with info } }) :=
    (Act.minds_ofExcept _).bind fun _ => (minds_exchange _).bind fun _ =>
      (Act.minds_ofExcept _).bind fun _ => Act.minds_modify _
  refine Act.minds_get.bind fun s => ?_
  dsimp only
  split
  · exact (Act.minds_throw _).bind fun _ => rest _
  · exact rest _

end Linked

namespace InitiatorSide

theorem minds_onDevice {m : Manner} {α : Type} {x : Act Chip (Device .initiator) α}
    (minds : x.Minds m) : (onDevice x).Minds m :=
  Act.Minds.zoom minds InitiatorSide.device fun device s => { s with device }

theorem minds_linked {m : Manner} {α : Type} {x : Act Chip Linked α} (minds : x.Minds m) :
    (linked x).Minds m := by
  intro n s
  unfold linked
  cases s.link with
  | none => exact .done _
  | some link => exact (minds n _).bind (fun _ _ => .done _) fun _ => .done _

theorem minds_deselect : deselect.Minds (.strict Release) := by
  refine Act.minds_get.bind fun s => ?_
  cases s.link with
  | none => exact Act.minds_pure ()
  | some link =>
      refine (Act.minds_modify _).bind fun _ => Act.minds_ofExcept_bind fun request built => ?_
      have asks : (Device.exchange request).Minds (.strict Release) :=
        Device.minds_timeout.bind fun wait =>
          Chip.strict_exchangeBytes (Release.request wait built)
      exact (minds_onDevice asks).bind fun _ => (Act.minds_ofExcept _).bind fun _ =>
        Act.minds_pure ()

theorem minds_select (mode : DepMode) (baud : BaudRate) (generalBytes : Option Bytes)
    (wait : Timeout) : (select mode baud generalBytes wait).Minds linking := by
  have releases : deselect.Minds linking :=
    minds_deselect.mono fun _ release => ⟨.inr release, False.elim, id⟩
  refine releases.bind fun _ => Act.minds_get.bind fun s =>
    Act.minds_ofExcept_bind fun frame encoded => ?_
  have opens := Chip.strict_exchangeBytes (σ := InitiatorSide) (Greeting.request wait encoded)
  refine (Chip.minds_silentAsNone (m := linking) opens fun _ greeting =>
    ⟨.inl greeting, greeting, id⟩).bind fun answer => ?_
  cases answer with
  | none => exact Act.minds_pure none
  | some answer =>
      exact (Act.minds_ofExcept _).bind fun _ => (Act.minds_modify _).bind fun _ =>
        Act.minds_pure _

theorem minds_operation {operation : Operation} (link : operation.searches = false) :
    operation.run.Minds plain.sized := by
  cases operation with
  | select | poll => cases link
  | setBaud baud => exact minds_linked (Linked.minds_setBaud baud)
  | transceive payload =>
      exact (minds_linked (Linked.minds_transceive payload)).bind fun _ => Act.minds_pure ()
  | attention => exact minds_linked Linked.minds_attention
  | deselect =>
      refine minds_deselect.strict_mono fun call release => ⟨?_, release.fits⟩
      cases release
      rfl

end InitiatorSide

end Dep

theorem Operation.minds_bytes (data : Bytes) (wait : Option Timeout) :
    (run (.bytes data wait)).Minds plain.sized := by
  cases wait with
  | none =>
      exact Dep.InitiatorSide.minds_onDevice
        ((Device.minds_exchange data).bind fun _ => Act.minds_pure ())
  | some wait =>
      exact Dep.InitiatorSide.minds_onDevice
        ((Chip.sized_exchangeBytes data wait).bind fun _ => Act.minds_pure ())

end Contactless
