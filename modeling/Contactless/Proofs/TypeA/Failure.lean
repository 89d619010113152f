import Contactless.Proofs.Faults
import Contactless.Relay.Emulated

/-! How looking for a type A tag may fail: with a failure of the chip, passed on, or with one of its
own, of which only one names a breach of the protocol. -/
namespace Contactless

namespace TypeA

/-- The only breach of the protocol by which a search of its own fails. -/
def fourthLevel : Error := .rfProtocol "cascade bit set at cascade level 3"

/-- Failures that looking for a tag has of its own. -/
def Ordinary (e : Error) : Prop := ∀ detail, e = .rfProtocol detail → e = fourthLevel

section Readers

variable {e : Error}

theorem ordinary_readAtqa {frame : BitFrame} (h : Activator.readAtqa frame = .error e) :
    Ordinary e := by
  unfold Activator.readAtqa at h
  split at h
  split at h
  · cases h
  · cases h
    exact fun _ => Error.noConfusion

theorem ordinary_readGroup {frame : BitFrame} (h : Activator.readGroup frame = .error e) :
    Ordinary e := by
  unfold Activator.readGroup Octets.ofBytes at h
  split at h
  · split at h
    · cases h
    · cases h
      exact fun _ => Error.noConfusion
  · cases h
    exact fun _ => Error.noConfusion

theorem ordinary_strip {c : Crc} {frame : Bytes} (h : c.strip frame = .error e) : Ordinary e := by
  unfold Crc.strip at h
  split at h
  · cases h
    exact fun _ => Error.noConfusion
  · dsimp only at h
    split at h
    · cases h
    · cases h
      exact fun _ => Error.noConfusion

theorem ordinary_parseSak {frame : Bytes} (h : parseSak frame = .error e) : Ordinary e := by
  unfold parseSak at h
  split at h
  · cases h
  · split at h
    · cases h
    · rename_i failed
      cases h
      exact ordinary_strip failed
  · cases h
    exact fun _ => Error.noConfusion

theorem ordinary_parseAts {frame : Bytes} (h : parseAts frame = .error e) : Ordinary e := by
  unfold parseAts at h
  split at h
  · cases h
    exact fun _ => Error.noConfusion
  · split at h
    · cases h
      exact fun _ => Error.noConfusion
    · split at h
      · split at h
        · cases h
        · rename_i failed
          cases h
          exact ordinary_strip failed
      · split at h
        · cases h
        · cases h
          exact fun _ => Error.noConfusion

theorem ordinary_ofBytes {bytes : Bytes} (h : Uid.ofBytes bytes = .error e) : Ordinary e := by
  unfold Uid.ofBytes at h
  split at h
  · cases h
  · cases h
    exact fun _ => Error.noConfusion

end Readers

section Search

variable {σ : Type}

theorem faults_exchangeFrame (frame : BitFrame) (wait : Timeout) :
    Act.Faults Ordinary (Chip.exchangeFrame frame wait : Act Chip σ BitFrame) := by
  unfold Chip.exchangeFrame
  split
  · exact Act.faults_throw fun _ => Error.noConfusion
  · exact Chip.faults_bits frame wait

theorem faults_exchangeBytes (frame : Bytes) (wait : Timeout) :
    Act.Faults Ordinary (Chip.exchangeBytes frame wait : Act Chip σ Bytes) := by
  unfold Chip.exchangeBytes
  split
  · exact Act.faults_throw fun _ => Error.noConfusion
  · split
    · exact Act.faults_throw fun _ => Error.noConfusion
    · exact Chip.faults_bytes frame wait

theorem faults_wake : Act.Faults Ordinary Activator.wake :=
  (Act.faults_modify _).bind fun _ => Act.faults_get.bind fun _ =>
    (faults_exchangeFrame _ _).bind fun _ => Act.faults_ofExcept fun _ => ordinary_readAtqa

theorem faults_anticollision (level : CascadeLevel) :
    Act.Faults Ordinary (Activator.anticollision level) := by
  refine (Act.faults_modify _).bind fun _ => Act.faults_get.bind fun _ =>
    (faults_exchangeFrame _ _).bind fun _ =>
    (Act.faults_ofExcept fun _ => ordinary_readGroup).bind fun chunk => ?_
  cases checkBcc chunk with
  | valid => exact Act.faults_pure chunk
  | mismatch => exact (Act.faults_modify _).bind fun _ => Act.faults_pure _

theorem faults_select (level : CascadeLevel) (chunk : Octets 5) :
    Act.Faults Ordinary (Activator.select level chunk) :=
  Act.faults_get.bind fun _ => (faults_exchangeBytes _ _).bind fun _ =>
    Act.faults_ofExcept fun _ => ordinary_parseSak

theorem faults_rats : Act.Faults Ordinary Activator.rats :=
  Act.faults_get.bind fun _ => (faults_exchangeBytes _ _).bind fun _ =>
    Act.faults_ofExcept fun _ => ordinary_parseAts

theorem faults_resolveLevel (level : CascadeLevel) (resolved : Bytes) :
    Act.Faults Ordinary (Activator.resolveLevel none level resolved) := by
  refine (Act.faults_modify _).bind fun _ => (faults_anticollision level).bind fun chunk =>
    (faults_select level chunk).bind fun sak => (Act.faults_modify _).bind fun _ => ?_
  split
  · split
    · exact (Act.faults_modify _).bind fun _ => Act.faults_pure _
    · exact (Act.faults_pure _).bind fun _ => Act.faults_pure _
  · exact (Act.faults_ofExcept fun _ same => nomatch same).bind fun _ => Act.faults_pure _

theorem faults_resolve (levels : List CascadeLevel) (resolved : Bytes) :
    Act.Faults Ordinary (Activator.resolve none levels resolved) := by
  induction levels generalizing resolved with
  | nil => exact Act.faults_throw fun _ _ => rfl
  | cons level rest ih =>
      refine (faults_resolveLevel level resolved).bind fun ended => ?_
      cases ended with
      | complete uid sak => exact Act.faults_pure _
      | cascade resolved => exact ih resolved

theorem faults_identify (atqa : Octets 2) :
    Act.Faults Ordinary (Activator.identify none atqa) := by
  refine (faults_resolve _ _).bind fun (resolved, sak) => ?_
  have rest (ats : Bytes) : Act.Faults Ordinary (do
      let uid ← Act.ofExcept (Uid.ofBytes resolved)
      Activator.enter .activated
      modifyGet fun a =>
        ((⟨.typeA atqa sak uid ats, a.warnings⟩ : Activation), { a with warnings := [] })) :=
    (Act.faults_ofExcept fun _ => ordinary_ofBytes).bind fun _ =>
      (Act.faults_modify _).bind fun _ => Act.faults_modifyGet _
  dsimp only
  split
  · exact (Act.faults_modify _).bind fun _ => faults_rats.bind rest
  · exact rest []

theorem faults_activate : Act.Faults Ordinary (Activator.activate none) := by
  refine Chip.faults_withRawFraming ((Act.faults_modify _).bind fun _ =>
    faults_wake.attempt_bind fun woken => ?_)
  cases woken with
  | ok atqa =>
      refine Act.Faults.mono ?_ fun _ => Or.inl
      exact (faults_identify atqa).bind fun _ => Act.faults_pure _
  | error e =>
      dsimp only
      split
      · exact (Act.faults_modify _).bind fun _ => Act.faults_pure _
      · exact Act.faults_throw (.inr rfl)

end Search

end TypeA

namespace Relay

open TypeA (Ordinary)

theorem faults_deviceActivate : Act.Faults Ordinary (Device.activate none) :=
  Act.faults_get.bind fun _ => (TypeA.faults_activate.within _).bind fun _ =>
    (Act.faults_modify _).bind fun _ => Act.faults_pure _

theorem faults_find : Act.Faults Ordinary (Device.find .typeA none) := by
  have wait : Act.Faults Ordinary Device.timeout := Act.faults_get.bind fun _ => Act.faults_pure _
  unfold Device.find
  refine wait.bind fun _ => ?_
  change Act.Faults Ordinary
    (Device.activate none >>= fun found => pure (found.map TypeA.Activation.target))
  exact faults_deviceActivate.bind fun _ => Act.faults_pure _

theorem faults_selectPassive : Act.Faults Ordinary (Device.selectPassive .typeA none) :=
  faults_find.bind fun _ => (Act.faults_modify _).bind fun _ => Act.faults_pure _

/-- Failures while a tag is waited for are those of the chip, or ordinary ones. -/
theorem faults_waitForTag : Act.Faults Ordinary waitForTag := by
  have aborts {own : Error → Prop} (owned : own .aborted) :
      Act.Faults own (Chip.checkAbort : Act Chip (Device .initiator) Unit) :=
    Act.faults_request fun pending e same => by
      cases pending with
      | false => cases same
      | true =>
          cases same
          exact .inl owned
  have sleeps (wait : Timeout) :
      Act.Faults Ordinary (Chip.sleep wait : Act Chip (Device .initiator) Unit) :=
    Act.faults_request fun cutShort e same => by
      cases cutShort with
      | false => cases same
      | true =>
          cases same
          exact .inl fun _ => Error.noConfusion
  have round : Act.Faults Ordinary (Device.pollRound [.typeA]) := by
    refine (aborts fun _ => Error.noConfusion).bind fun _ =>
      faults_selectPassive.bind fun found => ?_
    cases found with
    | none => exact Act.faults_pure none
    | some target => exact Act.faults_pure (some target)
  refine Act.faults_get.bind fun d => Act.Faults.loop (fun _ => round.bind fun found => ?_) ()
  cases found with
  | none => exact (sleeps _).bind fun _ => Act.faults_pure _
  | some target => exact Act.faults_pure _

end Relay

end Contactless
