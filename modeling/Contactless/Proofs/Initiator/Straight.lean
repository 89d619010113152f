import Contactless.Device.Selection
import Contactless.Proofs.Straight

/-! Selecting a target involves no open-ended loop, so a selection always comes to an outcome. -/
namespace Contactless

open Act

namespace TypeA.Activator

theorem straight_wake : wake.Straight :=
  (straight_modify _).bind fun _ => straight_get.bind fun _ =>
    (Chip.straight_exchangeFrame _ _).bind fun _ => straight_ofExcept _

theorem straight_anticollision (level : CascadeLevel) : (anticollision level).Straight := by
  refine (straight_modify _).bind fun _ => straight_get.bind fun _ =>
    (Chip.straight_exchangeFrame _ _).bind fun _ => (straight_ofExcept _).bind fun chunk => ?_
  cases checkBcc chunk with
  | valid => exact straight_pure chunk
  | mismatch => exact (straight_modify _).bind fun _ => straight_pure _

theorem straight_select (level : CascadeLevel) (chunk : Octets 5) :
    (select level chunk).Straight :=
  straight_get.bind fun _ => (Chip.straight_exchangeBytes _ _).bind fun _ => straight_ofExcept _

theorem straight_rats : rats.Straight :=
  straight_get.bind fun _ => (Chip.straight_exchangeBytes _ _).bind fun _ => straight_ofExcept _

theorem straight_groupAt (wanted : Option (List (Octets 5))) (level : CascadeLevel) :
    (groupAt wanted level).Straight := by
  unfold groupAt
  split
  · exact straight_anticollision level
  · split
    · exact straight_pure _
    · exact straight_throw _

theorem straight_resolveLevel (wanted : Option (List (Octets 5))) (level : CascadeLevel)
    (resolved : Bytes) : (resolveLevel wanted level resolved).Straight := by
  refine (straight_modify _).bind fun _ => (straight_groupAt wanted level).bind fun chunk =>
    (straight_select level chunk).bind fun sak => (straight_modify _).bind fun _ => ?_
  split
  · split
    · exact (straight_modify _).bind fun _ => straight_pure _
    · exact (straight_pure _).bind fun _ => straight_pure _
  · exact (straight_ofExcept _).bind fun _ => straight_pure _

theorem straight_resolve (wanted : Option (List (Octets 5))) (levels : List CascadeLevel)
    (resolved : Bytes) : (resolve wanted levels resolved).Straight := by
  induction levels generalizing resolved with
  | nil => exact straight_throw _
  | cons level rest ih =>
      refine (straight_resolveLevel wanted level resolved).bind fun ended => ?_
      cases ended with
      | complete uid sak => exact straight_pure _
      | cascade resolved => exact ih resolved

theorem straight_identify (wanted : Option Uid) (atqa : Octets 2) :
    (identify wanted atqa).Straight := by
  refine (straight_resolve _ _ _).bind fun (resolved, sak) => ?_
  have rest (ats : Bytes) : Act.Straight (do
      let uid ← Act.ofExcept (Uid.ofBytes resolved)
      enter .activated
      modifyGet fun a =>
        ((⟨.typeA atqa sak uid ats, a.warnings⟩ : Activation), { a with warnings := [] })) :=
    (straight_ofExcept _).bind fun _ => (straight_modify _).bind fun _ => straight_modifyGet _
  dsimp only
  split
  · exact (straight_modify _).bind fun _ => straight_rats.bind rest
  · exact rest []

theorem straight_activate (wanted : Option Uid) : (activate wanted).Straight := by
  refine Chip.straight_withRawFraming ((straight_modify _).bind fun _ =>
    straight_wake.attempt.bind fun woken => ?_)
  cases woken with
  | ok atqa => exact (straight_identify wanted atqa).bind fun _ => straight_pure _
  | error e =>
      dsimp only
      split
      · exact (straight_modify _).bind fun _ => straight_pure _
      · exact straight_throw e

end TypeA.Activator

namespace Search

variable {σ : Type}

theorem straight_typeB (family : UInt8) (wait : Timeout) :
    (typeB family wait : Act Chip σ (Option Target)).Straight := by
  refine (Chip.straight_silentAsNone (straight_request _ _)).bind fun answer => ?_
  cases answer with
  | none => exact straight_pure _
  | some answer => exact (straight_ofExcept _).bind fun _ => straight_pure _

theorem straight_felica (baud : BaudRate) (system : UInt16) (wait : Timeout) :
    (felica baud system wait : Act Chip σ (Option Target)).Straight := by
  refine (Chip.straight_silentAsNone (straight_request _ _)).bind fun answer => ?_
  cases answer with
  | none => exact straight_pure _
  | some answer => exact (straight_ofExcept _).bind fun _ => straight_pure _

theorem straight_srx (wait : Timeout) : (srx wait : Act Chip σ (Option Target)).Straight := by
  refine Chip.straight_withoutHardwareCrc
    ((Chip.straight_silentAsNone (Chip.straight_exchangeChecked _ _ _)).bind fun answer => ?_)
  cases answer with
  | none => exact straight_pure _
  | some answer =>
      exact (straight_ofExcept _).bind fun _ => (Chip.straight_exchangeChecked _ _ _).bind fun _ =>
        (straight_ofExcept _).bind fun _ => (Chip.straight_exchangeChecked _ _ _).bind fun _ =>
        (straight_ofExcept _).bind fun _ => straight_pure _

theorem straight_jewel (wait : Timeout) : (jewel wait : Act Chip σ (Option Target)).Straight := by
  refine (Chip.straight_silentAsNone (straight_request _ _)).bind fun answer => ?_
  cases answer with
  | none => exact straight_pure _
  | some frame =>
      refine (straight_ofExcept _).bind fun _ => (straight_request _ _).bind fun _ =>
        (straight_ofExcept _).bind fun response => ?_
      cases response with
      | rid => exact straight_pure _
      | _ => exact straight_throw _

end Search

namespace Device

theorem straight_activate (wanted : Option Uid) : (activate wanted).Straight :=
  straight_get.bind fun _ => ((TypeA.Activator.straight_activate wanted).within _).bind fun _ =>
    (straight_modify _).bind fun _ => straight_pure _

theorem straight_find (modulation : Modulation) (hint : Option Bytes) :
    (find modulation hint).Straight := by
  refine (straight_get.bind fun _ => straight_pure _).bind fun wait => ?_
  split
  · exact (straight_ofExcept _).bind fun wanted =>
      (straight_activate wanted).bind fun _ => straight_pure _
  · exact Search.straight_typeB _ wait
  · exact Search.straight_srx wait
  · exact (straight_ofExcept _).bind fun system => Search.straight_felica _ system wait
  · exact Search.straight_jewel wait
  · exact straight_throw _
  · exact straight_throw _
  · exact straight_throw _
  · exact straight_throw _

theorem straight_selectPassive (modulation : Modulation) (hint : Option Bytes) :
    (selectPassive modulation hint).Straight :=
  (straight_find modulation hint).bind fun _ => (straight_modify _).bind fun _ => straight_pure _

end Device

end Contactless
