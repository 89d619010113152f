import Contactless.Proofs.Dep.Calls
import Contactless.Proofs.Dep.Supervision
import Contactless.Proofs.Ensures
import Contactless.Proofs.Initiator.Operation

/-! The link of the data exchange initiator and the target that its device has selected. They are
two records of one fact, and every operation keeps them together, however it ends. -/
namespace Contactless.Dep

open Act

section Rounds

/-- A round leaves the device as it is. -/
theorem follows_exchangeBytes {σ : Type} (frame : Bytes) (wait : Timeout) :
    (Chip.exchangeBytes frame wait : Act Chip σ Bytes).Follows Eq := by
  unfold Chip.exchangeBytes
  split
  · exact follows_throw _
  · split
    · exact follows_throw _
    · exact follows_request

theorem follows_exchange (frame : Bytes) : (Device.exchange frame).Follows Eq :=
  (follows_get.bind fun _ => follows_pure _).bind fun wait => follows_exchangeBytes frame wait

theorem follows_sendPdu (pdu : Pdu) (wait : Timeout) : (sendPdu pdu wait).Follows Eq :=
  (follows_ofExcept _).bind fun _ => follows_exchangeBytes _ wait

theorem follows_settle (wait : Timeout) (answer : Bytes) : (settle wait answer).Follows Eq := by
  refine (follows_ofExcept _).bind fun pdu => ?_
  split
  · exact (follows_ofExcept _).bind fun _ => (follows_sendPdu _ _).bind fun _ => follows_pure _
  · exact follows_pure _

theorem follows_roundTrip (pdu : Pdu) (wait : Timeout) : (roundTrip pdu wait).Follows Eq :=
  (follows_sendPdu pdu wait).bind fun _ => Follows.loop (follows_settle wait) _

end Rounds

namespace Linked

/-- Only the packet number changed, and it still has two bits if it had. -/
structure Counted (s s' : Linked) : Prop where
  device : s'.device = s.device
  info : s'.link.info = s.link.info
  small : s.link.pni ≤ 3 → s'.link.pni ≤ 3

instance : IsPreorder Linked Counted where
  refl _ := ⟨rfl, rfl, id⟩
  trans _ _ _ first later := ⟨later.device.trans first.device, later.info.trans first.info,
    fun small => later.small (first.small small)⟩

theorem follows_onDevice {α : Type} {x : Act Chip (Device .initiator) α} (follows : x.Follows Eq) :
    (onDevice x).Follows Eq :=
  follows.zoom fun _ _ same => by
    rw [← same]

theorem follows_roundTrip (pdu : Pdu) : (roundTrip pdu).Follows Eq :=
  follows_get.bind fun _ => follows_onDevice (Dep.follows_roundTrip pdu _)

theorem follows_advance : advance.Follows Counted :=
  follows_modify fun _ => ⟨rfl, rfl, fun _ => nextPni_le _⟩

theorem follows_sendPiece (piece : Bytes) : (sendPiece piece).Follows Counted := by
  refine follows_get.bind fun s => (follows_roundTrip _).of_eq.bind fun answer => ?_
  split
  · exact follows_advance
  · exact follows_throw _

theorem follows_collect (received : Bytes × Pdu) : (collect received).Follows Counted := by
  obtain ⟨payload, answer⟩ := received
  refine follows_get.bind fun s => ?_
  dsimp only
  cases answer.pfb with
  | information more n =>
      by_cases inTurn : n = s.link.pni
      · dsimp only
        rw [if_pos inTurn]
        refine follows_advance.bind fun _ => ?_
        cases more with
        | false => exact follows_pure _
        | true => exact (follows_roundTrip _).of_eq.bind fun _ => follows_pure _
      · dsimp only
        rw [if_neg inTurn]
        exact follows_throw _
  | _ => exact follows_throw _

theorem follows_transceive (payload : Bytes) : (transceive payload).Follows Counted :=
  follows_get.bind fun _ => (Follows.forM follows_sendPiece _).bind fun _ =>
    follows_get.bind fun _ => (follows_roundTrip _).of_eq.bind fun _ =>
      Follows.loop follows_collect _

theorem follows_attention : attention.Follows Counted := by
  refine (follows_roundTrip _).of_eq.bind fun answer => ?_
  split
  · exact follows_throw _
  · exact follows_pure ()

/-- A failure leaves everything as it was, and a success changes the bit rate and nothing else. -/
def Retuned (baud : BaudRate) (s : Linked) (r : Except Error Unit) (s' : Linked) : Prop :=
  match r with
  | .ok () => s' = s.atBaud baud
  | .error _ => s' = s

theorem ensures_setBaud (baud : BaudRate) (s : Linked) :
    (setBaud baud).Ensures s (Retuned baud s) := by
  have rest : Ensures (do
      let request ← Act.ofExcept (psl s.link.info.did baud (s.link.info.pp >>> 4))
      let answer ← exchange request
      let _ ← Act.ofExcept (unbuildAs .answer pslAnswer answer)
      modify fun s =>
        let info := { s.link.info with baud }
        { device := { s.device with selected := some (.dep info) }
          link := { s.link with info } }) s (Retuned baud s) := by
    have fails {e : Error} {s' : Linked} (same : s = s') : Retuned baud s (.error e) s' :=
      same.symm
    refine (follows_ofExcept _ s).bind (fun request s₁ same₁ => ?_) fun _ _ => fails
    subst same₁
    refine (follows_onDevice (follows_exchange request) s).bind (fun answer s₂ same₂ => ?_)
      fun _ _ => fails
    subst same₂
    refine (follows_ofExcept _ s).bind (fun _ s₃ same₃ => ?_) fun _ _ => fails
    subst same₃
    exact ensures_modify rfl
  refine ensures_get_bind ?_
  dsimp only
  split
  · refine (follows_throw (R := Eq) _ s).bind (fun _ s₁ same => ?_) fun _ _ same => same.symm
    subst same
    exact rest
  · exact rest

end Linked

namespace InitiatorSide

variable {s : InitiatorSide}

theorem ensures_linked {α : Type} {x : Act Chip Linked α}
    {post : Except Error α → InitiatorSide → Prop}
    (alone : s.link = none → post (.error (.invalidParameter "no DEP target selected")) s)
    (together : ∀ link, s.link = some link →
      x.Ensures ⟨s.device, link⟩ fun r u => post r ⟨u.device, some u.link⟩) :
    (linked x).Ensures s post := by
  cases opened : s.link with
  | none =>
      refine ensures_done (fun n => ?_) (alone opened)
      unfold linked
      rw [opened]
  | some link =>
      rintro t r s' ⟨n, yields⟩
      unfold linked at yields
      rw [opened] at yields
      obtain ⟨u, v, ⟨outcome, after⟩, rfl, went, goes⟩ := Dialogue.yields_bind_iff.mp yields
      cases goes
      exact together link opened u outcome after ⟨n, went⟩

/-- The initiator without the link that it may have had. -/
def released (s : InitiatorSide) : InitiatorSide :=
  match s.link with
  | none => s
  | some _ => ⟨{ s.device with selected := none }, none⟩

theorem follows_onDevice {α : Type} {x : Act Chip (Device .initiator) α} (follows : x.Follows Eq) :
    (onDevice x).Follows Eq :=
  follows.zoom fun _ _ same => by
    rw [← same]

theorem ensures_deselect (s : InitiatorSide) :
    deselect.Ensures s fun r s' => s' = s.released ∧ (s.link = none → r = .ok ()) := by
  refine ensures_get_bind ?_
  unfold released
  cases opened : s.link with
  | none => exact ensures_pure ⟨rfl, fun _ => rfl⟩
  | some link =>
      refine ensures_modify_bind ?_
      have asks : (do
          let request ← Act.ofExcept (rls link.info.did)
          let answer ← onDevice (Device.exchange request)
          let _ ← Act.ofExcept (unbuildAs .answer rlsAnswer answer) :
          Act Chip InitiatorSide Unit).Follows Eq :=
        (follows_ofExcept _).bind fun _ => (follows_onDevice (follows_exchange _)).bind fun _ =>
          (follows_ofExcept _).bind fun _ => follows_pure ()
      exact (asks _).mono fun _ _ same => ⟨same.symm, fun none => nomatch none⟩

/-- A search leaves a link where it found a target, which it selected, and nowhere else. -/
def Found (r : Except Error (Option Target)) (s' : InitiatorSide) : Prop :=
  match r with
  | .ok (some target) =>
    ∃ info, target = .dep info ∧ s'.link = some ⟨info, 0⟩ ∧ s'.device.selected = some target
  | _ => s'.link = none

theorem link_released (s : InitiatorSide) : s.released.link = none := by
  unfold released
  cases opened : s.link with
  | none => exact opened
  | some link => rfl

theorem selected_released (opened : s.isSelected) : s.released.device.selected = none := by
  unfold isSelected at opened
  unfold released
  cases link : s.link with
  | none =>
      rw [link] at opened
      cases opened
  | some _ => rfl

/-- Silence and failures alike leave everything as it is. -/
theorem follows_search {σ : Type} (frame : Bytes) (wait : Timeout) :
    (Chip.silentAsNone (Chip.exchangeBytes frame wait) : Act Chip σ _).Follows Eq := by
  refine (follows_exchangeBytes frame wait).attempt.bind fun outcome => ?_
  cases outcome with
  | ok answer => exact follows_pure _
  | error e =>
      dsimp only
      split
      · exact follows_pure _
      · exact follows_throw _

theorem ensures_select (mode : DepMode) (baud : BaudRate) (generalBytes : Option Bytes)
    (wait : Timeout) (s : InitiatorSide) :
    (select mode baud generalBytes wait).Ensures s Found := by
  have unlinked {e : Error} {s₁ s' : InitiatorSide} (gone : s₁.link = none) (same : s₁ = s') :
      Found (.error e) s' := same ▸ gone
  refine (ensures_deselect s).bind (fun _ s₁ ended => ?_) fun e s₁ ended => ?_
  · have gone : s₁.link = none := ended.1 ▸ link_released s
    refine ensures_get_bind ((follows_ofExcept _ s₁).bind (fun frame s₂ same₂ => ?_)
      fun _ _ => unlinked gone)
    subst same₂
    refine (follows_search frame wait s₁).bind (fun answer s₃ same₃ => ?_) fun _ _ => unlinked gone
    subst same₃
    cases answer with
    | none => exact ensures_pure gone
    | some answer =>
        refine (follows_ofExcept _ s₁).bind (fun decoded s₄ same₄ => ?_) fun _ _ => unlinked gone
        subst same₄
        exact ensures_modify_bind (ensures_pure ⟨_, rfl, rfl, rfl⟩)
  · rw [ended.1]
    exact link_released s

theorem run_exchange {τ : Type} (chip : Handler Chip τ) (c : τ) (n : Nat) (frame : Bytes)
    (d : Device .initiator) :
    ∃ r c', (Device.exchange frame n d).run chip c = (some (r, d), c') := by
  change ∃ r c', (Chip.exchangeBytes frame d.config.commandTimeout n d).run chip c = _
  unfold Chip.exchangeBytes
  split
  · exact ⟨_, _, rfl⟩
  · split
    · exact ⟨_, _, rfl⟩
    · exact ⟨_, _, rfl⟩

/-- Releasing comes to an end on every chip, with a failure or without. -/
theorem run_deselect {τ : Type} (chip : Handler Chip τ) (c : τ) (n : Nat) (s : InitiatorSide) :
    ∃ r, ((deselect n s).run chip c).1 = some (r, s.released) := by
  unfold deselect released
  rw [bind_apply, get_apply, Dialogue.bind_done_left, resume_ok]
  cases s.link with
  | none => exact ⟨_, rfl⟩
  | some link =>
      dsimp only
      rw [bind_apply, modify_apply, Dialogue.bind_done_left, resume_ok, bind_apply]
      cases rls link.info.did with
      | error e => exact ⟨_, rfl⟩
      | ok frame =>
          obtain ⟨answer, c', asked⟩ :=
            run_exchange chip c n frame { s.device with selected := none }
          rw [ofExcept_apply, Dialogue.bind_done_left, resume_ok, bind_apply, onDevice, zoom_apply,
            Dialogue.bind_bind, Dialogue.run_bind, asked]
          cases answer with
          | error e => exact ⟨_, rfl⟩
          | ok answer =>
              dsimp only
              rw [Dialogue.bind_done_left, resume_ok, bind_apply, ofExcept_apply]
              cases unbuildAs .answer rlsAnswer answer with
              | error e => exact ⟨_, rfl⟩
              | ok _ => exact ⟨_, rfl⟩

section Histories

/-- What an operation gives where it succeeds. -/
def Operation.Value : Operation → Type
  | .select .. | .poll .. => Option Target
  | .transceive _ => Bytes
  | .setBaud _ | .attention | .deselect => Unit

def Operation.act : (o : Operation) → Act Chip InitiatorSide o.Value
  | .select mode baud generalBytes wait => InitiatorSide.select mode baud generalBytes wait
  | .poll mode baud wait => InitiatorSide.poll mode baud wait
  | .setBaud baud => InitiatorSide.setBaud baud
  | .transceive payload => InitiatorSide.transceive payload
  | .attention => InitiatorSide.attention
  | .deselect => InitiatorSide.deselect

/-- What an initiator on a device may come to: any operations have been asked of it, each of them
was answered in any way and has ended. -/
inductive Reached (device : Device .initiator) : InitiatorSide → Prop
  | new : Reached device (.new device)
  | after {s s' : InitiatorSide} {o : Operation} {t : List Chip.Event} {r : Except Error o.Value} :
      Reached device s → o.act.Yields s t r s' → Reached device s'

/-- The device has selected the target of the link that is open, as the link describes it. -/
def Consistent (s : InitiatorSide) : Prop :=
  ∀ link, s.link = some link → link.pni ≤ 3 ∧ s.device.selected = some (.dep link.info)

/-- The same initiator at another bit rate. -/
def atBaud (s : InitiatorSide) (baud : BaudRate) : InitiatorSide where
  device := { s.device with selected := s.device.selected.map fun
    | .dep info => .dep { info with baud }
    | target => target }
  link := s.link.map fun link => { link with info := { link.info with baud } }

/-- What an operation with some outcome may do to the link and to the target selected. -/
def Operation.Leaves (s s' : InitiatorSide) : (o : Operation) → Except Error o.Value → Prop
  | .select .., r | .poll .., r =>
    (s'.isSelected ↔ ∃ target, r = .ok (some target)) ∧
      ∀ target, r = .ok (some target) →
        s'.device.selected = some target ∧ s'.target.map Target.dep = some target
  | .setBaud baud, r => s' = if r.isOk then s.atBaud baud else s
  | .transceive _, _ | .attention, _ => s'.target = s.target ∧ s'.device = s.device
  | .deselect, _ =>
    s'.link = none ∧ (s.isSelected → s'.device.selected = none) ∧
      ∀ n, InitiatorSide.deselect n s' = .done (.ok (), s')

theorem consistent_of_none (gone : s.link = none) : s.Consistent :=
  fun _ opened => nomatch gone.symm.trans opened

theorem Found.consistent {r : Except Error (Option Target)} (found : Found r s) :
    s.Consistent := by
  match r, found with
  | .ok (some _), ⟨info, same, opened, selected⟩ =>
      intro link opened'
      cases opened.symm.trans opened'
      exact ⟨UInt8.zero_le, selected.trans (congrArg some same)⟩
  | .ok none, gone => exact consistent_of_none gone
  | .error _, gone => exact consistent_of_none gone

theorem Found.leaves {r : Except Error (Option Target)} (found : Found r s) :
    (s.isSelected ↔ ∃ target, r = .ok (some target)) ∧
      ∀ target, r = .ok (some target) →
        s.device.selected = some target ∧ s.target.map Target.dep = some target := by
  unfold isSelected InitiatorSide.target
  match r, found with
  | .ok (some _), ⟨info, same, opened, selected⟩ =>
      rw [opened]
      exact ⟨⟨fun _ => ⟨_, rfl⟩, fun _ => rfl⟩, fun _ => by
        rintro ⟨⟩
        exact ⟨selected, congrArg some same.symm⟩⟩
  | .ok none, gone =>
      rw [show s.link = none from gone]
      exact ⟨⟨nofun, nofun⟩, nofun⟩
  | .error _, gone =>
      rw [show s.link = none from gone]
      exact ⟨⟨nofun, nofun⟩, nofun⟩

/-- Without an open link an operation on it fails and does nothing. With one, what it may do to
the two records together is all it does. -/
theorem ensures_counted {α : Type} {x : Act Chip Linked α} (follows : x.Follows Linked.Counted)
    (consistent : s.Consistent) :
    (linked x).Ensures s fun _ s' =>
      s'.Consistent ∧ s'.target = s.target ∧ s'.device = s.device := by
  refine ensures_linked (fun _ => ⟨consistent, rfl, rfl⟩) fun link opened => ?_
  refine (follows ⟨s.device, link⟩).mono fun r u counted => ?_
  obtain ⟨small, selected⟩ := consistent link opened
  refine ⟨?_, ?_, counted.device⟩
  · rintro _ ⟨⟩
    exact ⟨counted.small small, by rw [counted.device, counted.info]; exact selected⟩
  · unfold InitiatorSide.target
    rw [opened]
    exact congrArg some counted.info

theorem ensures_setBaud (baud : BaudRate) (consistent : s.Consistent) :
    (setBaud baud).Ensures s fun r s' =>
      s'.Consistent ∧ s' = if r.isOk then s.atBaud baud else s := by
  refine ensures_linked (fun _ => ⟨consistent, rfl⟩) fun link opened => ?_
  refine (Linked.ensures_setBaud baud ⟨s.device, link⟩).mono fun r u retuned => ?_
  obtain ⟨small, selected⟩ := consistent link opened
  cases r with
  | error e =>
      have same : (⟨u.device, some u.link⟩ : InitiatorSide) = s := by
        rw [show u = _ from retuned, ← opened]
      exact ⟨same ▸ consistent, same⟩
  | ok _ =>
      have same : (⟨u.device, some u.link⟩ : InitiatorSide) = s.atBaud baud := by
        rw [show u = _ from retuned, atBaud, opened, selected]
        rfl
      refine ⟨?_, same⟩
      rw [show u = _ from retuned]
      rintro _ ⟨⟩
      exact ⟨small, rfl⟩

/-- What one operation may do, from any state in which the two records are one. -/
theorem Operation.ensures (o : Operation) (consistent : s.Consistent) :
    o.act.Ensures s fun r s' => s'.Consistent ∧ o.Leaves s s' r := by
  cases o with
  | select mode baud generalBytes wait =>
      exact (ensures_select mode baud generalBytes wait s).mono fun _ _ found =>
        ⟨found.consistent, found.leaves⟩
  | poll mode baud wait =>
      exact (ensures_select mode baud (some []) wait s).mono fun _ _ found =>
        ⟨found.consistent, found.leaves⟩
  | setBaud baud => exact ensures_setBaud baud consistent
  | transceive payload => exact ensures_counted (Linked.follows_transceive payload) consistent
  | attention => exact ensures_counted Linked.follows_attention consistent
  | deselect =>
      refine (ensures_deselect s).mono fun r s' ⟨same, _⟩ => ?_
      subst same
      refine ⟨consistent_of_none (link_released s), link_released s, selected_released, fun n => ?_⟩
      unfold InitiatorSide.deselect
      rw [bind_apply, get_apply, Dialogue.bind_done_left, resume_ok, link_released]
      rfl

/-- The link and the device tell one story after any operations, and each operation touches it in
its own way only, whatever it is answered. Releasing comes to an end on any chip. -/
theorem link_selected {device : Device .initiator} (reached : Reached device s) :
    s.Consistent ∧ (∀ (o : Operation) t r s', o.act.Yields s t r s' → o.Leaves s s' r) ∧
      ∀ {τ : Type} (chip : Handler Chip τ) (c : τ) (n : Nat), ∃ r s',
        ((deselect n s).run chip c).1 = some (r, s') ∧ s'.link = none ∧
          (s.isSelected → s'.device.selected = none) := by
  have consistent : s.Consistent := by
    induction reached with
    | new => exact consistent_of_none rfl
    | after _ yields ih => exact (Operation.ensures _ ih _ _ _ yields).1
  refine ⟨consistent, fun o t r s' yields => (o.ensures consistent t r s' yields).2,
    fun chip c n => ?_⟩
  obtain ⟨r, ended⟩ := run_deselect chip c n s
  exact ⟨r, s.released, ended, link_released s, selected_released⟩

/-- An initiator that has found a target at a bit rate. -/
def sampleAt (baud : BaudRate) : InitiatorSide :=
  ⟨⟨{}, some (.dep { sampleOwn with baud })⟩, some ⟨{ sampleOwn with baud }, 0⟩⟩

theorem reached_tuned : Reached ⟨{}, none⟩ (sampleAt .baud424) := by
  have selected : (select .passive .baud106 none .forever).Yields (.new ⟨{}, none⟩)
      [⟨.bytes ([0x11, 0xd4, 0x00] ++ standardNfcid3.toList ++ [0x00, 0x07, 0x07, 0x30]) .forever,
        .ok sampleAnswer⟩] (.ok (some (.dep sampleOwn))) (sampleAt .baud106) :=
    ⟨0, .ask _ (.done _)⟩
  have tuned : (setBaud .baud424).Yields (sampleAt .baud106)
      [⟨.bytes [0x06, 0xd4, 0x04, 0x00, 0x12, 0x03] .standard, .ok [0x04, 0xd5, 0x05, 0x00]⟩]
      (.ok ()) (sampleAt .baud424) := ⟨0, .ask _ (.done _)⟩
  exact .after (o := .setBaud .baud424)
    (.after (o := .select .passive .baud106 none .forever) .new selected) tuned

theorem link_selected_tuned :
    Reached ⟨{}, none⟩ (sampleAt .baud424) ∧ (sampleAt .baud424).Consistent ∧
      ∀ (o : Operation) t r s',
        o.act.Yields (sampleAt .baud424) t r s' → o.Leaves (sampleAt .baud424) s' r :=
  ⟨reached_tuned, (link_selected reached_tuned).1, (link_selected reached_tuned).2.1⟩

end Histories

end InitiatorSide

end Contactless.Dep
