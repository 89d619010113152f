import Contactless.Proofs.Dep.Hops

/-! The links of the data exchange protocol: opening and releasing one, asking whether the target is
still there, and changing the bit rate while it receives. -/
namespace Contactless.Dep

open Wire

variable {α β : Type} {live : Timeout → Prop}

section Links

variable {t : TargetSide} {d : Device .initiator} {patience wait : Timeout} {m n fuel : Nat}

theorem InitiatorSide.linked_bind {γ : Type} (x : Act Chip Linked γ) (d : Device .initiator)
    (link : Link) (n : Nat) (next : Except Error γ × InitiatorSide → Dialogue Chip α) :
    (InitiatorSide.linked x n ⟨d, some link⟩).bind next =
      (x n ⟨d, link⟩).bind fun r => next (r.1, ⟨r.2.device, some r.2.link⟩) :=
  Dialogue.bind_bind _ _ _

/-- The initiator once a target has described itself. -/
def InitiatorSide.linkedTo (d : Device .initiator) (info : DepInfo) : InitiatorSide :=
  ⟨{ d with selected := some (.dep info) }, some ⟨info, 0⟩⟩

theorem InitiatorSide.select_bind (mode : DepMode) (baud : BaudRate) (wait : Timeout) (n : Nat)
    {generalBytes : Option Bytes} {frame answer : Bytes} {a : AtrAnswer}
    (encoded : (request d.config generalBytes).encode = .ok frame)
    (decoded : AtrAnswer.decode answer = .ok a)
    (next : Except Error (Option Target) × InitiatorSide → Dialogue Chip α) :
    ∃ hearing, (select mode baud generalBytes wait n (.new d)).bind next =
        .ask (.bytes frame wait) hearing ∧
      hearing (.ok answer) =
        next (.ok (some (.dep (a.info mode baud))), linkedTo d (a.info mode baud)) := by
  obtain ⟨-, built⟩ := checkGeneralBytes_bind encoded
  have none : deselect n (.new d) = .done (.ok (), .new d) := rfl
  have same : (InitiatorSide.new d).device = d := rfl
  unfold select
  simp only [Act.bind_apply, none, Dialogue.bind_done_left, Act.resume_ok, Act.get_apply,
    same, encoded, Act.ofExcept_apply, Chip.silentAsNone,
    Act.attempt_apply, exchangeBytes_apply built, Dialogue.bind_ask]
  refine ⟨_, rfl, ?_⟩
  simp only [Act.pure_apply, Dialogue.bind_done_left, Act.resume_ok, Act.bind_apply, decoded,
    Act.ofExcept_apply]
  rfl

/-- The attribute frames link both ends, whose packet numbers start at zero. -/
theorem hops_open {own : DepInfo} {generalBytes : Option Bytes} {mode : DepMode} {baud : BaudRate}
    {next : Except Error (Option Target) × InitiatorSide → Dialogue Chip α}
    {rest : Except Error Bytes × TargetSide → Dialogue Chip β}
    (short : (generalBytes.getD d.config.generalBytes).length ≤ 48)
    (ownShort : own.generalBytes.length ≤ 48) (lasts : live wait) (patient : live patience)
    (listens : ∀ r u, TargetSide.turn u = .receive → (rest (r, u)).Listens) :
    Opened live
      ⟨.running ((InitiatorSide.select mode baud generalBytes wait n (.new d)).bind next),
        (TargetSide.init (.dep own) patience m t).bind rest, [], []⟩
      ⟨.running (next
          (.ok (some (.dep ((TargetSide.answerTo own
            (InitiatorSide.request d.config generalBytes).flagged).flagged.info mode baud))),
          .linkedTo d ((TargetSide.answerTo own
            (InitiatorSide.request d.config generalBytes).flagged).flagged.info mode baud))),
        rest ((InitiatorSide.request d.config generalBytes).encode,
          (t.prepared own).linkedTo own (InitiatorSide.request d.config generalBytes).flagged),
        [], []⟩ := by
  obtain ⟨frame, encoded⟩ :=
    (InitiatorSide.request d.config generalBytes).exists_encode short
  obtain ⟨answer, answered⟩ := (TargetSide.answerTo own
    (InitiatorSide.request d.config generalBytes).flagged).exists_encode ownShort
  obtain ⟨hearing, asks, hears⟩ := InitiatorSide.select_bind mode baud wait n encoded
    (AtrAnswer.decode_of_encode answered) next
  rw [asks, encoded, TargetSide.init_apply, Dialogue.bind_ask]
  refine ⟨_, .arm lasts patient, ?_⟩
  rw [TargetSide.greeting_atr patience m (t.prepared own) own rfl
    (InitiatorFrame.decode_atr encoded), answered]
  refine .head (.answer (listens _ _ rfl)) ?_
  rw [hears]
  exact .refl

theorem InitiatorSide.deselect_bind {link : Link} {frame answer : Bytes}
    (encoded : rls link.info.did = .ok frame)
    {body : Bytes} (answered : unbuildAs .answer rlsAnswer answer = .ok body)
    (next : Except Error Unit × InitiatorSide → Dialogue Chip α) :
    ∃ hearing, (deselect n ⟨d, some link⟩).bind next =
        .ask (.bytes frame d.config.commandTimeout) hearing ∧
      hearing (.ok answer) = next (.ok (), .new { d with selected := none }) := by
  unfold deselect
  simp only [Act.bind_apply, Act.get_apply, Dialogue.bind_done_left, Act.resume_ok,
    Act.modify_apply, encoded, Act.ofExcept_apply, InitiatorSide.onDevice, Act.zoom_apply,
    exchange_apply encoded, Dialogue.bind_ask]
  refine ⟨_, rfl, ?_⟩
  rw [Act.resume_ok, Act.bind_apply, answered]
  rfl

theorem hops_deselect {link : Link} {received : Bytes}
    {next : Except Error Unit × InitiatorSide → Dialogue Chip α}
    {rest : Except Error Bytes × TargetSide → Dialogue Chip β}
    (lasts : live d.config.commandTimeout) (patient : live patience)
    (listens : (rest (.error .targetReleased, t.unlinked)).Listens) :
    Hops live
      ⟨.running ((InitiatorSide.deselect n ⟨d, some link⟩).bind next),
        t.receiving patience m (fuel + 1) received rest, [], []⟩
      ⟨.running (next (.ok (), .new { d with selected := none })),
        rest (.error .targetReleased, t.unlinked), [], []⟩ := by
  obtain ⟨frame, encoded⟩ := exists_rls link.info.did
  obtain ⟨answer, answered⟩ := exists_rlsDone t.did
  have reacts : t.react received .rls =
      .reply (.ok answer) (.error .targetReleased) t.unlinked := by
    rw [← answered]
    rfl
  obtain ⟨hearing, asks, hears⟩ :=
    InitiatorSide.deselect_bind encoded (unbuildAs_of_build answered) next
  rw [asks, ← hears]
  exact hops_reply lasts patient (InitiatorFrame.decode_rls encoded) reacts listens

end Links

section Supervision

variable {s : Linked} {t : TargetSide} {patience : Timeout} {n m fuel : Nat} {received : Bytes}
  {rest : Except Error Bytes × TargetSide → Dialogue Chip β}

theorem hops_attention {next : Except Error Unit × Linked → Dialogue Chip α}
    (lasts : live s.device.config.commandTimeout) (patient : live patience) (loops : 0 < n) :
    Hops live
      ⟨.running ((Linked.attention n s).bind next),
        t.receiving patience m (fuel + 1) received rest, [], []⟩
      ⟨.running (next (.ok (), s)), t.receiving patience m fuel received rest, [], []⟩ := by
  obtain ⟨frame, encoded⟩ := Pdu.attention.exists_encode .request (by decide)
  obtain ⟨answer, answered⟩ := Pdu.attention.exists_encode .answer (by decide)
  have reacts : t.react received (.data Pdu.attention) = .reply (.ok answer) (.ok received) t := by
    rw [← answered]
    rfl
  unfold Linked.attention
  rw [Act.bind_apply, Dialogue.bind_bind, s.roundTrip_bind n encoded]
  refine (hops_aside lasts patient (InitiatorFrame.decode_data encoded) reacts).trans ?_
  rw [s.looking_answer _ n loops (Pdu.decode_of_encode answered) Pfb.noConfusion]
  exact .refl

theorem mem_rates {info : DepInfo} (sends : info.bs = allRates) (takes : info.br = allRates)
    (baud : BaudRate) : baud ∈ info.rates := by
  unfold DepInfo.rates
  rw [sends, takes]
  cases baud <;> decide

def Linked.atBaud (s : Linked) (baud : BaudRate) : Linked :=
  { device := { s.device with selected := some (.dep { s.link.info with baud }) }
    link := { s.link with info := { s.link.info with baud } } }

theorem Linked.setBaud_bind (s : Linked) (n : Nat) {baud : BaudRate} {frame answer : Bytes}
    (rates : baud ∈ s.link.info.rates)
    (encoded : psl s.link.info.did baud (s.link.info.pp >>> 4) = .ok frame)
    (answered : pslDone s.link.info.did = .ok answer)
    (next : Except Error Unit × Linked → Dialogue Chip α) :
    ∃ hearing, (Linked.setBaud baud n s).bind next =
        .ask (.bytes frame s.device.config.commandTimeout) hearing ∧
      hearing (.ok answer) = next (.ok (), s.atBaud baud) := by
  unfold Linked.setBaud Linked.exchange Linked.onDevice
  simp only [Act.bind_apply, Act.get_apply, Dialogue.bind_done_left, Act.resume_ok,
    if_neg (not_not_intro rates), encoded, Act.ofExcept_apply, Act.zoom_apply,
    exchange_apply encoded, Dialogue.bind_ask]
  refine ⟨_, rfl, ?_⟩
  rw [Act.resume_ok, unbuildAs_of_build answered]
  rfl

theorem hops_setBaud {next : Except Error Unit × Linked → Dialogue Chip α} {baud : BaudRate}
    (lasts : live s.device.config.commandTimeout) (patient : live patience)
    (rates : baud ∈ s.link.info.rates) :
    Hops live
      ⟨.running ((Linked.setBaud baud n s).bind next),
        t.receiving patience m (fuel + 1) received rest, [], []⟩
      ⟨.running (next (.ok (), s.atBaud baud)),
        (t.setBaud baud).receiving patience m fuel received rest, [], []⟩ := by
  obtain ⟨frame, encoded⟩ := exists_psl s.link.info.did baud (s.link.info.pp >>> 4)
  obtain ⟨answer, answered⟩ := exists_pslDone s.link.info.did
  have reacts : t.react received (.psl s.link.info.did baud ((s.link.info.pp >>> 4) &&& 0x03)) =
      .reply (.ok answer) (.ok received) (t.setBaud baud) := by
    rw [← answered]
    rfl
  obtain ⟨hearing, asks, hears⟩ := s.setBaud_bind n rates encoded answered next
  rw [asks, ← hears]
  exact hops_aside lasts patient (InitiatorFrame.decode_psl encoded) reacts

end Supervision

end Contactless.Dep
