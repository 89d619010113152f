import Contactless.Proofs.Dep.Calls
import Contactless.Proofs.Dep.Numbered

/-! Receptions of a target from an initiator that may send anything. Each frame but the last one of
a reception is answered with one frame of its kind, and what a reception gives back was numbered
without a gap since it began, or since the last attribute request in it. -/
namespace Contactless.Dep.TargetSide

/-- The frames that a receiving target answers before it listens on, with its answer and with what
the frame makes of the target. -/
inductive Answers (s : TargetSide) : InitiatorFrame → Except Error Bytes → TargetSide → Prop
  | acknowledged (payload : Bytes) :
      Answers s (.data (.information true s.pni payload)) ((Pdu.ack s.pni).encode .answer)
        s.advanced
  | attended (payload : Bytes) :
      Answers s (.data ⟨.attention, payload⟩) (Pdu.attention.encode .answer) s
  | rated (did : UInt8) (baud : BaudRate) (fsl : UInt8) :
      Answers s (.psl did baud fsl) (pslDone did) (s.setBaud baud)
  | linked {own : DepInfo} (request : AtrRequest) : s.description = some own →
      Answers s (.atr request) (answerTo own request).encode (s.linkedTo own request)

/-- Frames that are answered one after the other. -/
inductive Serves (wait : Timeout) :
    TargetSide → List InitiatorFrame → List Chip.Event → TargetSide → Prop
  | nil (s : TargetSide) : Serves wait s [] [] s
  | cons {s next s' : TargetSide} {content : InitiatorFrame} {rest : List InitiatorFrame}
      {frame reply : Bytes} {t : List Chip.Event} :
      InitiatorFrame.decode frame = .ok content → Answers s content (.ok reply) next →
      Serves wait next rest t s' →
      Serves wait s (content :: rest)
        (⟨.receive wait, .ok frame⟩ :: ⟨.send reply wait, .ok ()⟩ :: t) s'

/-- The answer to a frame that releases the target. -/
def parting (s : TargetSide) : InitiatorFrame → Option (Except Error Bytes)
  | .dsl => some (dslDone s.did)
  | .rls => some (rlsDone s.did)
  | _ => none

/-- All ways of a reception to end, with the last frame where one was read, after some pieces. -/
inductive Closes (wait : Timeout) (s : TargetSide) (received : Bytes) :
    List InitiatorFrame → List Chip.Event → Except Error Bytes → TargetSide → Prop
  | lost (e : Error) : Closes wait s received [] [⟨.receive wait, .error e⟩] (.error e) s
  | unreadable {frame : Bytes} {e : Error} : InitiatorFrame.decode frame = .error e →
      Closes wait s received [] [⟨.receive wait, .ok frame⟩] (.error e) s
  | completed {frame : Bytes} (last : Bytes) :
      InitiatorFrame.decode frame = .ok (.data (.information false s.pni last)) →
      Closes wait s received [.data (.information false s.pni last)]
        [⟨.receive wait, .ok frame⟩] (.ok (received ++ last)) (s.turned .send)
  /-- The frame is out of order, or of a kind that nobody sends to a receiving target. -/
  | refused {frame : Bytes} {pdu : Pdu} (detail : String) :
      InitiatorFrame.decode frame = .ok (.data pdu) → pdu.pfb ≠ .attention →
      (∀ more, pdu.pfb ≠ .information more s.pni) →
      Closes wait s received [.data pdu] [⟨.receive wait, .ok frame⟩]
        (.error (.rfProtocol detail)) s
  | undescribed {frame : Bytes} {request : AtrRequest} (detail : String) :
      InitiatorFrame.decode frame = .ok (.atr request) → s.description = none →
      Closes wait s received [.atr request] [⟨.receive wait, .ok frame⟩]
        (.error (.invalidParameter detail)) s
  | unbuilt {frame : Bytes} {content : InitiatorFrame} {next : TargetSide} {e : Error} :
      InitiatorFrame.decode frame = .ok content → Answers s content (.error e) next →
      Closes wait s received [content] [⟨.receive wait, .ok frame⟩] (.error e) s
  | unsent {frame reply : Bytes} {content : InitiatorFrame} {next : TargetSide} (e : Error) :
      InitiatorFrame.decode frame = .ok content → Answers s content (.ok reply) next →
      Closes wait s received [content]
        [⟨.receive wait, .ok frame⟩, ⟨.send reply wait, .error e⟩] (.error e) s
  | kept {frame reply : Bytes} {content : InitiatorFrame} (e : Error) :
      InitiatorFrame.decode frame = .ok content → s.parting content = some (.ok reply) →
      Closes wait s received [content]
        [⟨.receive wait, .ok frame⟩, ⟨.send reply wait, .error e⟩] (.error e) s
  | released {frame reply : Bytes} {content : InitiatorFrame} :
      InitiatorFrame.decode frame = .ok content → s.parting content = some (.ok reply) →
      Closes wait s received [content]
        [⟨.receive wait, .ok frame⟩, ⟨.send reply wait, .ok ()⟩] (.error .targetReleased)
        s.unlinked

/-- The pieces on record after a frame. -/
def gather (received : Bytes) : InitiatorFrame → Bytes
  | .data ⟨.information _ _, payload⟩ => received ++ payload
  | .atr _ => []
  | _ => received

section Reactions

variable {s next : TargetSide} {received pieces : Bytes} {content : InitiatorFrame}

/-- A reaction is one of those that a frame may meet. -/
inductive Meets (s : TargetSide) (received : Bytes) : InitiatorFrame → Reaction → Prop
  | completed (last : Bytes) :
      Meets s received (.data (.information false s.pni last)) (.complete (received ++ last))
  | refused {pdu : Pdu} (detail : String) : pdu.pfb ≠ .attention →
      (∀ more, pdu.pfb ≠ .information more s.pni) →
      Meets s received (.data pdu) (.refuse (.rfProtocol detail))
  | undescribed {request : AtrRequest} (detail : String) : s.description = none →
      Meets s received (.atr request) (.refuse (.invalidParameter detail))
  | answered {content : InitiatorFrame} {reply : Except Error Bytes} {next : TargetSide} :
      Answers s content reply next →
      Meets s received content (.reply reply (.ok (gather received content)) next)
  | parted {content : InitiatorFrame} {reply : Bytes} : s.parting content = some (.ok reply) →
      Meets s received content (.reply (.ok reply) (.error .targetReleased) s.unlinked)

theorem meets_react (s : TargetSide) (received : Bytes) (content : InitiatorFrame) :
    Meets s received content (s.react received content) := by
  cases content with
  | atr request =>
      unfold react
      cases described : s.description with
      | none => exact .undescribed _ described
      | some own => exact .answered (.linked request described)
  | psl did baud fsl => exact .answered (.rated did baud fsl)
  | dsl =>
      obtain ⟨reply, built⟩ : ∃ reply, dslDone s.did = .ok reply :=
        exists_build (Nat.le_trans (length_didBody_le s.did) (by decide))
      unfold react
      rw [built]
      exact .parted (congrArg some built)
  | rls =>
      obtain ⟨reply, built⟩ := exists_rlsDone s.did
      unfold react
      rw [built]
      exact .parted (congrArg some built)
  | data pdu =>
      obtain ⟨pfb, payload⟩ := pdu
      unfold react reactData
      cases pfb with
      | information more k =>
          dsimp only
          by_cases current : k = s.pni
          · subst current
            rw [if_pos rfl]
            cases more with
            | true => exact .answered (.acknowledged payload)
            | false => exact .completed payload
          · rw [if_neg current]
            refine .refused _ Pfb.noConfusion ?_
            intro more same
            exact current (Pfb.information.inj same).2
      | attention => exact .answered (.attended payload)
      | ack k => exact .refused _ Pfb.noConfusion fun more => Pfb.noConfusion
      | nack k => exact .refused _ Pfb.noConfusion fun more => Pfb.noConfusion
      | timeoutExtension => exact .refused _ Pfb.noConfusion fun more => Pfb.noConfusion

end Reactions

section Receiving

variable {wait : Timeout} {s s' : TargetSide} {received : Bytes} {t : List Chip.Event}
  {r : Except Error Bytes}

theorem meets_of_react {content : InitiatorFrame} {reaction : Reaction}
    (reacts : s.react received content = reaction) : Meets s received content reaction := by
  rw [← reacts]
  exact meets_react s received content

/-- A reception may end with its first frame. -/
theorem Closes.served {final : List InitiatorFrame} (closes : Closes wait s received final t r s') :
    ∃ contents final between u v, t = u ++ v ∧ Serves wait s contents u between ∧
      Closes wait between (contents.foldl gather received) final v r s' :=
  ⟨[], final, s, [], t, rfl, .nil s, closes⟩

/-- A reception is made of the frames it answers and of its end. -/
theorem Receiving.served (receiving : Receiving wait s received t r s') :
    ∃ contents final between u v, t = u ++ v ∧ Serves wait s contents u between ∧
      Closes wait between (contents.foldl gather received) final v r s' := by
  induction receiving with
  | lost e => exact (Closes.lost e).served
  | unreadable decoded => exact (Closes.unreadable decoded).served
  | refused decoded reacts =>
      cases meets_of_react reacts with
      | refused detail calm other => exact (Closes.refused detail decoded calm other).served
      | undescribed detail none => exact (Closes.undescribed detail decoded none).served
  | completed decoded reacts =>
      cases meets_of_react reacts with
      | completed last => exact (Closes.completed last decoded).served
  | unbuilt decoded reacts =>
      cases meets_of_react reacts with
      | answered answers => exact (Closes.unbuilt decoded answers).served
  | unsent e decoded reacts =>
      cases meets_of_react reacts with
      | answered answers => exact (Closes.unsent e decoded answers).served
      | parted parts => exact (Closes.kept e decoded parts).served
  | stopped decoded reacts =>
      cases meets_of_react reacts with
      | parted parts => exact (Closes.released decoded parts).served
  | @replied _ _ _ content _ _ _ _ _ _ decoded reacts _ ih =>
      obtain ⟨contents, final, between, u, v, rfl, serves, closes⟩ := ih
      cases meets_of_react reacts with
      | answered answers =>
          exact ⟨content :: contents, final, between, _ :: _ :: u, v, rfl,
            .cons decoded answers serves, closes⟩

end Receiving

/-- The information frames among some frames. -/
def informations (contents : List InitiatorFrame) : List Pdu :=
  contents.filterMap fun
    | .data ⟨.information more k, payload⟩ => some (.information more k payload)
    | _ => none

/-- The packet number after some frames of which only the last may be an attribute request. -/
def Starts (s : TargetSide) (before : List InitiatorFrame) (start : UInt8) : Prop :=
  before = [] ∧ start = s.pni ∨
    ∃ earlier request, before = earlier ++ [.atr request] ∧ start = 0

section Numbering

variable {wait : Timeout} {s between : TargetSide} {contents : List InitiatorFrame}
  {u : List Chip.Event}

/-- Since the last attribute request the pieces are numbered without a gap, up to the number that
the target is at. -/
theorem Serves.numbered (serves : Serves wait s contents u between) (received : Bytes) :
    ∃ before since start head, contents = before ++ since ∧ Starts s before start ∧
      (∀ request, .atr request ∉ since) ∧
      (∀ last, informations since ++ [.information false between.pni last] =
        numbered start head last) ∧
      contents.foldl gather received = (if before = [] then received else []) ++ head.flatten := by
  induction serves generalizing received with
  | nil s =>
      refine ⟨[], [], s.pni, [], rfl, .inl ⟨rfl, rfl⟩, fun _ => List.not_mem_nil, ?_, ?_⟩
      · exact fun last => rfl
      · exact (List.append_nil received).symm
  | @cons s next between content rest frame reply t decoded answers _ ih =>
      obtain ⟨before, since, start, head, rfl, starts, none, pieces, onRecord⟩ :=
        ih (gather received content)
      rcases starts with ⟨rfl, rfl⟩ | ⟨earlier, request, rfl, rfl⟩
      · rw [if_pos rfl] at onRecord
        have still {content : InitiatorFrame} (other : ∀ request, content ≠ .atr request) :
            ∀ request, .atr request ∉ content :: since := by
          intro request member
          rcases List.mem_cons.mp member with same | later
          · exact other request same.symm
          · exact none request later
        generalize Except.ok reply = built at answers
        cases answers with
        | acknowledged payload =>
            refine ⟨[], .data (.information true s.pni payload) :: since, s.pni, payload :: head,
              rfl, .inl ⟨rfl, rfl⟩, still nofun, ?_, ?_⟩
            · intro last
              exact congrArg (_ :: ·) (pieces last)
            · rw [if_pos rfl, List.flatten_cons, ← List.append_assoc]
              exact onRecord
        | attended payload =>
            refine ⟨[], .data ⟨.attention, payload⟩ :: since, s.pni, head, rfl,
              .inl ⟨rfl, rfl⟩, still nofun, pieces, ?_⟩
            rw [if_pos rfl]
            exact onRecord
        | rated did baud fsl =>
            refine ⟨[], .psl did baud fsl :: since, s.pni, head, rfl,
              .inl ⟨rfl, rfl⟩, still nofun, pieces, ?_⟩
            rw [if_pos rfl]
            exact onRecord
        | linked request described =>
            refine ⟨[.atr request], since, 0, head, rfl, .inr ⟨[], request, rfl, rfl⟩, none,
              pieces, ?_⟩
            rw [if_neg (List.cons_ne_nil _ _)]
            exact onRecord
      · refine ⟨content :: (earlier ++ [.atr request]), since, 0, head, rfl,
          .inr ⟨content :: earlier, request, rfl, rfl⟩, none, pieces, ?_⟩
        rw [if_neg (List.cons_ne_nil _ _)]
        rw [if_neg (List.append_ne_nil_of_right_ne_nil _ (List.cons_ne_nil _ _))] at onRecord
        exact onRecord

end Numbering

/-- What a reception comes to, by the frames it answered and by the last one, if that was read. -/
structure Receives (s : TargetSide) (wait : Timeout) (contents final : List InitiatorFrame)
    (between : TargetSide) (u v : List Chip.Event) (r : Except Error Bytes) (s' : TargetSide) :
    Prop where
  serves : Serves wait s contents u between
  closes : Closes wait between (contents.foldl gather []) final v r s'
  /-- A payload is made of all pieces since the reception began, or since the last attribute
  request in it. -/
  message : ∀ payload, r = .ok payload → ∃ before since start head last,
    contents ++ final = before ++ since ∧ Starts s before start ∧
      (∀ request, .atr request ∉ since) ∧ informations since = numbered start head last ∧
      payload = head.flatten ++ last
  released : ∀ content reply, final = [content] → between.parting content = some reply →
    ∃ frame answer sent, reply = .ok answer ∧
      v = [⟨.receive wait, .ok frame⟩, ⟨.send answer wait, sent⟩] ∧
      (sent = .ok () → r = .error .targetReleased ∧ s' = between.unlinked) ∧
      ∀ e, sent = .error e → r = .error e ∧ s' = between
  refused : ∀ pdu, final = [.data pdu] → pdu.pfb ≠ .attention →
    (∀ more, pdu.pfb ≠ .information more between.pni) →
    ∃ frame detail, v = [⟨.receive wait, .ok frame⟩] ∧ r = .error (.rfProtocol detail)
  /-- A data frame of no kind is refused as well. -/
  garbled : ∀ frame mark body, (∀ pfb, Pfb.ofByte mark ≠ .ok pfb) →
    unbuild .request frame = .ok (Direction.request.dataCode, mark :: body) →
    ⟨.receive wait, .ok frame⟩ ∈ u ++ v →
    v = [⟨.receive wait, .ok frame⟩] ∧ ∃ detail, r = .error (.rfProtocol detail)

section Receptions

variable {wait : Timeout} {s between s' : TargetSide} {contents final : List InitiatorFrame}
  {u v : List Chip.Event} {r : Except Error Bytes}

theorem Closes.message {payload : Bytes}
    (closes : Closes wait between (contents.foldl gather []) final v (.ok payload) s')
    (serves : Serves wait s contents u between) :
    ∃ before since start head last, contents ++ final = before ++ since ∧ Starts s before start ∧
      (∀ request, .atr request ∉ since) ∧ informations since = Dep.numbered start head last ∧
      payload = head.flatten ++ last := by
  obtain ⟨before, since, start, head, same, starts, none, pieces, onRecord⟩ := serves.numbered []
  rw [ite_self, List.nil_append] at onRecord
  cases closes with
  | completed last decoded =>
      refine ⟨before, since ++ [.data (.information false between.pni last)], start, head, last,
        ?_, starts, ?_, ?_, ?_⟩
      · rw [same, List.append_assoc]
      · intro request member
        rcases List.mem_append.mp member with early | late
        · exact none request early
        · cases List.mem_singleton.mp late
      · rw [← pieces last, informations, List.filterMap_append]
        rfl
      · rw [onRecord]

/-- A frame that cannot be read ends the reception. -/
theorem Serves.mem_decode {frame : Bytes} (serves : Serves wait s contents u between)
    (member : ⟨.receive wait, .ok frame⟩ ∈ u) :
    ∃ content, InitiatorFrame.decode frame = .ok content := by
  induction serves with
  | nil => cases member
  | cons decoded _ _ ih =>
      rcases List.mem_cons.mp member with same | later
      · cases same
        exact ⟨_, decoded⟩
      · rcases List.mem_cons.mp later with same | later
        · cases same
        · exact ih later

theorem Closes.garbled {received frame : Bytes} {detail : String}
    (closes : Closes wait between received final v r s')
    (failed : InitiatorFrame.decode frame = .error (.rfProtocol detail))
    (member : ⟨.receive wait, .ok frame⟩ ∈ v) :
    v = [⟨.receive wait, .ok frame⟩] ∧ r = .error (.rfProtocol detail) := by
  have read {frame' : Bytes} {content : InitiatorFrame}
      (decoded : InitiatorFrame.decode frame' = .ok content)
      (same : (⟨.receive wait, .ok frame⟩ : Chip.Event) = ⟨.receive wait, .ok frame'⟩) : False := by
    cases same
    rw [failed] at decoded
    cases decoded
  cases closes with
  | lost e => cases List.mem_singleton.mp member
  | unreadable failed' =>
      cases List.mem_singleton.mp member
      cases failed'.symm.trans failed
      exact ⟨rfl, rfl⟩
  | completed _ decoded | refused _ decoded | undescribed _ decoded | unbuilt decoded =>
      exact (read decoded (List.mem_singleton.mp member)).elim
  | unsent _ decoded | kept _ decoded | released decoded =>
      rcases List.mem_cons.mp member with same | later
      · exact (read decoded same).elim
      · cases List.mem_singleton.mp later

/-- A frame that releases the target is answered, and nothing else is made of it. -/
theorem Closes.parted {received : Bytes} {content : InitiatorFrame} {reply : Except Error Bytes}
    (closes : Closes wait between received [content] v r s')
    (parts : between.parting content = some reply) :
    ∃ frame answer sent, reply = .ok answer ∧
      v = [⟨.receive wait, .ok frame⟩, ⟨.send answer wait, sent⟩] ∧
      (sent = .ok () → r = .error .targetReleased ∧ s' = between.unlinked) ∧
      ∀ e, sent = .error e → r = .error e ∧ s' = between := by
  have answered {built : Except Error Bytes} {next : TargetSide}
      (answers : Answers between content built next) : False := by
    cases answers <;> cases parts
  cases closes with
  | completed | refused | undescribed => cases parts
  | unbuilt _ answers | unsent _ _ answers => exact (answered answers).elim
  | kept e decoded built =>
      cases parts.symm.trans built
      refine ⟨_, _, _, rfl, rfl, nofun, ?_⟩
      rintro e' ⟨⟩
      exact ⟨rfl, rfl⟩
  | released decoded built =>
      cases parts.symm.trans built
      exact ⟨_, _, _, rfl, rfl, fun _ => ⟨rfl, rfl⟩, nofun⟩

theorem Closes.refuses {received : Bytes} {pdu : Pdu}
    (closes : Closes wait between received [.data pdu] v r s') (calm : pdu.pfb ≠ .attention)
    (other : ∀ more, pdu.pfb ≠ .information more between.pni) :
    ∃ frame detail, v = [⟨.receive wait, .ok frame⟩] ∧ r = .error (.rfProtocol detail) := by
  have answered {built : Except Error Bytes} {next : TargetSide}
      (answers : Answers between (.data pdu) built next) : False := by
    cases answers with
    | acknowledged => exact other true rfl
    | attended => exact calm rfl
  cases closes with
  | completed => exact absurd rfl (other false)
  | refused detail => exact ⟨_, detail, rfl, rfl⟩
  | unbuilt _ answers | unsent _ _ answers => exact (answered answers).elim
  | kept _ _ parts | released _ parts => cases parts

/-- Whatever an initiator sends, a reception answers frame by frame until it comes to its end. -/
theorem receive_serves {s : TargetSide} (turn : s.turn = .receive) (wait : Timeout) :
    (receive wait).Accounts s fun t r s' => ∃ contents final between u v, t = u ++ v ∧
      s.Receives wait contents final between u v r s' := by
  refine (accounts_receive wait turn).mono ?_
  intro t r s' receiving
  obtain ⟨contents, final, between, u, v, rfl, serves, closes⟩ := receiving.served
  refine ⟨contents, final, between, u, v, rfl, ?_⟩
  constructor
  case serves => exact serves
  case closes => exact closes
  case message =>
    rintro payload rfl
    exact closes.message serves
  case released =>
    rintro content reply rfl parts
    exact closes.parted parts
  case refused =>
    rintro pdu rfl calm other
    exact closes.refuses calm other
  case garbled =>
    intro frame mark body unknown data member
    obtain ⟨detail, failed⟩ := InitiatorFrame.decode_garbled unknown data
    rcases List.mem_append.mp member with early | late
    · obtain ⟨content, decoded⟩ := serves.mem_decode early
      rw [failed] at decoded
      cases decoded
    · obtain ⟨alone, came⟩ := closes.garbled failed late
      exact ⟨alone, detail, came⟩

end Receptions

/-- A piece, an attribute request that starts afresh, and then the only piece of a payload. -/
def relinked : List Chip.Event :=
  [⟨.receive .forever, .ok [0x05, 0xd4, 0x06, 0x10, 0xaa]⟩,
    ⟨.send [0x04, 0xd5, 0x07, 0x40] .forever, .ok ()⟩,
    ⟨.receive .forever, .ok sampleRequest⟩, ⟨.send sampleAnswer .forever, .ok ()⟩,
    ⟨.receive .forever, .ok [0x05, 0xd4, 0x06, 0x00, 0xbb]⟩]

theorem receive_serves_relinked :
    opened.turn = .receive ∧ ∃ contents final between u v, relinked = u ++ v ∧
      opened.Receives .forever contents final between u v (.ok [0xbb]) (opened.turned .send) :=
  ⟨rfl, (receive_serves rfl .forever).yields
    ⟨3, .ask _ (.ask _ (.ask _ (.ask _ (.ask _ (.done _)))))⟩⟩

end Contactless.Dep.TargetSide
