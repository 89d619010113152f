import Contactless.Dep.Target
import Contactless.Proofs.Act

/-! What the data exchange target makes of each frame. While it receives, a frame is refused,
completes the payload, or is answered before the wait goes on or ends. While it sends, a frame
grants what it waits for or ends the call. -/
namespace Contactless.Dep

/-- What a receiving target makes of a frame. A reply changes the target only once it was sent. -/
inductive Reaction where
  | refuse (e : Error)
  | complete (payload : Bytes)
  | reply (frame : Except Error Bytes) (after : Except Error Bytes) (next : TargetSide)

namespace TargetSide

/-- The target once it has described itself to an initiator. -/
def linkedTo (s : TargetSide) (own : DepInfo) (request : AtrRequest) : TargetSide :=
  { s with initiator := some (request.info own.mode own.baud), turn := .receive, pni := 0 }

def answerTo (own : DepInfo) (request : AtrRequest) : AtrAnswer :=
  { nfcid3 := own.nfcid3, did := request.did, generalBytes := own.generalBytes }

def unlinked (s : TargetSide) : TargetSide := { s with turn := .unlinked, initiator := none }

def advanced (s : TargetSide) : TargetSide := { s with pni := nextPni s.pni }

def turned (s : TargetSide) (turn : Turn) : TargetSide := { s with turn }

def reactData (s : TargetSide) (received : Bytes) (pdu : Pdu) : Reaction :=
  match pdu.pfb with
  | .information more n =>
    if n = s.pni then
      if more then
        .reply ((Pdu.ack s.pni).encode .answer) (.ok (received ++ pdu.payload)) s.advanced
      else .complete (received ++ pdu.payload)
    else .refuse (unexpected pdu.pfb s.pni)
  | .attention => .reply (Pdu.attention.encode .answer) (.ok received) s
  | other => .refuse (unexpected other s.pni)

def react (s : TargetSide) (received : Bytes) : InitiatorFrame → Reaction
  | .data pdu => s.reactData received pdu
  | .psl did baud _ => .reply (pslDone did) (.ok received) (s.setBaud baud)
  | .atr request =>
    match s.description with
    | none => .refuse (.invalidParameter "DEP target not initialised")
    | some own => .reply (answerTo own request).encode (.ok []) (s.linkedTo own request)
  | .dsl => .reply (dslDone s.did) (.error .targetReleased) s.unlinked
  | .rls => .reply (rlsDone s.did) (.error .targetReleased) s.unlinked

end TargetSide

/-- A reaction as a dialogue, which goes on with the pieces so far or ends with a payload. -/
def Reaction.act (wait : Timeout) (s : TargetSide) :
    Reaction → Dialogue Chip (Except Error (Bytes ⊕ Bytes) × TargetSide)
  | refuse e => .done (.error e, s)
  | complete payload => .done (.ok (.inr payload), s.turned .send)
  | reply (.error e) _ _ => .done (.error e, s)
  | reply (.ok frame) after next => .ask (.send frame wait) fun
    | .error e => .done (.error e, s)
    | .ok () => .done (after.map .inl, next)

namespace TargetSide

variable (wait : Timeout) (n : Nat) (s : TargetSide)

@[simp] theorem onDevice_apply {α : Type} (x : Act Chip (Device .target) α) :
    onDevice x n s = (x n s.device).bind fun r => .done (r.1, { s with device := r.2 }) := rfl

theorem sendFrame_ok (frame : Bytes) :
    sendFrame (.ok frame) wait n s = .ask (.send frame wait) fun r => .done (r, s) := rfl

theorem receiveFrame_apply :
    receiveFrame wait n s =
      .ask (.receive wait) fun r => .done (r.bind InitiatorFrame.decode, s) := by
  unfold receiveFrame
  simp only [Act.bind_apply, Chip.receive, Act.request_apply, id, Dialogue.bind_ask,
    Dialogue.bind_done_left]
  congr 1
  funext r
  cases r <;> rfl

theorem sendFrame_bind (frame : Except Error Bytes) (after : Except Error Bytes)
    (f : TargetSide → TargetSide) {x : Act Chip TargetSide (Bytes ⊕ Bytes)}
    (ends : ∀ t, x n t = .done (after.map .inl, f t)) :
    (sendFrame frame wait >>= fun _ => x) n s = (Reaction.reply frame after (f s)).act wait s := by
  rw [Act.bind_apply]
  cases frame with
  | error e => rfl
  | ok frame =>
      simp only [sendFrame_ok, Dialogue.bind_ask, Dialogue.bind_done_left, Reaction.act]
      congr 1
      funext r
      cases r with
      | error e => rfl
      | ok done => exact ends s

theorem receiveData_apply (received : Bytes) (pdu : Pdu) :
    receiveData received pdu wait n s = (s.reactData received pdu).act wait s := by
  unfold receiveData reactData
  rw [Act.bind_apply, Act.get_apply, Dialogue.bind_done_left, Act.resume_ok]
  dsimp only
  cases pdu.pfb with
  | information more k =>
      by_cases current : k = s.pni
      · dsimp only
        rw [if_pos current, if_pos current]
        cases more with
        | true => exact sendFrame_bind wait n s _ _ advanced fun t => rfl
        | false => rfl
      · dsimp only
        rw [if_neg current, if_neg current]
        rfl
  | attention => exact sendFrame_bind wait n s _ _ id fun t => rfl
  | ack k => rfl
  | nack k => rfl
  | timeoutExtension => rfl

theorem answerAtr_apply {own : DepInfo} (described : s.description = some own)
    (request : AtrRequest) :
    answerAtr request wait n s =
      (do
        sendFrame (answerTo own request).encode wait
        modify fun t => t.linkedTo own request : Act Chip TargetSide Unit) n s := by
  unfold answerAtr
  rw [Act.bind_apply, Act.get_apply, Dialogue.bind_done_left, Act.resume_ok, described]
  rfl

theorem relink_apply (received : Bytes) (request : AtrRequest) :
    (do
      answerAtr request wait
      return .inl [] : Act Chip TargetSide (Bytes ⊕ Bytes)) n s =
      (s.react received (.atr request)).act wait s := by
  unfold react
  cases described : s.description with
  | none =>
      simp only [Act.bind_apply, answerAtr, Act.get_apply, Dialogue.bind_done_left, Act.resume_ok,
        described]
      rfl
  | some own =>
      rw [Act.bind_apply, answerAtr_apply wait n s described, ← Act.bind_apply, bind_assoc]
      exact sendFrame_bind wait n s _ _ (linkedTo · own request) fun t => rfl

/-- The reaction to what was received, which may be a failure. -/
def heard (received : Bytes) (r : Except Error Bytes) :
    Dialogue Chip (Except Error (Bytes ⊕ Bytes) × TargetSide) :=
  match r.bind InitiatorFrame.decode with
  | .error e => .done (.error e, s)
  | .ok frame => (s.react received frame).act wait s

/-- One step of a receiving target is a reception and its reaction to what was received. -/
theorem receiveStep_apply (received : Bytes) :
    receiveStep wait received n s = .ask (.receive wait) (heard wait s received) := by
  unfold receiveStep
  simp only [Act.bind_apply, receiveFrame_apply, Dialogue.bind_ask, Dialogue.bind_done_left]
  congr 1
  funext r
  unfold heard
  cases r.bind InitiatorFrame.decode with
  | error e => rfl
  | ok frame =>
      cases frame with
      | data pdu => exact receiveData_apply wait n s received pdu
      | psl did baud fsl => exact sendFrame_bind wait n s _ _ (setBaud · baud) fun t => rfl
      | atr request => exact relink_apply wait n s received request
      | dsl => exact sendFrame_bind wait n s _ _ unlinked fun t => rfl
      | rls => exact sendFrame_bind wait n s _ _ unlinked fun t => rfl

/-- What a target that awaits a certain frame makes of another one. -/
def demand (expected : InitiatorFrame → Bool) (refusal : InitiatorFrame → Error)
    (frame : InitiatorFrame) : Except Error Unit :=
  if expected frame then .ok () else .error (refusal frame)

def acknowledges (pni : UInt8) : InitiatorFrame → Bool
  | .data pdu => pdu.pfb == .ack pni
  | _ => false

def grants (rtox : UInt8) : InitiatorFrame → Bool
  | .data pdu => pdu.rtox == some rtox
  | _ => false

def notAcknowledged (pni : UInt8) (frame : InitiatorFrame) : Error :=
  .rfProtocol s!"ACK {pni.toNat} expected, got {frame.text}"

def notGranted (rtox : UInt8) (frame : InitiatorFrame) : Error :=
  .rfProtocol s!"RTOX {rtox.toNat} echo expected, got {frame.text}"

section Demands

variable (expected : InitiatorFrame → Bool) (refusal : InitiatorFrame → Error)

def demanded (r : Except Error Bytes) : Dialogue Chip (Except Error Unit × TargetSide) :=
  .done ((r.bind InitiatorFrame.decode).bind (demand expected refusal), s)

/-- A reception with a demand on what is received. -/
def await : Dialogue Chip (Except Error Unit × TargetSide) :=
  .ask (.receive wait) (demanded s expected refusal)

theorem demanded_ok {frame : Bytes} {content : InitiatorFrame}
    (decoded : InitiatorFrame.decode frame = .ok content) (met : expected content = true) :
    demanded s expected refusal (.ok frame) = .done (.ok (), s) := by
  simp only [demanded, Except.bind, decoded, demand, met, if_true]

theorem receiveFrame_bind {x : InitiatorFrame → Act Chip TargetSide Unit}
    (same : ∀ frame, x frame n s = .done (demand expected refusal frame, s)) :
    (receiveFrame wait >>= x) n s = await wait s expected refusal := by
  rw [Act.bind_apply, receiveFrame_apply, Dialogue.bind_ask]
  unfold await demanded
  congr 1
  funext r
  cases r.bind InitiatorFrame.decode with
  | error e => rfl
  | ok frame => exact same frame

end Demands

theorem expectAck_apply :
    expectAck wait n s = await wait s (acknowledges s.pni) (notAcknowledged s.pni) := by
  refine receiveFrame_bind wait n s _ _ fun frame => ?_
  change (if !acknowledges s.pni frame then
    throw (notAcknowledged s.pni frame) else pure () : Act Chip TargetSide Unit) n s = _
  unfold demand
  by_cases h : acknowledges s.pni frame <;> simp only [h] <;> rfl

def afterPiece (more : Bool) : Except Error Unit → Dialogue Chip (Except Error Unit × TargetSide)
  | .error e => .done (.error e, s)
  | .ok () => if more then expectAck wait n s.advanced else .done (.ok (), s.advanced)

theorem sendPiece_apply (more : Bool) (piece : Bytes) :
    sendPiece wait more piece n s =
      match (Pdu.information more s.pni piece).encode .answer with
      | .error e => .done (.error e, s)
      | .ok frame => .ask (.send frame wait) (afterPiece wait n s more) := by
  unfold sendPiece
  simp only [Act.bind_apply, Act.get_apply, Dialogue.bind_done_left, Act.resume_ok]
  cases (Pdu.information more s.pni piece).encode .answer with
  | error e => rfl
  | ok frame =>
      rw [sendFrame_ok, Dialogue.bind_ask]
      congr 1
      funext r
      cases r with
      | error e => rfl
      | ok done => cases more <;> rfl

def afterRequest (rtox : UInt8) : Except Error Unit → Dialogue Chip (Except Error Unit × TargetSide)
  | .error e => .done (.error e, s)
  | .ok () => await wait s (grants rtox) (notGranted rtox)

theorem receive_grant (rtox : UInt8) :
    (do
      let frame ← receiveFrame wait
      let granted :=
        match frame with
        | .data pdu => pdu.rtox == some rtox
        | _ => false
      if !granted then throw (.rfProtocol s!"RTOX {rtox.toNat} echo expected, got {frame.text}")
      : Act Chip TargetSide Unit) n s = await wait s (grants rtox) (notGranted rtox) := by
  refine receiveFrame_bind wait n s _ _ fun frame => ?_
  change (if !grants rtox frame then
    throw (notGranted rtox frame) else pure () : Act Chip TargetSide Unit) n s = _
  unfold demand
  by_cases h : grants rtox frame <;> simp only [h] <;> rfl

theorem requestTime_apply (rtox : UInt8) (pending : s.turn = .send) :
    requestTime rtox wait n s =
      match (Pdu.timeoutExtension rtox).encode .answer with
      | .error e => .done (.error e, s)
      | .ok frame => .ask (.send frame wait) (afterRequest wait s rtox) := by
  unfold requestTime
  simp only [Act.bind_apply, Act.get_apply, Dialogue.bind_done_left, Act.resume_ok, pending, ne_eq,
    not_true_eq_false, if_false]
  cases (Pdu.timeoutExtension rtox).encode .answer with
  | error e => rfl
  | ok frame =>
      rw [sendFrame_ok, Dialogue.bind_ask]
      congr 1
      funext r
      cases r with
      | error e => rfl
      | ok done => exact receive_grant wait n s rtox

section Turns

theorem receive_apply (turn : s.turn = .receive) :
    receive wait n s = Act.steps (receiveStep wait) n [] n s := by
  unfold receive
  rw [Act.bind_apply, Act.get_apply, Dialogue.bind_done_left, Act.resume_ok]
  simp only [turn, ne_eq, not_true_eq_false, if_false]
  rfl

theorem receive_refused (turn : s.turn ≠ .receive) :
    receive wait n s = .done (.error (.invalidParameter
      s!"receive called while the target expects {s.turn.name}"), s) := by
  unfold receive
  rw [Act.bind_apply, Act.get_apply, Dialogue.bind_done_left, Act.resume_ok]
  simp only [ne_eq, turn, not_false_eq_true, if_true]
  rfl

theorem send_apply {payload last : Bytes} {head : List Bytes} (turn : s.turn = .send)
    (cut : pieces s.limit payload = (head, last)) :
    send payload wait n s =
      (do
        head.forM (sendPiece wait true)
        sendPiece wait false last
        modify fun t => t.turned .receive : Act Chip TargetSide Unit) n s := by
  unfold send
  rw [Act.bind_apply, Act.get_apply, Dialogue.bind_done_left, Act.resume_ok,
    if_neg (not_not_intro turn), cut]
  rfl

theorem send_refused (payload : Bytes) (turn : s.turn ≠ .send) :
    send payload wait n s = .done (.error (.invalidParameter
      s!"send called while the target expects {s.turn.name}"), s) := by
  unfold send
  rw [Act.bind_apply, Act.get_apply, Dialogue.bind_done_left, Act.resume_ok, if_pos turn]
  rfl

theorem requestTime_refused (rtox : UInt8) (turn : s.turn ≠ .send) :
    requestTime rtox wait n s = .done (.error (.invalidParameter
      "RTOX is only valid while an answer is pending"), s) := by
  unfold requestTime
  rw [Act.bind_apply, Act.get_apply, Dialogue.bind_done_left, Act.resume_ok, if_pos turn]
  rfl

end Turns

section Receiving

variable (fuel : Nat) (received : Bytes)

/-- How a receiving target goes on with a frame, while so many more are listened for. -/
def hear (r : Except Error Bytes) : Dialogue Chip (Except Error Bytes × TargetSide) :=
  (heard wait s received r).bind (Act.resume (Act.again (receiveStep wait) fuel) n)

theorem steps_receive_succ :
    Act.steps (receiveStep wait) (fuel + 1) received n s =
      .ask (.receive wait) (hear wait n s fuel received) := by
  rw [Act.steps_succ, receiveStep_apply, Dialogue.bind_ask]
  rfl

theorem hear_ok {frame : Bytes} {content : InitiatorFrame}
    (decoded : InitiatorFrame.decode frame = .ok content) :
    hear wait n s fuel received (.ok frame) =
      ((s.react received content).act wait s).bind
        (Act.resume (Act.again (receiveStep wait) fuel) n) := by
  simp only [hear, heard, Except.bind, decoded]

theorem hear_unreadable {frame : Bytes} {e : Error}
    (failed : InitiatorFrame.decode frame = .error e) :
    hear wait n s fuel received (.ok frame) = .done (.error e, s) := by
  simp only [hear, heard, Except.bind, failed]
  rfl

/-- After its reply the target listens on, or the call is over. -/
def afterReply (after : Except Error Bytes) (next : TargetSide) :
    Dialogue Chip (Except Error Bytes × TargetSide) :=
  match after with
  | .error e => .done (.error e, next)
  | .ok received => Act.steps (receiveStep wait) fuel received n next

theorem hear_reply {frame answer : Bytes} {content : InitiatorFrame}
    {after : Except Error Bytes} {next : TargetSide}
    (decoded : InitiatorFrame.decode frame = .ok content)
    (reacts : s.react received content = .reply (.ok answer) after next) :
    ∃ rest, hear wait n s fuel received (.ok frame) = .ask (.send answer wait) rest ∧
      rest (.ok ()) = afterReply wait n fuel after next := by
  rw [hear_ok wait n s fuel received decoded, reacts]
  refine ⟨_, rfl, ?_⟩
  cases after <;> rfl

theorem hear_complete {frame payload : Bytes} {content : InitiatorFrame}
    (decoded : InitiatorFrame.decode frame = .ok content)
    (reacts : s.react received content = .complete payload) :
    hear wait n s fuel received (.ok frame) = .done (.ok payload, s.turned .send) := by
  rw [hear_ok wait n s fuel received decoded, reacts]
  rfl

end Receiving

section Opening

variable (own : DepInfo)

def prepared : TargetSide where
  device := { s.device with selected := some (.dep own) }
  description := some own
  initiator := none
  turn := .unlinked
  pni := s.pni

/-- How a target that was armed goes on with the first frame. -/
def greeting (r : Except Error Bytes) : Dialogue Chip (Except Error Bytes × TargetSide) :=
  Act.resume (fun first => do
    greet first wait
    return first) n (r, s)

theorem init_apply :
    init (.dep own) wait n s = .ask (.arm (.dep own) wait) (greeting wait n (s.prepared own)) := by
  unfold init
  simp only [Act.bind_apply, Act.modify_apply, Dialogue.bind_done_left, Act.resume_ok,
    onDevice_apply, Device.arm, Chip.arm, Act.request_apply, Dialogue.bind_ask]
  rfl

/-- How a target that has built its answer to a first frame goes on once the answer is out. -/
def greeted (first : Bytes) (request : AtrRequest) :
    Except Error Unit → Dialogue Chip (Except Error Bytes × TargetSide)
  | .error e => .done (.error e, s)
  | .ok () => .done (.ok first, s.linkedTo own request)

theorem greeting_atr {first : Bytes} {request : AtrRequest} (described : s.description = some own)
    (decoded : InitiatorFrame.decode first = .ok (.atr request)) :
    greeting wait n s (.ok first) =
      match (answerTo own request).encode with
      | .error e => .done (.error e, s)
      | .ok frame => .ask (.send frame wait) (greeted s own first request) := by
  unfold greeting greet
  rw [Act.resume_ok, decoded]
  simp only [Act.bind_apply, Act.ofExcept_apply, Dialogue.bind_done_left, Act.resume_ok,
    answerAtr_apply wait n s described]
  cases (answerTo own request).encode with
  | error e => rfl
  | ok frame =>
      rw [sendFrame_ok]
      simp only [Dialogue.bind_ask, Dialogue.bind_done_left]
      congr 1
      funext r
      cases r <;> rfl

theorem greeting_refused {r : Except Error Bytes}
    (other : ∀ request, r.bind InitiatorFrame.decode ≠ .ok (.atr request)) :
    ∃ e, greeting wait n s r = .done (.error e, s) ∧
      (r.bind InitiatorFrame.decode = .error e ∨ ∃ detail, e = .rfProtocol detail) := by
  unfold greeting greet
  cases r with
  | error e => exact ⟨e, rfl, .inl rfl⟩
  | ok first =>
      rw [Act.resume_ok]
      simp only [Except.bind] at other ⊢
      cases decoded : InitiatorFrame.decode first with
      | error e => exact ⟨e, rfl, .inl rfl⟩
      | ok content =>
          cases content with
          | atr request => exact absurd decoded (other request)
          | _ => exact ⟨_, rfl, .inr ⟨_, rfl⟩⟩

theorem init_refused {target : Target} (other : ∀ own, target ≠ .dep own) :
    init target wait n s = .done (.error (.invalidParameter
      s!"DEP target expected, got {target.modulation.technology.name}"), s) := by
  cases target with
  | dep own => exact absurd rfl (other own)
  | _ => rfl

end Opening

end TargetSide

end Contactless.Dep
