import Contactless.Proofs.Dep.Calls

/-! Reassembly of chained payloads. A target gives back what it accepted during the reception that
completes the payload. What it acknowledged during an earlier one that failed stays on record in the
transcripts, and is missing from the payload. -/
namespace Contactless.Dep

section Records

/-- The payload of a data frame that announces more, or that announces no more. -/
def chunk (more : Bool) (frame : Bytes) : Bytes :=
  match InitiatorFrame.decode frame with
  | .ok (.data ⟨.information announced _, payload⟩) => if announced = more then payload else []
  | _ => []

/-- What is left of some pieces once a frame was received: an attribute request starts afresh. -/
def kept (pieces frame : Bytes) : Bytes :=
  match InitiatorFrame.decode frame with
  | .ok (.atr _) => []
  | _ => pieces

def answered : List Chip.Event → Bool
  | ⟨.send _ _, .ok ()⟩ :: _ => true
  | _ => false

/-- The pieces on record after an event. A chunk counts if its acknowledgement goes out. -/
def recorded (pieces : Bytes) (rest : List Chip.Event) : Chip.Event → Bytes
  | ⟨.receive _, .ok frame⟩ => kept pieces frame ++ if answered rest then chunk true frame else []
  | _ => pieces

def acknowledged (pieces : Bytes) : List Chip.Event → Bytes
  | [] => pieces
  | event :: rest => acknowledged (recorded pieces rest event) rest

/-- The piece in the frame with which a reception ended. -/
def completing (t : List Chip.Event) : Bytes :=
  match t.getLast? with
  | some ⟨.receive _, .ok frame⟩ => chunk false frame
  | _ => []

/-- All the pieces up to the end of a reception that completes a payload. -/
def accepted (pieces : Bytes) (t : List Chip.Event) : Bytes := acknowledged pieces t ++ completing t

def Restarts : Chip.Event → Prop
  | ⟨.receive _, .ok frame⟩ => ∃ request, InitiatorFrame.decode frame = .ok (.atr request)
  | _ => False

def Relinks (t : List Chip.Event) : Prop := ∃ event ∈ t, Restarts event

/-- An event adds to the pieces, unless it puts others in their place. -/
theorem recorded_cases (rest : List Chip.Event) (event : Chip.Event) :
    (Restarts event ∧ ∃ fresh, ∀ pieces, recorded pieces rest event = fresh) ∨
      ¬ Restarts event ∧ ∃ more, ∀ pieces, recorded pieces rest event = pieces ++ more := by
  unfold recorded Restarts
  split
  · rename_i wait frame
    unfold kept
    split
    · rename_i request decoded
      exact .inl ⟨⟨request, decoded⟩, _, fun _ => rfl⟩
    · rename_i other
      exact .inr ⟨fun ⟨request, decoded⟩ => other request decoded, _, fun _ => rfl⟩
  · exact .inr ⟨id, [], fun pieces => (List.append_nil pieces).symm⟩

variable {t : List Chip.Event}

theorem acknowledged_append (closed : ¬ Relinks t) (first pieces : Bytes) :
    acknowledged (first ++ pieces) t = first ++ acknowledged pieces t := by
  induction t generalizing pieces with
  | nil => rfl
  | cons event rest ih =>
      unfold acknowledged
      rcases recorded_cases rest event with ⟨restarts, -⟩ | ⟨-, more, adds⟩
      · exact absurd ⟨event, List.mem_cons_self, restarts⟩ closed
      · rw [adds, adds, List.append_assoc]
        exact ih (fun ⟨other, member, restarts⟩ =>
          closed ⟨other, List.mem_cons_of_mem event member, restarts⟩) _

/-- Of the pieces before an attribute request nothing is left. -/
theorem acknowledged_of_relinks (relinks : Relinks t) (pieces others : Bytes) :
    acknowledged pieces t = acknowledged others t := by
  induction t generalizing pieces others with
  | nil =>
      obtain ⟨event, member, -⟩ := relinks
      cases member
  | cons event rest ih =>
      unfold acknowledged
      rcases recorded_cases rest event with ⟨-, fresh, puts⟩ | ⟨ordinary, -⟩
      · rw [puts, puts]
      · obtain ⟨other, member, restarts⟩ := relinks
        rcases List.mem_cons.mp member with rfl | later
        · exact absurd restarts ordinary
        · exact ih ⟨other, later, restarts⟩ _ _

end Records

section Messages

open TargetSide

variable {wait : Timeout} {s s' : TargetSide} {received frame payload : Bytes}
  {content : InitiatorFrame} {t : List Chip.Event}

/-- A reaction to a frame goes on with what is on record, or is complete with the last piece. -/
def Reaction.Records (received frame : Bytes) : Reaction → Prop
  | reply _ (.ok pieces) _ => pieces = kept received frame ++ chunk true frame
  | complete payload => payload = kept received frame ++ chunk false frame
  | _ => True

theorem react_records (s : TargetSide) (received : Bytes)
    (decoded : InitiatorFrame.decode frame = .ok content) :
    (s.react received content).Records received frame := by
  unfold Reaction.Records kept chunk
  rw [decoded]
  cases content with
  | atr request =>
      unfold react
      cases s.description with
      | none => trivial
      | some own => rfl
  | psl did baud fsl => exact (List.append_nil received).symm
  | dsl => trivial
  | rls => trivial
  | data pdu =>
      obtain ⟨pfb, piece⟩ := pdu
      unfold react reactData
      cases pfb with
      | information more k =>
          dsimp only
          by_cases current : k = s.pni
          · rw [if_pos current]
            cases more <;> rfl
          · rw [if_neg current]
            trivial
      | attention => exact (List.append_nil received).symm
      | ack k => trivial
      | nack k => trivial
      | timeoutExtension => trivial

theorem completing_reply (answer : Bytes) (t : List Chip.Event) :
    completing (⟨.receive wait, .ok frame⟩ :: ⟨.send answer wait, .ok ()⟩ :: t) = completing t := by
  cases t with
  | nil => rfl
  | cons event rest =>
      unfold completing
      rw [List.getLast?_cons_cons, List.getLast?_cons_cons]

/-- Whatever came before, a payload is made of the pieces of the reception that completes it. -/
theorem TargetSide.Receiving.message (h : Receiving wait s received t (.ok payload) s') :
    payload = accepted received t := by
  generalize outcome : (Except.ok payload : Except Error Bytes) = r at h
  induction h with
  | @completed s received frame content payload decoded reacts =>
      cases outcome
      have records := react_records s received decoded
      rw [reacts] at records
      have whole : payload = kept received frame ++ chunk false frame := records
      rw [whole]
      exact congrArg (· ++ _) (List.append_nil _).symm
  | @replied s received frame content answer pieces next t r s' decoded reacts rest ih =>
      have records := react_records s received decoded
      rw [reacts] at records
      have onRecord : pieces = kept received frame ++ chunk true frame := records
      rw [ih outcome, onRecord]
      unfold accepted
      rw [completing_reply]
      rfl
  | lost => cases outcome
  | unreadable => cases outcome
  | refused => cases outcome
  | unbuilt => cases outcome
  | unsent => cases outcome
  | stopped => cases outcome

end Messages

section Histories

/-- What is on record after a call, given what was before it. It is forgotten with the payload that
is given back, and with another link. -/
def Episode.pending (before : Bytes) : Episode → Bytes
  | ⟨.receive _, _, .ok _⟩ => []
  | ⟨.receive _, t, .error _⟩ => acknowledged before t
  | ⟨.init .., _, .ok _⟩ => []
  | _ => before

/-- What a target acknowledged and has not given back. -/
def pending (es : List Episode) : Bytes := es.foldl Episode.pending []

theorem accepted_eq_iff (pieces : Bytes) (t : List Chip.Event) :
    accepted [] t = accepted pieces t ↔ Relinks t ∨ pieces = [] := by
  unfold accepted
  rw [List.append_left_inj]
  constructor
  · intro same
    by_cases relinks : Relinks t
    · exact .inl relinks
    · have split := acknowledged_append relinks pieces []
      rw [List.append_nil, ← same] at split
      exact .inr (List.self_eq_append_left.mp split)
  · rintro (relinks | rfl)
    · exact acknowledged_of_relinks relinks [] pieces
    · rfl

theorem Run.last {s s' : TargetSide} {es : List Episode} {e : Episode}
    (run : Run s (es ++ [e]) s') :
    ∃ between, e.call.act.Yields between e.transcript e.outcome s' := by
  induction es generalizing s with
  | nil =>
      cases run with
      | cons step rest =>
          cases rest
          exact ⟨s, step⟩
  | cons other es ih =>
      cases run with
      | cons _ rest => exact ih rest

/-- A payload lacks what was acknowledged before the reception that completes it, unless an
attribute request came in between. It is all that was accepted just when there is no such thing. -/
theorem run_message {device : Device .target} {es : List Episode} {wait : Timeout}
    {t : List Chip.Event} {payload : Bytes} {s : TargetSide}
    (run : Run (.new device) (es ++ [⟨.receive wait, t, .ok payload⟩]) s) :
    payload = accepted [] t ∧
      (payload = accepted (pending es) t ↔ Relinks t ∨ pending es = []) := by
  obtain ⟨between, n, received⟩ := run.last
  have message : payload = accepted [] t := by
    change (TargetSide.receive wait n between).Yields t (.ok payload, s) at received
    by_cases turn : between.turn = .receive
    · rw [TargetSide.receive_apply wait n between turn] at received
      exact (TargetSide.receiving_of_yields n received).message
    · rw [TargetSide.receive_refused wait n between turn] at received
      cases received
  refine ⟨message, ?_⟩
  rw [message]
  exact accepted_eq_iff (pending es) t

def Episode.chained : Episode where
  call := .receive .forever
  transcript := [⟨.receive .forever, .ok [0x05, 0xd4, 0x06, 0x10, 0xaa]⟩,
    ⟨.send [0x04, 0xd5, 0x07, 0x40] .forever, .ok ()⟩,
    ⟨.receive .forever, .ok [0x05, 0xd4, 0x06, 0x01, 0xbb]⟩]
  outcome := .ok [0xaa, 0xbb]

theorem run_message_chained :
    [0xaa, 0xbb] = accepted [] Episode.chained.transcript ∧
      ([0xaa, 0xbb] = accepted (pending [.opening]) Episode.chained.transcript ↔
        Relinks Episode.chained.transcript ∨ pending [.opening] = []) := by
  have run : Run .fresh ([.opening] ++ [.chained])
      (TargetSide.opened.advanced.turned .send) :=
    .of_opening (.cons ⟨2, .ask _ (.ask _ (.ask _ (.done _)))⟩ (.nil _))
  exact run_message run

/-- A reception that acknowledges a chunk and then waits in vain for the next one. -/
def Episode.interrupted : Episode where
  call := .receive .standard
  transcript := [⟨.receive .standard, .ok [0x05, 0xd4, 0x06, 0x10, 0xaa]⟩,
    ⟨.send [0x04, 0xd5, 0x07, 0x40] .standard, .ok ()⟩,
    ⟨.receive .standard, .error .timeout⟩]
  outcome := .error .timeout

def Episode.resumed : Episode where
  call := .receive .standard
  transcript := [⟨.receive .standard, .ok [0x05, 0xd4, 0x06, 0x01, 0xbb]⟩]
  outcome := .ok [0xbb]

/-- The first chunk of the chain was acknowledged, and the payload starts with the second one. -/
theorem chunk_lost :
    ¬ ∀ (device : Device .target) (es : List Episode) (wait : Timeout) (t : List Chip.Event)
      (payload : Bytes) (s : TargetSide),
      Run (.new device) (es ++ [⟨.receive wait, t, .ok payload⟩]) s →
        payload = accepted (pending es) t := by
  intro whole
  have run : Run .fresh ([.opening, .interrupted] ++ [.resumed])
      (TargetSide.opened.advanced.turned .send) :=
    .of_opening (.cons ⟨2, .ask _ (.ask _ (.ask _ (.done _)))⟩
      (.cons ⟨1, .ask _ (.done _)⟩ (.nil _)))
  have both : ([0xbb] : Bytes) = [0xaa, 0xbb] := whole _ _ _ _ _ _ run
  cases both

end Histories

end Contactless.Dep
