import Contactless.Proofs.Relay.Linkage

/-! Frames on a byte stream, from one end to the other. What was sent is received, in order and
nothing else, up to the place where the stream ends. -/
namespace Contactless.Relay

/-- Frames that cannot be written on a stream, and what they fail with. -/
inductive Refused : LinkFrame → Error → Prop
  | target {t : Target} : (∀ atqa sak uid ats, t ≠ .typeA atqa sak uid ats) →
      Refused (.target t)
        (.deviceNotSupported s!"relaying {t.modulation.technology.name} targets")
  | long {frame : LinkFrame} {data : Bytes} : frame.data = .ok data → 0xffff < data.length →
      Refused frame (.bufferOverflow 0xffff data.length)

theorem encodeTarget_error_iff {t : Target} {e : Error} :
    encodeTarget t = .error e ↔ (∀ atqa sak uid ats, t ≠ .typeA atqa sak uid ats) ∧
      e = .deviceNotSupported s!"relaying {t.modulation.technology.name} targets" := by
  cases t with
  | typeA atqa sak uid ats => exact ⟨nofun, fun other => absurd rfl (other.1 atqa sak uid ats)⟩
  | _ =>
      constructor
      · rintro ⟨⟩
        exact ⟨nofun, rfl⟩
      · rintro ⟨-, rfl⟩
        rfl

theorem LinkFrame.encode_error_iff {frame : LinkFrame} {e : Error} :
    frame.encode = .error e ↔ Refused frame e := by
  constructor
  · intro failed
    unfold encode at failed
    cases built : frame.data with
    | error e' =>
        rw [built] at failed
        cases failed
        cases frame with
        | target t =>
            obtain ⟨other, rfl⟩ := encodeTarget_error_iff.mp built
            exact .target other
        | _ => cases built
    | ok data =>
        rw [built, ok_bind] at failed
        by_cases long : 0xffff < data.length
        · rw [if_pos long] at failed
          cases failed
          exact .long built long
        · rw [if_neg long] at failed
          cases failed
  · intro refused
    cases refused with
    | @target t other =>
        have failed := encodeTarget_error_iff.mpr ⟨other, rfl⟩
        unfold encode
        rw [show LinkFrame.data (.target t) = _ from failed]
        rfl
    | long built long =>
        unfold encode
        rw [built, ok_bind, if_pos long]
        rfl

namespace StreamLink

theorem send_refused {frame : LinkFrame} {e : Error} (refused : Refused frame e)
    (l : StreamLink) : l.send frame = (.error e, l) := by
  unfold send
  rw [LinkFrame.encode_error_iff.mpr refused]

/-- A frame is sent with success when the stream took the whole of it. -/
theorem encode_of_send {l l' : StreamLink} {frame : LinkFrame}
    (sent : l.send frame = (.ok (), l')) :
    ∃ bytes, frame.encode = .ok bytes ∧ l'.output.written = l.output.written ++ bytes := by
  unfold send at sent
  cases encoded : frame.encode with
  | error e =>
      rw [encoded] at sent
      cases sent
  | ok bytes =>
      rw [encoded] at sent
      unfold Sink.write at sent
      dsimp only at sent
      by_cases room : l.output.room bytes.length = bytes.length
      · rw [if_pos room, room, List.take_length] at sent
        cases sent
        exact ⟨bytes, rfl, rfl⟩
      · rw [if_neg room] at sent
        cases sent

/-- A frame of which the end is missing is used up and gives nothing. -/
theorem recv_take {frame : LinkFrame} {bytes : Bytes} (encoded : frame.encode = .ok bytes)
    {n : Nat} (short : n < bytes.length) (output : Sink) :
    recv ⟨bytes.take n, output⟩ = (.error .shortRead, ⟨[], output⟩) := by
  obtain ⟨data, -, fits, rfl⟩ := LinkFrame.exists_data_of_encode encoded
  have length : (UInt16.ofNat data.length).toNat = data.length :=
    Nat.mod_eq_of_lt (Nat.lt_succ_of_le fits)
  obtain ⟨hi, lo, word⟩ : ∃ hi lo, be16 (UInt16.ofNat data.length) = [hi, lo] := ⟨_, _, rfl⟩
  have size : (word16 hi lo).toNat = data.length := by
    cases word
    rw [word16_be16, length]
  rw [word] at short ⊢
  by_cases head : n < 3
  · have missing : readExact 3 ((frame.kind :: [hi, lo] ++ data).take n) =
        (.error .shortRead, []) := by
      unfold readExact
      rw [if_neg]
      rw [List.length_take]
      omega
    unfold recv
    rw [missing]
    rfl
  · obtain ⟨m, rfl⟩ := Nat.exists_eq_add_of_le (Nat.le_of_not_lt head)
    have left : (frame.kind :: [hi, lo] ++ data).take (3 + m) =
        [frame.kind, hi, lo] ++ data.take m := by
      rw [Nat.add_comm]
      rfl
    have got : readExact 3 ([frame.kind, hi, lo] ++ data.take m) =
        (.ok [frame.kind, hi, lo], data.take m) := readExact_append [frame.kind, hi, lo] _
    have fields : readHead [frame.kind, hi, lo] = .ok (frame.kind, data.length) :=
      congrArg (fun n => Except.ok (frame.kind, n)) size
    have missing : readExact data.length (data.take m) = (.error .shortRead, []) := by
      unfold readExact
      rw [if_neg]
      simp only [List.length_append, List.length_cons, List.length_nil] at short
      rw [List.length_take]
      omega
    unfold recv
    rw [left]
    simp only [got, Except.bind, fields, missing]

/-- What the call with this number comes to, of calls that receive one after the other. -/
def received : Nat → StreamLink → Except Error LinkFrame
  | 0, l => l.recv.1
  | i + 1, l => received i l.recv.2

/-- Frames one after the other, and then an input that ended. -/
def outcome (frames : List LinkFrame) (i : Nat) : Except Error LinkFrame :=
  frames[i]?.elim (.error .shortRead) .ok

theorem received_empty (i : Nat) (output : Sink) :
    received i ⟨[], output⟩ = .error .shortRead := by
  induction i with
  | zero => rfl
  | succ i ih => exact ih

end StreamLink

open StreamLink

/-- The frames that stand whole in the first bytes of a stream, as far as they go. -/
structure Whole (frames : List LinkFrame) (n : Nat) (kept : List LinkFrame) : Prop where
  front : kept <+: frames
  most : ∀ {part bytes}, part <+: frames → Written part bytes →
    (part <+: kept ↔ bytes.length ≤ n)

theorem Written.nil_of {bytes : Bytes} (written : Written [] bytes) : bytes = [] := by
  cases written
  rfl

theorem Whole.nil (n : Nat) : Whole [] n [] where
  front := List.prefix_rfl
  most := by
    intro part bytes front written
    obtain rfl := List.prefix_nil.mp front
    rw [written.nil_of]
    exact iff_of_true List.prefix_rfl (Nat.zero_le n)

theorem Whole.cons {frame : LinkFrame} {bytes : Bytes} {frames kept : List LinkFrame} {n : Nat}
    (encoded : frame.encode = .ok bytes) (whole : Whole frames n kept) :
    Whole (frame :: frames) (bytes.length + n) (frame :: kept) where
  front := (List.prefix_cons_inj frame).mpr whole.front
  most := by
    intro part taken front written
    cases written with
    | nil => exact iff_of_true List.nil_prefix (Nat.zero_le _)
    | @cons _ first rest more encoded' written =>
        obtain ⟨rfl, tail⟩ := List.cons_prefix_cons.mp front
        cases encoded.symm.trans encoded'
        rw [List.prefix_cons_inj, whole.most tail written, List.length_append,
          Nat.add_le_add_iff_left]

theorem Whole.cut {frame : LinkFrame} {bytes : Bytes} {n : Nat}
    (encoded : frame.encode = .ok bytes) (short : n < bytes.length) (frames : List LinkFrame) :
    Whole (frame :: frames) n [] where
  front := List.nil_prefix
  most := by
    intro part taken front written
    cases written with
    | nil => exact iff_of_true List.prefix_rfl (Nat.zero_le n)
    | @cons _ first rest more encoded' written =>
        obtain ⟨rfl, -⟩ := List.cons_prefix_cons.mp front
        cases encoded.symm.trans encoded'
        refine iff_of_false (fun empty => nomatch List.prefix_nil.mp empty) ?_
        rw [List.length_append]
        omega

/-- The whole stream keeps every frame. -/
theorem Whole.all {frames kept : List LinkFrame} {bytes : Bytes}
    (whole : Whole frames bytes.length kept) (written : Written frames bytes) : kept = frames :=
  whole.front.eq_of_length_le
    ((whole.most List.prefix_rfl written).mpr Nat.le.refl).length_le

theorem received_take {frames : List LinkFrame} {bytes : Bytes} (written : Written frames bytes)
    (n : Nat) (output : Sink) :
    ∃ kept, Whole frames n kept ∧
      ∀ i, received i ⟨bytes.take n, output⟩ = outcome kept i := by
  induction written generalizing n with
  | nil =>
      refine ⟨[], .nil n, fun i => ?_⟩
      rw [List.take_nil]
      exact received_empty i output
  | @cons frame bytes frames rest encoded _ ih =>
      by_cases short : n < bytes.length
      · refine ⟨[], .cut encoded short frames, fun i => ?_⟩
        rw [List.take_append_of_le_length (Nat.le_of_lt short)]
        cases i with
        | zero => exact congrArg Prod.fst (recv_take encoded short output)
        | succ i =>
            unfold received
            rw [recv_take encoded short output]
            exact received_empty i output
      · obtain ⟨m, rfl⟩ := Nat.exists_eq_add_of_le (Nat.le_of_not_lt short)
        obtain ⟨kept, whole, outcomes⟩ := ih m
        have got := (recv_encode encoded (rest.take m) output).2
        refine ⟨frame :: kept, whole.cons encoded, fun i => ?_⟩
        rw [List.take_length_add_append]
        cases i with
        | zero => exact congrArg Prod.fst got
        | succ i =>
            unfold received
            rw [got]
            exact outcomes i

/-- Frames handed to a stream one after the other. Those that are refused may stand anywhere
between those that are taken. -/
inductive Sent : StreamLink → List LinkFrame → StreamLink → Prop
  | nil (l : StreamLink) : Sent l [] l
  | taken {l l' l'' : StreamLink} {frame : LinkFrame} {frames : List LinkFrame} :
      l.send frame = (.ok (), l') → Sent l' frames l'' → Sent l (frame :: frames) l''
  | refused {l l' : StreamLink} {frame : LinkFrame} {e : Error} {frames : List LinkFrame} :
      Refused frame e → Sent (l.send frame).2 frames l' → Sent l frames l'

theorem Sent.written {l l' : StreamLink} {frames : List LinkFrame} (sent : Sent l frames l') :
    ∃ bytes, Written frames bytes ∧ l'.output.written = l.output.written ++ bytes := by
  induction sent with
  | nil l => exact ⟨[], .nil, (List.append_nil _).symm⟩
  | taken first _ ih =>
      obtain ⟨bytes, encoded, front⟩ := encode_of_send first
      obtain ⟨rest, written, back⟩ := ih
      exact ⟨bytes ++ rest, .cons encoded written, by rw [back, front, List.append_assoc]⟩
  | refused refused _ ih =>
      rw [send_refused refused] at ih
      exact ih

/-- A stream carries the frames it took, all of them and no others: whoever reads it gets them in
order, and once it ends, be it in the middle of a frame, nothing more. A frame that cannot be
written leaves no trace on it, and one that can is taken by a stream that has room. -/
theorem stream_faithful :
    (∀ {l l' : StreamLink} {frames : List LinkFrame}, Sent l frames l' →
      ∃ bytes, l'.output.written = l.output.written ++ bytes ∧
        (∀ output i, received i ⟨bytes, output⟩ = outcome frames i) ∧
        ∀ n output, ∃ kept, Whole frames n kept ∧
          ∀ i, received i ⟨bytes.take n, output⟩ = outcome kept i) ∧
      ∀ (l : StreamLink) (frame : LinkFrame),
        (∀ e, Refused frame e → l.send frame = (.error e, l)) ∧
          ((∀ e, ¬ Refused frame e) → l.output.capacity = none → (l.send frame).1 = .ok ()) := by
  refine ⟨fun sent => ?_, fun l frame => ⟨fun e refused => send_refused refused l,
    fun accepted unbounded => ?_⟩⟩
  · obtain ⟨bytes, written, sent⟩ := sent.written
    refine ⟨bytes, sent, fun output i => ?_, received_take written⟩
    obtain ⟨kept, whole, outcomes⟩ := received_take written bytes.length output
    rw [← whole.all written, ← outcomes i, List.take_length]
  · cases encoded : frame.encode with
    | error e => exact absurd (LinkFrame.encode_error_iff.mp encoded) (accepted e)
    | ok bytes =>
        unfold send Sink.write Sink.room
        rw [encoded, unbounded]
        exact if_pos rfl

section Sample

def sampleFrames : List LinkFrame := [.command [0x00, 0xa4], .shutdown]

def sampleBytes : Bytes := [0x02, 0x00, 0x02, 0x00, 0xa4, 0x04, 0x00, 0x00]

theorem sent_sample : Sent ⟨[], {}⟩ sampleFrames ⟨[], ⟨sampleBytes, none⟩⟩ := by
  have jewel : Refused (.target (.jewel ⟨[0x0c, 0x00], rfl⟩ ⟨[1, 2, 3, 4], rfl⟩)) _ :=
    .target nofun
  exact .taken rfl (.refused jewel (.taken rfl (.nil _)))

theorem stream_faithful_sample :
    Sent ⟨[], {}⟩ sampleFrames ⟨[], ⟨sampleBytes, none⟩⟩ ∧
      (∀ i, received i ⟨sampleBytes, {}⟩ = outcome sampleFrames i) ∧
      ∃ kept, Whole sampleFrames 6 kept ∧
        ∀ i, received i ⟨sampleBytes.take 6, {}⟩ = outcome kept i := by
  obtain ⟨bytes, written, whole, cut⟩ := stream_faithful.1 sent_sample
  obtain rfl : sampleBytes = bytes := written
  exact ⟨sent_sample, whole {}, cut 6 {}⟩

end Sample

end Contactless.Relay
