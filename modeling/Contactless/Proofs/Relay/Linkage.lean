import Contactless.Relay.Half
import Contactless.Proofs.Act
import Contactless.Proofs.Bytes

/-! Links that join two ends and deliver the frames of each in order: a channel inside one process,
and a pair of byte streams, for the frames that can be written on one. -/
namespace Contactless.Relay

section Codec

theorem decodeTarget_encodeTarget {t : Target} {data : Bytes}
    (encoded : encodeTarget t = .ok data) : decodeTarget data = .ok t := by
  cases t with
  | typeA atqa sak uid ats =>
      obtain ⟨uid, size⟩ := uid
      have count : (UInt8.ofNat uid.length).toNat = uid.length := by
        rcases size with h | h | h <;> rw [h] <;> rfl
      match atqa with
      | ⟨[a, b], two⟩ =>
        obtain rfl : a :: b :: sak :: UInt8.ofNat uid.length :: (uid ++ ats) = data :=
          Except.ok.inj encoded
        have identifier : sliceAt (a :: b :: sak :: UInt8.ofNat uid.length :: (uid ++ ats)) 4
            (UInt8.ofNat uid.length).toNat = .ok uid := by
          unfold sliceAt
          rw [count, if_neg]
          · change Except.ok ((uid ++ ats).take uid.length) = _
            rw [List.take_left]
          · simp only [List.length_cons, List.length_append]
            omega
        have whole : Uid.ofBytes uid = .ok ⟨uid, size⟩ := dif_pos size
        have rest : (a :: b :: sak :: UInt8.ofNat uid.length :: (uid ++ ats)).drop
            (4 + (UInt8.ofNat uid.length).toNat) = ats := by
          rw [count, ← List.drop_drop]
          exact List.drop_left
        change (sliceAt _ 4 _ >>= fun bytes => Uid.ofBytes bytes >>= fun uid => _) = _
        rw [identifier, ok_bind, whole, ok_bind, rest]
        rfl
  | _ => cases encoded

namespace LinkFrame

theorem decode_data {frame : LinkFrame} {data : Bytes} (h : frame.data = .ok data) :
    decode frame.kind data = .ok frame := by
  cases frame with
  | target t =>
      change (decodeTarget data).map target = _
      rw [decodeTarget_encodeTarget h]
      rfl
  | command c =>
      cases h
      rfl
  | response a =>
      cases h
      rfl
  | shutdown => rfl

theorem exists_data_of_encode {frame : LinkFrame} {bytes : Bytes} (h : frame.encode = .ok bytes) :
    ∃ data, frame.data = .ok data ∧ data.length ≤ 0xffff ∧
      bytes = frame.kind :: be16 (UInt16.ofNat data.length) ++ data := by
  unfold encode at h
  cases built : frame.data with
  | error e =>
      rw [built] at h
      cases h
  | ok data =>
      rw [built, ok_bind] at h
      by_cases long : 0xffff < data.length
      · rw [if_pos long] at h
        cases h
      · rw [if_neg long] at h
        cases h
        exact ⟨data, rfl, Nat.le_of_not_lt long, rfl⟩

theorem exists_encode {frame : LinkFrame} {data : Bytes} (built : frame.data = .ok data)
    (short : data.length ≤ 0xffff) : ∃ bytes, frame.encode = .ok bytes := by
  unfold encode
  rw [built, ok_bind, if_neg (Nat.not_lt_of_le short)]
  exact ⟨_, rfl⟩

end LinkFrame

/-- A whole frame stands at the front of these bytes. -/
def frameReady : Bytes → Bool
  | _ :: hi :: lo :: rest => decide ((word16 hi lo).toNat ≤ rest.length)
  | _ => false

theorem readExact_append (front rest : Bytes) :
    readExact front.length (front ++ rest) = (.ok front, rest) := by
  unfold readExact
  rw [if_pos (by rw [List.length_append]; exact Nat.le_add_right _ _), List.take_left,
    List.drop_left]

/-- What was written is read again, and nothing else is. -/
theorem recv_encode {frame : LinkFrame} {bytes : Bytes} (h : frame.encode = .ok bytes)
    (rest : Bytes) (output : Sink) :
    frameReady (bytes ++ rest) = true ∧
      StreamLink.recv ⟨bytes ++ rest, output⟩ = (.ok frame, ⟨rest, output⟩) := by
  obtain ⟨data, built, short, rfl⟩ := LinkFrame.exists_data_of_encode h
  have length : (UInt16.ofNat data.length).toNat = data.length :=
    Nat.mod_eq_of_lt (Nat.lt_succ_of_le short)
  obtain ⟨hi, lo, word⟩ : ∃ hi lo, be16 (UInt16.ofNat data.length) = [hi, lo] := ⟨_, _, rfl⟩
  have size : (word16 hi lo).toNat = data.length := by
    cases word
    rw [word16_be16, length]
  rw [word]
  constructor
  · change decide ((word16 hi lo).toNat ≤ (data ++ rest).length) = true
    rw [size, List.length_append]
    exact decide_eq_true (Nat.le_add_right _ _)
  · have head : readExact 3 (frame.kind :: [hi, lo] ++ data ++ rest) =
        (.ok [frame.kind, hi, lo], data ++ rest) := readExact_append [frame.kind, hi, lo] _
    have fields : StreamLink.readHead [frame.kind, hi, lo] = .ok (frame.kind, data.length) :=
      congrArg (fun n => Except.ok (frame.kind, n)) size
    have body : readExact data.length (data ++ rest) = (.ok data, rest) :=
      readExact_append data rest
    have decoded := LinkFrame.decode_data built
    unfold StreamLink.recv
    simp only [head, Except.bind, fields, body, decoded]

end Codec

/-- A link between two ends, seen from one of them. A call that cannot be answered yet is not, and
waits. Frames that fit are delivered once and in order. -/
structure Linkage (κ : Type) where
  call : (c : LinkCall) → κ → Option (c.Answer × κ)
  /-- The same link seen from the other end. -/
  flip : κ → κ
  Fits : LinkFrame → Prop
  /-- These frames are under way to this end and to the other one, and nothing else is. -/
  Under : List LinkFrame → List LinkFrame → κ → Prop
  fits_shutdown : Fits .shutdown
  flip_flip : ∀ l, flip (flip l) = l
  flip_under : ∀ {inbox outbox l}, Under inbox outbox l → Under outbox inbox (flip l)
  send_under : ∀ {inbox outbox l frame}, Under inbox outbox l → Fits frame →
    ∃ l', call (.send frame) l = some (.ok (), l') ∧ Under inbox (outbox ++ [frame]) l'
  recv_under : ∀ {frame inbox outbox l}, Under (frame :: inbox) outbox l →
    ∃ l', call (.recv .forever) l = some (.ok frame, l') ∧ Under inbox outbox l'
  recv_idle : ∀ {outbox l}, Under [] outbox l → call (.recv .forever) l = none

section Channel

namespace ChannelLink

/-- A channel, whose receiving end waits while there is nothing to tell it. -/
def call : (c : LinkCall) → ChannelLink → Option (c.Answer × ChannelLink)
  | .send frame, l => some (l.send frame)
  | .recv wait, l =>
    if l.a.inbox.isEmpty && !l.a.aborted && !l.b.dropped then none else some (l.recv wait)

def linkage : Linkage ChannelLink where
  call := call
  flip := flip
  Fits _ := True
  Under inbox outbox l := l = ⟨{ inbox }, { inbox := outbox }⟩
  fits_shutdown := trivial
  flip_flip _ := rfl
  flip_under := by
    rintro inbox outbox l rfl
    rfl
  send_under := by
    rintro inbox outbox l frame rfl -
    exact ⟨_, rfl, rfl⟩
  recv_under := by
    rintro frame inbox outbox l rfl
    exact ⟨_, rfl, rfl⟩
  recv_idle := by
    rintro outbox l rfl
    rfl

end ChannelLink

end Channel

section Streams

/-- Bytes on two streams, one toward this end and one away from it. -/
structure Pipes where
  inward : Bytes := []
  outward : Bytes := []

/-- Frames one behind the other on a stream. -/
inductive Written : List LinkFrame → Bytes → Prop
  | nil : Written [] []
  | cons {frame bytes frames rest} : LinkFrame.encode frame = .ok bytes → Written frames rest →
      Written (frame :: frames) (bytes ++ rest)

theorem Written.append {frames : List LinkFrame} {front : Bytes} (written : Written frames front)
    {frame : LinkFrame} {bytes : Bytes} (encoded : frame.encode = .ok bytes) :
    Written (frames ++ [frame]) (front ++ bytes) := by
  induction written with
  | nil =>
      rw [← List.append_nil ([] ++ bytes)]
      exact .cons encoded .nil
  | cons first _ ih =>
      rw [List.append_assoc]
      exact .cons first ih

/-- A stream of any capacity takes the whole of a frame. -/
theorem send_encode {frame : LinkFrame} {bytes : Bytes} (h : frame.encode = .ok bytes)
    (input : Bytes) : StreamLink.send ⟨input, {}⟩ frame = (.ok (), ⟨input, ⟨bytes, none⟩⟩) := by
  have taken : Sink.write {} bytes = (.ok (), ⟨bytes, none⟩) := by
    unfold Sink.write
    change (if bytes.length = bytes.length then _ else _,
      (⟨bytes.take bytes.length, none⟩ : Sink)) = _
    rw [if_pos rfl, List.take_length]
  unfold StreamLink.send
  rw [h]
  change ((Sink.write {} bytes).1, (⟨input, (Sink.write {} bytes).2⟩ : StreamLink)) = _
  rw [taken]

namespace Pipes

def after {α : Type} (l : Pipes) (r : α × StreamLink) : α × Pipes :=
  (r.1, ⟨r.2.input, l.outward ++ r.2.output.written⟩)

/-- A link on two streams, whose receiving end waits until a whole frame is there. -/
def call : (c : LinkCall) → Pipes → Option (c.Answer × Pipes)
  | .send frame, l => some (l.after (StreamLink.send ⟨l.inward, {}⟩ frame))
  | .recv _, l =>
    if frameReady l.inward then some (l.after (StreamLink.recv ⟨l.inward, {}⟩)) else none

def linkage : Linkage Pipes where
  call := call
  flip l := ⟨l.outward, l.inward⟩
  Fits frame := ∃ bytes, frame.encode = .ok bytes
  Under inbox outbox l := Written inbox l.inward ∧ Written outbox l.outward
  fits_shutdown := ⟨_, rfl⟩
  flip_flip _ := rfl
  flip_under := And.symm
  send_under := by
    rintro inbox outbox l frame ⟨inward, outward⟩ ⟨bytes, encoded⟩
    have sent := congrArg (fun r => some (l.after r)) (send_encode encoded l.inward)
    exact ⟨⟨l.inward, l.outward ++ bytes⟩, sent, inward, outward.append encoded⟩
  recv_under := by
    rintro frame inbox outbox ⟨inward, outward⟩ ⟨front, back⟩
    cases front with
    | @cons _ bytes _ rest encoded written =>
        obtain ⟨ready, received⟩ := recv_encode encoded rest {}
        have got : after ⟨bytes ++ rest, outward⟩ (StreamLink.recv ⟨bytes ++ rest, {}⟩) =
            (.ok frame, ⟨rest, outward⟩) := by
          rw [received]
          exact congrArg (fun kept => (Except.ok frame, Pipes.mk rest kept))
            (List.append_nil outward)
        exact ⟨⟨rest, outward⟩, (if_pos ready).trans (congrArg some got), written, back⟩
  recv_idle := by
    rintro outbox ⟨inward, outward⟩ ⟨front, -⟩
    cases front
    rfl

end Pipes

end Streams

end Contactless.Relay
