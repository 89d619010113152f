import Contactless.Proofs.Dep.Frame

/-! How reading or building a frame may fail. No such failure is one by which a target refuses a
call, or by which it tells that it was released. -/
namespace Contactless.Dep

/-- A failure of reading or building a frame. -/
inductive Malformed : Error → Prop
  | length (expected actual : Nat) : Malformed (.invalidLength expected actual)
  | response (expected actual : UInt8) : Malformed (.unexpectedResponse expected actual)
  | overflow (limit actual : Nat) : Malformed (.bufferOverflow limit actual)
  | protocol (detail : String) : Malformed (.rfProtocol detail)
  | command (detail : String) : Malformed (.commandNotSupported detail)

theorem Malformed.not_refusal {e : Error} (h : Malformed e) (detail : String) :
    e ≠ .invalidParameter detail := by
  cases h <;> exact Error.noConfusion

theorem Malformed.not_released {e : Error} (h : Malformed e) : e ≠ .targetReleased := by
  cases h <;> exact Error.noConfusion

/-- A result that fails in no other way. -/
def Framed {α : Type} (r : Except Error α) : Prop := ∀ e, r = .error e → Malformed e

section Rules

variable {α β : Type}

theorem framed_ok (a : α) : Framed (.ok a) := by
  intro e h
  cases h

theorem Malformed.framed {e : Error} (h : Malformed e) : Framed (.error e : Except Error α) := by
  intro e' same
  cases same
  exact h

theorem Framed.bind {r : Except Error α} {f : α → Except Error β} (first : Framed r)
    (rest : ∀ a, Framed (f a)) : Framed (r >>= f) := by
  cases r with
  | error e => exact (first e rfl).framed
  | ok a => exact rest a

theorem Framed.map {r : Except Error α} (framed : Framed r) (f : α → β) : Framed (r.map f) := by
  cases r with
  | error e => exact (framed e rfl).framed
  | ok a => exact framed_ok (f a)

end Rules

section Readers

theorem framed_requireLength (data : Bytes) (least : Nat) : Framed (requireLength data least) := by
  unfold requireLength
  split
  · exact (Malformed.length _ _).framed
  · exact framed_ok _

theorem framed_requireExactLength (data : Bytes) (len : Nat) :
    Framed (requireExactLength data len) := by
  unfold requireExactLength
  split
  · exact (Malformed.length _ _).framed
  · exact framed_ok _

theorem framed_byteAt (data : Bytes) (pos : Nat) : Framed (byteAt data pos) := by
  unfold byteAt
  split
  · exact framed_ok _
  · exact (Malformed.length _ _).framed

theorem framed_octetsAt (n : Nat) (data : Bytes) (pos : Nat) : Framed (octetsAt n data pos) := by
  unfold octetsAt
  split
  · exact (Malformed.length _ _).framed
  · exact framed_ok _

theorem framed_checkGeneralBytes (gb : Bytes) : Framed (checkGeneralBytes gb) := by
  unfold checkGeneralBytes
  split
  · exact (Malformed.overflow _ _).framed
  · exact framed_ok _

theorem framed_unbuild (direction : Direction) (frame : Bytes) :
    Framed (unbuild direction frame) := by
  unfold unbuild
  split
  · split
    · exact (Malformed.length _ _).framed
    · split
      · exact (Malformed.response _ _).framed
      · exact framed_ok _
  · exact (Malformed.length _ _).framed

theorem framed_ofByte (b : UInt8) : Framed (Pfb.ofByte b) := by
  unfold Pfb.ofByte
  dsimp only
  split
  · exact framed_ok _
  · split
    · exact framed_ok _
    · split
      · exact framed_ok _
      · exact (Malformed.protocol _).framed

theorem AtrRequest.framed_ofBody (body : Bytes) : Framed (AtrRequest.ofBody body) :=
  (framed_requireLength _ _).bind fun _ => (framed_checkGeneralBytes _).bind fun _ =>
    (framed_octetsAt _ _ _).bind fun _ => (framed_byteAt _ _).bind fun _ =>
    (framed_byteAt _ _).bind fun _ => (framed_byteAt _ _).bind fun _ =>
    (framed_byteAt _ _).bind fun _ => framed_ok _

theorem Pdu.framed_ofBody (body : Bytes) : Framed (Pdu.ofBody body) :=
  (framed_byteAt _ _).bind fun _ => (framed_ofByte _).bind fun _ =>
    (framed_requireLength _ _).bind fun _ => framed_ok _

theorem InitiatorFrame.framed_ofBody (command : UInt8) (body : Bytes) :
    Framed (ofBody command body) := by
  unfold ofBody
  split
  · exact (AtrRequest.framed_ofBody body).map _
  · split
    · refine (framed_requireExactLength _ _).bind fun _ => (framed_byteAt _ _).bind fun _ =>
        (framed_byteAt _ _).bind fun _ => (framed_byteAt _ _).bind fun _ => ?_
      split
      · exact (Malformed.protocol _).framed
      · exact framed_ok _
    · split
      · exact (Pdu.framed_ofBody body).map _
      · split
        · exact framed_ok _
        · split
          · exact framed_ok _
          · exact (Malformed.command _).framed

theorem InitiatorFrame.framed_decode (frame : Bytes) : Framed (decode frame) :=
  (framed_unbuild _ _).bind fun _ => framed_ofBody _ _

end Readers

section Builders

theorem framed_build (direction : Direction) (command : UInt8) (body : Bytes) :
    Framed (build direction command body) := by
  unfold build
  split
  · exact (Malformed.overflow _ _).framed
  · exact framed_ok _

theorem Pdu.framed_encode (p : Pdu) (direction : Direction) : Framed (p.encode direction) :=
  framed_build _ _ _

theorem AtrAnswer.framed_encode (a : AtrAnswer) : Framed a.encode :=
  (framed_checkGeneralBytes _).bind fun _ => framed_build _ _ _

end Builders

end Contactless.Dep
