import Contactless.Proofs.Dep.Frame

/-! Attribute frames against the values they are built from, in both directions. A value reads back
from its frame, and a frame is built again from what was read of it, but for the flag of the
parameter byte, which tells whether general bytes follow. -/
namespace Contactless.Dep

/-- A parameter byte and the one that is written for it, with its flag set to what is true. -/
structure Flags (generalBytes : Bytes) (pp written : UInt8) : Prop where
  others : written &&& ~~~ generalBytesFlag = pp &&& ~~~ generalBytesFlag
  flag : written &&& generalBytesFlag ≠ 0 ↔ generalBytes ≠ []

/-- The first byte of a frame is the length of all of it. -/
def Counts (frame : Bytes) : Prop := ∃ len rest, frame = len :: rest ∧ len.toNat = frame.length

section Bytes

theorem or_and_distrib (a b c : UInt8) : (a ||| b) &&& c = (a &&& c) ||| (b &&& c) :=
  UInt8.eq_of_toBitVec_eq BitVec.and_or_distrib_right

theorem flags_flagGeneralBytes (pp : UInt8) (generalBytes : Bytes) :
    Flags generalBytes pp (flagGeneralBytes pp generalBytes) := by
  cases generalBytes with
  | nil =>
      have cleared : (pp &&& ~~~ generalBytesFlag) &&& generalBytesFlag = 0 := by
        rw [UInt8.and_assoc, UInt8.not_and_self, UInt8.and_zero]
      constructor
      · change (pp &&& ~~~ generalBytesFlag) &&& ~~~ generalBytesFlag = _
        rw [UInt8.and_assoc, UInt8.and_self]
      · constructor
        · intro set
          exact absurd cleared set
        · intro some
          exact absurd rfl some
  | cons b rest =>
      constructor
      · change (pp ||| generalBytesFlag) &&& ~~~ generalBytesFlag = _
        rw [or_and_distrib, UInt8.and_not_self, UInt8.or_zero]
      · have set : (pp ||| generalBytesFlag) &&& generalBytesFlag ≠ 0 := by
          rw [or_and_distrib, UInt8.and_self]
          intro cleared
          cases (UInt8.or_eq_zero_iff.mp cleared).2
        constructor
        · intro _
          exact List.cons_ne_nil b rest
        · intro _
          exact set

theorem counts_of_build {direction : Direction} {command : UInt8} {body frame : Bytes}
    (built : build direction command body = .ok frame) : Counts frame := by
  obtain ⟨short, rfl⟩ := build_eq_ok_iff.mp built
  exact ⟨_, _, rfl, UInt8.toNat_ofNat_of_lt' (Nat.lt_succ_of_le short)⟩

end Bytes

/-- A kind of attribute frames, and where the parameter byte of one stands. -/
structure AttributeKind (α : Type) where
  direction : Direction
  command : UInt8
  /-- The body as far as the parameter byte. -/
  front : α → Bytes
  pp : α → UInt8
  generalBytes : α → Bytes
  withPp : α → UInt8 → α
  encode : α → Except Error Bytes
  decode : Bytes → Except Error α
  place : Nat

namespace AttributeKind

variable {α : Type} {k : AttributeKind α}

def body (k : AttributeKind α) (a : α) : Bytes := k.front a ++ k.pp a :: k.generalBytes a

def flagged (k : AttributeKind α) (a : α) : α :=
  k.withPp a (flagGeneralBytes (k.pp a) (k.generalBytes a))

/-- What two kinds of frames that differ in their layout have in common. -/
structure Lawful (k : AttributeKind α) : Prop where
  encodes : ∀ a, k.encode a = (checkGeneralBytes (k.generalBytes a) >>= fun _ =>
    build k.direction k.command (k.body (k.flagged a)))
  decodes : ∀ frame a, k.decode frame = .ok a ↔
    (k.generalBytes a).length ≤ 48 ∧ build k.direction k.command (k.body a) = .ok frame
  written : ∀ a pp, k.body (k.withPp a pp) = k.front a ++ pp :: k.generalBytes a
  kept : ∀ a pp, k.generalBytes (k.withPp a pp) = k.generalBytes a
  placed : ∀ a, (k.front a).length + 3 = k.place
  room : k.place ≤ 206

/-- Frames and values of a kind, each made from the other. -/
structure RoundTrips (k : AttributeKind α) : Prop where
  /-- A value reads back from its frame, with the flag of its parameter byte set to what is true. -/
  reads : ∀ a, (k.generalBytes a).length ≤ 48 → ∃ frame written, k.encode a = .ok frame ∧
    Flags (k.generalBytes a) (k.pp a) written ∧ k.decode frame = .ok (k.withPp a written)
  overflows : ∀ a, 48 < (k.generalBytes a).length →
    k.encode a = .error (.bufferOverflow 48 (k.generalBytes a).length)
  /-- A frame that was read is built again, with the same flag set to what is true. -/
  writes : ∀ frame a, k.decode frame = .ok a → ∃ front written,
    frame = front ++ k.pp a :: k.generalBytes a ∧ front.length = k.place ∧
      Flags (k.generalBytes a) (k.pp a) written ∧
      k.encode a = .ok (front ++ written :: k.generalBytes a)
  counts : (∀ a frame, k.encode a = .ok frame → Counts frame) ∧
    ∀ frame a, k.decode frame = .ok a → Counts frame

namespace Lawful

variable {a : α} {frame : Bytes}

theorem encode_eq (lawful : k.Lawful) (short : (k.generalBytes a).length ≤ 48) :
    k.encode a = build k.direction k.command
      (k.front a ++ flagGeneralBytes (k.pp a) (k.generalBytes a) :: k.generalBytes a) := by
  rw [lawful.encodes, checkGeneralBytes_of_le short, flagged, lawful.written]
  rfl

theorem length_body (lawful : k.Lawful) (a : α) (pp : UInt8) :
    (k.front a ++ pp :: k.generalBytes a).length + 2 = k.place + (k.generalBytes a).length := by
  have placed := lawful.placed a
  rw [List.length_append, List.length_cons]
  omega

theorem reads (lawful : k.Lawful) (short : (k.generalBytes a).length ≤ 48) :
    ∃ frame, k.encode a = .ok frame ∧ k.decode frame = .ok (k.flagged a) := by
  have few : (k.front a ++ flagGeneralBytes (k.pp a) (k.generalBytes a) ::
      k.generalBytes a).length ≤ 252 := by
    have length := lawful.length_body a (flagGeneralBytes (k.pp a) (k.generalBytes a))
    have room := lawful.room
    omega
  obtain ⟨frame, built⟩ := exists_build few
  refine ⟨frame, (lawful.encode_eq short).trans built, (lawful.decodes _ _).mpr ?_⟩
  rw [flagged, lawful.written, lawful.kept]
  exact ⟨short, built⟩

theorem overflows (lawful : k.Lawful) (long : 48 < (k.generalBytes a).length) :
    k.encode a = .error (.bufferOverflow 48 (k.generalBytes a).length) := by
  have refused : checkGeneralBytes (k.generalBytes a) =
      .error (.bufferOverflow 48 (k.generalBytes a).length) := if_pos long
  rw [lawful.encodes, refused]
  rfl

/-- A frame that was read tells what stands before its parameter byte, which is not changed by
another parameter byte. -/
theorem writes (lawful : k.Lawful) (decoded : k.decode frame = .ok a) :
    ∃ front, frame = front ++ k.pp a :: k.generalBytes a ∧ front.length = k.place ∧
      k.encode a =
        .ok (front ++ flagGeneralBytes (k.pp a) (k.generalBytes a) :: k.generalBytes a) := by
  obtain ⟨short, built⟩ := (lawful.decodes _ _).mp decoded
  obtain ⟨few, rfl⟩ := build_eq_ok_iff.mp built
  have same := (lawful.length_body a (k.pp a)).trans
    (lawful.length_body a (flagGeneralBytes (k.pp a) (k.generalBytes a))).symm
  let head : Bytes := [UInt8.ofNat ((k.body a).length + 3), k.direction.code, k.command]
  refine ⟨head ++ k.front a, (List.append_assoc head _ _).symm, ?_, ?_⟩
  · rw [List.length_append, Nat.add_comm]
    exact lawful.placed a
  · rw [lawful.encode_eq short, build_eq_ok_iff, ← Nat.succ.inj (Nat.succ.inj same)]
    exact ⟨few, List.append_assoc head _ _⟩

theorem counts_encode (lawful : k.Lawful) (encoded : k.encode a = .ok frame) : Counts frame := by
  rw [lawful.encodes] at encoded
  exact counts_of_build (checkGeneralBytes_bind encoded).2

theorem counts_decode (lawful : k.Lawful) (decoded : k.decode frame = .ok a) : Counts frame :=
  counts_of_build ((lawful.decodes _ _).mp decoded).2

end Lawful

end AttributeKind

section Kinds

theorem exists_fields {body : Bytes} (n : Nat) (long : 10 + n ≤ body.length) :
    ∃ (id : Nfcid3) (fields : Octets n) (gb : Bytes),
      body = id.toList ++ (fields.toList ++ gb) := by
  refine ⟨⟨body.take 10, ?_⟩, ⟨(body.drop 10).take n, ?_⟩, (body.drop 10).drop n, ?_⟩
  · rw [List.length_take]
    omega
  · rw [List.length_take, List.length_drop]
    omega
  · rw [List.take_append_drop, List.take_append_drop]

/-- Nothing is read but the body of what was read. -/
theorem AtrRequest.ofBody_eq_ok_iff {body : Bytes} {a : AtrRequest} :
    ofBody body = .ok a ↔ a.generalBytes.length ≤ 48 ∧ a.body = body := by
  constructor
  · intro read
    obtain ⟨long, checked⟩ := requireLength_bind.mp read
    obtain ⟨short, -⟩ := checkGeneralBytes_bind checked
    obtain ⟨nfcid3, fields, generalBytes, rfl⟩ := exists_fields 4 long
    match fields with
    | ⟨[did, bs, br, pp], four⟩ =>
        rw [drop_append_fields nfcid3 [did, bs, br, pp] 14 rfl] at short
        cases read.symm.trans
          (ofBody_body (a := { nfcid3, did, bs, br, pp, generalBytes }) short)
        exact ⟨short, rfl⟩
  · rintro ⟨short, rfl⟩
    exact ofBody_body short

theorem AtrRequest.decode_eq_ok_iff {frame : Bytes} {a : AtrRequest} :
    decode frame = .ok a ↔
      a.generalBytes.length ≤ 48 ∧ build .request atrRequest a.body = .ok frame := by
  unfold decode
  rw [bind_eq_ok_iff]
  constructor
  · rintro ⟨body, opened, read⟩
    obtain ⟨short, rfl⟩ := ofBody_eq_ok_iff.mp read
    exact ⟨short, unbuildAs_eq_ok_iff.mp opened⟩
  · rintro ⟨short, built⟩
    exact ⟨_, unbuildAs_of_build built, ofBody_body short⟩

theorem AtrAnswer.decode_eq_ok_iff {frame : Bytes} {a : AtrAnswer} :
    decode frame = .ok a ↔
      a.generalBytes.length ≤ 48 ∧ build .answer atrAnswer a.body = .ok frame := by
  constructor
  · intro decoded
    obtain ⟨body, opened, read⟩ := bind_eq_ok_iff.mp decoded
    obtain ⟨long, checked⟩ := requireLength_bind.mp read
    obtain ⟨short, -⟩ := checkGeneralBytes_bind checked
    obtain ⟨nfcid3, fields, generalBytes, rfl⟩ := exists_fields 5 long
    match fields with
    | ⟨[did, bs, br, timeoutExponent, pp], five⟩ =>
        rw [drop_append_fields nfcid3 [did, bs, br, timeoutExponent, pp] 15 rfl] at short
        have built := unbuildAs_eq_ok_iff.mp opened
        cases decoded.symm.trans (decode_of_build
          (a := { nfcid3, did, bs, br, timeoutExponent, pp, generalBytes }) short built)
        exact ⟨short, built⟩
  · rintro ⟨short, built⟩
    exact decode_of_build short built

def AtrRequest.kind : AttributeKind AtrRequest where
  direction := .request
  command := atrRequest
  front a := a.nfcid3.toList ++ [a.did, a.bs, a.br]
  pp a := a.pp
  generalBytes a := a.generalBytes
  withPp a pp := { a with pp }
  encode := AtrRequest.encode
  decode := AtrRequest.decode
  place := 16

def AtrAnswer.kind : AttributeKind AtrAnswer where
  direction := .answer
  command := atrAnswer
  front a := a.nfcid3.toList ++ [a.did, a.bs, a.br, a.timeoutExponent]
  pp a := a.pp
  generalBytes a := a.generalBytes
  withPp a pp := { a with pp }
  encode := AtrAnswer.encode
  decode := AtrAnswer.decode
  place := 17

theorem AtrRequest.body_eq (a : AtrRequest) : kind.body a = a.body := List.append_assoc _ _ _

theorem AtrAnswer.body_eq (a : AtrAnswer) : kind.body a = a.body := List.append_assoc _ _ _

theorem AtrRequest.lawful : kind.Lawful where
  encodes a := by
    rw [body_eq]
    exact a.encode_eq
  decodes frame a := by
    rw [body_eq]
    exact decode_eq_ok_iff
  written a pp := rfl
  kept a pp := rfl
  placed a := by
    change (a.nfcid3.toList ++ [a.did, a.bs, a.br]).length + 3 = 16
    rw [List.length_append, a.nfcid3.length_toList]
    rfl
  room := by decide

theorem AtrAnswer.lawful : kind.Lawful where
  encodes a := by
    rw [body_eq]
    exact a.encode_eq
  decodes frame a := by
    rw [body_eq]
    exact decode_eq_ok_iff
  written a pp := rfl
  kept a pp := rfl
  placed a := by
    change (a.nfcid3.toList ++ [a.did, a.bs, a.br, a.timeoutExponent]).length + 3 = 17
    rw [List.length_append, a.nfcid3.length_toList]
    rfl
  room := by decide

end Kinds

/-- Requests and answers read back, and are read from no other frames. -/
theorem attributes_round_trip : AtrRequest.kind.RoundTrips ∧ AtrAnswer.kind.RoundTrips := by
  have both {α : Type} {k : AttributeKind α} (lawful : k.Lawful) : k.RoundTrips := by
    constructor
    case reads =>
      intro a short
      obtain ⟨frame, encoded, decoded⟩ := lawful.reads short
      exact ⟨frame, _, encoded, flags_flagGeneralBytes _ _, decoded⟩
    case overflows => exact fun a long => lawful.overflows long
    case writes =>
      intro frame a decoded
      obtain ⟨front, whole, placed, encoded⟩ := lawful.writes decoded
      exact ⟨front, _, whole, placed, flags_flagGeneralBytes _ _, encoded⟩
    case counts =>
      exact ⟨fun a frame => lawful.counts_encode, fun frame a => lawful.counts_decode⟩
  exact ⟨both AtrRequest.lawful, both AtrAnswer.lawful⟩

/-- A request that announces general bytes and has none is built again without the flag. -/
example : (AtrRequest.decode [0x11, 0xd4, 0x00, 1, 2, 3, 4, 5, 6, 7, 8, 9, 10, 0, 0, 0, 0x32] >>=
      AtrRequest.encode) =
    .ok [0x11, 0xd4, 0x00, 1, 2, 3, 4, 5, 6, 7, 8, 9, 10, 0, 0, 0, 0x30] := rfl

end Contactless.Dep
