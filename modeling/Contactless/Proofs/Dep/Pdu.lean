import Contactless.Proofs.Dep.Frame

/-! Data frames against the values they are built from, in both directions. A frame may hold a
device identifier and a node address, which no frame that is built holds. -/
namespace Contactless.Dep

namespace Pfb

/-- The same mark with another packet number, if it has one. -/
def mapPni (f : UInt8 → UInt8) : Pfb → Pfb
  | information more pni => information more (f pni)
  | ack pni => ack (f pni)
  | nack pni => nack (f pni)
  | attention => attention
  | timeoutExtension => timeoutExtension

theorem mask_eq_mod (pni : UInt8) : pni &&& pniMask = pni % 4 := by
  rw [← UInt8.toNat_inj, UInt8.toNat_and, UInt8.toNat_mod]
  exact Nat.and_two_pow_sub_one_eq_mod _ 2

theorem normal_eq_mapPni (pfb : Pfb) : pfb.normal = pfb.mapPni (· % 4) := by
  cases pfb with
  | information more pni => exact congrArg (information more) (mask_eq_mod pni)
  | ack pni => exact congrArg ack (mask_eq_mod pni)
  | nack pni => exact congrArg nack (mask_eq_mod pni)
  | attention => rfl
  | timeoutExtension => rfl

/-- What is read has its packet number in range. -/
theorem normal_of_ofByte {mark : UInt8} {pfb : Pfb} (read : ofByte mark = .ok pfb) :
    pfb.normal = pfb := by
  have masked : (mark &&& pniMask) &&& pniMask = mark &&& pniMask := by
    rw [UInt8.and_assoc, UInt8.and_self]
  unfold ofByte at read
  dsimp only at read
  split at read
  · cases read
    exact congrArg (information _) masked
  · split at read
    · cases read
      split
      · exact congrArg nack masked
      · exact congrArg ack masked
    · split at read
      · cases read
        split <;> rfl
      · cases read

end Pfb

namespace Pdu

/-- How many of the device identifier and the node address a mark announces. -/
def addressed (mark : UInt8) : Nat := (mark &&& 0x04 != 0).toNat + (mark &&& 0x08 != 0).toNat

/-- A value and the frames of a direction, each made from the other. -/
structure RoundTrips (p : Pdu) (d : Direction) : Prop where
  fits : (∃ frame, p.encode d = .ok frame) ↔ p.payload.length ≤ 251
  /-- A frame reads back with the packet number modulo four. -/
  reads : ∀ frame, p.encode d = .ok frame →
    decode frame d = .ok { p with pfb := p.pfb.mapPni (· % 4) }
  /-- It is for nobody on the other side. -/
  strays : ∀ frame, p.encode d = .ok frame → ∀ other, other ≠ d →
    decode frame other = .error (.unexpectedResponse other.code d.code)
  /-- A frame that was read is built again, in either direction, without its addresses. -/
  writes : ∀ frame, decode frame d = .ok p → ∃ len mark skipped,
    frame = len :: d.code :: d.dataCode :: mark :: (skipped ++ p.payload) ∧
      skipped.length = addressed mark ∧
      ∀ e, ∃ again, p.encode e = .ok again ∧ again.length + addressed mark = frame.length ∧
        decode again e = .ok p

variable {p : Pdu} {d : Direction} {body frame : Bytes}

theorem normal_eq_mapPni (p : Pdu) : p.normal = { p with pfb := p.pfb.mapPni (· % 4) } :=
  congrArg (Pdu.mk · p.payload) p.pfb.normal_eq_mapPni

/-- Before the payload stand the mark and what it announces. -/
theorem ofBody_eq_ok_iff :
    ofBody body = .ok p ↔ ∃ mark skipped, body = mark :: (skipped ++ p.payload) ∧
      skipped.length = addressed mark ∧ Pfb.ofByte mark = .ok p.pfb := by
  cases body with
  | nil =>
      constructor
      · intro read
        cases read
      · rintro ⟨mark, skipped, whole, -⟩
        cases whole
  | cons mark rest =>
      have parts : ofBody (mark :: rest) = (Pfb.ofByte mark >>= fun pfb =>
          requireLength (mark :: rest) (addressed mark + 1) >>= fun _ =>
            .ok ⟨pfb, rest.drop (addressed mark)⟩) := by
        simp only [ofBody, addressed, byteAt, List.getElem?_cons_zero, ok_bind, Nat.add_assoc,
          Nat.add_comm 1]
        rfl
      rw [parts, bind_eq_ok_iff]
      constructor
      · rintro ⟨pfb, known, taken⟩
        obtain ⟨long, same⟩ := requireLength_bind.mp taken
        cases same
        refine ⟨mark, rest.take (addressed mark), ?_, ?_, known⟩
        · rw [List.take_append_drop]
        · exact List.length_take_of_le (Nat.le_of_succ_le_succ long)
      · rintro ⟨_, skipped, whole, counted, known⟩
        cases whole
        refine ⟨p.pfb, known, requireLength_bind.mpr ⟨?_, ?_⟩⟩
        · rw [List.length_cons, List.length_append]
          omega
        · rw [← counted, List.drop_left]

theorem decode_eq_ok_iff :
    decode frame d = .ok p ↔ ∃ mark skipped,
      build d d.dataCode (mark :: (skipped ++ p.payload)) = .ok frame ∧
        skipped.length = addressed mark ∧ Pfb.ofByte mark = .ok p.pfb := by
  unfold decode
  rw [bind_eq_ok_iff]
  constructor
  · rintro ⟨body, opened, read⟩
    obtain ⟨mark, skipped, rfl, counted, known⟩ := ofBody_eq_ok_iff.mp read
    exact ⟨mark, skipped, unbuildAs_eq_ok_iff.mp opened, counted, known⟩
  · rintro ⟨mark, skipped, built, counted, known⟩
    exact ⟨_, unbuildAs_of_build built, ofBody_eq_ok_iff.mpr ⟨mark, skipped, rfl, counted, known⟩⟩

theorem exists_encode_iff :
    (∃ frame, p.encode d = .ok frame) ↔ p.payload.length ≤ 251 := by
  constructor
  · rintro ⟨frame, encoded⟩
    have few := (build_eq_ok_iff.mp encoded).1
    rw [List.length_cons] at few
    omega
  · exact p.exists_encode d

theorem decode_other {other : Direction} (encoded : p.encode d = .ok frame) (apart : other ≠ d) :
    decode frame other = .error (.unexpectedResponse other.code d.code) := by
  unfold decode unbuildAs
  rw [unbuild_of_build_other encoded apart]
  rfl

/-- A value that was read needs no more room than where it was read. -/
theorem encode_of_decode (decoded : decode frame d = .ok p) (e : Direction) :
    ∃ again, p.encode e = .ok again ∧ decode again e = .ok p := by
  obtain ⟨mark, skipped, built, -, known⟩ := decode_eq_ok_iff.mp decoded
  have few := (build_eq_ok_iff.mp built).1
  rw [List.length_cons, List.length_append] at few
  obtain ⟨again, encoded⟩ := p.exists_encode e (by omega)
  have read := decode_of_encode encoded
  rw [normal, Pfb.normal_of_ofByte known] at read
  exact ⟨again, encoded, read⟩

end Pdu

theorem data_frames_round_trip (p : Pdu) (d : Direction) : p.RoundTrips d where
  fits := Pdu.exists_encode_iff
  reads frame encoded := by
    rw [← p.normal_eq_mapPni]
    exact Pdu.decode_of_encode encoded
  strays frame encoded other apart := Pdu.decode_other encoded apart
  writes frame decoded := by
    obtain ⟨mark, skipped, built, counted, -⟩ := Pdu.decode_eq_ok_iff.mp decoded
    refine ⟨_, mark, skipped, (build_eq_ok_iff.mp built).2, counted, fun e => ?_⟩
    obtain ⟨again, encoded, read⟩ := Pdu.encode_of_decode decoded e
    refine ⟨again, encoded, ?_, read⟩
    rw [(length_of_build encoded).1, (length_of_build built).1]
    simp only [List.length_cons, List.length_append]
    omega

/-- A frame with both addresses is two bytes longer than the one that is built again. -/
example : Pdu.decode [0x08, 0xd4, 0x06, 0x0e, 0x01, 0x02, 0xaa, 0xbb] .request =
    .ok (.information false 2 [0xaa, 0xbb]) ∧
    (Pdu.information false 2 [0xaa, 0xbb]).encode .request =
      .ok [0x06, 0xd4, 0x06, 0x02, 0xaa, 0xbb] := ⟨rfl, rfl⟩

end Contactless.Dep
