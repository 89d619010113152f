import Contactless.Dep.Target
import Contactless.Proofs.Field

/-! Frames of the data exchange protocol read back as what they were built from. A packet number
comes back modulo four, and a parameter byte with its general-bytes flag set to what is true. -/
namespace Contactless.Dep

section Envelope

variable {direction : Direction} {command : UInt8} {body frame : Bytes}

theorem build_eq_ok_iff :
    build direction command body = .ok frame ↔
      body.length + 3 ≤ 255 ∧
        frame = UInt8.ofNat (body.length + 3) :: direction.code :: command :: body := by
  unfold build
  by_cases long : 255 < body.length + 3
  · rw [if_pos long]
    constructor
    · intro h
      cases h
    · rintro ⟨short, -⟩
      omega
  · rw [if_neg long]
    constructor
    · intro h
      cases h
      exact ⟨by omega, rfl⟩
    · rintro ⟨-, rfl⟩
      rfl

theorem build_of_counted {len : UInt8} (counted : len.toNat = body.length + 3) :
    build direction command body = .ok (len :: direction.code :: command :: body) := by
  have small : len.toNat < 256 := len.toNat_lt
  refine build_eq_ok_iff.mpr ⟨by omega, ?_⟩
  rw [← counted, UInt8.ofNat_toNat]

theorem exists_build (short : body.length ≤ 252) :
    ∃ frame, build direction command body = .ok frame :=
  ⟨_, build_eq_ok_iff.mpr ⟨by omega, rfl⟩⟩

theorem length_of_build (h : build direction command body = .ok frame) :
    frame.length = body.length + 3 ∧ frame.length ≤ 255 := by
  obtain ⟨short, rfl⟩ := build_eq_ok_iff.mp h
  exact ⟨by simp only [List.length_cons], by simpa only [List.length_cons] using short⟩

/-- A frame tells by its direction for which side it is. -/
theorem unbuild_built (h : build direction command body = .ok frame) (side : Direction) :
    unbuild side frame = if direction.code ≠ side.code then
      .error (.unexpectedResponse side.code direction.code) else .ok (command, body) := by
  obtain ⟨short, rfl⟩ := build_eq_ok_iff.mp h
  have counted := UInt8.toNat_ofNat_of_lt' (Nat.lt_succ_of_le short)
  simp only [unbuild, List.length_cons, counted, ne_eq, not_true_eq_false, if_false]

theorem unbuild_of_build (h : build direction command body = .ok frame) :
    unbuild direction frame = .ok (command, body) :=
  (unbuild_built h direction).trans (if_neg (not_not_intro rfl))

theorem Direction.eq_of_code {d e : Direction} : d.code = e.code → d = e := by
  cases d <;> cases e <;> decide

theorem unbuild_of_build_other {other : Direction} (h : build direction command body = .ok frame)
    (apart : other ≠ direction) :
    unbuild other frame = .error (.unexpectedResponse other.code direction.code) :=
  (unbuild_built h other).trans (if_pos fun same => apart (Direction.eq_of_code same).symm)

/-- Only a frame that is built so can be taken apart. -/
theorem unbuild_eq_ok_iff :
    unbuild direction frame = .ok (command, body) ↔ build direction command body = .ok frame := by
  constructor
  · intro h
    unfold unbuild at h
    split at h
    · rename_i len dir found rest
      split at h
      · cases h
      · rename_i counted
        split at h
        · cases h
        · rename_i other
          cases h
          rw [Decidable.not_not.mp other]
          exact build_of_counted (Decidable.not_not.mp counted)
    · cases h
  · exact unbuild_of_build

theorem unbuildAs_of_build (h : build direction command body = .ok frame) :
    unbuildAs direction command frame = .ok body := by
  simp only [unbuildAs, unbuild_of_build h, if_true]

theorem unbuildAs_eq_ok_iff :
    unbuildAs direction command frame = .ok body ↔ build direction command body = .ok frame := by
  constructor
  · intro h
    unfold unbuildAs at h
    split at h
    · cases h
    · rename_i found rest opened
      split at h
      · rename_i same
        cases h
        rw [← same]
        exact unbuild_eq_ok_iff.mp opened
      · cases h
  · exact unbuildAs_of_build

theorem InitiatorFrame.decode_of_build (built : build .request command body = .ok frame) :
    decode frame = ofBody command body := by
  unfold decode
  rw [unbuild_of_build built]
  rfl

end Envelope

theorem requireLength_bind {α : Type} {data : Bytes} {least : Nat} {r : Except Error α} {a : α} :
    (requireLength data least >>= fun _ => r) = .ok a ↔ least ≤ data.length ∧ r = .ok a := by
  rw [bind_eq_ok_iff]
  constructor
  · rintro ⟨⟨⟩, long, same⟩
    exact ⟨requireLength_eq_ok_iff.mp long, same⟩
  · rintro ⟨long, same⟩
    exact ⟨⟨⟩, requireLength_eq_ok_iff.mpr long, same⟩

section DataFrames

theorem pni_cases (p : UInt8) :
    p &&& pniMask = 0 ∨ p &&& pniMask = 1 ∨ p &&& pniMask = 2 ∨ p &&& pniMask = 3 := by
  have small : (p &&& pniMask).toNat ≤ 3 := by
    rw [UInt8.toNat_and]
    exact Nat.and_le_right
  simp only [← UInt8.toNat_inj, UInt8.toNat_ofNat]
  omega

theorem nextPni_le (p : UInt8) : nextPni p ≤ 3 := by
  unfold nextPni
  rcases pni_cases (p + 1) with h | h | h | h <;> rw [h] <;> decide

theorem mask_of_le {p : UInt8} (h : p ≤ 3) : p &&& pniMask = p := by
  have small : p.toNat ≤ 3 := h
  rw [← UInt8.toNat_inj, UInt8.toNat_and]
  exact Nat.and_two_pow_sub_one_of_lt_two_pow (n := 2) (by omega)

/-- What reading back makes of a packet number that does not fit its two bits. -/
def Pfb.normal : Pfb → Pfb
  | information more pni => information more (pni &&& pniMask)
  | ack pni => ack (pni &&& pniMask)
  | nack pni => nack (pni &&& pniMask)
  | attention => attention
  | timeoutExtension => timeoutExtension

def Pdu.normal (p : Pdu) : Pdu := { p with pfb := p.pfb.normal }

theorem Pfb.ofByte_toByte (pfb : Pfb) : Pfb.ofByte pfb.toByte = .ok pfb.normal := by
  cases pfb with
  | information more pni =>
      simp only [toByte, normal]
      rcases pni_cases pni with h | h | h | h <;> rw [h] <;> cases more <;> rfl
  | ack pni =>
      simp only [toByte, normal]
      rcases pni_cases pni with h | h | h | h <;> rw [h] <;> rfl
  | nack pni =>
      simp only [toByte, normal]
      rcases pni_cases pni with h | h | h | h <;> rw [h] <;> rfl
  | attention => rfl
  | timeoutExtension => rfl

/-- No frame is built with a device identifier or a node address. -/
theorem Pfb.toByte_unflagged (pfb : Pfb) :
    pfb.toByte &&& 0x04 = 0 ∧ pfb.toByte &&& 0x08 = 0 := by
  cases pfb with
  | information more pni =>
      simp only [toByte]
      rcases pni_cases pni with h | h | h | h <;> rw [h] <;> cases more <;> decide
  | ack pni =>
      simp only [toByte]
      rcases pni_cases pni with h | h | h | h <;> rw [h] <;> decide
  | nack pni =>
      simp only [toByte]
      rcases pni_cases pni with h | h | h | h <;> rw [h] <;> decide
  | attention => decide
  | timeoutExtension => decide

theorem Pdu.ofBody_cons (p : Pdu) : Pdu.ofBody (p.pfb.toByte :: p.payload) = .ok p.normal := by
  obtain ⟨did, nad⟩ := p.pfb.toByte_unflagged
  have long : ¬ p.payload.length + 1 < 1 := by omega
  simp only [ofBody, byteAt, List.getElem?_cons_zero, ok_bind, Pfb.ofByte_toByte, did, nad,
    requireLength, List.length_cons, bne_self_eq_false, Bool.toNat_false, Nat.add_zero, long,
    if_false]
  rfl

theorem Pdu.exists_encode (p : Pdu) (d : Direction) (short : p.payload.length ≤ 251) :
    ∃ frame, p.encode d = .ok frame :=
  exists_build (by rw [List.length_cons]; omega)

theorem Pdu.decode_of_encode {p : Pdu} {d : Direction} {frame : Bytes}
    (h : p.encode d = .ok frame) : Pdu.decode frame d = .ok p.normal := by
  unfold decode
  rw [unbuildAs_of_build h]
  exact p.ofBody_cons

/-- A frame that a side sends with its packet number in range comes back as it is. -/
theorem Pdu.normal_information {more : Bool} {pni : UInt8} (h : pni ≤ 3) (payload : Bytes) :
    (information more pni payload).normal = information more pni payload := by
  simp only [normal, information, Pfb.normal, mask_of_le h]

theorem Pdu.normal_ack {pni : UInt8} (h : pni ≤ 3) : (ack pni).normal = ack pni := by
  simp only [normal, ack, Pfb.normal, mask_of_le h]

theorem InitiatorFrame.decode_data {p : Pdu} {frame : Bytes} (h : p.encode .request = .ok frame) :
    decode frame = .ok (.data p.normal) := by
  rw [decode_of_build h]
  change (Pdu.ofBody (p.pfb.toByte :: p.payload)).map data = _
  rw [p.ofBody_cons]
  rfl

theorem Pfb.ofByte_cases (mark : UInt8) :
    (∃ pfb, ofByte mark = .ok pfb) ∨ ∃ detail, ofByte mark = .error (.rfProtocol detail) := by
  unfold ofByte
  dsimp only
  split
  · exact .inl ⟨_, rfl⟩
  · split
    · exact .inl ⟨_, rfl⟩
    · split
      · exact .inl ⟨_, rfl⟩
      · exact .inr ⟨_, rfl⟩

/-- A data frame with a mark of no kind is a breach of the protocol. -/
theorem InitiatorFrame.decode_garbled {frame body : Bytes} {mark : UInt8}
    (unknown : ∀ pfb, Pfb.ofByte mark ≠ .ok pfb)
    (data : unbuild .request frame = .ok (Direction.request.dataCode, mark :: body)) :
    ∃ detail, decode frame = .error (.rfProtocol detail) := by
  obtain ⟨detail, failed⟩ : ∃ detail, Pfb.ofByte mark = .error (.rfProtocol detail) := by
    rcases Pfb.ofByte_cases mark with ⟨pfb, known⟩ | refused
    · exact absurd known (unknown pfb)
    · exact refused
  refine ⟨detail, ?_⟩
  rw [decode_of_build (unbuild_eq_ok_iff.mp data)]
  change (Pdu.ofBody (mark :: body)).map InitiatorFrame.data = _
  simp only [Pdu.ofBody, byteAt, List.getElem?_cons_zero, ok_bind, failed]
  rfl

end DataFrames

section Attributes

theorem checkGeneralBytes_of_le {gb : Bytes} (short : gb.length ≤ 48) :
    checkGeneralBytes gb = .ok () := if_neg (Nat.not_lt.mpr short)

theorem frameLimit_flagGeneralBytes (gb : Bytes) :
    frameLimit (flagGeneralBytes longestFrames gb) = 254 := by
  unfold flagGeneralBytes
  split <;> decide

def AtrRequest.flagged (a : AtrRequest) : AtrRequest :=
  { a with pp := flagGeneralBytes a.pp a.generalBytes }

def AtrAnswer.flagged (a : AtrAnswer) : AtrAnswer :=
  { a with pp := flagGeneralBytes a.pp a.generalBytes }

theorem AtrRequest.exists_encode (a : AtrRequest) (short : a.generalBytes.length ≤ 48) :
    ∃ frame, a.encode = .ok frame := by
  unfold encode
  rw [checkGeneralBytes_of_le short, ok_bind]
  apply exists_build
  simp only [List.length_append, a.nfcid3.length_toList, List.length_cons, List.length_nil]
  omega

theorem AtrAnswer.exists_encode (a : AtrAnswer) (short : a.generalBytes.length ≤ 48) :
    ∃ frame, a.encode = .ok frame := by
  unfold encode
  rw [checkGeneralBytes_of_le short, ok_bind]
  apply exists_build
  simp only [List.length_append, a.nfcid3.length_toList, List.length_cons, List.length_nil]
  omega

theorem checkGeneralBytes_bind {α : Type} {gb : Bytes} {r : Except Error α} {a : α}
    (h : (checkGeneralBytes gb >>= fun _ => r) = .ok a) : gb.length ≤ 48 ∧ r = .ok a := by
  unfold checkGeneralBytes at h
  split at h
  · cases h
  · rename_i short
    exact ⟨Nat.not_lt.mp short, h⟩

variable (id : Nfcid3) (rest : Bytes)

theorem byteAt_append (k : Nat) (b : UInt8) (h : rest[k]? = some b) :
    byteAt (id.toList ++ rest) (10 + k) = .ok b := by
  rw [byteAt_eq_ok_iff, List.getElem?_append_right (by rw [id.length_toList]; omega),
    id.length_toList, Nat.add_sub_cancel_left, h]

theorem drop_append_fields (fields : Bytes) (n : Nat) (h : n = 10 + fields.length) (gb : Bytes) :
    (id.toList ++ (fields ++ gb)).drop n = gb := by
  have whole : (id.toList ++ fields).length = n := by
    rw [List.length_append, id.length_toList, h]
  rw [← List.append_assoc, ← whole, List.drop_left]

theorem requireLength_append (fields : Bytes) (n : Nat) (h : n = 10 + fields.length)
    (gb : Bytes) : requireLength (id.toList ++ (fields ++ gb)) n = .ok () := by
  apply if_neg
  rw [List.length_append, List.length_append, id.length_toList]
  omega

/-- What stands between the command and the end of a frame with these attributes. -/
def AtrRequest.body (a : AtrRequest) : Bytes :=
  a.nfcid3.toList ++ ([a.did, a.bs, a.br, a.pp] ++ a.generalBytes)

def AtrAnswer.body (a : AtrAnswer) : Bytes :=
  a.nfcid3.toList ++ ([a.did, a.bs, a.br, a.timeoutExponent, a.pp] ++ a.generalBytes)

theorem AtrRequest.encode_eq (a : AtrRequest) :
    a.encode = (checkGeneralBytes a.generalBytes >>= fun _ =>
      build .request atrRequest a.flagged.body) := by
  unfold encode
  rw [List.append_assoc]
  rfl

theorem AtrAnswer.encode_eq (a : AtrAnswer) :
    a.encode = (checkGeneralBytes a.generalBytes >>= fun _ =>
      build .answer atrAnswer a.flagged.body) := by
  unfold encode
  rw [List.append_assoc]
  rfl

theorem AtrRequest.ofBody_body {a : AtrRequest} (short : a.generalBytes.length ≤ 48) :
    ofBody a.body = .ok a := by
  unfold ofBody body
  rw [requireLength_append a.nfcid3 [_, _, _, _] 14 rfl,
    drop_append_fields a.nfcid3 [_, _, _, _] 14 rfl, checkGeneralBytes_of_le short,
    octetsAt_front, byteAt_append _ _ 0 a.did rfl, byteAt_append _ _ 1 a.bs rfl,
    byteAt_append _ _ 2 a.br rfl, byteAt_append _ _ 3 a.pp rfl]
  rfl

theorem InitiatorFrame.decode_atr {a : AtrRequest} {frame : Bytes} (h : a.encode = .ok frame) :
    decode frame = .ok (.atr a.flagged) := by
  rw [a.encode_eq] at h
  obtain ⟨short, built⟩ := checkGeneralBytes_bind h
  have read : AtrRequest.ofBody a.flagged.body = .ok a.flagged := AtrRequest.ofBody_body short
  rw [decode_of_build built]
  change (AtrRequest.ofBody a.flagged.body).map atr = _
  rw [read]
  rfl

theorem AtrAnswer.decode_of_build {a : AtrAnswer} {frame : Bytes}
    (short : a.generalBytes.length ≤ 48) (built : build .answer atrAnswer a.body = .ok frame) :
    decode frame = .ok a := by
  unfold body at built
  unfold decode
  rw [unbuildAs_of_build built, ok_bind,
    requireLength_append a.nfcid3 [_, _, _, _, _] 15 rfl,
    drop_append_fields a.nfcid3 [_, _, _, _, _] 15 rfl, checkGeneralBytes_of_le short,
    octetsAt_front, byteAt_append _ _ 0 a.did rfl, byteAt_append _ _ 1 a.bs rfl,
    byteAt_append _ _ 2 a.br rfl, byteAt_append _ _ 3 a.timeoutExponent rfl,
    byteAt_append _ _ 4 a.pp rfl]
  rfl

theorem AtrAnswer.decode_of_encode {a : AtrAnswer} {frame : Bytes} (h : a.encode = .ok frame) :
    decode frame = .ok a.flagged := by
  rw [a.encode_eq] at h
  obtain ⟨short, built⟩ := checkGeneralBytes_bind h
  exact decode_of_build (a := a.flagged) short built

end Attributes

section Supervision

variable {did : UInt8} {frame : Bytes}

theorem InitiatorFrame.decode_psl {baud : BaudRate} {fsl : UInt8}
    (h : Dep.psl did baud fsl = .ok frame) : decode frame = .ok (.psl did baud (fsl &&& 0x03)) := by
  have masked : (fsl &&& 0x03) &&& 0x03 = fsl &&& (0x03 : UInt8) := by
    rw [UInt8.and_assoc]
    rfl
  have rate : BaudRate.ofExponent? (((baud.exponent <<< 3) ||| baud.exponent) &&& 0x07) =
      some baud := by
    cases baud <;> decide
  rw [decode_of_build h]
  unfold ofBody
  rw [if_neg (by decide), if_pos rfl]
  simp only [requireExactLength, byteAt, List.length_cons, List.length_nil, List.getElem?_cons_zero,
    List.getElem?_cons_succ, ok_bind, rate, masked]
  rfl

theorem InitiatorFrame.decode_dsl (h : Dep.dsl did = .ok frame) : decode frame = .ok .dsl :=
  decode_of_build h

theorem InitiatorFrame.decode_rls (h : Dep.rls did = .ok frame) : decode frame = .ok .rls :=
  decode_of_build h

theorem length_didBody_le (did : UInt8) : (didBody did).length ≤ 1 := by
  unfold didBody
  split
  · exact Nat.zero_le 1
  · exact Nat.le_refl 1

theorem exists_psl (did : UInt8) (baud : BaudRate) (fsl : UInt8) :
    ∃ frame, Dep.psl did baud fsl = .ok frame :=
  exists_build (by decide : 3 ≤ 252)

theorem exists_pslDone (did : UInt8) : ∃ frame, pslDone did = .ok frame :=
  exists_build (by decide : 1 ≤ 252)

theorem exists_rls (did : UInt8) : ∃ frame, Dep.rls did = .ok frame :=
  exists_build (Nat.le_trans (length_didBody_le did) (by decide))

theorem exists_rlsDone (did : UInt8) : ∃ frame, rlsDone did = .ok frame :=
  exists_build (Nat.le_trans (length_didBody_le did) (by decide))

end Supervision

end Contactless.Dep
