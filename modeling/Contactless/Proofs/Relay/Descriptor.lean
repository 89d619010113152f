import Contactless.Proofs.Field
import Contactless.Proofs.Relay.Codec

/-! The descriptor of a relayed tag. It is read exactly where one can have been written: a byte
string that is long enough for the identifier it announces describes one type A tag, and each such
tag has one description. -/
namespace Contactless.Relay

/-- Byte strings whose fourth byte is the length of an identifier, with as many bytes behind it. -/
inductive Descriptive (data : Bytes) : Prop
  | intro {size : UInt8} : data[3]? = some size → size = 4 ∨ size = 7 ∨ size = 10 →
      4 + size.toNat ≤ data.length → Descriptive data

section Reading

variable {data : Bytes} {t : Target}

theorem decodeTarget_short (short : data.length < 4) : ∃ e, decodeTarget data = .error e := by
  match data, short with
  | [], _ | [_], _ | [_, _], _ | [_, _, _], _ => exact ⟨_, rfl⟩

/-- Behind the four bytes of the head stand the identifier, as long as they say, and the rest. -/
theorem decodeTarget_long (atqa : Octets 2) (sak size : UInt8) (rest : Bytes) :
    decodeTarget (atqa.toList ++ sak :: size :: rest) =
      if rest.length < size.toNat then .error (.invalidLength (4 + size.toNat) (rest.length + 4))
      else (Uid.ofBytes (rest.take size.toNat)).map fun uid =>
        .typeA atqa sak uid (rest.drop size.toNat) := by
  match atqa with
  | ⟨[a, b], two⟩ =>
    have slice : sliceAt (a :: b :: sak :: size :: rest) 4 size.toNat =
        if rest.length < size.toNat then .error (.invalidLength (4 + size.toNat) (rest.length + 4))
        else .ok (rest.take size.toNat) := by
      have inside : (a :: b :: sak :: size :: rest).length < 4 + size.toNat ↔
          rest.length < size.toNat := by
        simp only [List.length_cons]
        omega
      unfold sliceAt
      simp only [inside]
      rfl
    have behind : (a :: b :: sak :: size :: rest).drop (4 + size.toNat) = rest.drop size.toNat := by
      rw [← List.drop_drop]
      rfl
    change (sliceAt (a :: b :: sak :: size :: rest) 4 size.toNat >>= fun bytes =>
      Uid.ofBytes bytes >>= fun uid => pure (Target.typeA ⟨[a, b], two⟩ sak uid
        ((a :: b :: sak :: size :: rest).drop (4 + size.toNat)))) = _
    rw [slice, behind]
    split
    · rfl
    · rw [ok_bind]
      cases Uid.ofBytes (rest.take size.toNat) <;> rfl

theorem exists_head (long : 4 ≤ data.length) :
    ∃ (atqa : Octets 2) (sak size : UInt8) (rest : Bytes),
      data = atqa.toList ++ sak :: size :: rest := by
  match data, long with
  | a :: b :: sak :: size :: rest, _ => exact ⟨⟨[a, b], rfl⟩, sak, size, rest, rfl⟩

theorem decodeTarget_long_eq_ok_iff {atqa : Octets 2} {sak size : UInt8} {rest : Bytes} :
    decodeTarget (atqa.toList ++ sak :: size :: rest) = .ok t ↔
      size.toNat ≤ rest.length ∧ ∃ uid : Uid, uid.bytes = rest.take size.toNat ∧
        t = .typeA atqa sak uid (rest.drop size.toNat) := by
  rw [decodeTarget_long]
  by_cases short : rest.length < size.toNat
  · rw [if_pos short]
    exact ⟨nofun, fun inside => absurd short (Nat.not_lt.mpr inside.1)⟩
  · simp only [if_neg short, map_eq_ok_iff, Uid.ofBytes_eq_ok_iff, Nat.not_lt.mp short, true_and,
      eq_comm (a := t)]

/-- What is read was written so. -/
theorem encodeTarget_of_decodeTarget (decoded : decodeTarget data = .ok t) :
    encodeTarget t = .ok data := by
  by_cases short : data.length < 4
  · obtain ⟨e, failed⟩ := decodeTarget_short short
    rw [failed] at decoded
    cases decoded
  · obtain ⟨atqa, sak, size, rest, rfl⟩ := exists_head (Nat.not_lt.mp short)
    obtain ⟨inside, uid, identifier, rfl⟩ := decodeTarget_long_eq_ok_iff.mp decoded
    have length : uid.bytes.length = size.toNat := by
      rw [identifier, List.length_take, Nat.min_eq_left inside]
    refine congrArg Except.ok ?_
    rw [length, UInt8.ofNat_toNat, identifier]
    simp only [List.append_assoc, List.cons_append, List.nil_append, List.take_append_drop]

theorem exists_decodeTarget_iff : (∃ t, decodeTarget data = .ok t) ↔ Descriptive data := by
  by_cases short : data.length < 4
  · obtain ⟨e, failed⟩ := decodeTarget_short short
    rw [failed]
    refine iff_of_false nofun ?_
    rintro ⟨-, -, long⟩
    omega
  · obtain ⟨atqa, sak, size, rest, rfl⟩ := exists_head (Nat.not_lt.mp short)
    have fourth : (atqa.toList ++ sak :: size :: rest)[3]? = some size := by
      rw [List.getElem?_append_right (by rw [atqa.length_toList]; omega), atqa.length_toList]
      rfl
    have length : (atqa.toList ++ sak :: size :: rest).length = rest.length + 4 := by
      simp only [List.length_append, atqa.length_toList, List.length_cons]
      omega
    constructor
    · rintro ⟨t, decoded⟩
      obtain ⟨inside, uid, identifier, -⟩ := decodeTarget_long_eq_ok_iff.mp decoded
      have same : uid.bytes.length = size.toNat := by
        rw [identifier, List.length_take, Nat.min_eq_left inside]
      have sizes := uid.size
      rw [same] at sizes
      refine .intro fourth ?_ (by omega)
      simp only [← UInt8.toNat_inj]
      exact sizes
    · rintro ⟨found, sizes, long⟩
      obtain rfl := Option.some.inj (fourth.symm.trans found)
      have inside : size.toNat ≤ rest.length := by omega
      have known : (rest.take size.toNat).length = 4 ∨ (rest.take size.toNat).length = 7 ∨
          (rest.take size.toNat).length = 10 := by
        rw [List.length_take, Nat.min_eq_left inside]
        rcases sizes with rfl | rfl | rfl <;> decide
      exact ⟨_, decodeTarget_long_eq_ok_iff.mpr ⟨inside, ⟨_, known⟩, rfl, rfl⟩⟩

end Reading

theorem exists_encodeTarget_iff {t : Target} : (∃ data, encodeTarget t = .ok data) ↔
    ∃ atqa sak uid ats, t = .typeA atqa sak uid ats := by
  constructor
  · rintro ⟨data, encoded⟩
    cases t with
    | typeA atqa sak uid ats => exact ⟨atqa, sak, uid, ats, rfl⟩
    | _ => cases encoded
  · rintro ⟨atqa, sak, uid, ats, rfl⟩
    exact ⟨_, rfl⟩

/-- Reading and writing are inverse to each other: a byte string is read as a tag exactly when that
tag is written so. What can be read are the byte strings that announce an identifier they hold, and
what can be written are the type A tags; any other is refused. -/
theorem descriptor_bijective :
    (∀ data t, decodeTarget data = .ok t ↔ encodeTarget t = .ok data) ∧
      (∀ data, (∃ t, decodeTarget data = .ok t) ↔ Descriptive data) ∧
      ∀ t, ((∃ data, encodeTarget t = .ok data) ↔ ∃ atqa sak uid ats, t = .typeA atqa sak uid ats) ∧
        ∀ e, encodeTarget t = .error e ↔ (∀ atqa sak uid ats, t ≠ .typeA atqa sak uid ats) ∧
          e = .deviceNotSupported s!"relaying {t.modulation.technology.name} targets" := by
  refine ⟨fun data t => ?_, fun data => exists_decodeTarget_iff, fun t => ?_⟩
  · exact ⟨encodeTarget_of_decodeTarget, decodeTarget_encodeTarget⟩
  · exact ⟨exists_encodeTarget_iff, fun e => encodeTarget_error_iff⟩

end Contactless.Relay
