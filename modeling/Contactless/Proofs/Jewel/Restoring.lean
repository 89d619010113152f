import Contactless.Proofs.Jewel.Answers
import Contactless.Proofs.Run

/-!
An image written back to a Jewel tag. Its data blocks go out byte by byte until the tag fails to
confirm one; a tag that keeps what it is told ends up with them, and with nothing else of the image.
-/
namespace Contactless.Jewel

/-- The requests that write the data blocks of an image, by address. -/
def writes (id : TagId) (dump : Dump) : List Request :=
  List.ofFn fun i : Fin 96 =>
    .writeErasing id (UInt8.ofNat (8 + i)) (dump.image.get ⟨8 + i, by omega⟩)

/-- The tag has not confirmed a byte: it could not be asked, answered something of another length,
or holds another value. -/
inductive Spoils (address value : UInt8) : Except Error Bytes → Error → Prop
  | failed (e : Error) : Spoils address value (.error e) e
  | length {frame : Bytes} : frame.length ≠ 2 →
      Spoils address value (.ok frame) (.invalidLength 2 frame.length)
  | holds {held : UInt8} (echo : UInt8) : held ≠ value →
      Spoils address value (.ok [echo, held])
        (.rfProtocol (s!"byte {Text.Hex.byte address} holds {Text.Hex.byte held}"
          ++ s!" after writing {Text.Hex.byte value}"))

/-- The write of one byte and the answer to it. -/
def writing (id : TagId) (wait : Timeout) (address value : UInt8) (answer : Except Error Bytes) :
    Chip.Event :=
  ⟨.bytes (Request.writeErasing id address value).encode wait, answer⟩

/-- A write that the tag confirmed. -/
inductive Kept (id : TagId) (wait : Timeout) : Chip.Event → Prop
  | echoed (address value echo : UInt8) :
      Kept id wait (writing id wait address value (.ok [echo, value]))

/-- How bytes are written one after the other, each with its address. -/
inductive Writes (id : TagId) (wait : Timeout) :
    List (UInt8 × Nat) → List Chip.Event → Except Error Unit → Prop
  | done : Writes id wait [] [] (.ok ())
  | kept {value : UInt8} {address : Nat} {cells : List (UInt8 × Nat)} {t : List Chip.Event}
      {r : Except Error Unit} (echo : UInt8) : Writes id wait cells t r →
      Writes id wait ((value, address) :: cells)
        (writing id wait (UInt8.ofNat address) value (.ok [echo, value]) :: t) r
  | spoiled {value : UInt8} {address : Nat} {answer : Except Error Bytes} {e : Error}
      (cells : List (UInt8 × Nat)) : Spoils (UInt8.ofNat address) value answer e →
      Writes id wait ((value, address) :: cells)
        [writing id wait (UInt8.ofNat address) value answer] (.error e)

section Addresses

theorem byteAddress_ofNat {p : Nat} (inside : p < 120) :
    byteAddress (UInt8.ofNat (p / 8)) (UInt8.ofNat (p % 8)) = .ok (UInt8.ofNat p) := by
  have block : (UInt8.ofNat (p / 8)).toNat = p / 8 :=
    UInt8.toNat_ofNat_of_lt' (by change _ < 256; omega)
  have byte : (UInt8.ofNat (p % 8)).toNat = p % 8 :=
    UInt8.toNat_ofNat_of_lt' (by change _ < 256; omega)
  have whole : (UInt8.ofNat p).toNat = p := UInt8.toNat_ofNat_of_lt' (by change _ < 256; omega)
  have allowed : ¬ (0x0e < UInt8.ofNat (p / 8) ∨ 7 < UInt8.ofNat (p % 8)) := by
    rw [UInt8.lt_iff_toNat_lt, UInt8.lt_iff_toNat_lt, block, byte]
    change ¬ (14 < p / 8 ∨ 7 < p % 8)
    omega
  unfold byteAddress
  rw [if_neg allowed]
  refine congrArg Except.ok (UInt8.toNat_inj.mp ?_)
  rw [UInt8.toNat_or, UInt8.toNat_shiftLeft, block, byte, whole]
  change (p / 8) <<< 3 % 256 ||| p % 8 = p
  rw [Nat.mod_eq_of_lt (by rw [Nat.shiftLeft_eq]; omega),
    ← Nat.shiftLeft_add_eq_or_of_lt (by omega), Nat.shiftLeft_eq]
  omega

end Addresses

namespace Tag

/-- What comes of the answer to a request about one byte. -/
inductive Tells : Except Error Bytes → Except Error UInt8 → Prop
  | failed (e : Error) : Tells (.error e) (.error e)
  | length {frame : Bytes} : frame.length ≠ 2 →
      Tells (.ok frame) (.error (.invalidLength 2 frame.length))
  | byte (echo held : UInt8) : Tells (.ok [echo, held]) (.ok held)

theorem assures_byteExchange {request : Request} (byte : request.scope = .byte)
    (d : Device .initiator) :
    (byteExchange request).Assures d fun t r d' => d' = d ∧ ∃ answer,
      t = [⟨.bytes request.encode d.config.commandTimeout, answer⟩] ∧ Tells answer r := by
  refine (assures_exchange request d).bind ?_ ?_
  · rintro _ a _ ⟨answer, rfl, came, rfl⟩
    obtain ⟨frame, rfl, read⟩ := bind_eq_ok_iff.mp came.symm
    have reads := request.decode_eq_ok_iff.mp read
    rw [byte] at reads
    cases reads with
    | byte echo held => exact Act.assures_pure ⟨rfl, _, rfl, .byte echo held⟩
  · rintro _ e _ ⟨answer, rfl, came, rfl⟩
    refine ⟨rfl, answer, rfl, ?_⟩
    cases answer with
    | error _ =>
        cases came
        exact .failed e
    | ok frame =>
        rw [ok_bind, request.decode_code, byte] at came
        by_cases whole : frame.length = 2
        · obtain ⟨a, reads⟩ := Scope.exists_reads (s := .byte) whole
          cases came.trans (Scope.decode_of_reads reads)
        · cases came.trans (Scope.decode_of_length_ne whole)
          exact .length whole

theorem assures_writeByteOf (id : TagId) {p : Nat} (inside : p < 120) (value : UInt8)
    (d : Device .initiator) :
    (writeByteOf id (UInt8.ofNat (p / 8)) (UInt8.ofNat (p % 8)) value true).Assures d
      fun t r d' => d' = d ∧ ∃ answer,
        t = [writing id d.config.commandTimeout (UInt8.ofNat p) value answer] ∧
          ((r = .ok () ∧ ∃ echo, answer = .ok [echo, value]) ∨
            ∃ e, r = .error e ∧ Spoils (UInt8.ofNat p) value answer e) := by
  refine Act.assures_ofExcept_bind ?_ ?_
  · intro address placed
    cases (byteAddress_ofNat inside).symm.trans placed
    refine (assures_byteExchange rfl d).bind ?_ ?_
    · rintro _ held _ ⟨rfl, answer, rfl, tells⟩
      cases tells with
      | byte echo held =>
          by_cases same : held = value
          · rw [same, bne_self_eq_false]
            exact Act.assures_pure ⟨rfl, _, rfl, .inl ⟨rfl, echo, rfl⟩⟩
          · rw [bne_iff_ne.mpr same]
            exact Act.assures_throw ⟨rfl, _, rfl, .inr ⟨_, rfl, .holds echo same⟩⟩
    · rintro _ e _ ⟨rfl, answer, rfl, tells⟩
      cases tells with
      | failed => exact ⟨rfl, _, rfl, .inr ⟨_, rfl, .failed e⟩⟩
      | length other => exact ⟨rfl, _, rfl, .inr ⟨_, rfl, .length other⟩⟩
  · intro e refused
    cases (byteAddress_ofNat inside).symm.trans refused

/-- Write bytes, each at its address. -/
def writeAll (id : TagId) (cells : List (UInt8 × Nat)) : Act Chip (Device .initiator) Unit :=
  cells.forM fun (value, position) =>
    writeByteOf id (UInt8.ofNat (position / 8)) (UInt8.ofNat (position % 8)) value true

/-- Bytes are written one after the other until one of them is spoiled. -/
theorem assures_writeAll (id : TagId) (d : Device .initiator) {cells : List (UInt8 × Nat)}
    (inside : ∀ cell ∈ cells, cell.2 < 120) :
    (writeAll id cells).Assures d fun t r d' =>
      d' = d ∧ Writes id d.config.commandTimeout cells t r := by
  induction cells with
  | nil => exact Act.assures_pure ⟨rfl, .done⟩
  | cons cell cells ih =>
      obtain ⟨value, address⟩ := cell
      obtain ⟨here, later⟩ := List.forall_mem_cons.mp inside
      refine (assures_writeByteOf id here value d).bind ?_ ?_
      · rintro _ _ _ ⟨rfl, answer, rfl, ⟨-, echo, rfl⟩ | ⟨e, failed, -⟩⟩
        · refine (ih later).mono ?_
          rintro u r _ ⟨rfl, writes⟩
          exact ⟨rfl, .kept echo writes⟩
        · cases failed
      · rintro _ e _ ⟨rfl, answer, rfl, ⟨done, -⟩ | ⟨e, ⟨⟩, spoils⟩⟩
        · cases done
        · exact ⟨rfl, .spoiled cells spoils⟩

end Tag

/-- The bytes of the data blocks. -/
def Dump.data (d : Dump) : Bytes := (d.bytes.drop 8).take 96

section Cells

variable {dump : Dump}

theorem Dump.getElem?_data {i : Nat} (inside : i < 96) : dump.data[i]? = dump.bytes[8 + i]? := by
  unfold data
  rw [List.getElem?_take_of_lt inside, List.getElem?_drop]

theorem Dump.length_data (dump : Dump) : dump.data.length = 96 := by
  unfold data bytes
  rw [List.length_take, List.length_drop, dump.image.length_toList]
  rfl

/-- What is written stands at its place in the image. -/
theorem dataBytes_eq : Tag.dataBytes dump = dump.data.zipIdx 8 := by
  refine List.ext_getElem? fun i => ?_
  unfold Tag.dataBytes
  rw [List.getElem?_zipIdx]
  by_cases inside : i < 96
  · rw [List.getElem?_take_of_lt inside, List.getElem?_drop, List.getElem?_zipIdx,
      Dump.getElem?_data inside, Nat.zero_add]
  · have past : dump.data.length ≤ i := by
      rw [dump.length_data]
      omega
    rw [List.getElem?_eq_none past, List.getElem?_take_eq_none (Nat.le_of_not_lt inside)]
    rfl

theorem writes_eq (id : TagId) : writes id dump = (dump.data.zipIdx 8).map fun cell =>
    .writeErasing id (UInt8.ofNat cell.2) cell.1 := by
  refine List.ext_getElem? fun i => ?_
  unfold writes
  rw [List.getElem?_ofFn, List.getElem?_map, List.getElem?_zipIdx]
  by_cases inside : i < 96
  · have placed : dump.bytes[8 + i]? = some (dump.image.get ⟨8 + i, by omega⟩) :=
      List.getElem?_eq_getElem _
    rw [dif_pos inside, Dump.getElem?_data inside, placed]
    rfl
  · rw [dif_neg inside, List.getElem?_eq_none (by rw [dump.length_data]; omega)]
    rfl

theorem lt_of_mem_cells {cell : UInt8 × Nat} (member : cell ∈ dump.data.zipIdx 8) :
    8 ≤ cell.2 ∧ cell.2 < 104 := by
  have low := List.le_snd_of_mem_zipIdx member
  have high := List.snd_lt_add_of_mem_zipIdx member
  rw [dump.length_data] at high
  omega

end Cells

/-- How an image is written back. -/
structure Restores (id : TagId) (dump : Dump) (wait : Timeout) (t : List Chip.Event)
    (r : Except Error Unit) : Prop where
  ordered : t.map Sigma.fst <+:
    (writes id dump).map fun request => .bytes request.encode wait
  /-- A write that is not confirmed is the last one. -/
  stopped : ∀ e, r = .error e → ∃ u address value answer,
    t = u ++ [writing id wait address value answer] ∧ (∀ event ∈ u, Kept id wait event) ∧
      Spoils address value answer e
  completed : r = .ok () ↔ t.length = 96 ∧ ∀ event ∈ t, Kept id wait event

namespace Writes

variable {id : TagId} {wait : Timeout} {cells : List (UInt8 × Nat)} {t : List Chip.Event}
  {r : Except Error Unit}

theorem calls_prefix (writes : Writes id wait cells t r) :
    t.map Sigma.fst <+: cells.map fun cell =>
      .bytes (Request.writeErasing id (UInt8.ofNat cell.2) cell.1).encode wait := by
  induction writes with
  | done => exact List.prefix_refl []
  | kept echo _ ih => exact List.cons_prefix_cons.mpr ⟨rfl, ih⟩
  | spoiled cells spoils => exact List.cons_prefix_cons.mpr ⟨rfl, List.nil_prefix⟩

theorem of_error {e : Error} (writes : Writes id wait cells t (.error e)) :
    ∃ u address value answer, t = u ++ [writing id wait address value answer] ∧
      (∀ event ∈ u, Kept id wait event) ∧ Spoils address value answer e := by
  generalize failed : Except.error e = r at writes
  induction writes with
  | done => cases failed
  | kept echo _ ih =>
      obtain ⟨u, address, value, answer, rfl, kept, spoils⟩ := ih failed
      refine ⟨_ :: u, address, value, answer, rfl, ?_, spoils⟩
      exact List.forall_mem_cons.mpr ⟨.echoed _ _ echo, kept⟩
  | spoiled cells spoils =>
      cases failed
      exact ⟨[], _, _, _, rfl, List.forall_mem_nil _, spoils⟩

theorem of_ok (writes : Writes id wait cells t (.ok ())) :
    t.length = cells.length ∧ ∀ event ∈ t, Kept id wait event := by
  generalize came : Except.ok () = r at writes
  induction writes with
  | done => exact ⟨rfl, List.forall_mem_nil _⟩
  | kept echo _ ih =>
      obtain ⟨count, kept⟩ := ih came
      exact ⟨congrArg Nat.succ count, List.forall_mem_cons.mpr ⟨.echoed _ _ echo, kept⟩⟩
  | spoiled => cases came

end Writes

theorem not_spoils (address value echo : UInt8) (e : Error) :
    ¬ Spoils address value (.ok [echo, value]) e := by
  rintro (_ | other | ⟨_, other⟩)
  · exact other rfl
  · exact other rfl

theorem not_kept_of_spoils {id : TagId} {wait : Timeout} {address value : UInt8}
    {answer : Except Error Bytes} {e : Error} (spoils : Spoils address value answer e) :
    ¬ Kept id wait (writing id wait address value answer) := by
  generalize same : writing id wait address value answer = event
  rintro ⟨address', value', echo⟩
  obtain ⟨calls, answers⟩ := Sigma.mk.inj same
  cases eq_of_heq answers
  obtain ⟨-, rfl, -⟩ := shortRequest_inj (Chip.Call.bytes.inj calls).1
  exact not_spoils _ _ _ _ spoils

theorem Writes.restores {id : TagId} {dump : Dump} {wait : Timeout} {t : List Chip.Event}
    {r : Except Error Unit} (run : Writes id wait (dump.data.zipIdx 8) t r) :
    Restores id dump wait t r where
  ordered := by
    rw [writes_eq, List.map_map]
    exact run.calls_prefix
  stopped := by
    rintro e rfl
    exact run.of_error
  completed := by
    constructor
    · rintro rfl
      have done := run.of_ok
      rwa [List.length_zipIdx, dump.length_data] at done
    · rintro ⟨-, kept⟩
      cases r with
      | ok done => rfl
      | error e =>
          obtain ⟨u, address, value, answer, rfl, -, spoils⟩ := run.of_error
          have last := kept _ (List.mem_append_right u List.mem_cons_self)
          exact absurd last (not_kept_of_spoils spoils)

namespace Tag

section Restoring

variable (config : Config) (atqa : Octets 2) (id : TagId) (dump : Dump)

theorem restore_apply (n : Nat) : restore dump n ⟨config, some (.jewel atqa id)⟩ =
    writeAll id (dump.data.zipIdx 8) n ⟨config, some (.jewel atqa id)⟩ := by
  rw [← dataBytes_eq]
  rfl

theorem assures_restore : (restore dump).Assures ⟨config, some (.jewel atqa id)⟩ fun t r d =>
    d = ⟨config, some (.jewel atqa id)⟩ ∧ Restores id dump config.commandTimeout t r := by
  intro n
  rw [restore_apply]
  have inside : ∀ cell ∈ dump.data.zipIdx 8, cell.2 < 120 := by
    intro cell member
    have within := lt_of_mem_cells member
    omega
  have run := assures_writeAll id ⟨config, some (.jewel atqa id)⟩ inside
  refine (run n).mono ?_
  rintro t ⟨r, d⟩ ⟨same, writes⟩
  exact ⟨same, writes.restores⟩

end Restoring

end Tag

/-- An image with another byte at an address. -/
def Dump.put (d : Dump) (address : Nat) (value : UInt8) : Dump where
  image := ⟨d.image.toList.set address value, by rw [List.length_set, d.image.length_toList]⟩

/-- A tag in the field keeps each byte of its data blocks that it is told, and answers with address
and byte. -/
structure Keeps {τ : Type} (h : Handler Chip τ) (id : TagId) (memory : τ → Dump) : Prop where
  answers : ∀ address value wait p, 8 ≤ address → address < 104 →
    (h (.bytes (Request.writeErasing id (UInt8.ofNat address) value).encode wait) p).1 =
      .ok [UInt8.ofNat address, value]
  stores : ∀ address value wait p, 8 ≤ address → address < 104 →
    memory (h (.bytes (Request.writeErasing id (UInt8.ofNat address) value).encode wait) p).2 =
      (memory p).put address value

/-- Some bytes in the place of others from an address on. -/
def overlay (bytes : Bytes) (address : Nat) (values : Bytes) : Bytes :=
  bytes.take address ++ (values ++ bytes.drop (address + values.length))

section Overlays

variable {bytes values : Bytes} {address : Nat} {value : UInt8}

theorem overlay_nil : overlay bytes address [] = bytes := List.take_append_drop address bytes

theorem overlay_cons (inside : address < bytes.length) :
    overlay (bytes.set address value) (address + 1) values =
      overlay bytes address (value :: values) := by
  unfold overlay
  rw [List.take_add_one, List.take_set_of_le (Nat.le_refl address), List.getElem?_set_self inside,
    List.drop_set_of_lt (by omega), List.append_assoc, List.length_cons, Nat.add_assoc,
    Nat.add_comm 1]
  rfl

theorem getElem?_overlay_left {i : Nat} (before : i < address) (inside : address ≤ bytes.length) :
    (overlay bytes address values)[i]? = bytes[i]? := by
  unfold overlay
  rw [List.getElem?_append_left (by rw [List.length_take]; omega),
    List.getElem?_take_of_lt before]

theorem getElem?_overlay_middle {i : Nat} (within : i < values.length)
    (inside : address ≤ bytes.length) :
    (overlay bytes address values)[address + i]? = values[i]? := by
  have front : (bytes.take address).length = address := List.length_take_of_le inside
  unfold overlay
  rw [List.getElem?_append_right (by omega), front, Nat.add_sub_cancel_left,
    List.getElem?_append_left within]

theorem getElem?_overlay_right {i : Nat} (after : address + values.length ≤ i)
    (inside : address ≤ bytes.length) :
    (overlay bytes address values)[i]? = bytes[i]? := by
  have front : (bytes.take address).length = address := List.length_take_of_le inside
  unfold overlay
  rw [List.getElem?_append_right (by omega), front, List.getElem?_append_right (by omega),
    List.getElem?_drop]
  congr 1
  omega

end Overlays

namespace Tag

variable {τ : Type} {h : Handler Chip τ} {id : TagId} {memory : τ → Dump}

theorem ends_writeByteOf (keeps : Keeps h id memory) {address : Nat} (low : 8 ≤ address)
    (high : address < 104) (value : UInt8) (n : Nat) (d : Device .initiator) (p : τ) :
    ∃ p', Act.Ends h (writeByteOf id (UInt8.ofNat (address / 8)) (UInt8.ofNat (address % 8)) value
      true) n d p (.ok ()) d p' ∧ memory p' = (memory p).put address value := by
  have inside : address < 120 := by omega
  obtain ⟨t, ⟨r, d'⟩, p', held, rfl, answer, rfl, outcome⟩ :=
    (assures_writeByteOf id inside value d n).held h p
  have asked := held.of_singleton
  have answers := keeps.answers address value d'.config.commandTimeout p low high
  have stores := keeps.stores address value d'.config.commandTimeout p low high
  rw [asked] at answers stores
  cases answers
  rcases outcome with ⟨rfl, -⟩ | ⟨e, -, spoils⟩
  · exact ⟨p', held.run, stores⟩
  · exact absurd spoils (not_spoils _ _ _ _)

/-- What is written one byte after the other ends up in a row. -/
theorem ends_writeAll (keeps : Keeps h id memory) {values : Bytes} {address : Nat}
    (low : 8 ≤ address) (high : address + values.length ≤ 104) (n : Nat) (d : Device .initiator)
    (p : τ) :
    ∃ p', Act.Ends h (writeAll id (values.zipIdx address)) n d p (.ok ()) d p' ∧
      (memory p').bytes = overlay (memory p).bytes address values := by
  -- On what is left to write: the memory moves on with the address.
  induction values generalizing address p with
  | nil => exact ⟨p, Act.ends_pure _, overlay_nil.symm⟩
  | cons value values ih =>
      rw [List.length_cons] at high
      obtain ⟨p', first, put⟩ := ends_writeByteOf keeps low (by omega) value n d p
      obtain ⟨p'', rest, row⟩ := ih (Nat.le_succ_of_le low) (by omega) p'
      refine ⟨p'', first.bind rest, ?_⟩
      have inside : address < (memory p).bytes.length := by
        rw [Dump.bytes, (memory p).image.length_toList]
        omega
      rw [row, put]
      exact overlay_cons inside

end Tag

/-- The data blocks of a memory are those of an image, and everything else is as it was. -/
structure Restored (dump before after : Dump) : Prop where
  data : ∀ block, 1 ≤ block → block ≤ 12 → after.block? block = dump.block? block
  rest : ∀ block, block = 0 ∨ 13 ≤ block → after.block? block = before.block? block

theorem Dump.block?_congr {d e : Dump} {block : Nat}
    (same : ∀ i < 8, d.bytes[block * 8 + i]? = e.bytes[block * 8 + i]?) :
    d.block? block = e.block? block := by
  unfold block?
  split
  · refine congrArg some (List.ext_getElem? fun i => ?_)
    by_cases inside : i < 8
    · rw [List.getElem?_take_of_lt inside, List.getElem?_take_of_lt inside, List.getElem?_drop,
        List.getElem?_drop, same i inside]
    · rw [List.getElem?_take_eq_none (Nat.le_of_not_lt inside),
        List.getElem?_take_eq_none (Nat.le_of_not_lt inside)]
  · rfl

theorem restored_of_overlay {dump before after : Dump}
    (row : after.bytes = overlay before.bytes 8 dump.data) : Restored dump before after := by
  have long : before.bytes.length = 120 := before.image.length_toList
  have count := dump.length_data
  constructor
  · intro block first last
    refine Dump.block?_congr fun i inside => ?_
    obtain ⟨k, place⟩ := Nat.le.dest (show 8 ≤ block * 8 + i by omega)
    rw [row, ← place, getElem?_overlay_middle (by omega) (by omega),
      Dump.getElem?_data (by omega)]
  · rintro block (rfl | last)
    · refine Dump.block?_congr fun i inside => ?_
      rw [row, getElem?_overlay_left (by omega) (by omega)]
    · refine Dump.block?_congr fun i inside => ?_
      rw [row, getElem?_overlay_right (by omega) (by omega)]

/-- An image is written back in the order of its addresses until a byte is not confirmed, and a tag
that keeps what it is told has its data blocks afterwards. -/
theorem data_blocks_restored :
    (∀ config atqa id dump,
      (Tag.restore dump).Assures ⟨config, some (.jewel atqa id)⟩ fun t r d =>
        d = ⟨config, some (.jewel atqa id)⟩ ∧ Restores id dump config.commandTimeout t r) ∧
      ∀ {τ : Type} {h : Handler Chip τ} {id : TagId} {memory : τ → Dump}, Keeps h id memory →
        ∀ config atqa dump n p, ∃ p',
          Act.Ends h (Tag.restore dump) n ⟨config, some (.jewel atqa id)⟩ p (.ok ())
            ⟨config, some (.jewel atqa id)⟩ p' ∧
          Restored dump (memory p) (memory p') := by
  constructor
  · exact Tag.assures_restore
  · intro τ h id memory keeps config atqa dump n p
    have high : 8 + dump.data.length ≤ 104 := Nat.le_of_eq (congrArg (8 + ·) dump.length_data)
    obtain ⟨p', ends, row⟩ := Tag.ends_writeAll keeps (Nat.le_refl 8) high n
      ⟨config, some (.jewel atqa id)⟩ p
    refine ⟨p', ?_, restored_of_overlay row⟩
    unfold Act.Ends
    rw [Tag.restore_apply]
    exact ends

/-- A tag that takes only such writes, alone in the field of a chip. -/
def storing (id : TagId) : Handler Chip Dump
  | .bytes (0x53 :: address :: value :: rest) _, d =>
    if rest = id.toList then (.ok [address, value], d.put address.toNat value)
    else (.error .rfTimeout, d)
  | .bytes .., d | .arm .., d | .receive _, d => (.error .rfTimeout, d)
  | .bits .., d => (.error .rfTimeout, d)
  | .configure .., d | .send .., d | .idle, d | .abortPending, d => (.ok (), d)
  | .checkAbort, d | .sleep _, d => (false, d)
  | .clearAbort, d => ((), d)

theorem keeps_storing (id : TagId) : Keeps (storing id) id fun d => d := by
  have taken (address value wait) (d : Dump) :
      storing id (.bytes (Request.writeErasing id address value).encode wait) d =
        (.ok [address, value], d.put address.toNat value) := if_pos rfl
  constructor
  · intro address value wait d low high
    rw [taken]
  · intro address value wait d low high
    rw [taken, UInt8.toNat_ofNat_of_lt' (Nat.lt_trans high (by decide))]

/-- Every byte is its address. -/
def countingDump : Dump := ⟨⟨(List.range 120).map UInt8.ofNat, rfl⟩⟩

theorem data_blocks_restored_storing :
    Keeps (storing ⟨[1, 2, 3, 4], rfl⟩) ⟨[1, 2, 3, 4], rfl⟩ (fun d => d) ∧
      ∃ after, Act.Ends (storing ⟨[1, 2, 3, 4], rfl⟩) (Tag.restore countingDump) 0
          ⟨{}, some (.jewel ⟨[0x0c, 0x00], rfl⟩ ⟨[1, 2, 3, 4], rfl⟩)⟩ ⟨.zero 120⟩ (.ok ())
          ⟨{}, some (.jewel ⟨[0x0c, 0x00], rfl⟩ ⟨[1, 2, 3, 4], rfl⟩)⟩ after ∧
        Restored countingDump ⟨.zero 120⟩ after :=
  have keeps := keeps_storing ⟨[1, 2, 3, 4], rfl⟩
  ⟨keeps, data_blocks_restored.2 keeps {} ⟨[0x0c, 0x00], rfl⟩ countingDump 0 ⟨.zero 120⟩⟩

end Contactless.Jewel
