import Contactless.Proofs.Bytes
import Contactless.Proofs.Felica.Frame

/-!
A FeliCa request is told by its frame. The counts before both lists are not truncated, as the whole
frame would be too long first, and the elements of the block list end where their own marks say, so
that nothing needs to stand between them.
-/
namespace Contactless.Felica

section Elements

namespace AccessMode

theorem code_injective {m n : AccessMode} (same : m.code = n.code) : m = n := by
  cases m <;> cases n <;> first | rfl | cases same

theorem toNat_shifted (m : AccessMode) : (m.code <<< 4).toNat = 16 * m.code.toNat := by
  cases m <;> rfl

theorem toNat_code_le (m : AccessMode) : m.code.toNat ≤ 1 := by
  cases m <;> decide

end AccessMode

namespace BlockElement

/-- Access mode and position of the service, as they stand in the first byte of an element. -/
def head (e : BlockElement) : UInt8 := (e.access.code <<< 4) ||| (e.service &&& 0x0f)

variable {e f : BlockElement}

theorem encode_short (short : e.number < 0x100) :
    e.encode = [0x80 ||| e.head, e.number.toUInt8] := if_pos short

theorem encode_long (long : ¬ e.number < 0x100) : e.encode = e.head :: le16 e.number :=
  if_neg long

theorem length_encode (e : BlockElement) : e.encode.length = e.encodedLength := by
  unfold encodedLength
  by_cases short : e.number < 0x100
  · rw [encode_short short, if_pos short]
    rfl
  · rw [encode_long short, if_neg short]
    rfl

theorem two_le_encodedLength (e : BlockElement) : 2 ≤ e.encodedLength := by
  unfold encodedLength
  split <;> decide

/-- Length of the elements of a block list, without its count. -/
def totalLength : List BlockElement → Nat
  | [] => 0
  | e :: blocks => e.encodedLength + totalLength blocks

/-- No position of a service is masked away. -/
theorem toNat_head (listed : e.service.toNat < 16) :
    e.head.toNat = 16 * e.access.code.toNat + e.service.toNat := by
  have kept : (e.service &&& 0x0f).toNat = e.service.toNat := by
    rw [UInt8.toNat_and]
    exact Nat.and_two_pow_sub_one_of_lt_two_pow (n := 4) listed
  rw [head, UInt8.toNat_or, kept, AccessMode.toNat_shifted]
  exact (Nat.two_pow_add_eq_or_of_lt (i := 4) listed _).symm

theorem toNat_head_lt (listed : e.service.toNat < 16) : e.head.toNat < 128 := by
  have mode := e.access.toNat_code_le
  rw [toNat_head listed]
  omega

/-- The mark of the short form stands above all that the head says. -/
theorem toNat_marked (listed : e.service.toNat < 16) :
    (0x80 ||| e.head).toNat = 128 + e.head.toNat := by
  rw [UInt8.toNat_or]
  exact (Nat.two_pow_add_eq_or_of_lt (i := 7) (toNat_head_lt listed) 1).symm

theorem eq_of_head (listed : e.service.toNat < 16) (listed' : f.service.toNat < 16)
    (heads : e.head.toNat = f.head.toNat) (numbers : e.number = f.number) : e = f := by
  rw [toNat_head listed, toNat_head listed'] at heads
  have mode := e.access.toNat_code_le
  have mode' := f.access.toNat_code_le
  have services : e.service = f.service := UInt8.toNat_inj.mp (by omega)
  have modes : e.access = f.access :=
    AccessMode.code_injective (UInt8.toNat_inj.mp (by omega))
  cases e
  cases f
  cases services
  cases modes
  cases numbers
  rfl

theorem marked_ne (listed : e.service.toNat < 16) (listed' : f.service.toNat < 16) :
    0x80 ||| e.head ≠ f.head := by
  intro same
  have marks := congrArg UInt8.toNat same
  rw [toNat_marked listed] at marks
  have small := toNat_head_lt listed'
  omega

theorem number_eq_of_short (short : e.number < 0x100) (short' : f.number < 0x100)
    (same : e.number.toUInt8 = f.number.toUInt8) : e.number = f.number := by
  have low : e.number.toNat < 256 := short
  have low' : f.number.toNat < 256 := short'
  have bytes := congrArg UInt8.toNat same
  rw [UInt16.toNat_toUInt8, UInt16.toNat_toUInt8] at bytes
  exact UInt16.toNat_inj.mp (by omega)

/-- The first byte tells the form, and with it the length. -/
theorem delimited_encode : Delimited encode fun e => e.service.toNat < 16 := by
  intro e f x y listed listed' equal
  by_cases short : e.number < 0x100 <;> by_cases short' : f.number < 0x100
  · rw [encode_short short, encode_short short'] at equal
    obtain ⟨marks, rest⟩ := List.cons.inj equal
    obtain ⟨numbers, same⟩ := List.cons.inj rest
    have heads := congrArg UInt8.toNat marks
    rw [toNat_marked listed, toNat_marked listed'] at heads
    refine ⟨eq_of_head listed listed' (by omega) ?_, same⟩
    exact number_eq_of_short short short' numbers
  · rw [encode_short short, encode_long short'] at equal
    exact absurd (List.cons.inj equal).1 (marked_ne listed listed')
  · rw [encode_long short, encode_short short'] at equal
    exact absurd (List.cons.inj equal).1.symm (marked_ne listed' listed)
  · rw [encode_long short, encode_long short'] at equal
    obtain ⟨marks, rest⟩ := List.cons.inj equal
    obtain ⟨numbers, same⟩ := delimited_le16 trivial trivial rest
    exact ⟨eq_of_head listed listed' (congrArg UInt8.toNat marks) numbers, same⟩

end BlockElement

end Elements

section Lists

variable {services services' : List UInt16} {blocks blocks' : List BlockElement} {x y : Bytes}

theorem length_flatMap_encode (blocks : List BlockElement) :
    (blocks.flatMap BlockElement.encode).length = BlockElement.totalLength blocks := by
  induction blocks with
  | nil => rfl
  | cons e blocks ih =>
      rw [List.flatMap_cons, List.length_append, BlockElement.length_encode, ih]
      rfl

theorem length_lists (services : List UInt16) (blocks : List BlockElement) :
    (lists services blocks).length =
      2 + 2 * services.length + BlockElement.totalLength blocks := by
  have fixed (w : UInt16) : (le16 w).length = 2 := rfl
  have words := length_flatMap_of_fixed fixed services
  rw [lists, List.length_append, List.length_cons, List.length_cons, words,
    length_flatMap_encode]
  omega

theorem two_mul_length_le (blocks : List BlockElement) :
    2 * blocks.length ≤ BlockElement.totalLength blocks := by
  induction blocks with
  | nil => exact Nat.le_refl 0
  | cons e blocks ih =>
      have least := e.two_le_encodedLength
      rw [List.length_cons, BlockElement.totalLength]
      omega

theorem length_eq_of_count {α : Type} {as bs : List α} (few : as.length < 256)
    (few' : bs.length < 256) (counts : UInt8.ofNat as.length = UInt8.ofNat bs.length) :
    as.length = bs.length := by
  have same := congrArg UInt8.toNat counts
  rwa [UInt8.toNat_ofNat_of_lt' few, UInt8.toNat_ofNat_of_lt' few'] at same

/-- Both lists are told, and where they end. -/
theorem lists_append_inj (few : services.length < 256) (few' : services'.length < 256)
    (short : blocks.length < 256) (short' : blocks'.length < 256)
    (known : ∀ e ∈ blocks, e.service.toNat < 16) (known' : ∀ e ∈ blocks', e.service.toNat < 16)
    (equal : lists services blocks ++ x = lists services' blocks' ++ y) :
    services = services' ∧ blocks = blocks' ∧ x = y := by
  unfold lists at equal
  simp only [List.cons_append, List.append_assoc] at equal
  obtain ⟨serviceCounts, words⟩ := List.cons.inj equal
  obtain ⟨sameServices, second⟩ := delimited_le16.flatMap (fun _ _ => trivial)
    (fun _ _ => trivial) (length_eq_of_count few few' serviceCounts) words
  obtain ⟨blockCounts, elements⟩ := List.cons.inj second
  obtain ⟨sameBlocks, after⟩ := BlockElement.delimited_encode.flatMap known known'
    (length_eq_of_count short short' blockCounts) elements
  exact ⟨sameServices, sameBlocks, after⟩

end Lists

/-- A request as its sender means it. -/
inductive Request where
  | check (idm : Idm) (services : List UInt16) (blocks : List BlockElement)
  | update (idm : Idm) (services : List UInt16) (blocks : List BlockElement)
      (data : List BlockData)
deriving DecidableEq

namespace Request

def frame : Request → Except Error Bytes
  | check idm services blocks => Felica.check idm services blocks
  | update idm services blocks data => Felica.update idm services blocks data

def code : Request → UInt8
  | check .. => 0x06
  | update .. => 0x08

def idm : Request → Idm
  | check idm _ _ => idm
  | update idm _ _ _ => idm

def services : Request → List UInt16
  | check _ services _ => services
  | update _ services _ _ => services

def blocks : Request → List BlockElement
  | check _ _ blocks => blocks
  | update _ _ blocks _ => blocks

def data : Request → List BlockData
  | check .. => []
  | update _ _ _ data => data

/-- Data blocks that go with the request. -/
def wanted : Request → Nat
  | check .. => 0
  | update _ _ blocks _ => blocks.length

/-- Length of the whole frame, if it may be sent: length byte, code, card, both counts, and what
they count. -/
def size (r : Request) : Nat :=
  12 + 2 * r.services.length + BlockElement.totalLength r.blocks + 16 * r.data.length

structure Allowed (r : Request) : Prop where
  listed : Listed r.services r.blocks
  supplied : r.data.length = r.wanted
  fits : r.size ≤ 255

/-- The frame of a request, part by part. -/
structure LaidOut (r : Request) (frame : Bytes) : Prop where
  parts : ∃ length services blocks : UInt8,
    frame = length :: r.code :: r.idm.toList ++
        services :: r.services.flatMap le16 ++
        blocks :: r.blocks.flatMap BlockElement.encode ++
        r.data.flatMap (·.toList) ∧
      length.toNat = frame.length ∧
      services.toNat = r.services.length ∧
      blocks.toNat = r.blocks.length
  size : frame.length = r.size

/-- What follows the length byte. -/
def payload (r : Request) : Bytes :=
  r.code :: r.idm.toList ++ lists r.services r.blocks ++ r.data.flatMap (·.toList)

variable {r s : Request} {bytes : Bytes}

theorem length_data (data : List BlockData) :
    (data.flatMap (·.toList)).length = 16 * data.length :=
  length_flatMap_of_fixed Octets.length_toList data

theorem length_payload (r : Request) : r.payload.length + 1 = r.size := by
  rw [payload, size, List.length_append, List.length_append, List.length_cons,
    r.idm.length_toList, length_lists, length_data]
  omega

theorem frame_eq_ok_iff_withLength : r.frame = .ok bytes ↔
    Listed r.services r.blocks ∧ r.data.length = r.wanted ∧ withLength r.payload = .ok bytes := by
  cases r with
  | check idm services blocks =>
      have whole : (check idm services blocks).payload =
          0x06 :: idm.toList ++ lists services blocks := List.append_nil _
      rw [whole]
      refine check_eq_ok_iff.trans ?_
      exact and_congr_right fun _ => (and_iff_right rfl).symm
  | update idm services blocks data => exact update_eq_ok_iff

theorem frame_eq_ok_iff :
    r.frame = .ok bytes ↔ r.Allowed ∧ bytes = UInt8.ofNat r.size :: r.payload := by
  rw [frame_eq_ok_iff_withLength, withLength_eq_ok_iff, length_payload]
  constructor
  · rintro ⟨listed, supplied, fits, whole⟩
    exact ⟨⟨listed, supplied, fits⟩, whole⟩
  · rintro ⟨⟨listed, supplied, fits⟩, whole⟩
    exact ⟨listed, supplied, fits, whole⟩

theorem exists_frame_iff : (∃ bytes, r.frame = .ok bytes) ↔ r.Allowed := by
  constructor
  · rintro ⟨bytes, built⟩
    exact (frame_eq_ok_iff.mp built).1
  · intro allowed
    exact ⟨_, frame_eq_ok_iff.mpr ⟨allowed, rfl⟩⟩

/-- The frame would be too long before a count is. -/
theorem Allowed.counts (allowed : r.Allowed) :
    r.services.length < 256 ∧ r.blocks.length < 256 := by
  have fits := allowed.fits
  have least := two_mul_length_le r.blocks
  unfold size at fits
  omega

theorem Allowed.known (allowed : r.Allowed) : ∀ e ∈ r.blocks, e.service.toNat < 16 := by
  intro e member
  exact Nat.lt_of_lt_of_le (allowed.listed.known e member) allowed.listed.few

theorem laidOut_of_frame (built : r.frame = .ok bytes) : r.LaidOut bytes := by
  obtain ⟨allowed, rfl⟩ := frame_eq_ok_iff.mp built
  obtain ⟨few, short⟩ := allowed.counts
  have counted : (UInt8.ofNat r.size :: r.payload).length = r.size := r.length_payload
  constructor
  case size => exact counted
  case parts =>
    refine ⟨UInt8.ofNat r.size, UInt8.ofNat r.services.length, UInt8.ofNat r.blocks.length,
      ?_, ?_, ?_, ?_⟩
    · simp [payload, lists]
    · rw [counted]
      exact UInt8.toNat_ofNat_of_lt' (Nat.lt_succ_of_le allowed.fits)
    · exact UInt8.toNat_ofNat_of_lt' few
    · exact UInt8.toNat_ofNat_of_lt' short

theorem eq_of_parts (codes : r.code = s.code) (idms : r.idm = s.idm)
    (services : r.services = s.services) (blocks : r.blocks = s.blocks)
    (data : r.data = s.data) : r = s := by
  cases r with
  | check => cases s with
    | check =>
        cases idms
        cases services
        cases blocks
        rfl
    | update => cases codes
  | update => cases s with
    | check => cases codes
    | update =>
        cases idms
        cases services
        cases blocks
        cases data
        rfl

theorem eq_of_frame (built : r.frame = .ok bytes) (built' : s.frame = .ok bytes) : r = s := by
  obtain ⟨allowed, whole⟩ := frame_eq_ok_iff.mp built
  obtain ⟨allowed', whole'⟩ := frame_eq_ok_iff.mp built'
  obtain ⟨few, short⟩ := allowed.counts
  obtain ⟨few', short'⟩ := allowed'.counts
  have payloads := (List.cons.inj (whole.symm.trans whole')).2
  unfold payload at payloads
  simp only [List.cons_append, List.append_assoc] at payloads
  obtain ⟨codes, cards⟩ := List.cons.inj payloads
  obtain ⟨idms, both⟩ := delimited_octets 8 trivial trivial cards
  obtain ⟨services, blocks, rest⟩ :=
    lists_append_inj few few' short short' allowed.known allowed'.known both
  have counts : r.data.length = s.data.length := by
    have lengths := congrArg List.length rest
    rw [length_data, length_data] at lengths
    omega
  obtain ⟨data, -⟩ := Delimited.flatMap (delimited_octets 16) (fun _ _ => trivial)
    (fun _ _ => trivial) counts (congrArg (· ++ []) rest)
  exact eq_of_parts codes idms services blocks data

/-- A request has a frame when it keeps to its bounds, and the frame tells the request. -/
structure Decodable (r : Request) : Prop where
  taken : (∃ bytes, r.frame = .ok bytes) ↔ r.Allowed
  laidOut : ∀ bytes, r.frame = .ok bytes → r.LaidOut bytes
  told : ∀ bytes, r.frame = .ok bytes → ∀ s : Request, s.frame = .ok bytes → s = r

end Request

theorem requests_decodable (r : Request) : r.Decodable where
  taken := Request.exists_frame_iff
  laidOut _ := Request.laidOut_of_frame
  told _ built _ built' := Request.eq_of_frame built' built

/-- Elements of both forms in a row, of the last service that can be listed. -/
example : (Request.check ⟨[1, 2, 3, 4, 5, 6, 7, 8], rfl⟩ (List.replicate 16 0x000b)
      [⟨15, .cashBack, 0x0001⟩, ⟨0, .normal, 0x0100⟩]).frame.toOption.map (·.drop 43) =
    some [0x02, 0x9f, 0x01, 0x00, 0x00, 0x01] := by decide

end Contactless.Felica
