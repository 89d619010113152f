import Contactless.Felica.Card
import Contactless.Proofs.Exchange
import Contactless.Proofs.Felica.Request
import Contactless.Proofs.Field

/-!
Blocks read from a FeliCa card. Length, head, status and count of an answer are checked one after
the other; what passes them all has one layout, from which the blocks follow.
-/
namespace Contactless.Felica

/-- The answer that carries data blocks: its length, the code of an answer to a read, the card, a
status without a fault, and the blocks after their count. -/
inductive Carries (idm : Idm) (data : List BlockData) : Bytes → Prop
  | blocks {length count : UInt8} : length.toNat = 13 + 16 * data.length →
      count.toNat = data.length →
      Carries idm data (length :: 0x07 :: (idm.toList ++
        0x00 :: 0x00 :: count :: data.flatMap (·.toList)))

section Answers

variable {idm : Idm} {code : UInt8} {data : List BlockData} {bytes payload frame : Bytes} {n : Nat}

theorem body_eq_ok_iff : body frame = .ok payload ↔
    ∃ length : UInt8, frame = length :: payload ∧ length.toNat = payload.length + 1 := by
  cases frame with
  | nil => exact ⟨nofun, nofun⟩
  | cons first rest =>
      unfold body
      dsimp only
      by_cases counted : first.toNat = (first :: rest).length
      · rw [if_pos counted]
        constructor
        · intro read
          cases read
          exact ⟨first, rfl, counted⟩
        · rintro ⟨_, ⟨⟩, -⟩
          rfl
      · rw [if_neg counted]
        constructor
        · exact nofun
        · rintro ⟨_, ⟨⟩, right⟩
          exact absurd right counted

/-- What follows the card in an answer stands nine places later. -/
theorem getElem?_answer (code : UInt8) (idm : Idm) (rest : Bytes) (k : Nat) :
    (code :: (idm.toList ++ rest))[k + 9]? = rest[k]? := by
  rw [List.getElem?_cons_succ, List.getElem?_append_right (by rw [idm.length_toList]; omega),
    idm.length_toList, Nat.add_sub_cancel]

theorem drop_answer (code : UInt8) (idm : Idm) (rest : Bytes) (k : Nat) :
    (code :: (idm.toList ++ rest)).drop (k + 9) = rest.drop k := by
  rw [List.drop_succ_cons, List.drop_append, idm.length_toList, Nat.add_sub_cancel,
    List.drop_eq_nil_of_le (by rw [idm.length_toList]; omega), List.nil_append]

theorem length_answer (code : UInt8) (idm : Idm) (rest : Bytes) :
    (code :: (idm.toList ++ rest)).length = rest.length + 9 := by
  rw [List.length_cons, List.length_append, idm.length_toList]
  omega

theorem decodeStatus_answer (code : UInt8) (idm : Idm) (rest : Bytes) :
    decodeStatus (code :: (idm.toList ++ 0x00 :: 0x00 :: rest)) code idm = .ok () := by
  have long : 11 ≤ (code :: (idm.toList ++ 0x00 :: 0x00 :: rest)).length := by
    rw [length_answer]
    exact Nat.le_add_left 11 rest.length
  have told : octetsAt 8 (code :: (idm.toList ++ 0x00 :: 0x00 :: rest)) 1 = .ok idm :=
    octetsAt_append (List.length_singleton : [code].length = 1) idm _
  have status (k : Nat) := getElem?_answer code idm (0x00 :: 0x00 :: rest) k
  unfold decodeStatus
  rw [requireLength_eq_ok_iff.mpr long, expectByte_eq_ok_iff.mpr rfl, told,
    byteAt_eq_ok_iff.mpr (status 0), byteAt_eq_ok_iff.mpr (status 1)]
  simp only [ok_bind]
  rw [if_neg (not_not_intro rfl)]
  rfl

/-- Two zeros after the card let an answer pass. -/
theorem decodeStatus_eq_ok_iff : decodeStatus bytes code idm = .ok () ↔
    ∃ rest, bytes = code :: (idm.toList ++ 0x00 :: 0x00 :: rest) := by
  constructor
  · intro passed
    unfold decodeStatus at passed
    obtain ⟨⟨⟩, -, long⟩ := bind_eq_ok_iff.mp passed
    obtain ⟨⟨⟩, first, matched⟩ := bind_eq_ok_iff.mp long
    obtain ⟨card, told, known⟩ := bind_eq_ok_iff.mp matched
    dsimp only at known
    split at known
    · cases known
    · rename_i same
      obtain rfl := Decidable.not_not.mp same
      obtain ⟨status1, found1, later⟩ := bind_eq_ok_iff.mp known
      obtain ⟨status2, found2, faultless⟩ := bind_eq_ok_iff.mp later
      split at faultless
      · cases faultless
      · rename_i zeros
        obtain ⟨zero1, zero2⟩ := not_or.mp zeros
        obtain rfl := Decidable.not_not.mp zero1
        obtain rfl := Decidable.not_not.mp zero2
        obtain ⟨front, rest, rfl, placed⟩ := octetsAt_eq_ok_iff.mp told
        obtain ⟨c, rfl⟩ := List.length_eq_one_iff.mp placed
        obtain rfl := Option.some_inj.mp (expectByte_eq_ok_iff.mp first)
        have second := (getElem?_answer c card rest 0).symm.trans (byteAt_eq_ok_iff.mp found1)
        have third := (getElem?_answer c card rest 1).symm.trans (byteAt_eq_ok_iff.mp found2)
        cases rest with
        | nil => cases second
        | cons a rest => cases rest with
          | nil => cases third
          | cons b tail =>
              cases second
              cases third
              exact ⟨tail, rfl⟩
  · rintro ⟨rest, rfl⟩
    exact decodeStatus_answer code idm rest

/-- Blocks are read from the front, one after the other. -/
theorem readBlocks_eq_ok_iff : readBlocks n bytes = .ok data ↔
    data.length = n ∧ data.flatMap (·.toList) <+: bytes := by
  induction n generalizing bytes data with
  | zero =>
      change Except.ok [] = Except.ok data ↔ _
      rw [Except.ok.injEq, List.length_eq_zero_iff]
      constructor
      · rintro rfl
        exact ⟨rfl, List.nil_prefix⟩
      · rintro ⟨rfl, -⟩
        rfl
  | succ n ih =>
      change (octetsAt 16 bytes 0 >>= fun first => readBlocks n (bytes.drop 16) >>= fun rest =>
        pure (first :: rest)) = .ok data ↔ _
      constructor
      · intro read
        obtain ⟨first, begins, read⟩ := bind_eq_ok_iff.mp read
        obtain ⟨rest, follows, whole⟩ := bind_eq_ok_iff.mp read
        cases whole
        obtain ⟨front, later, rfl, none⟩ := octetsAt_eq_ok_iff.mp begins
        obtain rfl := List.length_eq_zero_iff.mp none
        rw [List.nil_append, List.drop_left' first.length_toList] at follows
        obtain ⟨count, same⟩ := ih.mp follows
        refine ⟨congrArg Nat.succ count, ?_⟩
        rw [List.flatMap_cons, List.nil_append]
        exact (List.prefix_append_right_inj _).mpr same
      · rintro ⟨count, later, rfl⟩
        cases data with
        | nil => cases count
        | cons first data =>
            rw [List.flatMap_cons, List.append_assoc]
            refine bind_eq_ok_iff.mpr ⟨first, octetsAt_append List.length_nil first _, ?_⟩
            rw [List.drop_left' first.length_toList]
            have follows := ih.mpr ⟨Nat.succ.inj count, List.prefix_append _ later⟩
            exact bind_eq_ok_iff.mpr ⟨data, follows, rfl⟩

/-- Blocks that are all there is are read without a rest. -/
theorem readBlocks_eq_ok_iff_of_length (whole : bytes.length = 16 * n) :
    readBlocks n bytes = .ok data ↔ data.length = n ∧ bytes = data.flatMap (·.toList) := by
  rw [readBlocks_eq_ok_iff]
  refine and_congr_right fun count => ?_
  constructor
  · intro front
    refine (front.eq_of_length ?_).symm
    rw [Request.length_data, count, whole]
  · rintro rfl
    exact List.prefix_refl _

theorem carries_of_decodeCheck (read : decodeCheck frame idm = .ok data) :
    Carries idm data frame := by
  unfold decodeCheck at read
  obtain ⟨payload, opened, answered⟩ := bind_eq_ok_iff.mp read
  obtain ⟨⟨⟩, passed, counted⟩ := bind_eq_ok_iff.mp answered
  obtain ⟨count, found, measured⟩ := bind_eq_ok_iff.mp counted
  obtain ⟨⟨⟩, sized, cut⟩ := bind_eq_ok_iff.mp measured
  obtain ⟨length, rfl, total⟩ := body_eq_ok_iff.mp opened
  obtain ⟨rest, rfl⟩ := decodeStatus_eq_ok_iff.mp passed
  have third := (getElem?_answer 0x07 idm (0x00 :: 0x00 :: rest) 2).symm.trans
    (byteAt_eq_ok_iff.mp found)
  cases rest with
  | nil => cases third
  | cons c blocks =>
      cases third
      rw [requireExactLength_eq_ok_iff, length_answer] at sized
      rw [length_answer] at total
      rw [drop_answer] at cut
      change blocks.length + 3 + 9 = 12 + count.toNat * 16 at sized
      change length.toNat = blocks.length + 3 + 9 + 1 at total
      change readBlocks count.toNat blocks = .ok data at cut
      obtain ⟨counts, rfl⟩ := (readBlocks_eq_ok_iff_of_length (by omega)).mp cut
      rw [Request.length_data] at total
      exact .blocks (by omega) counts.symm

theorem decodeCheck_of_carries (carries : Carries idm data frame) :
    decodeCheck frame idm = .ok data := by
  obtain @⟨length, count, total, counts⟩ := carries
  have size : (data.flatMap (·.toList)).length = 16 * count.toNat := by
    rw [Request.length_data, counts]
  have whole : (0x07 :: (idm.toList ++
      0x00 :: 0x00 :: count :: data.flatMap (·.toList))).length = 12 + count.toNat * 16 := by
    rw [length_answer]
    change (data.flatMap (·.toList)).length + 3 + 9 = _
    omega
  have opened : body (length :: 0x07 :: (idm.toList ++
      0x00 :: 0x00 :: count :: data.flatMap (·.toList))) = .ok _ :=
    body_eq_ok_iff.mpr ⟨length, rfl, by omega⟩
  have third := getElem?_answer 0x07 idm (0x00 :: 0x00 :: count :: data.flatMap (·.toList)) 2
  unfold decodeCheck
  rw [opened]
  simp only [ok_bind]
  rw [decodeStatus_answer, byteAt_eq_ok_iff.mpr third]
  simp only [ok_bind]
  rw [requireExactLength_eq_ok_iff.mpr whole, drop_answer]
  exact (readBlocks_eq_ok_iff_of_length size).mpr ⟨counts.symm, rfl⟩

theorem decodeCheck_eq_ok_iff : decodeCheck frame idm = .ok data ↔ Carries idm data frame := by
  constructor
  · exact carries_of_decodeCheck
  · exact decodeCheck_of_carries

end Answers

/-- A read of some blocks of a card: what it says, and what of the answer it takes. -/
structure Reads (idm : Idm) (services : List UInt16) (blocks : List BlockElement) (wait : Timeout)
    (t : List Chip.Event) (r : Except Error (List BlockData)) : Prop where
  /-- Without a request nothing is sent. -/
  unsent : ∀ e, check idm services blocks = .error e → t = [] ∧ r = .error e
  sent : ∀ request, check idm services blocks = .ok request →
    ∃ answer, t = [⟨.bytes request wait, answer⟩] ∧
      (∀ e, answer = .error e → r = .error e) ∧
      ∀ data, r = .ok data ↔ ∃ frame, answer = .ok frame ∧ Carries idm data frame ∧
        data.length = blocks.length

section Reading

variable {idm : Idm} {services : List UInt16} {blocks : List BlockElement}
  {data : List BlockData} {frame : Bytes}

theorem checkCount_eq_ok_iff {found : List BlockData} :
    Card.checkCount blocks found = .ok data ↔ found = data ∧ data.length = blocks.length := by
  unfold Card.checkCount
  by_cases whole : found.length = blocks.length
  · rw [if_pos whole, Except.ok.injEq]
    constructor
    · rintro rfl
      exact ⟨rfl, whole⟩
    · exact And.left
  · rw [if_neg whole]
    constructor
    · exact nofun
    · rintro ⟨rfl, same⟩
      exact absurd same whole

theorem exchanged_eq_ok_iff {answer : Except Error Bytes} :
    (answer >>= fun frame => decodeCheck frame idm >>= Card.checkCount blocks) = .ok data ↔
      ∃ frame, answer = .ok frame ∧ Carries idm data frame ∧ data.length = blocks.length := by
  rw [bind_eq_ok_iff]
  refine exists_congr fun frame => and_congr_right fun _ => ?_
  rw [bind_eq_ok_iff]
  simp only [decodeCheck_eq_ok_iff, checkCount_eq_ok_iff]
  constructor
  · rintro ⟨_, carries, rfl, whole⟩
    exact ⟨carries, whole⟩
  · rintro ⟨carries, whole⟩
    exact ⟨data, carries, rfl, whole⟩

/-- A request is neither empty nor too long for the chip. -/
theorem size_of_check (built : check idm services blocks = .ok frame) :
    frame ≠ [] ∧ frame.length ≤ Chip.frameLimit := by
  obtain ⟨-, counted⟩ := check_eq_ok_iff.mp built
  obtain ⟨size, short⟩ := length_withLength counted
  refine ⟨List.ne_nil_of_length_pos ?_, Nat.le_trans short (by decide)⟩
  rw [size]
  exact Nat.succ_pos _

theorem Card.assures_read (config : Config) (idm : Idm) (pmm : Pmm) (code : UInt16)
    (baud : BaudRate) (services : List UInt16) (blocks : List BlockElement) :
    (Card.read services blocks).Assures ⟨config, some (.felica idm pmm code baud)⟩
      fun t r d => Reads idm services blocks config.commandTimeout t r ∧
        d = ⟨config, some (.felica idm pmm code baud)⟩ := by
  have body : (Act.ofExcept (check idm services blocks) >>= fun request =>
      Device.exchange request >>= fun answer =>
        Act.ofExcept (decodeCheck answer idm >>= checkCount blocks)).Assures
      ⟨config, some (.felica idm pmm code baud)⟩ fun t r d =>
        Reads idm services blocks config.commandTimeout t r ∧
          d = ⟨config, some (.felica idm pmm code baud)⟩ := by
    refine Act.assures_ofExcept_bind ?_ ?_
    · intro request built
      obtain ⟨some, short⟩ := size_of_check built
      refine ((Device.assures_exchangeFrame some short).read _).mono ?_
      rintro _ _ _ ⟨answer, rfl, rfl, rfl⟩
      refine ⟨⟨?_, ?_⟩, rfl⟩
      · intro e refused
        cases built.symm.trans refused
      · intro request' built'
        cases built.symm.trans built'
        refine ⟨answer, rfl, ?_, fun data => exchanged_eq_ok_iff⟩
        rintro e rfl
        rfl
    · intro e refused
      refine ⟨⟨?_, ?_⟩, rfl⟩
      · intro e' refused'
        cases refused.symm.trans refused'
        exact ⟨rfl, rfl⟩
      · intro request built
        cases refused.symm.trans built
  intro n
  simp only [← Act.ofExcept_bind] at body
  exact body n

end Reading

/-- An answer is read exactly when it carries the data, and a card is asked once at most, for the
blocks that are wanted. -/
theorem blocks_read :
    (∀ frame idm data, decodeCheck frame idm = .ok data ↔ Carries idm data frame) ∧
      ∀ config idm pmm code baud services blocks,
        (Card.read services blocks).Assures ⟨config, some (.felica idm pmm code baud)⟩
          fun t r d => Reads idm services blocks config.commandTimeout t r ∧
            d = ⟨config, some (.felica idm pmm code baud)⟩ :=
  ⟨fun _ _ _ => decodeCheck_eq_ok_iff, Card.assures_read⟩

end Contactless.Felica
