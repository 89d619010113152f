import Contactless.Text.Hex
import Contactless.Text.HexReading

/-! Which texts are read as bytes, and as which. Reading works on the bytes of a text, yet it is
settled by its characters: a character of several bytes is never part of a pair. A text is read
exactly when its characters other than blanks are pairs of digits, but that a plus sign may stand
in the place of a leading zero. -/
namespace Contactless.Text.Hex

/-- The ASCII blanks: space, tab, line feed, form feed and carriage return. -/
def blank (c : Char) : Bool := c = ' ' || c = '\t' || c = '\n' || c = '\x0c' || c = '\r'

/-- The characters of a text that are no blanks, in order. -/
def kept (text : String) : List Char := text.toList.filter fun c => !blank c

/-- One of `0` to `9`, `a` to `f` and `A` to `F`. -/
def IsDigit (c : Char) : Prop :=
  '0' ≤ c ∧ c ≤ '9' ∨ 'a' ≤ c ∧ c ≤ 'f' ∨ 'A' ≤ c ∧ c ≤ 'F'

instance : DecidablePred IsDigit := fun c =>
  inferInstanceAs (Decidable ('0' ≤ c ∧ c ≤ '9' ∨ 'a' ≤ c ∧ c ≤ 'f' ∨ 'A' ≤ c ∧ c ≤ 'F'))

/-- A character is the digit of a value below 16, in either case. -/
structure Writes (c : Char) (v : UInt8) : Prop where
  small : v < 16
  lower : c.toLower = digit v

/-- What a byte is read from: its two digits, the high one first, or the low one behind a plus
sign. -/
inductive WritesByte : Char → Char → UInt8 → Prop
  | digits {c d : Char} {h l : UInt8} : Writes c h → Writes d l → WritesByte c d (h * 16 + l)
  | plus {d : Char} {l : UInt8} : Writes d l → WritesByte '+' d l

/-- Characters that are bytes two by two. -/
inductive Spells : List Char → Bytes → Prop
  | nil : Spells [] []
  | cons {c d : Char} {b : UInt8} {cs : List Char} {bs : Bytes} : WritesByte c d b → Spells cs bs →
      Spells (c :: d :: cs) (b :: bs)

section Utf8

theorem toList_loop (bytes : ByteArray) (i : Nat) (front : Bytes) :
    ByteArray.toList.loop bytes i front = front.reverse ++ bytes.data.toList.drop i := by
  fun_induction ByteArray.toList.loop bytes i front with
  | case1 i front inside ih =>
      have short : i < bytes.data.toList.length := by simpa using inside
      have byte : bytes.get! i = bytes.data.toList[i] := by
        simp only [ByteArray.get!, Array.getElem_toList]
        exact getElem!_pos bytes.data i (by simpa using short)
      rw [ih, List.drop_eq_getElem_cons short, byte]
      simp only [List.reverse_cons, List.append_assoc, List.cons_append, List.nil_append]
  | case2 i front outside =>
      have long : bytes.data.toList.length ≤ i := by simpa using outside
      rw [List.drop_eq_nil_of_le long, List.append_nil]

theorem toList_toUTF8 (text : String) :
    text.toUTF8.toList = text.toList.flatMap String.utf8EncodeChar := by
  have bytes : text.toByteArray = (text.toList.flatMap String.utf8EncodeChar).toByteArray := by
    conv => lhs; rw [← String.ofList_toList (s := text)]
    exact String.toByteArray_ofList
  change text.toByteArray.toList = _
  rw [ByteArray.toList, toList_loop, bytes, List.toList_data_toByteArray]
  rfl

theorem utf8EncodeChar_ascii {c : Char} (ascii : c.toNat < 128) :
    String.utf8EncodeChar c = [c.toUInt8] := by
  have small : c.val.toNat ≤ 127 := Nat.le_of_lt_succ ascii
  simp only [String.utf8EncodeChar, if_pos small]
  rfl

/-- Every byte of any other character has its highest bit set. -/
theorem utf8EncodeChar_wide {c : Char} (wide : ¬ c.toNat < 128) {b : UInt8}
    (member : b ∈ String.utf8EncodeChar c) : 128 ≤ b := by
  have large : ¬ c.val.toNat ≤ 127 := fun small => wide (Nat.lt_succ_of_le small)
  simp only [String.utf8EncodeChar, if_neg large] at member
  rw [UInt8.le_iff_toNat_le]
  split at member
  case isTrue =>
    simp only [List.mem_cons, List.not_mem_nil, or_false] at member
    rcases member with rfl | rfl <;> simp <;> omega
  case isFalse =>
    split at member
    · simp only [List.mem_cons, List.not_mem_nil, or_false] at member
      rcases member with rfl | rfl | rfl <;> simp <;> omega
    · simp only [List.mem_cons, List.not_mem_nil, or_false] at member
      rcases member with rfl | rfl | rfl | rfl <;> simp <;> omega

end Utf8

section Digits

variable {c : Char} {v : UInt8}

/-- What is true of each of the ASCII characters, few enough to look at, is true of all. -/
@[elab_as_elim]
theorem ascii_forall {P : Char → Prop} (ascii : c.toNat < 128)
    (each : ∀ n < 128, P (Char.ofNat n)) : P c := by
  have held := each c.toNat ascii
  rwa [Char.ofNat_toNat] at held

@[elab_as_elim]
theorem nibble_forall {P : UInt8 → Prop} (small : v < 16) (each : ∀ k < 16, P (UInt8.ofNat k)) :
    P v := by
  have held := each v.toNat small
  rwa [UInt8.ofNat_toNat] at held

theorem digitValue_iff (ascii : c.toNat < 128) : digitValue c.toUInt8 = some v ↔ Writes c v := by
  have sound : ((digitValue c.toUInt8).all fun v =>
      decide (v < 16 ∧ c.toLower = digit v)) = true :=
    ascii_forall ascii (by decide +kernel)
  have complete : ∀ k < 16, c.toLower = digit (UInt8.ofNat k) →
      digitValue c.toUInt8 = some (UInt8.ofNat k) :=
    ascii_forall ascii (by decide +kernel)
  constructor
  · intro read
    rw [read] at sound
    obtain ⟨small, lower⟩ := of_decide_eq_true sound
    exact ⟨small, lower⟩
  · rintro ⟨small, lower⟩
    exact nibble_forall small complete lower

theorem toNat_digit_lt (small : v < 16) : (digit v).toNat < 128 :=
  nibble_forall small (by decide)

theorem toNat_lt_of_toLower (ascii : c.toLower.toNat < 128) : c.toNat < 128 := by
  unfold Char.toLower at ascii
  split at ascii
  case isTrue upper =>
    have most : c.toNat ≤ 90 := UInt32.le_iff_toNat_le.mp upper.2
    omega
  case isFalse => exact ascii

theorem Writes.ascii (writes : Writes c v) : c.toNat < 128 := by
  apply toNat_lt_of_toLower
  rw [writes.lower]
  exact toNat_digit_lt writes.small

theorem IsDigit.ascii (digit : IsDigit c) : c.toNat < 128 := by
  have bound {most : Char} (below : c ≤ most) : c.toNat ≤ most.toNat :=
    UInt32.le_iff_toNat_le.mp below
  rcases digit with ⟨-, below⟩ | ⟨-, below⟩ | ⟨-, below⟩
  all_goals exact Nat.lt_of_le_of_lt (bound below) (by decide)

theorem isDigit_iff : IsDigit c ↔ ∃ v, Writes c v := by
  have same (ascii : c.toNat < 128) : IsDigit c ↔ ∃ v, Writes c v := by
    have read : IsDigit c ↔ (digitValue c.toUInt8).isSome = true :=
      ascii_forall ascii (by decide +kernel)
    simp only [read, Option.isSome_iff_exists, digitValue_iff ascii]
  constructor
  · intro digit
    exact (same digit.ascii).mp digit
  · rintro ⟨v, writes⟩
    exact (same writes.ascii).mpr ⟨v, writes⟩

theorem isBlank_toUInt8 (ascii : c.toNat < 128) : isBlank c.toUInt8 = blank c :=
  ascii_forall ascii (by decide +kernel)

theorem not_isBlank_of_le {b : UInt8} (high : 128 ≤ b) : isBlank b = false := by
  simp only [isBlank, Bool.or_eq_false_iff, beq_eq_false_iff_ne]
  refine ⟨⟨⟨⟨?_, ?_⟩, ?_⟩, ?_⟩, ?_⟩
  all_goals
    rintro rfl
    exact absurd high (by decide)

end Digits

section Pairs

variable {x y v : UInt8} {bytes bs : Bytes}

/-- Bytes that are numbers two by two. -/
inductive Paired : Bytes → Bytes → Prop
  | nil : Paired [] []
  | cons {x y v : UInt8} {bytes bs : Bytes} : pairValue x y = some v → Paired bytes bs →
      Paired (x :: y :: bytes) (v :: bs)

theorem lt_of_digitValue (read : digitValue x = some v) : x < 0x80 := by
  unfold digitValue at read
  have below {least most : UInt8} (inside : (decide (least ≤ x) && decide (x ≤ most)) = true)
      (ascii : most < 0x80) : x < 0x80 := by
    simp only [Bool.and_eq_true, decide_eq_true_eq] at inside
    exact UInt8.lt_of_le_of_lt inside.2 ascii
  split at read
  case isTrue inside => exact below inside (by decide)
  case isFalse =>
    split at read
    case isTrue inside => exact below inside (by decide)
    case isFalse =>
      split at read
      case isTrue inside => exact below inside (by decide)
      case isFalse => cases read

theorem lt_of_pairValue (read : pairValue x y = some v) : x < 0x80 ∧ y < 0x80 := by
  unfold pairValue at read
  split at read
  case h_1 high low => exact ⟨lt_of_digitValue high, lt_of_digitValue low⟩
  case h_2 low =>
    split at read
    case isTrue plus =>
      rw [beq_iff_eq.mp plus]
      exact ⟨by decide, lt_of_digitValue low⟩
    case isFalse => cases read
  case h_3 => cases read

/-- Two bytes that make a number are characters by themselves. -/
theorem readPair_eq_ok_iff : readPair x y = .ok v ↔ pairValue x y = some v := by
  constructor
  · intro read
    unfold readPair at read
    cases text : pairText x y with
    | error fault =>
        rw [text] at read
        cases read
    | ok t =>
        rw [text] at read
        cases value : pairValue x y with
        | none =>
            rw [value] at read
            cases read
        | some w =>
            rw [value] at read
            cases read
            rfl
  · intro value
    obtain ⟨first, second⟩ := lt_of_pairValue value
    have text : ∃ t, pairText x y = .ok t := by
      unfold pairText
      rw [if_pos first, if_pos second]
      exact ⟨_, rfl⟩
    obtain ⟨t, text⟩ := text
    unfold readPair
    rw [text, value]

theorem Paired.even (paired : Paired bytes bs) : bytes.length % 2 = 0 := by
  induction paired with
  | nil => rfl
  | cons _ _ ih =>
      simp only [List.length_cons]
      omega

theorem Paired.lt (paired : Paired bytes bs) : ∀ b ∈ bytes, b < 0x80 := by
  induction paired with
  | nil => exact nofun
  | cons value _ ih =>
      obtain ⟨first, second⟩ := lt_of_pairValue value
      simpa only [List.forall_mem_cons] using ⟨first, second, ih⟩

theorem readPairs_eq_ok_iff (even : bytes.length % 2 = 0) :
    readPairs bytes = .ok bs ↔ Paired bytes bs := by
  have less {x y : UInt8} {rest : Bytes} (even : (x :: y :: rest).length % 2 = 0) :
      rest.length % 2 = 0 := by
    simp only [List.length_cons] at even
    omega
  fun_induction readPairs bytes generalizing bs with
  | case1 x y rest fault failed =>
      refine ⟨nofun, ?_⟩
      rintro (_ | ⟨value, -⟩)
      rw [readPair_eq_ok_iff.mpr value] at failed
      cases failed
  | case2 x y rest v first fault failed ih =>
      refine ⟨nofun, ?_⟩
      rintro (_ | ⟨-, others⟩)
      rw [(ih (less even)).mpr others] at failed
      cases failed
  | case3 x y rest v first vs others ih =>
      constructor
      · rintro ⟨⟩
        exact .cons (readPair_eq_ok_iff.mp first) ((ih (less even)).mp others)
      · rintro (_ | ⟨value, paired⟩)
        cases first.symm.trans (readPair_eq_ok_iff.mpr value)
        cases others.symm.trans ((ih (less even)).mpr paired)
        rfl
  | case4 bytes short =>
      match bytes, short, even with
      | [], _, _ =>
          constructor
          · rintro ⟨⟩
            exact .nil
          · rintro ⟨⟩
            rfl
      | x :: y :: rest, short, _ => exact (short x y rest rfl).elim

theorem readBytes_eq_ok_iff :
    readBytes bytes = .ok bs ↔ Paired (bytes.filter fun b => !isBlank b) bs := by
  unfold readBytes
  dsimp only
  split
  case isTrue odd => exact ⟨nofun, fun paired => absurd paired.even odd⟩
  case isFalse even => exact readPairs_eq_ok_iff (Decidable.not_not.mp even)

end Pairs

section Characters

variable {cs : List Char} {bs : Bytes} {text : String}

/-- The bytes that are no blanks are ASCII only if every character is. -/
theorem ascii_of_filter
    (low : ∀ b ∈ (cs.flatMap String.utf8EncodeChar).filter (fun b => !isBlank b), b < 0x80) :
    ∀ c ∈ cs, c.toNat < 128 := by
  intro c member
  refine Decidable.byContradiction fun wide => ?_
  obtain ⟨b, part⟩ : ∃ b, b ∈ String.utf8EncodeChar c := by
    apply List.exists_mem_of_length_pos
    rw [String.length_utf8EncodeChar]
    exact c.utf8Size_pos
  have high := utf8EncodeChar_wide wide part
  have held : b ∈ (cs.flatMap String.utf8EncodeChar).filter fun b => !isBlank b := by
    simp only [List.mem_filter, List.mem_flatMap, not_isBlank_of_le high]
    exact ⟨⟨c, member, part⟩, rfl⟩
  exact absurd (UInt8.lt_of_le_of_lt high (low b held)) (UInt8.lt_irrefl _)

theorem filter_flatMap (ascii : ∀ c ∈ cs, c.toNat < 128) :
    (cs.flatMap String.utf8EncodeChar).filter (fun b => !isBlank b) =
      (cs.filter fun c => !blank c).map Char.toUInt8 := by
  induction cs with
  | nil => rfl
  | cons c cs ih =>
      obtain ⟨first, others⟩ := List.forall_mem_cons.mp ascii
      rw [List.flatMap_cons, utf8EncodeChar_ascii first, List.singleton_append, List.filter_cons,
        List.filter_cons, isBlank_toUInt8 first, ih others]
      cases blank c <;> rfl

theorem toUInt8_eq_plus_iff {c : Char} (ascii : c.toNat < 128) : c.toUInt8 = 43 ↔ c = '+' :=
  ascii_forall ascii (by decide +kernel)

theorem pairValue_iff {c d : Char} {v : UInt8} (first : c.toNat < 128) (second : d.toNat < 128) :
    pairValue c.toUInt8 d.toUInt8 = some v ↔ WritesByte c d v := by
  constructor
  · intro value
    unfold pairValue at value
    split at value
    case h_1 h l high low =>
      cases value
      exact .digits ((digitValue_iff first).mp high) ((digitValue_iff second).mp low)
    case h_2 l high low =>
      split at value
      case isTrue plus =>
        cases value
        obtain rfl := (toUInt8_eq_plus_iff first).mp (beq_iff_eq.mp plus)
        exact .plus ((digitValue_iff second).mp low)
      case isFalse => cases value
    case h_3 => cases value
  · intro writes
    unfold pairValue
    cases writes with
    | digits high low =>
        rw [(digitValue_iff first).mpr high, (digitValue_iff second).mpr low]
    | plus low =>
        rw [(digitValue_iff second).mpr low]
        rfl

theorem WritesByte.ascii {c d : Char} {b : UInt8} (writes : WritesByte c d b) :
    c.toNat < 128 ∧ d.toNat < 128 := by
  cases writes with
  | digits high low => exact ⟨high.ascii, low.ascii⟩
  | plus low => exact ⟨by decide, low.ascii⟩

theorem Spells.ascii (spells : Spells cs bs) : ∀ c ∈ cs, c.toNat < 128 := by
  induction spells with
  | nil => exact nofun
  | cons writes _ ih =>
      simpa only [List.forall_mem_cons] using ⟨writes.ascii.1, writes.ascii.2, ih⟩

theorem paired_iff (ascii : ∀ c ∈ cs, c.toNat < 128) :
    Paired (cs.map Char.toUInt8) bs ↔ Spells cs bs := by
  constructor
  · intro paired
    generalize same : cs.map Char.toUInt8 = bytes at paired
    induction paired generalizing cs with
    | nil =>
        rw [List.map_eq_nil_iff.mp same]
        exact .nil
    | cons value _ ih =>
        obtain ⟨c, tail, rfl, rfl, behind⟩ := List.map_eq_cons_iff.mp same
        obtain ⟨d, rest, rfl, rfl, last⟩ := List.map_eq_cons_iff.mp behind
        simp only [List.forall_mem_cons] at ascii
        exact .cons ((pairValue_iff ascii.1 ascii.2.1).mp value) (ih ascii.2.2 last)
  · intro spells
    induction spells with
    | nil => exact .nil
    | cons writes _ ih =>
        simp only [List.forall_mem_cons] at ascii
        exact .cons ((pairValue_iff ascii.1 ascii.2.1).mpr writes) (ih ascii.2.2)

theorem ascii_of_kept (ascii : ∀ c ∈ kept text, c.toNat < 128) :
    ∀ c ∈ text.toList, c.toNat < 128 := by
  intro c member
  cases vacant : blank c with
  | true =>
      simp only [blank, Bool.or_eq_true, decide_eq_true_eq] at vacant
      rcases vacant with (((rfl | rfl) | rfl) | rfl) | rfl <;> decide
  | false => exact ascii c (List.mem_filter.mpr ⟨member, by rw [vacant]; rfl⟩)

/-- A text is read as the bytes that its characters spell, blanks left out, and as no others. -/
theorem read_eq_ok_iff : read text = .ok bs ↔ Spells (kept text) bs := by
  have bytes : read text = .ok bs ↔
      Paired ((text.toList.flatMap String.utf8EncodeChar).filter fun b => !isBlank b) bs := by
    rw [← toList_toUTF8]
    exact readBytes_eq_ok_iff
  rw [bytes]
  constructor
  · intro paired
    have ascii := ascii_of_filter paired.lt
    rw [filter_flatMap ascii] at paired
    exact (paired_iff fun c member => ascii c (List.mem_filter.mp member).1).mp paired
  · intro spells
    rw [filter_flatMap (ascii_of_kept spells.ascii)]
    exact (paired_iff spells.ascii).mpr spells

end Characters

section Acceptance

variable {cs : List Char} {c d : Char}

/-- An even number of characters, all of them digits, but that a plus sign may stand at an even
place. -/
structure Accepted (cs : List Char) : Prop where
  even : cs.length % 2 = 0
  each : ∀ i c, cs[i]? = some c → IsDigit c ∨ c = '+' ∧ i % 2 = 0

theorem accepted_nil : Accepted [] := ⟨rfl, nofun⟩

theorem accepted_cons_iff : Accepted (c :: d :: cs) ↔
    (IsDigit c ∨ c = '+') ∧ IsDigit d ∧ Accepted cs := by
  constructor
  · rintro ⟨even, each⟩
    refine ⟨(each 0 c rfl).imp_right And.left, ?_, ?_, ?_⟩
    · exact (each 1 d rfl).resolve_right fun plus => nomatch plus.2
    · simp only [List.length_cons] at even
      omega
    · intro i x found
      simpa only [Nat.add_mod_right] using each (i + 2) x found
  · rintro ⟨first, second, even, each⟩
    refine ⟨?_, ?_⟩
    · simp only [List.length_cons]
      omega
    · intro i x found
      match i, found with
      | 0, rfl => exact first.imp_right fun plus => ⟨plus, rfl⟩
      | 1, rfl => exact .inl second
      | i + 2, found => simpa only [Nat.add_mod_right] using each i x found

theorem exists_writesByte_iff :
    (∃ b, WritesByte c d b) ↔ (IsDigit c ∨ c = '+') ∧ IsDigit d := by
  constructor
  · rintro ⟨b, writes⟩
    cases writes with
    | digits high low => exact ⟨.inl (isDigit_iff.mpr ⟨_, high⟩), isDigit_iff.mpr ⟨_, low⟩⟩
    | plus low => exact ⟨.inr rfl, isDigit_iff.mpr ⟨_, low⟩⟩
  · rintro ⟨first, second⟩
    obtain ⟨l, low⟩ := isDigit_iff.mp second
    rcases first with first | rfl
    · obtain ⟨h, high⟩ := isDigit_iff.mp first
      exact ⟨_, .digits high low⟩
    · exact ⟨_, .plus low⟩

theorem Spells.accepted {bs : Bytes} (spells : Spells cs bs) : Accepted cs := by
  induction spells with
  | nil => exact accepted_nil
  | cons writes _ ih =>
      obtain ⟨first, second⟩ := exists_writesByte_iff.mp ⟨_, writes⟩
      exact accepted_cons_iff.mpr ⟨first, second, ih⟩

theorem Accepted.spells : ∀ {cs : List Char}, Accepted cs → ∃ bs, Spells cs bs
  | [], _ => ⟨[], .nil⟩
  | [_], accepted => nomatch accepted.even
  | c :: d :: cs, accepted => by
      obtain ⟨first, second, rest⟩ := accepted_cons_iff.mp accepted
      obtain ⟨b, writes⟩ := exists_writesByte_iff.mpr ⟨first, second⟩
      obtain ⟨bs, others⟩ := rest.spells
      exact ⟨b :: bs, .cons writes others⟩

/-- A text is read exactly when its characters other than blanks are accepted; of those without a
plus sign, exactly the texts with an even number of digits and nothing else. -/
theorem accepts_digits (text : String) :
    ((∃ bs, read text = .ok bs) ↔ Accepted (kept text)) ∧
      ((∃ bs, read text = .ok bs) ∧ '+' ∉ kept text ↔
        (kept text).length % 2 = 0 ∧ ∀ c ∈ kept text, IsDigit c) := by
  have accepted : (∃ bs, read text = .ok bs) ↔ Accepted (kept text) := by
    simp only [read_eq_ok_iff]
    exact ⟨fun ⟨bs, spells⟩ => spells.accepted, Accepted.spells⟩
  refine ⟨accepted, ?_⟩
  rw [accepted]
  constructor
  · rintro ⟨⟨even, each⟩, unsigned⟩
    refine ⟨even, fun c member => ?_⟩
    obtain ⟨i, found⟩ := List.mem_iff_getElem?.mp member
    refine (each i c found).resolve_right ?_
    rintro ⟨rfl, -⟩
    exact unsigned member
  · rintro ⟨even, each⟩
    refine ⟨⟨even, fun i c found => .inl (each c (List.mem_of_getElem? found))⟩, fun plus => ?_⟩
    exact absurd (each '+' plus) (by decide)

/-- A plus sign is no digit, and yet it is read as a zero. -/
theorem plus_read_as_zero : read "+f" = .ok [0x0f] ∧
    ¬ ∀ text, (∃ bs, read text = .ok bs) →
      (kept text).length % 2 = 0 ∧ ∀ c ∈ kept text, IsDigit c := by
  have characters : kept "+f" = ['+', 'f'] := by decide
  have sign : read "+f" = .ok [0x0f] := by
    rw [read_eq_ok_iff, characters]
    exact .cons (.plus ⟨by decide, by decide⟩) .nil
  refine ⟨sign, fun claimed => ?_⟩
  have digits := (claimed "+f" ⟨_, sign⟩).2
  rw [characters] at digits
  exact absurd (digits '+' (by decide)) (by decide)

end Acceptance

end Contactless.Text.Hex
