import Contactless.Proofs.Emulation.Pages
import Contactless.Proofs.Emulation.Session

/-! The memory of an emulated Type 2 tag under any commands at all, byte by byte. Its length never
changes, every offset that a command uses lies inside, and each byte is the one that was last
written to it. -/
namespace Contactless.Type2

/-- The byte that a command writes at an offset of an image of this length. A page is written whole
or not at all. -/
def byteWritten (length : Nat) (command : Bytes) (offset : Nat) : Option UInt8 :=
  match command with
  | 0xa2 :: page :: a :: b :: c :: d :: _ =>
    if page.toNat * 4 + 4 ≤ length ∧ page.toNat * 4 ≤ offset then
      [a, b, c, d][offset - page.toNat * 4]?
    else none
  | _ => none

/-- The byte that was written last at an offset, if there was one. -/
def lastWritten (length : Nat) (commands : List Bytes) (offset : Nat) : Option UInt8 :=
  commands.reverse.findSome? fun command => byteWritten length command offset

/-- The offsets of an image of this length that a command reads or writes. Where reading may begin
is told from the offset, where writing may from the number of pages. -/
inductive Touches (length : Nat) : Bytes → Nat → Prop
  | read {page : UInt8} {i : Nat} (rest : Bytes) : page.toNat * 4 < length → i < 16 →
      Touches length ((Command.read page).frame ++ rest) ((page.toNat * 4 + i) % length)
  | write {page : UInt8} {data : Octets 4} {i : Nat} (rest : Bytes) : page.toNat < length / 4 →
      i < 4 → Touches length ((Command.write page data).frame ++ rest) (page.toNat * 4 + i)

/-- Commands that are long enough for what their first byte says. -/
inductive Known : Bytes → Prop
  | read (page : UInt8) (rest : Bytes) : Known ((Command.read page).frame ++ rest)
  | write (page : UInt8) (data : Octets 4) (rest : Bytes) :
      Known ((Command.write page data).frame ++ rest)
  | halt (rest : Bytes) : Known (0x50 :: rest)

/-- What is replied to a command out of an image, and what the image is afterwards. -/
inductive Handles (image : Bytes) : Bytes → Reply → Bytes → Prop
  | read {page : UInt8} (rest : Bytes) : page.toNat * 4 + 4 ≤ image.length →
      Handles image ((Command.read page).frame ++ rest)
        (.answer ((image.drop (page.toNat * 4) ++ image).take 16)) image
  | write {page : UInt8} {data : Octets 4} {image' : Bytes} (rest : Bytes) :
      page.toNat * 4 + 4 ≤ image.length → image'.length = image.length →
      (∀ i, image'[i]? = if page.toNat * 4 ≤ i ∧ i < page.toNat * 4 + 4
        then data.toList[i - page.toNat * 4]? else image[i]?) →
      Handles image ((Command.write page data).frame ++ rest) (.answer [0x0a]) image'
  | readOutside {page : UInt8} (rest : Bytes) : image.length ≤ page.toNat * 4 →
      Handles image ((Command.read page).frame ++ rest) (.answer [0x00]) image
  | writeOutside {page : UInt8} (data : Octets 4) (rest : Bytes) :
      image.length ≤ page.toNat * 4 →
      Handles image ((Command.write page data).frame ++ rest) (.answer [0x00]) image
  | halt (rest : Bytes) : Handles image (0x50 :: rest) .halt image
  | unknown {command : Bytes} : ¬ Known command → Handles image command
      (.failure (.commandNotSupported s!"type 2 command {Text.Hex.spaced command}")) image

section Commands

variable {t t' : Type2} {command : Bytes}

theorem touches_inside (t : Type2) {i : Nat} (touches : Touches t.memory.length command i) :
    i < t.memory.length := by
  have least := t.least
  cases touches with
  | read rest begins small => exact Nat.mod_lt _ (by omega)
  | write rest page small => omega

/-- Reading wraps around at most once. -/
theorem read_eq {page : UInt8} (inside : page.toNat * 4 < t.memory.length) :
    t.read page = some ((t.memory.drop (page.toNat * 4) ++ t.memory).take 16) := by
  have least := t.least
  unfold read
  rw [if_pos inside]
  refine congrArg some (List.ext_getElem ?_ fun i first last => ?_)
  · simp only [List.length_map, List.length_range, List.length_take, List.length_append,
      List.length_drop]
    omega
  · rw [List.length_map, List.length_range] at first
    rw [List.getElem_map, List.getElem_range, List.getElem_take]
    unfold byteFrom
    rw [List.get_eq_getElem]
    by_cases stays : page.toNat * 4 + i < t.memory.length
    · have short : i < (t.memory.drop (page.toNat * 4)).length := by
        rw [List.length_drop]
        omega
      simp only [List.getElem_append_left short, List.getElem_drop, Nat.mod_eq_of_lt stays]
    · have long : (t.memory.drop (page.toNat * 4)).length ≤ i := by
        rw [List.length_drop]
        omega
      have wraps : (page.toNat * 4 + i) % t.memory.length =
          i - (t.memory.drop (page.toNat * 4)).length := by
        rw [List.length_drop, Nat.mod_eq_sub_mod (by omega), Nat.mod_eq_of_lt (by omega)]
        omega
      simp only [List.getElem_append_right long, wraps]

theorem write_inside {page : UInt8} {data : Octets 4} (written : t.write page data = some t') :
    page.toNat * 4 + 4 ≤ t.memory.length ∧
      t'.memory = t.memory.take (page.toNat * 4) ++ data.toList ++
        t.memory.drop (page.toNat * 4 + 4) := by
  unfold write at written
  split at written
  case isTrue inside =>
    cases written
    unfold pageCount at inside
    exact ⟨by omega, rfl⟩
  case isFalse => cases written

theorem length_write {page : UInt8} {data : Octets 4} (written : t.write page data = some t') :
    t'.memory.length = t.memory.length := by
  obtain ⟨inside, memory⟩ := write_inside written
  simp only [memory, List.length_append, List.length_take, List.length_drop, data.length_toList]
  omega

theorem getElem?_write {page : UInt8} {data : Octets 4} (written : t.write page data = some t')
    (i : Nat) : t'.memory[i]? = if page.toNat * 4 ≤ i ∧ i < page.toNat * 4 + 4
      then data.toList[i - page.toNat * 4]? else t.memory[i]? := by
  obtain ⟨inside, memory⟩ := write_inside written
  have front : (t.memory.take (page.toNat * 4)).length = page.toNat * 4 := by
    rw [List.length_take]
    omega
  have four := data.length_toList
  rw [memory, List.append_assoc]
  -- An offset lies before the page, in it or behind it.
  by_cases before : i < page.toNat * 4
  · rw [if_neg (by omega), List.getElem?_append_left (by omega), List.getElem?_take_of_lt before]
  · rw [List.getElem?_append_right (by omega), front]
    by_cases within : i < page.toNat * 4 + 4
    · rw [if_pos (by omega), List.getElem?_append_left (by omega)]
    · rw [if_neg (by omega), List.getElem?_append_right (by omega), List.getElem?_drop, four]
      congr 1
      omega

theorem write_eq_none {page : UInt8} {data : Octets 4} (refused : t.write page data = none) :
    t.memory.length ≤ page.toNat * 4 := by
  unfold write at refused
  split at refused
  case isTrue => cases refused
  case isFalse outside =>
    have whole := t.whole
    unfold pageCount at outside
    omega

/-- A command is read, written, a halt or refused as it stands. -/
theorem process_unknown (strange : ¬ Known command) (t : Type2) :
    process command t = (unknown command, t) := by
  unfold process
  split
  case h_1 code rest =>
    split
    case isTrue reads =>
      subst reads
      cases rest with
      | cons page rest => exact absurd (.read page rest) strange
      | nil => rfl
    case isFalse =>
      split
      case isTrue writes =>
        subst writes
        rcases rest with _ | ⟨page, _ | ⟨a, _ | ⟨b, _ | ⟨c, _ | ⟨d, rest⟩⟩⟩⟩⟩
        case cons.cons.cons.cons.cons =>
          exact absurd (.write page ⟨[a, b, c, d], rfl⟩ rest) strange
        all_goals rfl
      case isFalse =>
        split
        case isTrue halts =>
          subst halts
          exact absurd (.halt rest) strange
        case isFalse => rfl
  case h_2 => rfl

theorem handles (t : Type2) (command : Bytes) :
    Handles t.memory command (process command t).1 (process command t).2.memory := by
  by_cases known : Known command
  case neg =>
    rw [process_unknown known]
    exact .unknown known
  case pos =>
    cases known with
    | read page rest =>
        change Handles _ _ (.answer ((t.read page).getD [nakCode])) t.memory
        by_cases inside : page.toNat * 4 < t.memory.length
        · have whole := t.whole
          rw [read_eq inside]
          exact .read rest (by omega)
        · unfold read
          rw [if_neg inside]
          exact .readOutside rest (by omega)
    | write page data rest =>
        rw [process_write]
        cases written : t.write page data with
        | some t' =>
            exact .write rest (write_inside written).1 (length_write written)
              (getElem?_write written)
        | none => exact .writeOutside data rest (write_eq_none written)
    | halt rest => exact .halt rest

theorem getElem?_byteFrom (t : Type2) (page : UInt8) (i : Nat) :
    t.memory[(page.toNat * 4 + i) % t.memory.length]? = some (t.byteFrom page i) :=
  List.getElem?_eq_getElem _

/-- The reply hangs on nothing but the length of the memory and the bytes that the command
touches. -/
theorem reply_of_agrees {other : Type2} (length : other.memory.length = t.memory.length)
    (agrees : ∀ i, Touches t.memory.length command i → other.memory[i]? = t.memory[i]?) :
    (process command other).1 = (process command t).1 := by
  by_cases known : Known command
  case neg => rw [process_unknown known, process_unknown known]
  case pos =>
    cases known with
    | read page rest =>
        have same : other.read page = t.read page := by
          unfold read
          rw [length]
          by_cases inside : page.toNat * 4 < t.memory.length
          · rw [if_pos inside, if_pos inside]
            refine congrArg some (List.map_congr_left fun i small => Option.some.inj ?_)
            rw [← getElem?_byteFrom, ← getElem?_byteFrom, length]
            exact agrees _ (.read rest inside (List.mem_range.mp small))
          · rw [if_neg inside, if_neg inside]
        change Reply.answer ((other.read page).getD _) = .answer ((t.read page).getD _)
        rw [same]
    | write page data rest =>
        rw [process_write, process_write]
        cases first : other.write page data <;> cases second : t.write page data
        case none.none => rfl
        case some.some => rfl
        case none.some =>
          have outside := write_eq_none first
          have inside := (write_inside second).1
          omega
        case some.none =>
          have inside := (write_inside first).1
          have outside := write_eq_none second
          omega
    | halt rest => rfl

end Commands

section Streams

variable {image image' command : Bytes} {reply : Reply}

theorem byteWritten_write (length : Nat) (page : UInt8) (data : Octets 4) (rest : Bytes)
    (offset : Nat) : byteWritten length ((Command.write page data).frame ++ rest) offset =
      if page.toNat * 4 + 4 ≤ length ∧ page.toNat * 4 ≤ offset
      then data.toList[offset - page.toNat * 4]? else none := by
  obtain ⟨data, four⟩ := data
  match data, four with
  | [a, b, c, d], four => rfl

theorem byteWritten_unknown (strange : ¬ Known command) (length offset : Nat) :
    byteWritten length command offset = none := by
  unfold byteWritten
  split
  case h_1 page a b c d rest => exact absurd (.write page ⟨[a, b, c, d], rfl⟩ rest) strange
  case h_2 => rfl

/-- A command leaves every byte alone that it does not write. -/
theorem Handles.getElem? (handles : Handles image command reply image') :
    image'.length = image.length ∧
      ∀ i, image'[i]? = (byteWritten image.length command i).or image[i]? := by
  cases handles with
  | read rest inside => exact ⟨rfl, fun i => rfl⟩
  | @write page data _ rest inside length memory =>
      refine ⟨length, fun i => ?_⟩
      rw [memory, byteWritten_write]
      by_cases begun : page.toNat * 4 ≤ i
      case neg => rw [if_neg (by omega), if_neg (by omega), Option.none_or]
      case pos =>
        have four := data.length_toList
        by_cases within : i < page.toNat * 4 + 4
        · have short : i - page.toNat * 4 < data.toList.length := by omega
          rw [if_pos ⟨begun, within⟩, if_pos ⟨inside, begun⟩, List.getElem?_eq_getElem short,
            Option.some_or]
        · have long : data.toList.length ≤ i - page.toNat * 4 := by omega
          rw [if_neg (by omega), if_pos ⟨inside, begun⟩, List.getElem?_eq_none long,
            Option.none_or]
  | readOutside rest outside => exact ⟨rfl, fun i => rfl⟩
  | writeOutside data rest outside =>
      refine ⟨rfl, fun i => ?_⟩
      rw [byteWritten_write, if_neg (by omega), Option.none_or]
  | halt rest => exact ⟨rfl, fun i => rfl⟩
  | unknown strange => exact ⟨rfl, fun i => by rw [byteWritten_unknown strange, Option.none_or]⟩

theorem lastWritten_append (length : Nat) (commands : List Bytes) (command : Bytes) (offset : Nat) :
    lastWritten length (commands ++ [command]) offset =
      (byteWritten length command offset).or (lastWritten length commands offset) := by
  unfold lastWritten
  rw [List.reverse_append, List.reverse_singleton, List.singleton_append, List.findSome?_cons]
  cases byteWritten length command offset <;> rfl

/-- After any commands the length is what it was, and each byte is the one last written to its
offset, or the one that was there. -/
theorem memory_after (t : Type2) (commands : List Bytes) :
    (process.after t commands).memory.length = t.memory.length ∧ ∀ i,
      (process.after t commands).memory[i]? =
        (lastWritten t.memory.length commands i).or t.memory[i]? := by
  -- From the end: the last command decides about the offsets that it writes, and no others.
  induction commands using List.reverseRecOn with
  | nil => exact ⟨rfl, fun i => rfl⟩
  | append_singleton commands command ih =>
      obtain ⟨length, memory⟩ := ih
      obtain ⟨kept, changed⟩ := ((process.after t commands).handles command).getElem?
      rw [Card.after_append]
      refine ⟨kept.trans length, fun i => ?_⟩
      rw [lastWritten_append, Option.or_assoc, ← memory, ← length]
      exact changed i

end Streams

/-- A card made from an image stays an array of pages under any commands. No command changes the
length, and after any sequence of them each byte is the one last written at its offset, or else that
of the image. To whatever command comes next the card replies out of the bytes it then holds, at
offsets that lie all inside. -/
theorem image_last_written {image : Bytes} {card : Type2} (accepted : ofImage image = .ok card)
    (commands : List Bytes) (command : Bytes) :
    let held := process.after card commands
    (held.memory.length = image.length ∧
      ∀ i, held.memory[i]? = (lastWritten image.length commands i).or image[i]?) ∧
    ((∀ i, Touches image.length command i → i < image.length) ∧
      ∀ other : Type2, other.memory.length = image.length →
        (∀ i, Touches image.length command i → other.memory[i]? = held.memory[i]?) →
          (process command other).1 = (process command held).1) ∧
    Handles held.memory command (process command held).1 (process command held).2.memory := by
  have made : card.memory = image := by
    unfold ofImage at accepted
    split at accepted
    · cases accepted
      rfl
    · cases accepted
  intro held
  obtain ⟨length, memory⟩ := memory_after card commands
  rw [made] at length memory
  refine ⟨⟨length, memory⟩, ⟨?_, ?_⟩, held.handles command⟩
  · rw [← length]
    exact fun i => held.touches_inside
  · rw [← length]
    exact fun other => reply_of_agrees

def fivePages : Bytes := [0, 1, 2, 3, 4, 5, 6, 7, 8, 9, 10, 11, 12, 13, 14, 15, 16, 17, 18, 19]

/-- A page written with a byte too many, a page written twice, one that does not exist, a command
that is too short and a halt. -/
def mixedCommands : List Bytes :=
  [[0xa2, 4, 0xca, 0xfe, 0xba, 0xbe, 0x99], [0xa2, 0, 7, 7, 7, 7], [0xa2, 5, 1, 1, 1, 1],
    [0xa2, 1, 2, 3, 4], [0x50, 0], [0xa2, 0, 8, 8, 8, 8]]

theorem image_last_written_mixed :
    ofImage fivePages = .ok ⟨fivePages, by decide, by decide⟩ ∧
      (let held := process.after (Type2.mk fivePages (by decide) (by decide)) mixedCommands
      (held.memory.length = 20 ∧
        ∀ i, held.memory[i]? = (lastWritten 20 mixedCommands i).or fivePages[i]?) ∧
      (process [0x30, 3] held).1 =
        .answer [12, 13, 14, 15, 0xca, 0xfe, 0xba, 0xbe, 8, 8, 8, 8, 4, 5, 6, 7]) := by
  have accepted : ofImage fivePages = .ok ⟨fivePages, by decide, by decide⟩ := dif_pos (by decide)
  obtain ⟨kept, -, -⟩ := image_last_written accepted mixedCommands [0x30, 3]
  exact ⟨accepted, kept, by decide⟩


end Contactless.Type2
