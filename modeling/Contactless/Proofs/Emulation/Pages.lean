import Contactless.Emulation.Type2
import Mathlib.Data.List.Rotate

/-! The memory of an emulated Type 2 tag as an array of pages. A command of the reader is answered
from that array and changes one page of it at most. -/
namespace Contactless.Type2

abbrev Pages := List (Octets 4)

/-- The image that is made of these pages. -/
def Pages.image (pages : Pages) : Bytes := pages.flatMap Octets.toList

/-- The pages that a memory consists of. -/
def Shows (t : Type2) (pages : Pages) : Prop := t.memory = pages.image

inductive Command where
  | read (page : UInt8)
  | write (page : UInt8) (data : Octets 4)
deriving DecidableEq

namespace Command

def frame : Command → Bytes
  | read page => [0x30, page]
  | write page data => [0xa2, page] ++ data.toList

/-- The answer of an array of pages to a command, and what becomes of the array. Reading goes on at
the first page behind the last one. -/
def on (pages : Pages) : Command → Bytes × Pages
  | read page =>
    if page.toNat < pages.length then
      (Pages.image ((pages.rotate page.toNat).take 4), pages)
    else ([0x00], pages)
  | write page data =>
    if page.toNat < pages.length then ([0x0a], pages.set page.toNat data) else ([0x00], pages)

/-- The answers to commands one after the other. -/
def answers : Pages → List Command → List Bytes
  | _, [] => []
  | pages, command :: rest => (command.on pages).1 :: answers (command.on pages).2 rest

end Command

section Images

variable {pages : Pages}

theorem Pages.length_image (pages : Pages) : pages.image.length = 4 * pages.length := by
  induction pages with
  | nil => rfl
  | cons page pages ih =>
      unfold image at *
      rw [List.flatMap_cons, List.length_append, page.length_toList, ih, List.length_cons]
      omega

theorem Pages.image_take (pages : Pages) (n : Nat) :
    (image (pages.take n)) = pages.image.take (4 * n) := by
  induction pages generalizing n with
  | nil => simp [image]
  | cons page pages ih =>
      cases n with
      | zero => rfl
      | succ n =>
          unfold image at *
          rw [List.take_succ_cons, List.flatMap_cons, List.flatMap_cons, ih,
            show 4 * (n + 1) = page.toList.length + 4 * n by rw [page.length_toList]; omega,
            List.take_length_add_append]

theorem Pages.image_drop (pages : Pages) (n : Nat) :
    (image (pages.drop n)) = pages.image.drop (4 * n) := by
  induction pages generalizing n with
  | nil => simp [image]
  | cons page pages ih =>
      cases n with
      | zero => rfl
      | succ n =>
          unfold image at *
          rw [List.drop_succ_cons, List.flatMap_cons, ih,
            show 4 * (n + 1) = page.toList.length + 4 * n by rw [page.length_toList]; omega,
            List.drop_length_add_append]

theorem Pages.image_append (front back : Pages) :
    image (front ++ back) = front.image ++ back.image := List.flatMap_append

theorem Pages.image_rotate {n : Nat} (inside : n ≤ pages.length) :
    image (pages.rotate n) = pages.image.rotate (4 * n) := by
  rw [List.rotate_eq_drop_append_take inside, List.rotate_eq_drop_append_take
    (by rw [length_image]; omega), image_append, image_drop, image_take]

/-- Bytes of whole pages are the image of some pages. -/
theorem Pages.exists_image (count : Nat) {image : Bytes} (whole : image.length = 4 * count) :
    ∃ pages : Pages, pages.image = image := by
  induction count generalizing image with
  | zero => exact ⟨[], (List.length_eq_zero_iff.mp whole).symm⟩
  | succ count ih =>
      have less : (image.drop 4).length = 4 * count := by
        rw [List.length_drop]
        omega
      obtain ⟨pages, rest⟩ := ih less
      refine ⟨⟨image.take 4, by rw [List.length_take]; omega⟩ :: pages, ?_⟩
      change image.take 4 ++ Pages.image pages = image
      rw [rest, List.take_append_drop]

theorem Pages.image_injective : Function.Injective image := by
  intro pages others same
  have lengths : pages.length = others.length := by
    have equal := congrArg List.length same
    rw [length_image, length_image] at equal
    omega
  induction pages generalizing others with
  | nil => exact (List.length_eq_zero_iff.mp lengths.symm).symm
  | cons page pages ih =>
      cases others with
      | nil => cases lengths
      | cons other others =>
          have parts : page.toList ++ image pages = other.toList ++ image others := same
          obtain ⟨first, rest⟩ := List.append_inj parts (by
            rw [page.length_toList, other.length_toList])
          rw [Octets.ext_toList first, ih rest (Nat.succ.inj lengths)]

end Images

section Memory

variable {t t' : Type2} {pages : Pages}

/-- A page begins inside the memory exactly when the memory has that page. -/
theorem begins_iff (t : Type2) {page : Nat} : page * 4 < t.memory.length ↔ page < t.pageCount := by
  have whole := t.whole
  unfold Type2.pageCount
  omega

theorem Shows.pageCount (shows : t.Shows pages) : t.pageCount = pages.length := by
  unfold Type2.pageCount
  rw [shows, Pages.length_image]
  omega

theorem Shows.least (shows : t.Shows pages) : 4 ≤ pages.length := by
  have least := t.least
  rw [shows, Pages.length_image] at least
  omega

theorem exists_shows (t : Type2) : ∃ pages, t.Shows pages := by
  have whole : t.memory.length = 4 * (t.memory.length / 4) := by
    have whole := t.whole
    omega
  obtain ⟨pages, same⟩ := Pages.exists_image _ whole
  exact ⟨pages, same.symm⟩

theorem Shows.read (shows : t.Shows pages) (page : UInt8) :
    t.read page =
      if page.toNat < pages.length then some (Pages.image ((pages.rotate page.toNat).take 4))
      else none := by
  unfold Type2.read
  have begins : page.toNat * 4 < t.memory.length ↔ page.toNat < pages.length := by
    rw [t.begins_iff, shows.pageCount]
  by_cases inside : page.toNat < pages.length
  · rw [if_pos (begins.mpr inside), if_pos inside, Pages.image_take,
      Pages.image_rotate (Nat.le_of_lt inside), ← shows]
    refine congrArg some (List.ext_getElem ?_ fun i first last => ?_)
    · have least := t.least
      rw [List.length_map, List.length_range, List.length_take, List.length_rotate]
      omega
    · have place : page.toNat * 4 + i = i + 4 * page.toNat := by omega
      rw [List.getElem_map, List.getElem_range, List.getElem_take, List.getElem_rotate]
      unfold byteFrom
      simp only [List.get_eq_getElem, place]
  · rw [if_neg (mt begins.mp inside), if_neg inside]

theorem Shows.write (shows : t.Shows pages) (page : UInt8) (data : Octets 4) :
    if page.toNat < pages.length then
      ∃ t', t.write page data = some t' ∧ t'.Shows (pages.set page.toNat data)
    else t.write page data = none := by
  unfold Type2.write
  by_cases inside : page.toNat < pages.length
  · rw [if_pos inside, dif_pos (shows.pageCount ▸ inside)]
    refine ⟨_, rfl, ?_⟩
    change t.memory.take (page.toNat * 4) ++ data.toList ++ t.memory.drop (page.toNat * 4 + 4) = _
    rw [List.set_eq_take_append_cons_drop, if_pos inside, Pages.image_append,
      ← List.singleton_append, Pages.image_append, Pages.image_take, Pages.image_drop, shows,
      List.append_assoc, Nat.mul_comm page.toNat]
    exact congrArg _ (congrArg (· ++ _) (List.append_nil _).symm)
  · rw [if_neg inside, dif_neg (shows.pageCount ▸ inside)]

/-- What follows the page's four bytes is ignored. -/
theorem process_write (t : Type2) (page : UInt8) (data : Octets 4) (rest : Bytes) :
    process ((Command.write page data).frame ++ rest) t =
      (t.write page data).elim (.answer [nakCode], t) fun t => (.answer [ackCode], t) := by
  obtain ⟨data, length⟩ := data
  match data, length with
  | [a, b, c, d], length =>
    have other : ¬ writeCode = TypeA.readCode := by decide
    change Type2.process (writeCode :: page :: a :: b :: c :: d :: rest) t = _
    cases written : t.write page ⟨[a, b, c, d], length⟩ <;> simp [process, other, written]

/-- The card answers as its pages do, and goes on as they do. -/
theorem Shows.process (shows : t.Shows pages) (command : Command) :
    ∃ t', process command.frame t = (.answer (command.on pages).1, t') ∧
      t'.Shows (command.on pages).2 := by
  cases command with
  | read page =>
      refine ⟨t, ?_, ?_⟩
      · change (Reply.answer ((t.read page).getD [nakCode]), t) = _
        rw [shows.read]
        unfold Command.on
        dsimp only
        split <;> rfl
      · unfold Command.on
        dsimp only
        split <;> exact shows
  | write page data =>
      have writes := shows.write page data
      rw [← List.append_nil (Command.frame _), process_write]
      unfold Command.on
      dsimp only
      by_cases inside : page.toNat < pages.length
      · rw [if_pos inside] at writes ⊢
        obtain ⟨t', written, shows'⟩ := writes
        rw [written]
        exact ⟨t', rfl, shows'⟩
      · rw [if_neg inside] at writes ⊢
        rw [writes]
        exact ⟨t, rfl, shows⟩

theorem Command.on_ne_nil (four : 4 ≤ pages.length) (command : Command) :
    (command.on pages).1 ≠ [] := by
  cases command with
  | read page =>
      unfold on
      dsimp only
      split
      · refine List.ne_nil_of_length_pos ?_
        rw [Pages.length_image, List.length_take, List.length_rotate]
        omega
      · exact List.cons_ne_nil _ _
  | write page data =>
      unfold on
      dsimp only
      split <;> exact List.cons_ne_nil _ _

end Memory

end Contactless.Type2
