import Contactless.Device.Selection
import Contactless.Proofs.Emulation.Pages
import Contactless.Proofs.Emulation.Session
import Contactless.Proofs.Loopback.Always
import Contactless.Proofs.Loopback.Prompt
import Contactless.Proofs.Loopback.Search
import Contactless.Proofs.TypeA.Activation

/-! A reader of an emulated Type 2 tag, with an emulator at the other end of the field. The search
ends at the tag whichever of the two begins, and from then on every command of the reader is one
command for the card. -/
namespace Contactless

open Loopback Act
open Emulation (Session emulate serving)

variable {β γ : Type}

namespace Device

/-- Send frames one after the other, until one of them is not answered. -/
def converse : List Bytes → Act Chip (Device .initiator) (List Bytes)
  | [] => pure []
  | frame :: frames => do
    match ← (exchange frame).attempt with
    | .ok answer => return answer :: (← converse frames)
    | .error _ => return []

/-- Activate a tag, then send it frames. -/
def inquire (wanted : Option Uid) (frames : List Bytes) :
    Act Chip (Device .initiator) (Option TypeA.Activation × List Bytes) := do
  let found ← activate wanted
  let answers ← converse frames
  return (found, answers)

end Device

section Searches

theorem searching_activate (wanted : Option Uid) : (Device.activate wanted).Searching := by
  have attempts := searching_of_minds (TypeA.Activator.minds_attempt wanted)
  exact .bind (x := get) (fun _ _ => .done _) fun d =>
    attempts.withRawFraming.within.bind fun found =>
    .bind (x := Device.select _) (fun _ _ => .done _) fun _ => searching_ofExcept (.ok found)

theorem knocking_wake (a : TypeA.Activator) (n : Nat) :
    Knocking a.timeout (fun r => r.1 = .error .timeout) (TypeA.Activator.wake n a) := by
  have sends : (Chip.exchangeFrame a.wakeup.frame a.timeout : Act Chip TypeA.Activator BitFrame) =
      Chip.bits a.wakeup.frame a.timeout := by
    cases a.wakeup <;> rfl
  unfold TypeA.Activator.wake TypeA.Activator.enter
  simp only [bind_apply, modify_apply, get_apply, Dialogue.bind_done_left, resume_ok, sends]
  exact .bits (Dialogue.gives_done rfl)

theorem knocking_attempt (wanted : Option Uid) (a : TypeA.Activator) (n : Nat) :
    Knocking a.timeout Missed (TypeA.Activator.attempt wanted n a) := by
  unfold TypeA.Activator.attempt
  rw [bind_apply, modify_apply, Dialogue.bind_done_left, resume_ok, attempt_bind]
  refine (knocking_wake a.reset n).bind ?_
  rintro ⟨_, a'⟩ rfl
  exact Dialogue.gives_done nofun

/-- A search wakes the tag up whatever became of the switches. -/
theorem knocking_activate (wanted : Option Uid) (n : Nat) (d : Device .initiator) :
    Knocking d.config.commandTimeout Missed (Device.activate wanted n d) := by
  have wakes := knocking_within d
    (knocking_withRawFraming (knocking_attempt wanted (.ofConfig d.config) n))
  unfold Device.activate
  rw [bind_apply, get_apply, Dialogue.bind_done_left, resume_ok, bind_apply]
  refine Knocking.bind wakes ?_
  rintro ⟨r, d'⟩ missed
  cases r with
  | error e => exact Dialogue.gives_done nofun
  | ok found =>
      cases found with
      | some found => exact absurd rfl (missed found)
      | none => exact Dialogue.gives_done nofun

end Searches

section Activation

theorem Type2.length_atqa : ([0x00, 0x44] : Bytes).length = 2 := rfl

/-- The tag that a search finds at the other end. -/
def Type2.tag (uid : Uid) : TypeA.Tag := ⟨⟨[0x00, 0x44], length_atqa⟩, 0x00, uid, []⟩

theorem found_tag (uid : Uid) : (Type2.tag uid).found = Type2.target uid := by
  have last : (0x00 &&& ~~~ 0x04 : UInt8) = 0x00 := by decide
  unfold TypeA.Tag.found Type2.tag
  dsimp only
  rw [last, ite_self]
  rfl

theorem reached_tag (uid : Uid) : (Type2.tag uid).reached = .selected :=
  if_neg (by decide : ¬ TypeA.sakPart4 0x00)

theorem ends_activate {wanted : Option Uid} {uid : Uid} (fits : wanted = none ∨ wanted = some uid)
    (n : Nat) (d : Device .initiator) :
    Ends (Pair.alone .initiator) (Device.activate wanted) n d
      (({} : Pair).armed (Type2.target uid)) (.ok (some ⟨Type2.target uid, []⟩))
      { d with selected := some (Type2.target uid) }
      (.held ⟨Type2.target uid, .selected⟩ [] []) := by
  obtain ⟨s, quiet, ends⟩ := TypeA.ends_attempt (p := ({} : Pair).armed (Type2.target uid))
    (t := Type2.tag uid) (n := n) (a := TypeA.Activator.ofConfig d.config)
    (.inr (nofun : Phase.waiting ≠ .halted)) wanted
  have refused : ¬ TypeA.sakPart4 0x00 := by decide
  obtain ⟨a', attempted⟩ := ends _ _
    (TypeA.meets_identify fits (fun given => absurd given refused) (Nat.zero_le _) quiet)
  rw [found_tag, reached_tag] at attempted
  have activated := TypeA.ends_withRawFraming rfl rfl attempted
  exact ends_get.bind (activated.within.bind ((ends_modify _).bind (ends_pure _)))

end Activation

section Commands

open Type2 (Pages Command)

/-- What an emulator of a Type 2 tag comes to. -/
abbrev Type2.Outcome := Except Error Emulation.Exit × Session Type2

variable {pages : Pages} {wait : Timeout} {d : Device .initiator}

/-- The chip of a tag without an answer to select gives commands to its host, the first one too. -/
theorem react_command {phase : Phase} (chosen : phase = .selected ∨ phase = .active) (uid : Uid)
    (command : Command) :
    (Armed.mk (Type2.target uid) phase).react (.ofBytes command.frame) true =
      (.forward command.frame, ⟨Type2.target uid, .active⟩) := by
  unfold Armed.react Type2.target
  dsimp only
  rw [if_neg (whole_bits _)]
  rcases chosen with rfl | rfl
  · have other : ¬ TypeA.haltBody <+: command.frame := by
      rintro ⟨rest, same⟩
      cases command <;> cases same
    change Armed.firstFrame _ [] command.frame true = _
    unfold Armed.firstFrame
    rw [if_neg fun rats => rats.2 rfl, if_neg other]
    rfl
  · rfl

theorem exchange_command (command : Command) (n : Nat) (d : Device .initiator) :
    Device.exchange command.frame n d =
      .ask (.bytes command.frame d.config.commandTimeout) fun r => .done (r, d) := by
  have sends : (Chip.exchangeBytes command.frame d.config.commandTimeout :
      Act Chip (Device .initiator) Bytes) = Chip.bytes command.frame d.config.commandTimeout := by
    cases command with
    | read page => rfl
    | write page data =>
        have short : ¬ Chip.frameLimit < (Command.write page data).frame.length := by
          change ¬ 264 < data.toList.length + 2
          rw [data.length_toList]
          decide
        exact if_neg short
  unfold Device.exchange Device.timeout
  simp only [bind_apply, get_apply, pure_apply, Dialogue.bind_done_left, resume_ok, sends]
  rfl

theorem converse_command (command : Command) (frames : List Bytes)
    (k : List Bytes → Act Chip (Device .initiator) γ) (n : Nat) (d : Device .initiator) :
    ∃ more, (Device.converse (command.frame :: frames) >>= k) n d =
        .ask (.bytes command.frame d.config.commandTimeout) more ∧
      (∀ e, more (.error e) = k [] n d) ∧ ∀ answer, more (.ok answer) =
        (Device.converse frames >>= fun answers => k (answer :: answers)) n d := by
  rw [Device.converse, LawfulMonad.bind_assoc, attempt_bind, exchange_command]
  refine ⟨_, rfl, fun _ => rfl, fun answer => ?_⟩
  change ((Device.converse frames >>= fun answers => pure (answer :: answers)) >>= k) n d = _
  simp only [LawfulMonad.bind_assoc, LawfulMonad.pure_bind]

variable {timely : Option Nat → Prop}
  {harmless : Dialogue Terminal (Except Error γ × Device .initiator) → Prop}
  {aside : (Except Error Bytes → Dialogue Terminal Type2.Outcome) → Thread Type2.Outcome → Prop}
  {q : Play (Except Error γ × Device .initiator) Type2.Outcome → Prop}

/-- Commands are answered one after the other, each one from the pages that the one before left. -/
theorem carries_answers (carries : Carries timely harmless aside q) {n m : Nat}
    (lasts : ∀ now, timely (Thread.deadlineOf now d.config.commandTimeout))
    (stands : Stands aside wait) (uid : Uid) (commands : List Command) {fuel : Nat}
    (enough : commands.length ≤ fuel) {s : Session Type2} (shows : s.card.Shows pages)
    {phase : Phase} (chosen : phase = .selected ∨ phase = .active)
    {k : List Bytes → Act Chip (Device .initiator) γ}
    (fails : ∀ got, got <+: Command.answers pages commands → harmless (k got n d).left)
    {next : Except Error Bytes → Dialogue Terminal Type2.Outcome}
    (serves : ∀ command,
      next (.ok command) = (serving Type2.process wait m fuel s command).left)
    {t : Thread Type2.Outcome} (here : aside next t)
    (later : ∀ phase next t, aside next t →
      q ⟨.running (k (Command.answers pages commands) n d).left, t,
        .held ⟨Type2.target uid, phase⟩ [] []⟩) :
    q ⟨.running ((Device.converse (commands.map Command.frame) >>= k) n d).left, t,
      .held ⟨Type2.target uid, phase⟩ [] []⟩ := by
  induction commands generalizing pages fuel s phase k next t with
  | nil => exact later _ _ _ here
  | cons command commands ih =>
      obtain ⟨fuel, rfl⟩ := Nat.exists_eq_add_one_of_ne_zero (Nat.ne_of_gt
        (Nat.lt_of_lt_of_le (Nat.succ_pos _) enough))
      obtain ⟨card, processed, shows'⟩ := shows.process command
      obtain ⟨hearing, sends, listening, s', receives, same, goes, ended, quits⟩ :=
        Emulation.serving_eq wait m fuel processed (Command.on_ne_nil shows.least command)
      obtain ⟨more, asks, refused, answered⟩ :=
        converse_command command (commands.map Command.frame) k n d
      rw [List.map_cons, asks]
      refine carries.round (react_command chosen uid command) lasts
        ((serves _).trans (congrArg Dialogue.left sends)) (congrArg Dialogue.left receives)
        stands (congrArg Dialogue.left quits) (fun e => ?_) (fun t' still => ?_) here
      · rw [refused]
        exact fails [] List.nil_prefix
      · rw [answered]
        exact ih (Nat.le_of_succ_le_succ enough) (same ▸ shows') (.inr rfl)
          (fun got part => fails _ (List.cons_prefix_cons.mpr ⟨rfl, part⟩))
          (fun command => congrArg Dialogue.left (goes command)) still later

/-- What an inquiry comes to. -/
abbrev Inquiry :=
  Except Error (Option TypeA.Activation × List Bytes) × Device .initiator

/-- If an inquiry has found a tag, it is this one, and the commands that were answered, up to the
first one that was not, were answered by its pages. -/
def Type2.Truthful (uid : Uid) (pages : Pages) (commands : List Command) (r : Inquiry) : Prop :=
  ∀ found answers, r.1 = .ok (some found, answers) →
    found = ⟨Type2.target uid, []⟩ ∧ answers <+: Command.answers pages commands

/-- An inquiry that goes on without a tag may come to anything. -/
theorem gives_missed {uid : Uid} {commands : List Command} {frames : List Bytes} {n : Nat}
    {x : Dialogue Chip (Except Error (Option TypeA.Activation) × Device .initiator)}
    (missed : x.Gives Missed) :
    (x.bind (resume (fun found => do
      let answers ← Device.converse frames
      return (found, answers)) n)).Gives (Type2.Truthful uid pages commands) := by
  refine missed.bind ?_
  rintro ⟨r, d⟩ missed
  cases r with
  | error e => exact Dialogue.gives_done nofun
  | ok found =>
      cases found with
      | some found => exact absurd rfl (missed found)
      | none =>
          have goes : (do
              let answers ← Device.converse frames
              return (none, answers)).Ensures d
                fun r d => Type2.Truthful uid pages commands (r, d) :=
            ensures_any.bind (fun _ _ _ => ensures_pure nofun) fun _ _ _ => nofun
          exact goes.gives n

theorem carries_reader {q : Play Inquiry Type2.Outcome → Prop}
    {harmless : Dialogue Terminal Inquiry → Prop} (carries : Carries timely harmless aside q)
    {n m : Nat} {wanted : Option Uid} {uid : Uid} (fits : wanted = none ∨ wanted = some uid)
    (lasts : ∀ now, timely (Thread.deadlineOf now d.config.commandTimeout))
    (stands : Stands aside wait) {commands : List Command} (enough : commands.length ≤ m)
    {s : Session Type2} (appears : s.target = Type2.target uid) (shows : s.card.Shows pages)
    (fails : ∀ x : Dialogue Chip Inquiry,
      x.Gives (Type2.Truthful uid pages commands) → harmless x.left)
    (reached : ∀ t p, q ⟨.finished (some
      (.ok (some ⟨Type2.target uid, []⟩, Command.answers pages commands),
        { d with selected := some (Type2.target uid) })), t, p⟩) :
    q (.start (Device.inquire wanted (commands.map Command.frame) n d).left
      (emulate Type2.process wait m s).left) := by
  obtain ⟨hearing, s', arms, same, goes, ended, quits⟩ :=
    Emulation.emulate_eq Type2.process wait m s
  unfold Play.start Device.inquire
  rw [arms, appears, bind_apply]
  refine carries.knock lasts (knocking_activate wanted n d) (searching_activate wanted n d)
    (fun x missed => fails _ (gives_missed missed)) rfl (fun _ t here => ?_)
    (stands.waits (congrArg Dialogue.left quits)) rfl rfl rfl (ends_activate fits n d)
  refine carries_answers (d := { d with selected := some (Type2.target uid) }) carries lasts stands
    uid commands enough (same ▸ shows) (.inl rfl)
    (fun got part => fails _ (Dialogue.gives_done ?_))
    (fun command => congrArg Dialogue.left (goes command)) here fun phase next t here => ?_
  · rintro found answers ⟨⟩
    exact ⟨rfl, part⟩
  · exact carries.beside here (calm_held _ _) ⟨id, fun _ => ⟨_, _, rfl, fun t _ => reached t _⟩⟩

/-- Whatever image a Type 2 tag is made of, a reader that activates the tag gets the answers of its
pages, one for each command. Whenever reader and emulator go on, and whichever of their waits run
out, the reader gets no other answers before one of its commands fails. As long as no wait in vain
runs out, it gets all of them, in whatever order the two go on; in a run of both no time passes at
all. -/
theorem Type2.reader_answered {image : Bytes} {card : Type2}
    (accepted : Type2.ofImage image = .ok card) (uid : Uid) {wanted : Option Uid}
    (fits : wanted = none ∨ wanted = some uid) (own : Device .target) (commands : List Command)
    {m : Nat} (enough : commands.length ≤ m) (n : Nat) :
    let reader := (Device.inquire wanted (commands.map Command.frame) n d).left
    let emulator := (emulate Type2.process wait m
      { device := own, target := Type2.target uid, card := card }).left
    ∃ pages : Pages, pages.image = image ∧
      Play.Always (Type2.Truthful uid pages commands) (.start reader emulator) ∧
      (Lasting d.config.commandTimeout → Lasting wait →
        let result := (.ok (some ⟨Type2.target uid, []⟩, Command.answers pages commands),
          { d with selected := some (Type2.target uid) })
        Inevitable Play.Turn (fun play => play.initiator = .finished (some result))
            (.start reader emulator) ∧
          ∃ least, ∀ horizon, least ≤ horizon →
            (Pair.runBoth horizon {} reader emulator).1 = some result) := by
  intro reader emulator
  obtain ⟨pages, shows⟩ := Type2.exists_shows card
  have memory : card.memory = image := by
    unfold Type2.ofImage at accepted
    split at accepted
    · cases accepted
      rfl
    · cases accepted
  refine ⟨pages, shows.symm.trans memory, ?_, fun lasts patient => ?_⟩
  · refine carries_reader (carries_always _) fits (fun _ => trivial) (stands_aside wait) enough
      rfl shows (fun x gives => gives.left) fun t p => always_of_gives (.finished ?_)
    rintro _ ⟨⟩ found answers ⟨⟩
    exact ⟨rfl, List.prefix_rfl⟩
  · have inevitable := carries_reader (carries_inevitable fun play => play.initiator =
        .finished (some (.ok (some ⟨Type2.target uid, []⟩, Command.answers pages commands),
          { d with selected := some (Type2.target uid) })))
      (n := n) fits (expired_of_lasting lasts) (stands_resting patient) enough
      (s := { device := own, target := Type2.target uid, card := card }) rfl shows
      (fun _ _ => trivial) fun _ _ => .here rfl
    exact ⟨inevitable, runBoth_of_inevitable inevitable⟩

/-- Five pages, numbered byte by byte. -/
def Type2.samplePages : Pages :=
  [⟨[0, 1, 2, 3], rfl⟩, ⟨[4, 5, 6, 7], rfl⟩, ⟨[8, 9, 10, 11], rfl⟩, ⟨[12, 13, 14, 15], rfl⟩,
    ⟨[16, 17, 18, 19], rfl⟩]

def Type2.sampleUid : Uid := ⟨[0x04, 0xa1, 0xb2, 0xc3, 0xd4, 0xe5, 0xf6], .inr (.inl rfl)⟩

def Type2.sampleCommands : List Command :=
  [.read 3, .write 4 ⟨[0xca, 0xfe, 0xba, 0xbe], rfl⟩, .read 3,
    .write 5 ⟨[0xff, 0xff, 0xff, 0xff], rfl⟩]

theorem Type2.reader_answered_sample :
    ∃ least, ∀ horizon, least ≤ horizon →
      (Pair.runBoth horizon {}
        (Device.inquire none (Type2.sampleCommands.map Command.frame) 0 ⟨{}, none⟩).left
        (emulate Type2.process .standard 4
          { device := ⟨{}, none⟩, target := Type2.target Type2.sampleUid
            card := ⟨Type2.samplePages.image, by decide, by decide⟩ }).left).1 =
      some (.ok (some ⟨Type2.target Type2.sampleUid, []⟩,
        [[12, 13, 14, 15, 16, 17, 18, 19, 0, 1, 2, 3, 4, 5, 6, 7], [0x0a],
          [12, 13, 14, 15, 0xca, 0xfe, 0xba, 0xbe, 0, 1, 2, 3, 4, 5, 6, 7], [0x00]]),
        ⟨{}, some (Type2.target Type2.sampleUid)⟩) := by
  have lasts : Lasting .standard := by
    unfold Lasting
    decide
  have accepted : Type2.ofImage Type2.samplePages.image =
      .ok ⟨Type2.samplePages.image, by decide, by decide⟩ := dif_pos (by decide)
  obtain ⟨pages, same, -, answered⟩ := @Type2.reader_answered .standard ⟨{}, none⟩ _ _ accepted
    Type2.sampleUid none (.inl rfl) ⟨{}, none⟩ Type2.sampleCommands 4 (Nat.le_refl 4) 0
  cases Pages.image_injective same
  exact (answered lasts lasts).2

end Commands

end Contactless
