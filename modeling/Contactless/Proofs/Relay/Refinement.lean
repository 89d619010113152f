import Contactless.Bench
import Contactless.Proofs.Joint
import Contactless.Proofs.Relay.Course
import Contactless.Proofs.Relay.Linkage

/-! Both halves of a relay on a link do to the tag and to the reader what the relay in one process
does with the same chips. The halves take turns: while one of them goes on, the other one waits for
a frame, so that only the end of a run leaves open who moves first. -/
namespace Contactless

namespace Chip

/-- Frames that a chip was given to send. -/
def framesOut (t : List Chip.Event) : List BitFrame :=
  t.filterMap fun
    | ⟨.bits frame _, _⟩ => some frame
    | ⟨.bytes frame _, _⟩ => some (.ofBytes frame)
    | ⟨.send frame _, _⟩ => some (.ofBytes frame)
    | _ => none

def framesIn (t : List Chip.Event) : List Bytes :=
  t.filterMap fun
    | ⟨.arm .., .ok frame⟩ => some frame
    | ⟨.receive _, .ok frame⟩ => some frame
    | _ => none

def targetsArmed (t : List Chip.Event) : List Target :=
  t.filterMap fun
    | ⟨.arm target _, _⟩ => some target
    | _ => none

/-- Answers that a chip sent as a target. -/
def answersHanded (t : List Chip.Event) : List Bytes :=
  t.filterMap fun
    | ⟨.send answer _, .ok ()⟩ => some answer
    | _ => none

end Chip

namespace Relay

section Around

/-- The chips of both halves and the link between them. -/
structure Around (τ υ κ : Type) where
  tag : τ
  reader : υ
  link : κ

variable {τ υ κ α β : Type} {h : Handler Chip τ} {g : Handler Chip υ} {L : Linkage κ}

def nearAnswers (h : Handler Chip τ) (L : Linkage κ) : Answers ChipAndLink (Around τ υ κ)
  | .inl call, e => some ((h call e.tag).1, { e with tag := (h call e.tag).2 })
  | .inr call, e => (L.call call e.link).map fun r => (r.1, { e with link := r.2 })

def farAnswers (g : Handler Chip υ) (L : Linkage κ) : Answers ChipAndLink (Around τ υ κ)
  | .inl call, e => some ((g call e.reader).1, { e with reader := (g call e.reader).2 })
  | .inr call, e => (L.call call (L.flip e.link)).map fun r => (r.1, { e with link := L.flip r.2 })

/-- Every order of the moves of both programs leads to a goal. -/
abbrev Led (h : Handler Chip τ) (g : Handler Chip υ) (L : Linkage κ)
    (goal : Joint ChipAndLink ChipAndLink (Around τ υ κ) α β → Prop) :
    Joint ChipAndLink ChipAndLink (Around τ υ κ) α β → Prop :=
  Inevitable (Joint.Move (nearAnswers h L).surroundings (farAnswers g L).surroundings) goal

/-- A program that has ended, or that waits for a frame. -/
inductive Quiet : Dialogue ChipAndLink α → Prop
  | done (a : α) : Quiet (.done a)
  | hears (next : Except Error LinkFrame → Dialogue ChipAndLink α) :
      Quiet (.ask (.inr (.recv .forever)) next)

variable {goal : Joint ChipAndLink ChipAndLink (Around τ υ κ) α β → Prop} {p p' : τ} {q q' : υ}
  {l : κ} {t u : List ChipAndLink.Event} {near : Dialogue ChipAndLink α}
  {far : Dialogue ChipAndLink β}

theorem Quiet.near_waits (quiet : Quiet near) {outbox : List LinkFrame}
    (under : L.Under [] outbox l) : Joint.Waits (nearAnswers h L) near ⟨p, q, l⟩ := by
  cases quiet with
  | done a => exact Joint.waits_done a
  | hears next => exact Joint.waits_ask (congrArg (Option.map _) (L.recv_idle under))

theorem Quiet.far_waits (quiet : Quiet far) {inbox : List LinkFrame} (under : L.Under inbox [] l) :
    Joint.Waits (farAnswers g L) far ⟨p, q, l⟩ := by
  cases quiet with
  | done a => exact Joint.waits_done a
  | hears next =>
      exact Joint.waits_ask (congrArg (Option.map _) (L.recv_idle (L.flip_under under)))

theorem led_near_chip {call : Chip.Call} {next : call.Answer → Dialogue ChipAndLink α}
    {r : call.Answer} (answers : h call p = (r, p')) (quiet : Quiet far)
    (idle : L.Under [] [] l)
    (later : Led h g L goal ⟨next r, far, ⟨p', q, l⟩, t ++ [⟨.inl call, r⟩], u⟩) :
    Led h g L goal ⟨.ask (.inl call) next, far, ⟨p, q, l⟩, t, u⟩ := by
  refine Joint.inevitable_near ?_ (quiet.far_waits idle) later
  exact congrArg (fun x => some (x.1, (⟨x.2, q, l⟩ : Around τ υ κ))) answers

theorem led_far_chip {call : Chip.Call} {next : call.Answer → Dialogue ChipAndLink β}
    {r : call.Answer} (answers : g call q = (r, q')) (quiet : Quiet near)
    (idle : L.Under [] [] l)
    (later : Led h g L goal ⟨near, next r, ⟨p, q', l⟩, t, u ++ [⟨.inl call, r⟩]⟩) :
    Led h g L goal ⟨near, .ask (.inl call) next, ⟨p, q, l⟩, t, u⟩ := by
  refine Joint.inevitable_far ?_ (quiet.near_waits idle) later
  exact congrArg (fun x => some (x.1, (⟨p, x.2, l⟩ : Around τ υ κ))) answers

theorem led_to_far {frame : LinkFrame} {next : Except Error Unit → Dialogue ChipAndLink α}
    {next' : Except Error LinkFrame → Dialogue ChipAndLink β} (fits : L.Fits frame)
    (idle : L.Under [] [] l) (quiet : Quiet (next (.ok ())))
    (later : ∀ l', L.Under [] [] l' → Led h g L goal ⟨next (.ok ()), next' (.ok frame), ⟨p, q, l'⟩,
      t ++ [⟨.inr (.send frame), .ok ()⟩], u ++ [⟨.inr (.recv .forever), .ok frame⟩]⟩) :
    Led h g L goal ⟨.ask (.inr (.send frame)) next, .ask (.inr (.recv .forever)) next', ⟨p, q, l⟩,
      t, u⟩ := by
  obtain ⟨sent, sends, under⟩ := L.send_under idle fits
  obtain ⟨taken, takes, clear⟩ := L.recv_under (L.flip_under under)
  refine Joint.inevitable_near (congrArg (Option.map _) sends)
    (Quiet.far_waits (.hears next') idle) ?_
  refine Joint.inevitable_far (congrArg (Option.map _) takes) (quiet.near_waits under) ?_
  exact later _ (L.flip_under clear)

theorem led_to_near {frame : LinkFrame} {next : Except Error LinkFrame → Dialogue ChipAndLink α}
    {next' : Except Error Unit → Dialogue ChipAndLink β} (fits : L.Fits frame)
    (idle : L.Under [] [] l) (quiet : Quiet (next' (.ok ())))
    (later : ∀ l', L.Under [] [] l' → Led h g L goal ⟨next (.ok frame), next' (.ok ()), ⟨p, q, l'⟩,
      t ++ [⟨.inr (.recv .forever), .ok frame⟩], u ++ [⟨.inr (.send frame), .ok ()⟩]⟩) :
    Led h g L goal ⟨.ask (.inr (.recv .forever)) next, .ask (.inr (.send frame)) next', ⟨p, q, l⟩,
      t, u⟩ := by
  obtain ⟨sent, sends, under⟩ := L.send_under (L.flip_under idle) fits
  obtain ⟨taken, takes, clear⟩ := L.recv_under (L.flip_under under)
  refine Joint.inevitable_far (congrArg (Option.map _) sends)
    (Quiet.near_waits (.hears next) idle) ?_
  refine Joint.inevitable_near (congrArg (Option.map _) takes)
    (quiet.far_waits (L.flip_under under)) ?_
  exact later _ clear

end Around

section Parting

theorem lefts_link (t : List ChipAndLink.Event) (call : LinkCall) (a : call.Answer) :
    lefts (t ++ [(⟨.inr call, a⟩ : ChipAndLink.Event)]) = lefts t :=
  (lefts_append t _).trans (List.append_nil _)

theorem lefts_chip (t : List ChipAndLink.Event) (call : Chip.Call) (a : call.Answer) :
    lefts (t ++ [(⟨.inl call, a⟩ : ChipAndLink.Event)]) = lefts t ++ [⟨call, a⟩] :=
  lefts_append t _

variable {τ υ κ : Type} {h : Handler Chip τ} {g : Handler Chip υ} {L : Linkage κ} {p : τ} {q : υ}
  {l : κ} {t u : List ChipAndLink.Event}

/-- Both halves have ended, their chips having been asked this and having answered so. Taking back
an abort request may come last at the reader. -/
structure Parted (tag reader : List Chip.Event) (count : Nat)
    (w : Joint ChipAndLink ChipAndLink (Around τ υ κ) (Except Error Nat × Device .initiator)
      (Except Error Nat × TargetHalf)) : Prop where
  near : ∃ x, w.near = .done x
  far : ∃ r s, w.far = .done (r, s) ∧ s.exchanged = count ∧ ∀ k, r = .ok k → k = count
  tag : lefts w.nearLog = tag
  reader : lefts w.farLog = reader ∨ lefts w.farLog = reader ++ [⟨.clearAbort, ()⟩]

theorem led_leaving {wait : Timeout} {n fuel : Nat} {e : Error} {d : Device .initiator}
    {s : TargetHalf} (idle : L.Under [] [] l) :
    Led h g L (Parted (lefts t) (lefts u) s.exchanged)
      ⟨leaving e d, .ask (.inr (.recv .forever)) (TargetHalf.replied wait n fuel s), ⟨p, q, l⟩,
        t, u⟩ := by
  refine led_to_far L.fits_shutdown idle (.done _) fun l' _ => .here ?_
  exact ⟨⟨_, rfl⟩, ⟨_, s, rfl, rfl, fun k ends => (Except.ok.inj ends).symm⟩, lefts_link ..,
    .inl (lefts_link ..)⟩

/-- The half of the reader leaves first. It may take back an abort request before the other half
notices or after that. -/
theorem led_closing {n fuel served : Nat} {d : Device .initiator} {e : Error} {s : TargetHalf}
    (idle : L.Under [] [] l) :
    Led h g L (Parted (lefts t) (lefts u) s.exchanged)
      ⟨.ask (.inr (.recv .forever)) (InitiatorHalf.heard n fuel served d), TargetHalf.closing e s,
        ⟨p, q, l⟩, t, u⟩ := by
  unfold TargetHalf.closing
  cases normal : isNormalStop e with
  | false =>
      refine led_to_near L.fits_shutdown idle (.done _) fun l' _ => .here ?_
      exact ⟨⟨_, rfl⟩, ⟨_, s, rfl, rfl, fun k same => nomatch same⟩, lefts_link ..,
        .inl (lefts_link ..)⟩
  | true =>
      obtain ⟨sent, sends, under⟩ := L.send_under (L.flip_under idle) L.fits_shutdown
      obtain ⟨taken, takes, clear⟩ := L.recv_under (L.flip_under under)
      have hears (q : υ) := congrArg (Option.map fun r : Except Error LinkFrame × κ =>
        (r.1, (⟨p, q, r.2⟩ : Around τ υ κ))) takes
      have counts : ∀ k, (Except.ok s.exchanged : Except Error Nat) = .ok k → k = s.exchanged :=
        fun k same => (Except.ok.inj same).symm
      have cleared (e : LinkCall) (a : e.Answer) :
          lefts (u ++ [(⟨.inr e, a⟩ : ChipAndLink.Event)] ++ [⟨.inl .clearAbort, ()⟩]) =
            lefts u ++ [⟨.clearAbort, ()⟩] :=
        (lefts_chip ..).trans (congrArg (· ++ _) (lefts_link ..))
      refine Joint.inevitable_far (congrArg (Option.map _) sends)
        (Quiet.near_waits (.hears _) idle) ?_
      -- The goodbye is under way, and the reader's chip is still to be told: both halves can move.
      refine Joint.inevitable_either (hears q) rfl ?_ ?_
      · refine Joint.inevitable_far rfl (Joint.waits_done _) (.here ?_)
        exact ⟨⟨_, rfl⟩, ⟨_, s, rfl, rfl, counts⟩, lefts_link .., .inr (cleared ..)⟩
      · refine Joint.inevitable_near (hears _) (Joint.waits_done _) (.here ?_)
        exact ⟨⟨_, rfl⟩, ⟨_, s, rfl, rfl, counts⟩, lefts_link .., .inr (cleared ..)⟩

end Parting

section Course

variable {τ υ κ : Type} {h : Handler Chip τ} {g : Handler Chip υ} {L : Linkage κ}
  {patience wait : Timeout} {n m fuel fuel' served : Nat} {d : Device .initiator} {s : TargetHalf}
  {p p' : τ} {q q' : υ} {l : κ} {command : Bytes} {t u : List ChipAndLink.Event}
  {goal : Joint ChipAndLink ChipAndLink (Around τ υ κ) (Except Error Nat × Device .initiator)
    (Except Error Nat × TargetHalf) → Prop}

theorem led_command (fits : L.Fits (.command command)) (idle : L.Under [] [] l)
    (later : ∀ l', L.Under [] [] l' → ∀ t' u', lefts t' = lefts t → lefts u' = lefts u →
      Led h g L goal ⟨InitiatorHalf.asked n fuel served d command,
        .ask (.inr (.recv .forever)) (TargetHalf.replied wait m fuel' s), ⟨p, q, l'⟩, t', u'⟩) :
    Led h g L goal ⟨InitiatorHalf.serving n (fuel + 1) served d,
      TargetHalf.passing wait m (fuel' + 1) s command, ⟨p, q, l⟩, t, u⟩ := by
  rw [InitiatorHalf.serving_succ, TargetHalf.passing_succ]
  exact led_to_near fits idle (.hears _) fun l' idle' =>
    later l' idle' _ _ (lefts_link ..) (lefts_link ..)

/-- The tag answers a command, and the answer comes to the half of the reader. -/
theorem led_answer {answer : Bytes} (fitsCommand : L.Fits (.command command))
    (fitsAnswer : L.Fits (.response answer)) (passes : refusal command = none)
    (answers : h (.bytes command d.config.commandTimeout) p = (.ok answer, p'))
    (idle : L.Under [] [] l)
    (later : ∀ l', L.Under [] [] l' → ∀ t' u',
      lefts t' = lefts t ++ [⟨.bytes command d.config.commandTimeout, .ok answer⟩] →
      lefts u' = lefts u →
      Led h g L goal ⟨InitiatorHalf.serving n (fuel + 1) (served + 1) d,
        .ask (.inl (.send answer wait)) (TargetHalf.handed wait m fuel' s), ⟨p', q, l'⟩, t', u'⟩) :
    Led h g L goal ⟨InitiatorHalf.serving n (fuel + 2) served d,
      TargetHalf.passing wait m (fuel' + 1) s command, ⟨p, q, l⟩, t, u⟩ := by
  refine led_command fitsCommand idle fun l' idle' t' u' tag reader => ?_
  rw [InitiatorHalf.asked_of_passes n (fuel + 1) served d passes]
  refine led_near_chip answers (.hears _) idle' ?_
  have quiet : Quiet (InitiatorHalf.told n (fuel + 1) served d (.ok ())) := by
    change Quiet (InitiatorHalf.serving n (fuel + 1) (served + 1) d)
    rw [InitiatorHalf.serving_succ]
    exact .hears _
  refine led_to_far fitsAnswer idle' quiet fun l'' idle'' => ?_
  exact later l'' idle'' _ _
    ((lefts_link ..).trans ((lefts_chip ..).trans (congrArg (· ++ _) tag)))
    ((lefts_link ..).trans reader)

theorem led_passing {tag reader : List Chip.Event} {count : Nat} {e : Error}
    (course : Course h g patience wait p q command tag reader count e p' q')
    (nearFuel : count + 1 < fuel) (farFuel : count < fuel')
    (patient : d.config.commandTimeout = patience) (idle : L.Under [] [] l)
    (fitsCommands : ∀ c ∈ command :: Chip.framesIn reader, L.Fits (.command c))
    (fitsAnswers : ∀ a, .ofBytes a ∈ Chip.framesOut reader → L.Fits (.response a)) :
    Led h g L (Parted (lefts t ++ tag) (lefts u ++ reader) (s.exchanged + count))
      ⟨InitiatorHalf.serving n fuel served d, TargetHalf.passing wait m fuel' s command, ⟨p, q, l⟩,
        t, u⟩ := by
  subst patient
  obtain ⟨fuel', rfl⟩ := Nat.exists_eq_succ_of_ne_zero (Nat.ne_zero_of_lt farFuel)
  obtain ⟨fuel, rfl⟩ := Nat.exists_eq_add_of_le' (Nat.le_trans (Nat.le_add_left 2 count) nearFuel)
  have fitsCommand := fitsCommands _ List.mem_cons_self
  -- One command is one round of either loop; the half of the tag hears the goodbye in one more.
  induction course generalizing fuel fuel' served s l t u with
  | @refused p q command e refused =>
      refine led_command fitsCommand idle fun l' idle' t' u' tagSide readerSide => ?_
      rw [InitiatorHalf.asked_of_refused n (fuel + 1) served d refused, List.append_nil,
        List.append_nil, ← tagSide, ← readerSide]
      exact led_leaving idle'
  | failed passes answers =>
      refine led_command fitsCommand idle fun l' idle' t' u' tagSide readerSide => ?_
      rw [InitiatorHalf.asked_of_passes n (fuel + 1) served d passes, List.append_nil, ← tagSide,
        ← readerSide]
      refine led_near_chip answers (.hears _) idle' ?_
      rw [← lefts_chip]
      exact led_leaving idle'
  | @ungiven p p' q q' command answer e passes answers sends =>
      have fitsAnswer := fitsAnswers answer List.mem_cons_self
      refine led_answer fitsCommand fitsAnswer passes answers idle
        fun l' idle' t' u' tagSide readerSide => ?_
      rw [InitiatorHalf.serving_succ, ← tagSide, ← readerSide]
      refine led_far_chip sends (.hears _) idle' ?_
      rw [← lefts_chip]
      exact led_closing idle'
  | @released p p' q q₁ q' command answer e passes answers sends receives =>
      have fitsAnswer := fitsAnswers answer List.mem_cons_self
      refine led_answer fitsCommand fitsAnswer passes answers idle
        fun l' idle' t' u' tagSide readerSide => ?_
      rw [InitiatorHalf.serving_succ, ← tagSide, ← readerSide]
      refine led_far_chip sends (.hears _) idle' (led_far_chip receives (.hears _) idle' ?_)
      rw [← List.singleton_append, ← List.append_assoc, ← lefts_chip, ← lefts_chip]
      exact led_closing (s := s.counted) idle'
  | @passed p p₁ p' q q₁ q₂ q' command answer next tag reader count e passes answers sends receives
      _ ih =>
      have fitsAnswer := fitsAnswers answer List.mem_cons_self
      obtain ⟨fuel, rfl⟩ := Nat.exists_eq_add_of_le' (show 1 ≤ fuel by omega)
      obtain ⟨fuel', rfl⟩ := Nat.exists_eq_add_of_le' (show 1 ≤ fuel' by omega)
      refine led_answer fitsCommand fitsAnswer passes answers idle
        fun l' idle' t' u' tagSide readerSide => ?_
      have waits : Quiet (InitiatorHalf.serving n (fuel + 2) (served + 1) d) := by
        rw [InitiatorHalf.serving_succ]
        exact .hears _
      refine led_far_chip sends waits idle' (led_far_chip receives waits idle' ?_)
      rw [List.append_cons, ← tagSide, ← readerSide, List.append_cons, ← lefts_chip,
        List.append_cons, ← lefts_chip, ← Nat.add_assoc, Nat.add_right_comm]
      exact ih (s := s.counted) idle' (fun c member => fitsCommands c (.tail _ member))
        (fun a member => fitsAnswers a (.tail _ member)) fuel' (by omega) fuel (by omega)
        (fitsCommands next (.tail _ (.head _)))

theorem led_revealed {real : Target} {tag reader : List Chip.Event} {count : Nat} {e : Error}
    (relayed : Relayed h g d s.device real p q tag reader count e) (enough : count + 1 < n)
    (idle : L.Under [] [] l) (fitsCommands : ∀ c ∈ Chip.framesIn reader, L.Fits (.command c))
    (fitsAnswers : ∀ a, .ofBytes a ∈ Chip.framesOut reader → L.Fits (.response a)) :
    Led h g L (Parted (lefts t ++ tag) (lefts u ++ reader) (s.exchanged + count))
      ⟨InitiatorHalf.serving n n served d,
        TargetHalf.revealed n s (emulatedBy s.device.config real), ⟨p, q, l⟩, t, u⟩ := by
  obtain ⟨fuel, rfl⟩ := Nat.exists_eq_succ_of_ne_zero (Nat.ne_zero_of_lt enough)
  have waits : Quiet (InitiatorHalf.serving (fuel + 1) (fuel + 1) served d) := by
    rw [InitiatorHalf.serving_succ]
    exact .hears _
  cases relayed with
  | hidden hides =>
      rw [hides, List.append_nil, List.append_nil, InitiatorHalf.serving_succ]
      exact led_closing idle
  | @unseen _ q' shown _ shows arms =>
      rw [shows]
      refine led_far_chip arms waits idle ?_
      rw [List.append_nil, ← lefts_chip, InitiatorHalf.serving_succ]
      exact led_closing (s := s.showing shown) idle
  | @seen _ _ q₁ _ shown first tag reader _ _ shows arms course =>
      rw [shows]
      refine led_far_chip arms waits idle ?_
      rw [List.append_cons, ← lefts_chip]
      exact led_passing (s := s.showing shown) course enough (Nat.lt_of_succ_lt enough) rfl idle
        fitsCommands fitsAnswers

theorem led_search {x : Dialogue Chip (Except Error Target × Device .initiator)}
    {r : Except Error Target × Device .initiator} {search : List Chip.Event}
    (held : Dialogue.Held h x p search r p')
    {f : Except Error Target × Device .initiator →
      Dialogue ChipAndLink (Except Error Nat × Device .initiator)}
    {far : Dialogue ChipAndLink (Except Error Nat × TargetHalf)} (quiet : Quiet far)
    (idle : L.Under [] [] l)
    (later : Led h g L goal
      ⟨f r, far, ⟨p', q, l⟩, t ++ search.map Interface.Event.inLeft, u⟩) :
    Led h g L goal ⟨x.left.bind f, far, ⟨p, q, l⟩, t, u⟩ := by
  induction held generalizing t with
  | done r p =>
      rw [List.map_nil, List.append_nil] at later
      exact later
  | ask answers _ ih =>
      rw [List.map_cons, List.append_cons] at later
      exact led_near_chip answers quiet idle (ih later)

theorem led_run {d₀ : Device .initiator} {real : Target} {search tag reader : List Chip.Event}
    {count : Nat} {e : Error} (finds : Dialogue.Held h (waitForTag n d₀) p search (.ok real, d) p')
    (relayed : Relayed h g d s.device real p' q tag reader count e) (enough : count + 1 < n)
    (idle : L.Under [] [] l) (fitsTarget : L.Fits (.target real))
    (fitsCommands : ∀ c ∈ Chip.framesIn reader, L.Fits (.command c))
    (fitsAnswers : ∀ a, .ofBytes a ∈ Chip.framesOut reader → L.Fits (.response a)) :
    Led h g L (Parted (search ++ tag) reader count)
      (.start (InitiatorHalf.run n d₀) (TargetHalf.run n s) ⟨p, q, l⟩) := by
  rw [InitiatorHalf.run_eq, TargetHalf.run_eq]
  refine led_search finds (.hears _) idle ?_
  have waits : Quiet (InitiatorHalf.described n d (.ok ())) := by
    change Quiet (InitiatorHalf.serving n n 0 d)
    obtain ⟨fuel, rfl⟩ := Nat.exists_eq_succ_of_ne_zero (Nat.ne_zero_of_lt enough)
    rw [InitiatorHalf.serving_succ]
    exact .hears _
  refine led_to_far fitsTarget idle waits fun l' idle' => ?_
  have begins : lefts ([] ++ search.map Interface.Event.inLeft ++
      [(⟨.inr (.send (.target real)), .ok ()⟩ : ChipAndLink.Event)]) = search :=
    (lefts_link ..).trans (lefts_inLeft search)
  refine (led_revealed (s := { s with exchanged := 0 }) relayed enough idle' fitsCommands
    fitsAnswers).mono fun w parted => ?_
  obtain ⟨near, ⟨r, s', ends, counts, result⟩, tagSide, readerSide⟩ := parted
  have total : 0 + count = count := Nat.zero_add count
  exact ⟨near, ⟨r, s', ends, counts.trans total, fun k same => (result k same).trans total⟩,
    tagSide.trans (congrArg (· ++ tag) begins), readerSide⟩

end Course

section Refinement

variable {τ υ κ : Type} {h : Handler Chip τ} {g : Handler Chip υ} {p p' : τ} {q q' : υ}

theorem Course.handed {patience wait : Timeout} {command : Bytes} {tag reader : List Chip.Event}
    {count : Nat} {e : Error}
    (course : Course h g patience wait p q command tag reader count e p' q') :
    (Chip.answersHanded reader).length = count := by
  induction course with
  | refused _ => rfl
  | failed _ _ => rfl
  | ungiven _ _ _ => rfl
  | released _ _ _ _ => rfl
  | passed _ _ _ _ _ ih => exact congrArg Nat.succ ih

theorem Relayed.handed {d : Device .initiator} {target : Device .target} {real : Target}
    {tag reader : List Chip.Event} {count : Nat} {e : Error}
    (relayed : Relayed h g d target real p q tag reader count e) :
    (Chip.answersHanded reader).length = count := by
  cases relayed with
  | hidden _ => rfl
  | unseen _ _ => rfl
  | seen _ _ course => exact course.handed

/-- Both halves have ended, and their devices did the same as those of a relay in one process with
this transcript: they showed the same target, sent the same frames to the tag and to the reader, and
as many answers are counted as the relay in one process handed to the reader. -/
structure Refined (t : List Chips.Event)
    (w : Joint ChipAndLink ChipAndLink (Around τ υ κ) (Except Error Nat × Device .initiator)
      (Except Error Nat × TargetHalf)) : Prop where
  near : ∃ x, w.near = .done x
  far : ∃ r s, w.far = .done (r, s) ∧ s.exchanged = (Chip.answersHanded (rights t)).length ∧
    ∀ k, r = .ok k → k = (Chip.answersHanded (rights t)).length
  armed : Chip.targetsArmed (lefts w.farLog) = Chip.targetsArmed (rights t)
  tag : Chip.framesOut (lefts w.nearLog) = Chip.framesOut (lefts t)
  reader : Chip.framesOut (lefts w.farLog) = Chip.framesOut (rights t)

/-- What is seen of a chip does not change when abort requests are taken back at the end. -/
theorem seen_clearing {α : Type} (see : Chip.Event → Option α)
    (hidden : see ⟨.clearAbort, ()⟩ = none) {t u v : List Chip.Event}
    (same : t = v ∨ t = v ++ [⟨.clearAbort, ()⟩]) (cleared : u = v ++ [⟨.clearAbort, ()⟩]) :
    t.filterMap see = u.filterMap see := by
  have quiet : (v ++ [(⟨.clearAbort, ()⟩ : Chip.Event)]).filterMap see = v.filterMap see := by
    rw [List.filterMap_append, List.filterMap_cons_none hidden, List.filterMap_nil, List.append_nil]
  subst cleared
  rcases same with rfl | rfl
  · exact quiet.symm
  · rfl

theorem Parted.refined {tag reader : List Chip.Event} {count : Nat} {t : List Chips.Event}
    {w : Joint ChipAndLink ChipAndLink (Around τ υ κ) (Except Error Nat × Device .initiator)
      (Except Error Nat × TargetHalf)} (parted : Parted tag reader count w)
    (handed : (Chip.answersHanded reader).length = count)
    (tagSide : lefts t = tag ++ [⟨.clearAbort, ()⟩])
    (readerSide : rights t = reader ++ [⟨.clearAbort, ()⟩]) : Refined t w := by
  have total : count = (Chip.answersHanded (rights t)).length :=
    handed.symm.trans (congrArg List.length (seen_clearing _ rfl (.inl rfl) readerSide))
  obtain ⟨r, s, ends, counts, result⟩ := parted.far
  exact ⟨parted.near, ⟨r, s, ends, counts.trans total, fun k same => (result k same).trans total⟩,
    seen_clearing _ rfl parted.reader readerSide, seen_clearing _ rfl (.inl parted.tag) tagSide,
    seen_clearing _ rfl parted.reader readerSide⟩

/-- A relay of a tag that was found, to a reader that comes to an end: in one process, in two halves
on a channel, and in two halves on streams, if what has to cross fits a frame there. -/
theorem halves_refine {left : υ → Nat} (ending : Ending g left) {n : Nat} (devices : Devices)
    {search : List Chip.Event} {atqa : Octets 2} {sak : UInt8} {uid : Uid} {ats : Bytes}
    {d : Device .initiator}
    (finds : Dialogue.Held h (waitForTag n devices.initiator) p search
      (.ok (.typeA atqa sak uid ats), d) p')
    (horizon : left q + 2 < n) (exchanged : Nat) :
    ∃ t r s p'' q'', Dialogue.Held (h.pair g) (run n devices) (p, q) t (r, s) (p'', q'') ∧
      s.stats.exchanges = (Chip.answersHanded (rights t)).length ∧
      Led h g ChannelLink.linkage (Refined t) (.start (InitiatorHalf.run n devices.initiator)
        (TargetHalf.run n ⟨devices.target, exchanged⟩) ⟨p, q, {}⟩) ∧
      (4 + uid.bytes.length + ats.length ≤ 0xffff →
        (∀ command ∈ Chip.framesIn (rights t), command.length ≤ 0xffff) →
        (∀ answer ∈ Chip.framesOut (rights t), answer.data.length ≤ 0xffff) →
        Led h g Pipes.linkage (Refined t) (.start (InitiatorHalf.run n devices.initiator)
          (TargetHalf.run n ⟨devices.target, exchanged⟩) ⟨p, q, {}⟩)) := by
  obtain ⟨tag, reader, count, e, relayed, most⟩ := exists_relayed (h := h) ending d devices.target
    (.typeA atqa sak uid ats) p' q
  obtain ⟨t, r, s, p'', q'', held, tagSide, readerSide, counts⟩ :=
    held_run finds relayed (by omega)
  have handed := relayed.handed
  have total : count = (Chip.answersHanded (rights t)).length :=
    handed.symm.trans (congrArg List.length (seen_clearing _ rfl (.inl rfl) readerSide))
  have lead {κ : Type} (L : Linkage κ) {l : κ} (idle : L.Under [] [] l)
      (fitsTarget : L.Fits (.target (.typeA atqa sak uid ats)))
      (fitsCommands : ∀ c ∈ Chip.framesIn reader, L.Fits (.command c))
      (fitsAnswers : ∀ a, .ofBytes a ∈ Chip.framesOut reader → L.Fits (.response a)) :
      Led h g L (Refined t) (.start (InitiatorHalf.run n devices.initiator)
        (TargetHalf.run n ⟨devices.target, exchanged⟩) ⟨p, q, l⟩) :=
    (led_run (s := ⟨devices.target, exchanged⟩) finds relayed (by omega) idle fitsTarget
      fitsCommands fitsAnswers).mono fun w parted => parted.refined handed tagSide readerSide
  refine ⟨t, r, s, p'', q'', held, counts.trans total, ?_, fun descriptor commands answers => ?_⟩
  · exact lead ChannelLink.linkage rfl trivial (fun _ _ => trivial) (fun _ _ => trivial)
  · have framesIn : Chip.framesIn reader = Chip.framesIn (rights t) :=
      seen_clearing _ rfl (.inl rfl) readerSide
    have framesOut : Chip.framesOut reader = Chip.framesOut (rights t) :=
      seen_clearing _ rfl (.inl rfl) readerSide
    refine lead Pipes.linkage ⟨.nil, .nil⟩ ?_ (fun c member => ?_) (fun a member => ?_)
    · refine LinkFrame.exists_encode rfl ?_
      simp only [List.length_append, List.length_cons, List.length_nil, atqa.length_toList]
      omega
    · exact LinkFrame.exists_encode rfl (commands c (framesIn ▸ member))
    · exact LinkFrame.exists_encode rfl (answers _ (framesOut ▸ member))

/-- A bench has only so many frames of a reader laid out. -/
theorem ending_bench : Ending Bench.handler fun b => b.frames.length := by
  have answers (b : Bench) (wait : Timeout) : (b.takeAnswer wait).2.frames = b.frames := by
    unfold Bench.takeAnswer
    split
    · rfl
    · split <;> rfl
  have frames (b : Bench) (wait : Timeout) :
      (b.takeFrame wait).2.frames.length ≤ b.frames.length := by
    unfold Bench.takeFrame
    split
    · exact Nat.le_refl _
    · split
      · exact Nat.le_refl _
      · rename_i more
        rw [more]
        exact Nat.le_succ _
  constructor
  · intro call b
    cases call with
    | bits frame wait => exact Nat.le_of_eq (congrArg List.length (answers (b.record frame) wait))
    | bytes frame wait =>
        exact Nat.le_of_eq (congrArg List.length (answers (b.record (.ofBytes frame)) wait))
    | arm target wait => exact frames { b with armed := b.armed ++ [target] } wait
    | receive wait => exact frames b wait
    | send frame wait =>
        change (if b.aborted then _ else _ : Except Error Unit × Bench).2.frames.length ≤ _
        split
        · exact Nat.le_refl _
        · exact Nat.le_refl _
    | _ => exact Nat.le_refl _
  · intro wait b frame b' took
    change b.takeFrame wait = _ at took
    unfold Bench.takeFrame at took
    split at took
    · cases took
    · split at took
      · cases took
      · rename_i more
        cases took
        rw [more]
        exact Nat.lt_succ_self _

def tagBench : Bench where
  answers := [.ok (.ofBytes [0x02, 0x00]), .ok (.ofBytes [0x08, 0x11, 0x22, 0x33, 0x08]),
    .ok (.ofBytes [0x08]), .ok (.ofBytes [0xaa])]

def readerBench : Bench where
  frames := [.ok [0x30, 0x00], .error .targetReleased]

theorem halves_refine_benches :
    ∃ t r s p q, Dialogue.Held (Bench.handler.pair Bench.handler)
        (run 5 ⟨⟨{}, none⟩, ⟨{}, none⟩, {}⟩) (tagBench, readerBench) t (r, s) (p, q) ∧
      s.stats.exchanges = (Chip.answersHanded (rights t)).length ∧
      Led Bench.handler Bench.handler ChannelLink.linkage (Refined t) (.start
        (InitiatorHalf.run 5 ⟨{}, none⟩) (TargetHalf.run 5 ⟨⟨{}, none⟩, 0⟩)
        ⟨tagBench, readerBench, {}⟩) := by
  have finds : (waitForTag 5 ⟨{}, none⟩).run Bench.handler tagBench = (some (.ok _, _), _) := rfl
  obtain ⟨search, held⟩ := Dialogue.held_of_run finds
  obtain ⟨t, r, s, p, q, run, counts, channel, -⟩ := halves_refine (q := readerBench) ending_bench
    ⟨⟨{}, none⟩, ⟨{}, none⟩, {}⟩ held (by decide) 0
  exact ⟨t, r, s, p, q, run, counts, channel⟩

end Refinement

end Relay

end Contactless
