import Contactless.Proofs.Joint
import Contactless.Proofs.Relay.Goodbye
import Contactless.Proofs.Relay.Log

/-! Both halves of a relay over a link that delivers the frames of each side once and in order,
whatever the order of their moves and whatever their chips answer. -/
namespace Contactless.Relay

/-- How a call of a link may change the frames under way to its end and away from it. -/
def Carries (inbox outbox inbox' outbox' : List LinkFrame) : (call : LinkCall) → call.Answer → Prop
  | .send frame, .ok () => inbox' = inbox ∧ outbox' = outbox ++ [frame]
  | .send _, .error _ => inbox' = inbox ∧ outbox' = outbox
  | .recv _, .ok frame => inbox = frame :: inbox' ∧ outbox' = outbox
  | .recv _, .error _ => inbox' = inbox ∧ outbox' = outbox

/-- Surroundings of both halves, in which their link delivers what it takes, once and in order. A
call may fail and chips may answer anything; neither changes what is under way. -/
structure Carrier (ε : Type) where
  near : Surroundings ChipAndLink ε
  far : Surroundings ChipAndLink ε
  toNear : ε → List LinkFrame
  toFar : ε → List LinkFrame
  near_chip : ∀ {call : Chip.Call} {e a e'}, near (.inl call) e a e' →
    toNear e' = toNear e ∧ toFar e' = toFar e
  far_chip : ∀ {call : Chip.Call} {e a e'}, far (.inl call) e a e' →
    toNear e' = toNear e ∧ toFar e' = toFar e
  near_link : ∀ {call : LinkCall} {e a e'}, near (.inr call) e a e' →
    Carries (toNear e) (toFar e) (toNear e') (toFar e') call a
  far_link : ∀ {call : LinkCall} {e a e'}, far (.inr call) e a e' →
    Carries (toFar e) (toNear e) (toFar e') (toNear e') call a

section Carried

variable {ε α β : Type} {c : Carrier ε}

/-- What one half sent is what the other one received, and what is still under way. -/
structure Carried (c : Carrier ε) (w : Joint ChipAndLink ChipAndLink ε α β) : Prop where
  far : outgoing w.nearLog = incoming w.farLog ++ c.toFar w.around
  near : outgoing w.farLog = incoming w.nearLog ++ c.toNear w.around

theorem carries_balance {inbox outbox inbox' outbox' heard sent : List LinkFrame} {call : LinkCall}
    {a : call.Answer} {t : HalfLog} (carries : Carries inbox outbox inbox' outbox' call a)
    (out : outgoing t = heard ++ outbox) (back : sent = incoming t ++ inbox) :
    outgoing (t ++ [⟨.inr call, a⟩]) = heard ++ outbox' ∧
      sent = incoming (t ++ [⟨.inr call, a⟩]) ++ inbox' := by
  rw [outgoing_append, incoming_append, out, back]
  cases call with
  | send frame =>
      change Except Error Unit at a
      cases a with
      | ok done =>
          obtain ⟨rfl, rfl⟩ := carries
          exact ⟨List.append_assoc _ _ _, congrArg (· ++ inbox') (List.append_nil _).symm⟩
      | error e =>
          obtain ⟨rfl, rfl⟩ := carries
          exact ⟨List.append_nil _, congrArg (· ++ inbox') (List.append_nil _).symm⟩
  | recv wait =>
      change Except Error LinkFrame at a
      cases a with
      | ok frame =>
          obtain ⟨rfl, rfl⟩ := carries
          exact ⟨List.append_nil _, (List.append_assoc _ [frame] inbox').symm⟩
      | error e =>
          obtain ⟨rfl, rfl⟩ := carries
          exact ⟨List.append_nil _, congrArg (· ++ inbox') (List.append_nil _).symm⟩

theorem outgoing_chip (t : HalfLog) (call : Chip.Call) (a : call.Answer) :
    outgoing (t ++ [⟨.inl call, a⟩]) = outgoing t :=
  outgoing_append t _ |>.trans (List.append_nil _)

theorem incoming_chip (t : HalfLog) (call : Chip.Call) (a : call.Answer) :
    incoming (t ++ [⟨.inl call, a⟩]) = incoming t :=
  incoming_append t _ |>.trans (List.append_nil _)

theorem Carried.step {w v : Joint ChipAndLink ChipAndLink ε α β} (carried : Carried c w)
    (move : Joint.Move c.near c.far w v) : Carried c v := by
  obtain ⟨far, near⟩ := carried
  cases move with
  | @near q _ _ _ _ t _ r answers =>
      cases q with
      | inl call =>
          obtain ⟨toNear, toFar⟩ := c.near_chip answers
          exact ⟨(outgoing_chip t call r).trans (far.trans (congrArg _ toFar.symm)),
            near.trans (congrArg₂ _ (incoming_chip t call r).symm toNear.symm)⟩
      | inr call =>
          obtain ⟨out, back⟩ := carries_balance (c.near_link answers) far near
          exact ⟨out, back⟩
  | @far _ q _ _ _ _ u r answers =>
      cases q with
      | inl call =>
          obtain ⟨toNear, toFar⟩ := c.far_chip answers
          exact ⟨far.trans (congrArg₂ _ (incoming_chip u call r).symm toFar.symm),
            (outgoing_chip u call r).trans (near.trans (congrArg _ toNear.symm))⟩
      | inr call =>
          obtain ⟨out, back⟩ := carries_balance (c.far_link answers) near far
          exact ⟨back, out⟩

theorem Carried.run {x : Dialogue ChipAndLink α} {y : Dialogue ChipAndLink β} {e : ε}
    {w : Joint ChipAndLink ChipAndLink ε α β} (idle : c.toNear e = [] ∧ c.toFar e = [])
    (run : Joint.Moves c.near c.far (.start x y e) w) : Carried c w := by
  induction run with
  | refl => exact ⟨idle.2.symm, idle.1.symm⟩
  | tail _ move ih => exact ih.step move

end Carried

section Safety

theorem getElem?_of_front {α : Type} {l m : List α} {k : Nat} {a : α} (front : l <+: m)
    (at_k : l[k]? = some a) : m[k]? = some a := by
  obtain ⟨bound, rfl⟩ := List.getElem?_eq_some_iff.mp at_k
  exact List.prefix_iff_getElem?.mp front k bound

/-- The answer of a number belongs to the command of that number, if the answers are the first of
the exchanged ones and the exchanged commands are the first of all. -/
theorem exists_command_of_front {exchanges : List (Bytes × Bytes)} {commands answers : List Bytes}
    {k : Nat} {answer : Bytes} (told : answers <+: exchanges.map Prod.snd)
    (asked : exchanges.map Prod.fst <+: commands) (at_k : answers[k]? = some answer) :
    ∃ command, commands[k]? = some command ∧ exchanges[k]? = some (command, answer) := by
  have exchanged := getElem?_of_front told at_k
  rw [List.getElem?_map] at exchanged
  obtain ⟨⟨command, _⟩, there, rfl⟩ := Option.map_eq_some_iff.mp exchanged
  refine ⟨command, getElem?_of_front asked ?_, there⟩
  rw [List.getElem?_map, there]
  rfl

theorem Announced.of_front {l m : List LinkFrame} (announced : Announced m) (front : l <+: m) :
    Announced l := by
  obtain ⟨after, rfl⟩ := front
  rintro first rest rfl
  obtain ⟨start, later⟩ := announced first (rest ++ after) rfl
  exact ⟨start, fun frame member => later frame (List.mem_append_left after member)⟩

theorem commands_of_front {l m : List LinkFrame} (front : l <+: m) : commands l <+: commands m :=
  front.filterMap _

theorem responses_of_front {l m : List LinkFrame} (front : l <+: m) : responses l <+: responses m :=
  front.filterMap _

variable {ε : Type}

abbrev Halves (ε : Type) :=
  Joint ChipAndLink ChipAndLink ε (Except Error Nat × Device .initiator)
    (Except Error Nat × TargetHalf)

/-- Commands that the half of the tag served: their answers were given to the link. -/
def served (w : Halves ε) : Nat := (responses (outgoing w.nearLog)).length

/-- What holds of both halves at any time, the one that serves the tag having started with a device
and a horizon. -/
structure Safe (n : Nat) (d : Device .initiator) (w : Halves ε) : Prop where
  /-- A half that ends with the error of a stray frame was given that error by its chip or its
  link. -/
  near_expects : ∀ {frame d'}, w.near = .done (.error (unexpected frame), d') →
    Reported w.nearLog (unexpected frame)
  far_expects : ∀ {frame s'}, w.far = .done (.error (unexpected frame), s') →
    Reported w.farLog (unexpected frame)
  /-- No stray frame ever reaches a half. -/
  near_hears : ∀ frame ∈ incoming w.nearLog, frame = .shutdown ∨ ∃ command, frame = .command command
  far_hears : Announced (incoming w.farLog)
  /-- At most one command waits for its answer. -/
  one_waits : (commands (outgoing w.farLog)).length ≤ (responses (incoming w.farLog)).length + 1
  /-- Each answer is the one of the tag to the command of the same number. -/
  answers_match : ∃ (search : List Chip.Event) (rest : HalfLog),
    w.nearLog = search.map Interface.Event.inLeft ++ rest ∧
    (∃ x, (waitForTag n d).Reaches search x) ∧
    ∀ (k : Nat) (answer : Bytes), (responses (incoming w.farLog))[k]? = some answer →
      ∃ command, (commands (outgoing w.farLog))[k]? = some command ∧
        (exchanges rest)[k]? = some (command, answer)
  counts_match : ∀ {r d' r' s'}, w.near = .done (r, d') → w.far = .done (r', s') →
    (∀ count, r = .ok count → count = served w) ∧ (∀ count, r' = .ok count → count = s'.exchanged) ∧
      (served w = s'.exchanged ∨ served w = s'.exchanged + 1)

theorem halves_safe (c : Carrier ε) {n m : Nat} {d : Device .initiator} {s : TargetHalf} {e : ε}
    {w : Halves ε} (idle : c.toNear e = [] ∧ c.toFar e = [])
    (run : Joint.Moves c.near c.far (.start (InitiatorHalf.run n d) (TargetHalf.run m s) e) w) :
    Safe n d w := by
  obtain ⟨nearReaches, farReaches⟩ := run.reaches
  -- Each half alone: what its log looks like whatever it is answered.
  have near := InitiatorHalf.conduct_of_reaches nearReaches
  have far := TargetHalf.conduct_of_reaches farReaches
  -- The interleaving enters only here: what one half has heard is the front of what the other told.
  have carried := Carried.run idle run
  have toFar : incoming w.farLog <+: outgoing w.nearLog := ⟨_, carried.far.symm⟩
  have toNear : incoming w.nearLog <+: outgoing w.farLog := ⟨_, carried.near.symm⟩
  obtain ⟨search, rest, split, searching, answers, asks⟩ := near.relays
  have told : responses (incoming w.farLog) <+: (exchanges rest).map Prod.snd :=
    (responses_of_front toFar).trans answers
  have asked : (exchanges rest).map Prod.fst <+: commands (outgoing w.farLog) :=
    asks.trans (commands_of_front toNear)
  have nearHears : ∀ frame ∈ incoming w.nearLog,
      frame = .shutdown ∨ ∃ command, frame = .command command :=
    fun frame member => far.tells frame (toNear.subset member)
  have farHears : Announced (incoming w.farLog) := near.announces.of_front toFar
  refine ⟨?_, ?_, nearHears, farHears, ?_, ⟨search, rest, split, searching, ?_⟩, ?_⟩
  · intro frame d' ends
    rcases near.blame (congrArg Dialogue.result ends) ⟨frame, rfl⟩ with
      reported | ⟨other, member, stray⟩
    · exact reported
    · rcases nearHears other member with goodbye | ⟨command, same⟩
      · exact absurd goodbye stray.1
      · exact absurd same (stray.2 command)
  · intro frame s' ends
    rcases far.blame (congrArg Dialogue.result ends) ⟨frame, rfl⟩ with reported | other
    · exact reported
    · exact absurd farHears other
  · exact Nat.le_trans far.commands_le (Nat.succ_le_succ far.toReader_le)
  · exact fun k answer at_k => exists_command_of_front told asked at_k
  · intro r d' r' s' nearEnds farEnds
    obtain ⟨exchanged, count⟩ := far.count (congrArg Dialogue.result farEnds)
    refine ⟨fun k ok => ?_, count, ?_⟩
    · subst ok
      exact near.count (congrArg Dialogue.result nearEnds)
    · have delivered := (responses_of_front toFar).length_le
      have answered := answers.length_le
      have commanded := asked.length_le
      have most := far.commands_le
      have least := far.toReader_le
      rw [List.length_map] at answered commanded
      rw [Nat.zero_add] at exchanged
      unfold served
      omega

end Safety

section Channel

/-- What end `a` of a channel may be told, somebody having requested an abort or not, and the other
end having been dropped or not. -/
def channelCall (call : LinkCall) (l : ChannelLink) (answer : call.Answer)
    (l' : ChannelLink) : Prop :=
  ∃ aborted dropped, ChannelLink.handler call
    { a := { l.a with aborted }, b := { l.b with dropped } } = (answer, l')

theorem channelCall_carries {call : LinkCall} {l l' : ChannelLink} {answer : call.Answer}
    (h : channelCall call l answer l') :
    Carries l.a.inbox l.b.inbox l'.a.inbox l'.b.inbox call answer := by
  obtain ⟨aborted, dropped, held⟩ := h
  cases call with
  | send frame =>
      change ChannelLink.send _ frame = _ at held
      unfold ChannelLink.send at held
      split at held
      · cases held
        exact ⟨rfl, rfl⟩
      · cases held
        exact ⟨rfl, rfl⟩
  | recv wait =>
      change ChannelLink.recv _ wait = _ at held
      unfold ChannelLink.recv at held
      split at held
      · cases held
        exact ⟨rfl, rfl⟩
      · split at held
        · rename_i inbox
          cases held
          exact ⟨inbox, rfl⟩
        · split at held
          · cases held
            exact ⟨rfl, rfl⟩
          · split at held
            · cases held
              exact ⟨rfl, rfl⟩
            · cases held
              exact ⟨rfl, rfl⟩

/-- Both halves on the ends of a channel, with chips that may answer anything. -/
def channel : Carrier ChannelLink where
  near
    | .inl _, l, _, l' => l' = l
    | .inr call, l, answer, l' => channelCall call l answer l'
  far
    | .inl _, l, _, l' => l' = l
    | .inr call, l, answer, l' =>
      ∃ flipped, channelCall call l.flip answer flipped ∧ l' = flipped.flip
  toNear l := l.a.inbox
  toFar l := l.b.inbox
  near_chip := by
    rintro call l answer l' rfl
    exact ⟨rfl, rfl⟩
  far_chip := by
    rintro call l answer l' rfl
    exact ⟨rfl, rfl⟩
  near_link := channelCall_carries
  far_link := by
    rintro call l answer l' ⟨flipped, h, rfl⟩
    exact channelCall_carries h

def servedOnce : HalfLog :=
  InitiatorHalf.sampleSearch.map Interface.Event.inLeft ++
    [⟨.inr (.send (.target InitiatorHalf.sampleTag)), .ok ()⟩,
      ⟨.inr (.recv .forever), .ok (.command [0x30, 0x00])⟩,
      ⟨.inl (.bytes [0x30, 0x00] .standard), .ok [0xaa]⟩,
      ⟨.inr (.send (.response [0xaa])), .ok ()⟩, ⟨.inr (.recv .forever), .ok .shutdown⟩]

theorem yields_servedOnce :
    (InitiatorHalf.run 2 ⟨{}, none⟩).Yields servedOnce
      (.ok 1, ⟨{}, some InitiatorHalf.sampleTag⟩) :=
  .ask _ (.ask _ (.ask _ (.ask _ (.ask _ (.ask _ (.ask _ (.ask _ (.ask _ (.ask _ (.ask _ (.ask _
    (.ask _ (.done _)))))))))))))

/-- One exchange over a channel, until the reader releases the tag. -/
def sampleOrder : List (ChipAndLink.Event ⊕ ChipAndLink.Event) :=
  (servedOnce.take 9).map .inl ++ (released.take 3).map .inr ++
    ((servedOnce.drop 9).take 3).map .inl ++ ((released.drop 3).take 4).map .inr ++
    (servedOnce.drop 12).map .inl ++ (released.drop 7).map .inr

theorem allowed_sampleOrder :
    Joint.Allowed channel.near channel.far {} sampleOrder {} :=
  .near rfl <| .near rfl <| .near rfl <| .near rfl <| .near rfl <| .near rfl <| .near rfl <|
  .near rfl <| .near ⟨false, false, rfl⟩ <| .far ⟨_, ⟨false, false, rfl⟩, rfl⟩ <| .far rfl <|
  .far ⟨_, ⟨false, false, rfl⟩, rfl⟩ <| .near ⟨false, false, rfl⟩ <| .near rfl <|
  .near ⟨false, false, rfl⟩ <| .far ⟨_, ⟨false, false, rfl⟩, rfl⟩ <| .far rfl <| .far rfl <|
  .far ⟨_, ⟨false, false, rfl⟩, rfl⟩ <| .near ⟨false, false, rfl⟩ <| .far rfl <| .nil _

theorem halves_safe_servedOnce :
    ∃ w, Joint.Moves channel.near channel.far
        (.start (InitiatorHalf.run 2 ⟨{}, none⟩) (TargetHalf.run 2 ⟨⟨{}, none⟩, 0⟩) {}) w ∧
      w.near = .done (.ok 1, ⟨{}, some InitiatorHalf.sampleTag⟩) ∧
      w.far = .done (.ok 1, ⟨⟨{}, some InitiatorHalf.sampleTag⟩, 1⟩) ∧
      Safe 2 ⟨{}, none⟩ w := by
  obtain ⟨t, u, run⟩ := allowed_sampleOrder.moves yields_servedOnce.reaches yields_released.reaches
  exact ⟨_, run, rfl, rfl, halves_safe channel ⟨rfl, rfl⟩ run⟩

end Channel

end Contactless.Relay
