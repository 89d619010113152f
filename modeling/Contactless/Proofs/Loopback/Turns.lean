import Contactless.Proofs.Loopback.Interleaving

/-! How a program at one end of a field goes on, and what has to be known of a property of plays to
follow the initiator through its program with it, beside a target end that only waits for frames. -/
namespace Contactless.Loopback

variable {α β : Type}

/-- A program has nothing to go on with. -/
def Thread.Stuck (role : Role) (p : Pair) : Thread α → Prop
  | running _ => False
  | blocked w _ _ => ∃ p', p.look role w = (.nothing, p')
  | finished _ => True

/-- A program has something to go on with, whatever the time is, and is then at some place. -/
structure Thread.Goes (role : Role) (p : Pair) (place : Thread α → Pair → Prop) (t : Thread α) :
    Prop where
  free : ¬ t.Stuck role p
  steps : ∀ now, ∃ t' p', t.step role now p = some (t', p') ∧ place t' p'

section Goes

variable {role : Role} {p p' : Pair} {t : Thread α} {place place' : Thread α → Pair → Prop}
  {call : Chip.Call} {next : call.Answer → Dialogue Terminal α} {w : Wait}
  {deadline : Option Nat} {resume : Except Error BitFrame → Dialogue Terminal α}

theorem Thread.Goes.mono (goes : t.Goes role p place) (le : ∀ t' p', place t' p' → place' t' p') :
    t.Goes role p place' := by
  refine ⟨goes.free, fun now => ?_⟩
  obtain ⟨t', p', steps, there⟩ := goes.steps now
  exact ⟨t', p', steps, le _ _ there⟩

theorem goes_settled {answer : call.Answer} (begins : p.begin role call = .settled answer p')
    (there : place (.running (next answer)) p') :
    (Thread.running (.ask (.inl call) next)).Goes role p place := by
  refine ⟨id, fun now => ⟨_, _, ?_, there⟩⟩
  unfold Thread.step
  dsimp only
  rw [begins]

theorem goes_waits {wait : Timeout} {finish : Except Error BitFrame → call.Answer}
    (begins : p.begin role call = .wait w wait finish p')
    (there : ∀ now, place (.blocked w (Thread.deadlineOf now wait) fun r => next (finish r)) p') :
    (Thread.running (.ask (.inl call) next)).Goes role p place := by
  refine ⟨id, fun now => ⟨_, _, ?_, there now⟩⟩
  unfold Thread.step
  dsimp only
  rw [begins]

theorem goes_found {result : Except Error BitFrame} (looks : p.look role w = (.found result, p'))
    (there : place (.running (resume result)) p') :
    (Thread.blocked w deadline resume).Goes role p place := by
  refine ⟨fun ⟨q, nothing⟩ => (nomatch looks.symm.trans nothing), fun now => ⟨_, _, ?_, there⟩⟩
  unfold Thread.step
  dsimp only
  rw [looks]

theorem goes_forwarded {again : Timeout} (looks : p.look role w = (.forwarded again, p'))
    (there : ∀ now, place (.blocked .reply (Thread.deadlineOf now again) resume) p') :
    (Thread.blocked w deadline resume).Goes role p place := by
  refine ⟨fun ⟨q, nothing⟩ => (nomatch looks.symm.trans nothing), fun now => ⟨_, _, ?_, there now⟩⟩
  unfold Thread.step
  dsimp only
  rw [looks]

end Goes

/-- A target end is in the field, with nothing to receive and no abort request for anybody. -/
structure Pair.Calm (p : Pair) : Prop where
  armed : ∃ a, p.field.presence = .armed a
  toTarget : p.field.toTarget = []
  initiator : p.initiator.aborted = false
  target : p.target.aborted = false

theorem look_frame {p : Pair} (calm : p.Calm) : p.look .target .frame = (.nothing, p) := by
  obtain ⟨⟨a, armed⟩, empty, -, free⟩ := calm
  obtain ⟨⟨presence, toTarget, toInitiator⟩, initiator, ⟨aborted, crc⟩⟩ := p
  dsimp only at armed empty free
  subst armed empty free
  rfl

/-- The first look of an exchange with an armed target end. -/
theorem look_presence (a : Armed) (frame : BitFrame) (wait : Timeout)
    (toTarget toInitiator : List Bytes) (crc : Bool) (target : End) :
    Pair.look ⟨⟨.armed a, toTarget, toInitiator⟩, ⟨false, crc⟩, target⟩ .initiator
        (.presence frame wait) =
      match a.react frame crc with
      | (.reply reply, a') =>
        (.found (.ok reply), ⟨⟨.armed a', toTarget, toInitiator⟩, ⟨false, crc⟩, target⟩)
      | (.silent, a') =>
        (.found (.error .rfTimeout), ⟨⟨.armed a', toTarget, toInitiator⟩, ⟨false, crc⟩, target⟩)
      | (.failure e, a') =>
        (.found (.error e), ⟨⟨.armed a', toTarget, toInitiator⟩, ⟨false, crc⟩, target⟩)
      | (.forward bytes, a') =>
        (.forwarded wait, ⟨⟨.armed a', toTarget ++ [bytes], []⟩, ⟨false, crc⟩, target⟩) := by
  refine (if_neg Bool.false_ne_true).trans ?_
  dsimp only [Pair.peek, Field.offer, Pair.ofRole]
  obtain ⟨reaction, a'⟩ := a.react frame crc
  cases reaction <;> rfl

section Rounds

variable {timely : Option Nat → Prop} {harmless : Dialogue Terminal α → Prop}
  {aside : (Except Error Bytes → Dialogue Terminal β) → Thread β → Prop} {q : Play α β → Prop}

/-- Both chips while the host of the target end has given an answer to every frame. -/
def Pair.held (a : Armed) (toTarget toInitiator : List Bytes) : Pair :=
  ⟨⟨.armed a, toTarget, toInitiator⟩, {}, {}⟩

theorem calm_held (a : Armed) (toInitiator : List Bytes) : (Pair.held a [] toInitiator).Calm :=
  ⟨⟨a, rfl⟩, rfl, rfl, rfl⟩

theorem stuck_reply (a : Armed) (frames : List Bytes) (deadline : Option Nat)
    (resume : Except Error BitFrame → Dialogue Terminal α) :
    (Thread.blocked .reply deadline resume).Stuck .initiator (.held a frames []) := ⟨_, rfl⟩

/-- What holds of a play because of all that its programs can do next. The initiator may have to
wait for the target end, and its wait may run out as far as that does no harm; the target end may
stand aside and wait for frames. -/
structure Carries (timely : Option Nat → Prop) (harmless : Dialogue Terminal α → Prop)
    (aside : (Except Error Bytes → Dialogue Terminal β) → Thread β → Prop)
    (q : Play α β → Prop) : Prop where
  /-- Both ends have something to go on with. -/
  either {i : Thread α} {t : Thread β} {p : Pair} :
    i.Goes .initiator p (fun i' p' => q ⟨i', t, p'⟩) →
    t.Goes .target p (fun t' p' => q ⟨i, t', p'⟩) → q ⟨i, t, p⟩
  /-- The initiator waits, and the target end can go on. -/
  await {t : Thread β} {p : Pair} {w : Wait} {deadline : Option Nat}
      {resume : Except Error BitFrame → Dialogue Terminal α} :
    (Thread.blocked w deadline resume).Stuck .initiator p → timely deadline →
    harmless (resume w.expiry) →
    t.Goes .target p (fun t' p' => q ⟨.blocked w deadline resume, t', p'⟩) →
    q ⟨.blocked w deadline resume, t, p⟩
  /-- The initiator can go on, whatever becomes of the target end that stands aside. -/
  beside {next : Except Error Bytes → Dialogue Terminal β} {i : Thread α} {t : Thread β}
      {p : Pair} : aside next t → p.Calm →
    i.Goes .initiator p (fun i' p' => ∀ t', aside next t' → q ⟨i', t', p'⟩) → q ⟨i, t, p⟩
  /-- A target end that stands aside takes the frame whose answer the initiator waits for. -/
  takes {next : Except Error Bytes → Dialogue Terminal β} {t : Thread β} {a : Armed}
      {frame : Bytes} {deadline : Option Nat}
      {resume : Except Error BitFrame → Dialogue Terminal α} : aside next t → timely deadline →
    harmless (resume Wait.reply.expiry) →
    q ⟨.blocked .reply deadline resume, .running (next (.ok frame)), .held a [] []⟩ →
    q ⟨.blocked .reply deadline resume, t, .held a [frame] []⟩

/-- A program at the target end that waits so long for the next frame, and ends if none has come by
then, stands aside. -/
structure Stands (aside : (Except Error Bytes → Dialogue Terminal β) → Thread β → Prop)
    (wait : Timeout) : Prop where
  calls {next : Except Error Bytes → Dialogue Terminal β} {ended : β} :
    next (.error .timeout) = .done ended →
    aside next (.running (.ask (.inl (.receive wait)) next))
  waits {next : Except Error Bytes → Dialogue Terminal β} {ended : β} :
    next (.error .timeout) = .done ended → ∀ now,
    aside next
      (.blocked .frame (Thread.deadlineOf now wait) fun r => next (r.map BitFrame.data))

/-- A frame that the chip gives to its host comes back with the answer of that host. -/
theorem Carries.round (carries : Carries timely harmless aside q) {a a' : Armed}
    {frame reply : Bytes} {toInitiator : List Bytes} {wait pause patience : Timeout} {ended : β}
    (forwards : a.react (.ofBytes frame) true = (.forward frame, a'))
    (lasts : ∀ now, timely (Thread.deadlineOf now wait))
    {next listening : Except Error Bytes → Dialogue Terminal β}
    {hearing : Except Error Unit → Dialogue Terminal β}
    (serves : next (.ok frame) = .ask (.inl (.send reply pause)) hearing)
    (listens : hearing (.ok ()) = .ask (.inl (.receive patience)) listening)
    (stands : Stands aside patience) (quits : listening (.error .timeout) = .done ended)
    {more : Except Error Bytes → Dialogue Terminal α} (fails : ∀ e, harmless (more (.error e)))
    (later : ∀ t', aside listening t' → q ⟨.running (more (.ok reply)), t', .held a' [] []⟩)
    {t : Thread β} (here : aside next t) :
    q ⟨.running (.ask (.inl (.bytes frame wait)) more), t, .held a [] toInitiator⟩ := by
  have looks : (Pair.held a [] toInitiator).look .initiator (.presence (.ofBytes frame) wait) =
      (.forwarded wait, .held a' [frame] []) := by
    refine (look_presence a (.ofBytes frame) wait [] toInitiator true {}).trans ?_
    rw [forwards]
    rfl
  -- The frame is sent, taken and answered, and the answer is taken.
  refine carries.beside here (calm_held a _) (goes_waits rfl fun now t₁ still => ?_)
  refine carries.beside still (calm_held a _) (goes_forwarded looks fun now t₂ still => ?_)
  refine carries.takes still (lasts now) (fails .rfTimeout) ?_
  rw [serves]
  refine carries.await (stuck_reply a' [] _ _) (lasts now) (fails .rfTimeout) (goes_settled rfl ?_)
  rw [listens]
  exact carries.beside (stands.calls quits) (calm_held a' _) (goes_found rfl later)

end Rounds

end Contactless.Loopback
