import Contactless.Proofs.Ensures
import Contactless.Proofs.Initiator.Manners
import Contactless.Proofs.Loopback.Delivery
import Contactless.Proofs.Loopback.Turns

/-! Searches of the field beside a target end that stands aside, or that is still to appear. What a
search comes to while nobody uses the other end decides what it comes to there. -/
namespace Contactless.Loopback

variable {α β γ : Type}

section Alone

variable {p p' : Pair} {call : Chip.Call} {frame : BitFrame} {wait again : Timeout}
  {result : Except Error BitFrame}

/-- What is asked of the chip to search the field. -/
def Searches (call : Chip.Call) : Prop := call.isExchange = true ∨ call.isSwitch = true

/-- A dialogue asks the chip to search the field, and nothing else. -/
inductive Searching : Dialogue Chip γ → Prop
  | done (a : γ) : Searching (.done a)
  | cut : Searching .cut
  | ask {call : Chip.Call} {next : call.Answer → Dialogue Chip γ} : Searches call →
      (∀ r, Searching (next r)) → Searching (.ask call next)

theorem Searching.bind {d : Dialogue Chip α} {k : α → Dialogue Chip β}
    (first : Searching d) (rest : ∀ a, Searching (k a)) : Searching (d.bind k) := by
  induction first with
  | done a => exact rest a
  | cut => exact .cut
  | ask searches _ ih => exact .ask searches ih

theorem begin_exchange (exchanges : call.isExchange = true) :
    ∃ frame wait finish, ∀ p : Pair,
      p.begin .initiator call = .wait (.presence frame wait) wait finish p := by
  cases call with
  | bits frame wait => exact ⟨frame, wait, _, fun _ => rfl⟩
  | bytes frame wait => exact ⟨.ofBytes frame, wait, _, fun _ => rfl⟩
  | _ => cases exchanges

theorem alone_exchange {w : Wait} {finish : Except Error BitFrame → call.Answer}
    (begins : p.begin .initiator call = .wait w wait finish p) :
    Pair.alone .initiator call p =
      (finish (p.waitAlone .initiator w wait).1, (p.waitAlone .initiator w wait).2) := by
  unfold Pair.alone
  rw [begins]

theorem toTarget_look {w : Wait} (exchanges : w.exchanges) (p : Pair) (role : Role) :
    p.field.toTarget <+: (p.look role w).2.field.toTarget := by
  have change := change_look p role w
  have kind {e : Event} : Event.ofLook p w (p.look role w) = some e → ¬ e.ofHost := by
    intro told
    have kind := kind_of_look told
    cases w with
    | presence =>
        rcases kind with ⟨_, rfl⟩ | ⟨_, rfl⟩ <;> exact Bool.false_ne_true
    | reply =>
        rcases kind with ⟨_, _, rfl⟩ | ⟨_, rfl⟩ <;> exact Bool.false_ne_true
    | _ => cases exchanges
  generalize Event.ofLook p w (p.look role w) = e at change kind
  generalize p.field = f at change
  generalize (p.look role w).2.field = f' at change
  cases change with
  | aside _ _ toTarget _ => exact toTarget ▸ List.prefix_rfl
  | forwarded => exact List.prefix_append _ _
  | returned => exact List.prefix_rfl
  | sent => exact List.prefix_rfl
  | received | armed | idled => exact absurd rfl (kind rfl)

theorem toTarget_waitAlone (p : Pair) (frame : BitFrame) (wait again : Timeout) :
    p.field.toTarget <+:
      (p.waitAlone .initiator (.presence frame wait) again).2.field.toTarget := by
  have first := toTarget_look (w := .presence frame wait) rfl p .initiator
  unfold Pair.waitAlone
  cases seen : p.look .initiator (.presence frame wait) with
  | mk l p₁ =>
      rw [seen] at first
      cases l with
      | found | nothing => exact first
      | forwarded again =>
          refine first.trans ?_
          have second := toTarget_look (w := .reply) rfl p₁ .initiator
          dsimp only
          cases seen : p₁.look .initiator .reply with
          | mk l p₂ =>
              rw [seen] at second
              cases l <;> exact second

theorem alone_configure (p : Pair) (switch : Switch) (on : Bool) :
    Pair.alone .initiator (.configure switch on) p =
      (.ok (), (p.begin .initiator (.configure switch on)).next) := rfl

theorem toTarget_alone (searches : Searches call) (p : Pair) :
    p.field.toTarget <+: (Pair.alone .initiator call p).2.field.toTarget := by
  rcases searches with exchanges | switches
  · obtain ⟨frame, wait, finish, begins⟩ := begin_exchange exchanges
    rw [alone_exchange (begins p)]
    exact toTarget_waitAlone p frame wait wait
  · cases call with
    | configure switch on =>
        have kept := field_configure p .initiator switch on
        rw [alone_configure]
        exact kept ▸ List.prefix_rfl
    | _ => cases switches

theorem Searching.toTarget_run {d : Dialogue Chip γ} (searching : Searching d) (p : Pair) :
    p.field.toTarget <+: (d.run (Pair.alone .initiator) p).2.field.toTarget := by
  induction searching generalizing p with
  | done | cut => exact List.prefix_rfl
  | ask searches _ ih => exact (toTarget_alone searches p).trans (ih _ _)

/-- A frame that the chip of a calm field answers is answered at the first look. -/
theorem look_of_waitAlone (calm : p.Calm)
    (waited : p.waitAlone .initiator (.presence frame wait) again = (result, p'))
    (kept : p'.field.toTarget = []) :
    p.look .initiator (.presence frame wait) = (.found result, p') ∧ p'.Calm := by
  obtain ⟨⟨a, armed⟩, empty, free, host⟩ := calm
  obtain ⟨⟨presence, toTarget, toInitiator⟩, ⟨aborted, crc⟩, target⟩ := p
  dsimp only at armed empty free host
  subst armed empty free
  unfold Pair.waitAlone at waited
  rw [look_presence] at waited ⊢
  generalize a.react frame crc = reacted at waited ⊢
  obtain ⟨reaction, a'⟩ := reacted
  cases reaction with
  | forward bytes =>
      cases waited
      cases kept
  | _ =>
      cases waited
      exact ⟨rfl, ⟨a', rfl⟩, rfl, rfl, host⟩

end Alone

section Searches

variable {timely : Option Nat → Prop} {harmless : Dialogue Terminal α → Prop}
  {aside : (Except Error Bytes → Dialogue Terminal β) → Thread β → Prop} {q : Play α β → Prop}
  {next : Except Error Bytes → Dialogue Terminal β} {t : Thread β} {p p' : Pair}

/-- The first look of an exchange that the chip answers. -/
theorem Carries.answered (carries : Carries timely harmless aside q) {frame : BitFrame}
    {wait again : Timeout} {result : Except Error BitFrame} {deadline : Option Nat}
    {resume : Except Error BitFrame → Dialogue Terminal α} (calm : p.Calm)
    (waited : p.waitAlone .initiator (.presence frame wait) again = (result, p'))
    (kept : p'.field.toTarget = []) (here : aside next t)
    (later : p'.Calm → ∀ t', aside next t' → q ⟨.running (resume result), t', p'⟩) :
    q ⟨.blocked (.presence frame wait) deadline resume, t, p⟩ := by
  obtain ⟨looks, calm'⟩ := look_of_waitAlone calm waited kept
  exact carries.beside here calm (goes_found looks (later calm'))

theorem aborted_configure (p : Pair) (switch : Switch) (on : Bool) :
    (p.begin .initiator (.configure switch on)).next.initiator.aborted = p.initiator.aborted ∧
      (p.begin .initiator (.configure switch on)).next.target = p.target := by
  change (if switch = .handleCrc then p.set .initiator _ else p).initiator.aborted = _ ∧
    (if switch = .handleCrc then p.set .initiator _ else p).target = _
  split
  · exact ⟨rfl, rfl⟩
  · exact ⟨rfl, rfl⟩

theorem Pair.Calm.configure (calm : p.Calm) (switch : Switch) (on : Bool) :
    (p.begin .initiator (.configure switch on)).next.Calm := by
  have kept := field_configure p .initiator switch on
  obtain ⟨free, host⟩ := aborted_configure p switch on
  exact ⟨kept ▸ calm.armed, kept ▸ calm.toTarget, free ▸ calm.initiator, host ▸ calm.target⟩

/-- The first look of an exchange, when it is known what follows it. -/
theorem Carries.asked (carries : Carries timely harmless aside q) {call : Chip.Call}
    {rest : call.Answer → Dialogue Chip γ} {a : γ} {k : γ → Dialogue Chip α} {frame : BitFrame}
    {wait : Timeout} {deadline : Option Nat} {finish : Except Error BitFrame → call.Answer}
    (begins : p.begin .initiator call = .wait (.presence frame wait) wait finish p)
    (searching : ∀ r, Searching (rest r)) (kept : p'.field.toTarget = [])
    (goes : ∀ r p₁ t', p₁.Calm → (rest r).run (Pair.alone .initiator) p₁ = (some a, p') →
      aside next t' → q ⟨.running ((rest r).bind k).left, t', p₁⟩)
    (calm : p.Calm) (ran : (Dialogue.ask call rest).run (Pair.alone .initiator) p = (some a, p'))
    (here : aside next t) :
    q ⟨.blocked (.presence frame wait) deadline fun r => ((rest (finish r)).bind k).left, t,
      p⟩ := by
  unfold Dialogue.run at ran
  rw [alone_exchange begins] at ran
  cases waited : p.waitAlone .initiator (.presence frame wait) wait with
  | mk result p₁ =>
      rw [waited] at ran
      have quiet : p₁.field.toTarget = [] := by
        have leads := (searching (finish result)).toTarget_run p₁
        rw [show (rest (finish result)).run _ p₁ = _ from ran, kept] at leads
        exact List.prefix_nil.mp leads
      exact carries.answered calm waited quiet here fun calm' t' still =>
        goes _ p₁ t' calm' ran still

/-- What a search comes to while nobody uses the other end, it comes to beside a target end that
stands aside, if no frame of it is meant for the host there. -/
theorem Carries.search (carries : Carries timely harmless aside q) {d : Dialogue Chip γ}
    (searching : Searching d) {a : γ} {k : γ → Dialogue Chip α} (kept : p'.field.toTarget = [])
    (later : p'.Calm → ∀ t', aside next t' → q ⟨.running (k a).left, t', p'⟩) (calm : p.Calm)
    (ran : d.run (Pair.alone .initiator) p = (some a, p')) (here : aside next t) :
    q ⟨.running (d.bind k).left, t, p⟩ := by
  induction searching generalizing p t with
  | done b =>
      cases ran
      exact later calm t here
  | cut => cases ran
  | @ask call rest searches searching ih =>
      rcases searches with exchanges | switches
      · obtain ⟨frame, wait, finish, begins⟩ := begin_exchange exchanges
        exact carries.beside here calm (goes_waits (begins p) fun _ t' still =>
          carries.asked (begins p) searching kept
            (fun r _ _ calm' ran still => ih r calm' ran still) calm ran still)
      · cases call with
        | configure switch on =>
            exact carries.beside here calm (goes_settled rfl fun t' still =>
              ih _ (calm.configure switch on) ran still)
        | _ => cases switches

/-- A search calls into the field before it ends, whether anybody is there or not. When nobody has
been there for so long, it comes to nothing but these results. -/
inductive Knocking (wait : Timeout) (lost : γ → Prop) : Dialogue Chip γ → Prop
  | bits {frame : BitFrame} {next : Except Error BitFrame → Dialogue Chip γ} :
      (next (.error .timeout)).Gives lost → Knocking wait lost (.ask (.bits frame wait) next)
  | configure {switch : Switch} {on : Bool} {next : Except Error Unit → Dialogue Chip γ} :
      Knocking wait lost (next (.ok ())) → Knocking wait lost (.ask (.configure switch on) next)

theorem Knocking.bind {wait : Timeout} {lost : α → Prop} {lost' : β → Prop} {d : Dialogue Chip α}
    {k : α → Dialogue Chip β} (knocking : Knocking wait lost d)
    (rest : ∀ a, lost a → (k a).Gives lost') : Knocking wait lost' (d.bind k) := by
  induction knocking with
  | bits misses => exact .bits (misses.bind rest)
  | configure _ ih => exact .configure ih

/-- The pair when the target end appears. -/
def Pair.armed (p : Pair) (target : Target) : Pair := { p with field := p.field.arm target }

theorem armed_configure (p : Pair) (target : Target) (switch : Switch) (on : Bool) :
    (p.begin .initiator (.configure switch on)).next.armed target =
      ((p.armed target).begin .initiator (.configure switch on)).next := by
  change Pair.armed (if switch = .handleCrc then _ else _) target =
    if switch = .handleCrc then _ else _
  split <;> rfl

theorem stuck_presence {frame : BitFrame} {again : Timeout}
    (absent : p.field.presence = .absent) (free : p.initiator.aborted = false)
    (deadline : Option Nat) (resume : Except Error BitFrame → Dialogue Terminal α) :
    (Thread.blocked (.presence frame again) deadline resume).Stuck .initiator p := by
  obtain ⟨⟨presence, toTarget, toInitiator⟩, ⟨aborted, crc⟩, host⟩ := p
  dsimp only at absent free
  subst absent free
  exact ⟨_, rfl⟩

/-- A search that begins before the target end appears waits for it. -/
theorem Carries.knock (carries : Carries timely harmless aside q) {wait : Timeout}
    {lost : γ → Prop} (lasts : ∀ now, timely (Thread.deadlineOf now wait)) {d : Dialogue Chip γ}
    (knocking : Knocking wait lost d) (searching : Searching d) {a : γ} {k : γ → Dialogue Chip α}
    (fails : ∀ d : Dialogue Chip γ, d.Gives lost → harmless (d.bind k).left)
    (kept : p'.field.toTarget = [])
    (later : p'.Calm → ∀ t', aside next t' → q ⟨.running (k a).left, t', p'⟩) {target : Target}
    {patience : Timeout}
    (waits : ∀ now, aside next
      (.blocked .frame (Thread.deadlineOf now patience) fun r => next (r.map BitFrame.data)))
    (absent : p.field.presence = .absent) (free : p.initiator.aborted = false)
    (host : p.target.aborted = false)
    (ran : d.run (Pair.alone .initiator) (p.armed target) = (some a, p')) :
    q ⟨.running (d.bind k).left, .running (.ask (.inl (.arm target patience)) next), p⟩ := by
  have calm {p : Pair} (free : p.initiator.aborted = false) (host : p.target.aborted = false) :
      (p.armed target).Calm := ⟨⟨_, rfl⟩, rfl, free, host⟩
  -- Once the target end is there, it waits, and the search goes on from where it stands.
  have appears {i : Thread α} {p : Pair}
      (arrived : ∀ t', aside next t' → q ⟨i, t', p.armed target⟩) :
      (Thread.running (.ask (.inl (.arm target patience)) next)).Goes .target p fun t' p' =>
        q ⟨i, t', p'⟩ :=
    goes_waits rfl fun now => arrived _ (waits now)
  have arrived {d : Dialogue Chip γ} {p : Pair} (searching : Searching d)
      (free : p.initiator.aborted = false) (host : p.target.aborted = false)
      (ran : d.run (Pair.alone .initiator) (p.armed target) = (some a, p')) (t' : Thread β)
      (here : aside next t') : q ⟨.running (d.bind k).left, t', p.armed target⟩ :=
    carries.search searching kept later (calm free host) ran here
  induction knocking generalizing p with
  | @bits frame rest misses =>
      refine carries.either (goes_waits rfl fun now => ?_)
        (appears (arrived searching free host ran))
      cases searching with
      | ask _ searching =>
          refine carries.await (stuck_presence absent free _ _) (lasts now) (fails _ misses)
            (appears fun t' here => ?_)
          exact carries.asked rfl searching kept
            (fun r _ _ calm' ran here => carries.search (searching r) kept later calm' ran here)
            (calm free host) ran here
  | @configure switch on rest _ ih =>
      refine carries.either (goes_settled rfl ?_) (appears (arrived searching free host ran))
      cases searching with
      | ask _ searching =>
          obtain ⟨free', host'⟩ := aborted_configure p switch on
          have ran : (rest (.ok ())).run (Pair.alone .initiator)
              ((p.begin .initiator (.configure switch on)).next.armed target) = (some a, p') := by
            rw [armed_configure]
            exact ran
          exact ih (searching _) (field_configure p .initiator switch on ▸ absent)
            (free'.trans free) (host' ▸ host) ran

end Searches

end Contactless.Loopback

namespace Contactless.Act

variable {α β σ τ : Type}

/-- An action asks the chip to search the field, and nothing else. -/
def Searching (x : Act Chip σ α) : Prop := ∀ n s, Loopback.Searching (x n s)

theorem Searching.bind {x : Act Chip σ α} {f : α → Act Chip σ β} (first : x.Searching)
    (rest : ∀ a, (f a).Searching) : (x >>= f).Searching := by
  intro n s
  rw [bind_apply]
  refine (first n s).bind fun (r, s) => ?_
  cases r with
  | error e => exact .done _
  | ok a => exact rest a n s

theorem Searching.attempt {x : Act Chip σ α} (searching : x.Searching) :
    x.attempt.Searching :=
  fun n s => (searching n s).bind fun _ => .done _

theorem searching_ofExcept (r : Except Error α) : (ofExcept r : Act Chip σ α).Searching :=
  fun _ s => .done (r, s)

theorem searching_configure (switch : Switch) (on : Bool) :
    (Chip.configure switch on : Act Chip σ Unit).Searching :=
  fun _ _ => .ask (.inr rfl) fun _ => .done _

theorem searching_of_minds {x : Act Chip σ α} (minds : x.Minds Chip.searching) : x.Searching := by
  intro n s
  have minds := minds n s
  generalize x n s = d at minds
  induction minds with
  | done a => exact .done a
  | cut => exact .cut
  | ask asks _ _ ih => exact .ask (.inl (Chip.searching_exchanges _ asks)) ih

theorem Searching.withRawFraming {x : Act Chip σ α} (searching : x.Searching) :
    (Chip.withRawFraming x).Searching := by
  have restores : (Chip.restoreFraming : Act Chip σ Unit).Searching :=
    (searching_configure _ _).bind fun _ => searching_configure _ _
  exact (searching_configure _ _).bind fun _ => (searching_configure _ _).bind fun _ =>
    searching.attempt.bind fun _ => restores.attempt.bind fun _ => searching_ofExcept _

theorem Searching.within {t : τ} {x : Act Chip τ α} (searching : x.Searching) :
    (within t x : Act Chip σ α).Searching :=
  fun n _ => (searching n t).bind fun _ => .done _

/-- A search has found nobody. -/
def Missed (r : Except Error (Option α) × σ) : Prop := ∀ found, r.1 ≠ .ok (some found)

open Loopback (Knocking) in
theorem knocking_withRawFraming {wait : Timeout} {x : Act Chip σ (Option α)} {n : Nat} {s : σ}
    (knocking : Knocking wait Missed (x n s)) :
    Knocking wait Missed (Chip.withRawFraming x n s) := by
  have restores (outcome : Except Error (Option α)) (missed : ∀ found, outcome ≠ .ok (some found))
      (s : σ) : (do
        let restored ← Chip.restoreFraming.attempt
        ofExcept (Chip.firstFailure outcome restored)).Ensures s fun r s' => Missed (r, s') := by
    refine ensures_any.bind (fun restored s' _ => ensures_ofExcept fun found same => ?_)
      fun _ _ _ _ same => nomatch same
    cases outcome with
    | error e => cases same
    | ok nobody =>
        cases restored with
        | error e => cases same
        | ok done => exact missed found same
  refine .configure (.configure ?_)
  change Knocking wait Missed ((do
    let outcome ← x.attempt
    let restored ← Chip.restoreFraming.attempt
    ofExcept (Chip.firstFailure outcome restored)) n s)
  rw [attempt_bind]
  exact knocking.bind fun (outcome, s) missed => (restores outcome missed s).gives n

open Loopback (Knocking) in
theorem knocking_within {wait : Timeout} {t : τ} {x : Act Chip τ (Option α)} {n : Nat} (s : σ)
    (knocking : Knocking wait Missed (x n t)) :
    Knocking wait Missed ((within t x : Act Chip σ (Option α)) n s) :=
  knocking.bind fun _ missed => Dialogue.gives_done missed

end Contactless.Act
