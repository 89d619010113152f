import Contactless.Proofs.Dep.Session

/-! Sessions over a link that delivers every frame in order are faithful. Each step takes both ends
from one place between two steps to the next, where the packet numbers agree again; the script is
followed step by step from the attribute frames to the release. -/
namespace Contactless.Dep

open Wire

section Holding

variable {s : Linked} {t : TargetSide}

/-- What holds of both ends between two steps. -/
structure Held (s : Linked) (t : TargetSide) : Prop where
  aligned : Aligned s t
  receives : t.turn = .receive
  rates : s.link.info.bs = allRates ∧ s.link.info.br = allRates
  requests : payloadLimit s.link.info.pp = payloadLimit longestFrames
  answers : payloadLimit t.pp = payloadLimit longestFrames

theorem pp_setBaud (t : TargetSide) (baud : BaudRate) : (t.setBaud baud).pp = t.pp := by
  obtain ⟨device, description, initiator, turn, pni⟩ := t
  cases initiator <;> rfl

theorem pp_iterate (k : Nat) (t : TargetSide) : (TargetSide.advanced^[k] t).pp = t.pp := by
  unfold TargetSide.pp
  rw [TargetSide.initiator_iterate]

theorem Held.step (held : Held s t) (step : Step) :
    Held (step.onInitiator s) (step.onTarget t) := by
  obtain ⟨aligned, receives, rates, requests, answers⟩ := held
  cases step with
  | attention => exact ⟨aligned, receives, rates, requests, answers⟩
  | setBaud baud =>
      exact ⟨⟨aligned.number, aligned.small⟩, receives, rates, requests,
        (congrArg payloadLimit (pp_setBaud t baud)).trans answers⟩
  | exchange e =>
      refine ⟨aligned.iterate e.numbers, ?_, ?_, ?_, ?_⟩
      · exact (TargetSide.turn_iterate e.numbers t).trans receives
      · rw [Step.onInitiator, Linked.info_iterate]
        exact rates
      · rw [Step.onInitiator, Linked.info_iterate]
        exact requests
      · rw [Step.onTarget, pp_iterate]
        exact answers

theorem cuts_congr {pp qq : UInt8} (same : payloadLimit pp = payloadLimit qq) (payload : Bytes) :
    cuts pp payload = cuts qq payload := by
  unfold cuts
  rw [same]

theorem cuts_le (pp : UInt8) (payload : Bytes) : cuts pp payload ≤ payload.length :=
  length_pieces_le (payloadLimit_pos pp) payload

end Holding

theorem cost_pos (script : List Step) : 0 < cost script := by
  induction script with
  | nil => exact Nat.one_pos
  | cons step rest ih => exact Nat.add_pos_right step.cost ih

section Steps

variable {live : Timeout → Prop} {s : Linked} {t : TargetSide} {n m fuel : Nat}
  {opened : Except Error (Option Target)} {played : List Played}
  {last : Timeout} {first : Except Error Bytes} {served : List Served} {rest : List Step}

def Scales (live : Timeout → Prop) : Prop :=
  ∀ wait rtox, live wait → 1 ≤ rtox → live (wait.scale rtox)

theorem receive_bind {t : TargetSide} (receives : t.turn = .receive) (wait : Timeout) (m : Nat)
    {β : Type} (rest : Except Error Bytes × TargetSide → Dialogue Chip β) :
    (TargetSide.receive wait m t).bind rest = t.receiving wait m m [] rest := by
  rw [t.receive_apply wait m receives]
  rfl

theorem linked_bind_pure {α γ δ : Type} (y : Act Chip Linked γ) (f : γ → δ) (d : Device .initiator)
    (link : Link) (n : Nat) (next : Except Error δ × InitiatorSide → Dialogue Chip α) :
    ((InitiatorSide.linked y >>= fun a => pure (f a)) n ⟨d, some link⟩).bind next =
      (y n ⟨d, link⟩).bind fun r => next (r.1.map f, ⟨r.2.device, some r.2.link⟩) := by
  rw [Act.bind_apply, Dialogue.bind_bind, InitiatorSide.linked_bind]
  congr 1
  funext r
  obtain ⟨outcome, u⟩ := r
  cases outcome <;> rfl

theorem play_cons (step : Step) (s : InitiatorSide) :
    play opened played (step :: rest) n s =
      (step.act n s).bind fun r => play opened (played ++ [⟨r.1, r.2.link⟩]) rest n r.2 := by
  change (step.play >>= fun note => play opened (played ++ [note]) rest) n s = _
  unfold Step.play
  rw [Act.bind_apply, Act.attempt_bind, Dialogue.bind_bind]
  rfl

theorem hops_extensions {α β : Type} {wait : Timeout}
    {next : Except Error Pdu × Linked → Dialogue Chip α} (scales : Scales live)
    (lasts : live wait) (pending : t.turn = .send) :
    ∀ (extensions : List (UInt8 × Timeout))
      (rest : Except Error (List (Except Error Unit)) × TargetSide → Dialogue Chip β),
      (∀ y ∈ extensions, (1 ≤ y.1 ∧ y.1 ≤ rtoxLimit) ∧ live y.2) →
      Hops live
        ⟨.awaiting (s.looking wait n (fuel + extensions.length) next),
          ((extensions.mapM fun y => (TargetSide.requestTime y.1 y.2).attempt) m t).bind rest,
          [], []⟩
        ⟨.awaiting (s.looking wait n fuel next),
          rest (.ok (extensions.map fun _ => .ok ()), t), [], []⟩ := by
  intro extensions
  induction extensions with
  | nil =>
      intro rest _
      exact .refl
  | cons y extensions ih =>
      intro rest allowed
      obtain ⟨⟨least, most⟩, patient⟩ := allowed y List.mem_cons_self
      rw [List.mapM_cons, Act.attempt_bind, Dialogue.bind_bind]
      refine (hops_extension least most (scales wait y.1 lasts least) patient pending).trans ?_
      rw [Act.bind_apply, Dialogue.bind_bind]
      exact ih _ fun z member => allowed z (List.mem_cons_of_mem y member)

theorem hops_serve {α : Type} {next : Except Error Bytes × Linked → Dialogue Chip α}
    {e : Exchange} {more : List Exchange} {wait : Timeout} (scales : Scales live)
    (agreed : live wait) (lasts : live s.device.config.commandTimeout) (aligned : Aligned s t)
    (turn : t.turn = .send)
    (allowed : ∀ y ∈ e.extensions, (1 ≤ y.1 ∧ y.1 ≤ rtoxLimit) ∧ live y.2)
    (patient : live e.sendWait) (enough : e.extensions.length + cuts t.pp e.answer < n) :
    Hops live
      ⟨.awaiting (s.looking wait n n (Linked.collecting n n [] next)),
        serve last first served (e :: more) (.ok e.request) m t, [], []⟩
      ⟨.running (next (.ok e.answer, Linked.advanced^[cuts t.pp e.answer + 1] s)),
        ((TargetSide.advanced^[cuts t.pp e.answer + 1] t).turned .receive).receiving
          (waitBefore last more) m m [] fun r => serve last first
            (served ++ [⟨.ok e.request, e.extensions.map fun _ => .ok (), .ok (),
              (TargetSide.advanced^[cuts t.pp e.answer + 1] t).turned .receive⟩]) more r.1 m r.2,
        [], []⟩ := by
  obtain ⟨left, rfl⟩ : ∃ left, n = left + e.extensions.length :=
    ⟨n - e.extensions.length, by omega⟩
  change Hops live ⟨_, (e.serve (.ok e.request) >>= fun note =>
    (TargetSide.receive (waitBefore last more)).attempt >>= fun next =>
      serve last first (served ++ [note]) more next) m t, _, _⟩ _
  unfold Exchange.serve
  rw [bind_assoc, Act.bind_apply]
  refine (hops_extensions scales agreed turn e.extensions _ allowed).trans ?_
  rw [Act.resume_ok, bind_assoc, Act.attempt_bind]
  have goesOn (u : TargetSide) (receives : u.turn = .receive) :
      ((TargetSide.receive (waitBefore last more)).attempt >>= fun next =>
        serve last first (served ++ [⟨.ok e.request, e.extensions.map fun _ => .ok (), .ok (), u⟩])
          more next) m u =
        u.receiving (waitBefore last more) m m [] fun r => serve last first
          (served ++ [⟨.ok e.request, e.extensions.map fun _ => .ok (), .ok (), u⟩])
          more r.1 m r.2 := by
    rw [Act.attempt_bind, receive_bind receives]
  rw [← goesOn _ rfl]
  refine hops_send aligned turn lasts patient (by omega) (by omega) (by omega) ?_
  intro u receives
  exact (congrArg Dialogue.Listens (goesOn u receives)).mpr (u.listens_receiving _ _ _ _ _)

end Steps

section Scripts

variable {live : Timeout → Prop} {x : Session} {s : Linked} {t : TargetSide} {n m fuel : Nat}
  {played : List Played} {served : List Served} {rest : List Step}

def Step.Lasts (live : Timeout → Prop) : Step → Prop
  | exchange e => live e.receiveWait ∧ live e.sendWait ∧ ∀ y ∈ e.extensions, live y.2
  | _ => True

theorem lasts_waitBefore {last : Timeout} (lasts : live last) (script : List Step)
    (all : ∀ step ∈ script, step.Lasts live) : live (waitBefore last (exchanges script)) := by
  induction script with
  | nil => exact lasts
  | cons step rest ih =>
      have later := ih fun other member => all other (List.mem_cons_of_mem step member)
      cases step with
      | attention => exact later
      | setBaud baud => exact later
      | exchange e => exact (all (.exchange e) List.mem_cons_self).1

theorem iterate_turned {k j : Nat} (receives : t.turn = .receive) :
    (TargetSide.advanced^[j] ((TargetSide.advanced^[k] t).turned .send)).turned .receive =
      TargetSide.advanced^[k + j] t := by
  rw [TargetSide.iterate_advanced, TargetSide.iterate_advanced, TargetSide.iterate_advanced,
    Nat.add_comm, Function.iterate_add_apply]
  unfold TargetSide.turned
  rw [← receives]

theorem config_onInitiator (step : Step) (s : Linked) :
    (step.onInitiator s).device.config = s.device.config := by
  cases step with
  | attention => rfl
  | setBaud baud => rfl
  | exchange e => rw [Step.onInitiator, Linked.device_iterate]

theorem hops_step (step : Step) (held : Held s t) (scales : Scales live)
    (command : live s.device.config.commandTimeout) (last : live x.lastWait)
    (lasts : ∀ other ∈ step :: rest, other.Lasts live) (allowed : step.Allowed)
    (loops : cost (step :: rest) ≤ n) (listens : cost (step :: rest) ≤ m)
    (enough : cost (step :: rest) ≤ fuel) :
    ∃ left, cost rest ≤ left ∧ Hops live (x.between n m played served (step :: rest) s t fuel)
      (x.between n m (played ++ [⟨.ok step.result, some (step.onInitiator s).link⟩])
        (served ++ step.service (step.onTarget t)) rest (step.onInitiator s) (step.onTarget t)
        left) := by
  have patient := lasts_waitBefore last (step :: rest) lasts
  have split : cost (step :: rest) = step.cost + cost rest := rfl
  have positive : 0 < n := Nat.lt_of_lt_of_le (cost_pos _) loops
  unfold Session.between
  rw [play_cons]
  cases step with
  | attention =>
      obtain ⟨left, rfl⟩ := Nat.exists_eq_add_of_le' (Nat.lt_of_lt_of_le (cost_pos _) enough)
      have spent : Step.attention.cost = 1 := rfl
      refine ⟨left, by omega, ?_⟩
      unfold Step.act InitiatorSide.attention Step.service
      rw [linked_bind_pure, List.append_nil]
      exact hops_attention command patient positive
  | setBaud baud =>
      obtain ⟨left, rfl⟩ := Nat.exists_eq_add_of_le' (Nat.lt_of_lt_of_le (cost_pos _) enough)
      have spent : (Step.setBaud baud).cost = 1 := rfl
      refine ⟨left, by omega, ?_⟩
      unfold Step.act InitiatorSide.setBaud Step.service
      rw [linked_bind_pure, List.append_nil]
      exact hops_setBaud command patient (mem_rates held.rates.1 held.rates.2 baud)
  | exchange e =>
      have requests := cuts_congr held.requests e.request
      have answers := cuts_congr held.answers e.answer
      have shortRequest := cuts_le longestFrames e.request
      have shortAnswer := cuts_le longestFrames e.answer
      obtain ⟨-, sendLasts, echoes⟩ := lasts (.exchange e) List.mem_cons_self
      have spent : (Step.exchange e).cost =
          e.request.length + e.answer.length + e.extensions.length + 1 := rfl
      refine ⟨m, by omega, ?_⟩
      unfold Step.act InitiatorSide.transceive Step.service
      rw [linked_bind_pure]
      refine (hops_request held.aligned command patient positive (by omega)).trans ?_
      rw [requests]
      have counted := held.aligned.iterate (cuts longestFrames e.request)
      have after : Aligned (Linked.advanced^[cuts longestFrames e.request] s)
          ((TargetSide.advanced^[cuts longestFrames e.request] t).turned .send) :=
        ⟨counted.number, counted.small⟩
      have sameAnswer : cuts ((TargetSide.advanced^[cuts longestFrames e.request] t).turned
          .send).pp e.answer = cuts longestFrames e.answer :=
        (cuts_congr (congrArg payloadLimit (pp_iterate _ t)) e.answer).trans answers
      have covered : e.extensions.length + cuts ((TargetSide.advanced^[cuts longestFrames
          e.request] t).turned .send).pp e.answer < n := by
        rw [sameAnswer]
        omega
      refine (hops_serve scales command (by rw [Linked.device_iterate]; exact command)
        after rfl (fun y member => ⟨allowed y member, echoes y member⟩) sendLasts covered).trans ?_
      rw [sameAnswer, iterate_turned held.receives, ← Function.iterate_add_apply,
        Nat.add_comm (cuts longestFrames e.answer + 1)]
      exact .refl

/-- What a run of steps takes from both ends, they have. -/
theorem hops_steps (scales : Scales live) (last : live x.lastWait) :
    ∀ (steps : List Step) {s : Linked} {t : TargetSide} (fuel : Nat) (played : List Played)
      (served : List Served), Held s t → live s.device.config.commandTimeout →
      (∀ step ∈ steps ++ rest, step.Lasts live) → (∀ step ∈ steps, step.Allowed) →
      cost (steps ++ rest) ≤ n → cost (steps ++ rest) ≤ m → cost (steps ++ rest) ≤ fuel →
      ∃ left, cost rest ≤ left ∧
        Hops live (x.between n m played served (steps ++ rest) s t fuel)
          (x.between n m (played ++ playing s steps) (served ++ serving t steps) rest
            (steps.foldl (fun s step => step.onInitiator s) s)
            (steps.foldl (fun t step => step.onTarget t) t) left) := by
  intro steps
  induction steps with
  | nil =>
      intro s t fuel played served held command lasts allowed loops listens enough
      refine ⟨fuel, enough, ?_⟩
      unfold playing serving
      rw [List.append_nil, List.append_nil]
      exact .refl
  | cons step steps ih =>
      intro s t fuel played served held command lasts allowed loops listens enough
      have less : cost (steps ++ rest) ≤ cost (step :: steps ++ rest) := by
        change cost (steps ++ rest) ≤ step.cost + cost (steps ++ rest)
        exact Nat.le_add_left _ _
      obtain ⟨left, covers, first⟩ := hops_step step held scales command last lasts
        (allowed step List.mem_cons_self) loops listens enough
      have notes : played ++ playing s (step :: steps) =
          played ++ [⟨.ok step.result, some (step.onInitiator s).link⟩] ++
            playing (step.onInitiator s) steps := by
        rw [List.append_assoc]
        rfl
      have services : served ++ serving t (step :: steps) =
          served ++ step.service (step.onTarget t) ++ serving (step.onTarget t) steps := by
        rw [List.append_assoc]
        rfl
      obtain ⟨final, covered, later⟩ := ih left _ _ (held.step step)
        (by rw [config_onInitiator]; exact command)
        (fun other member => lasts other (List.mem_cons_of_mem step member))
        (fun other member => allowed other (List.mem_cons_of_mem step member))
        (Nat.le_trans less loops) (Nat.le_trans less listens) covers
      rw [notes, services]
      exact ⟨final, covered, first.trans later⟩

end Scripts

section Sessions

variable {live : Timeout → Prop} {x : Session} {n m fuel : Nat}

/-- The attribute frames bring both ends to the place before the script. -/
theorem opened_place (valid : x.Valid) (selects : live x.selectWait) (waits : live x.initWait) :
    Opened live (x.start n m) (x.place n m [] x.script m) := by
  have listens (first : Except Error Bytes) (u : TargetSide) (receives : u.turn = .receive) :
      ((TargetSide.receive (waitBefore x.lastWait (exchanges x.script))).attempt >>= fun next =>
        serve x.lastWait first [] (exchanges x.script) next) m u =
        u.receiving (waitBefore x.lastWait (exchanges x.script)) m m [] fun r =>
          serve x.lastWait first [] (exchanges x.script) r.1 m r.2 := by
    rw [Act.attempt_bind, receive_bind receives]
  have place : x.place n m [] x.script m =
      ⟨.running (play (.ok (some (.dep x.peer))) [] x.script n
          ⟨x.opened.device, some x.opened.link⟩),
        ((TargetSide.receive (waitBefore x.lastWait (exchanges x.script))).attempt >>= fun next =>
          serve x.lastWait x.request.encode [] (exchanges x.script) next) m x.greeted, [], []⟩ := by
    rw [listens _ x.greeted rfl]
    rfl
  unfold Session.start Session.initiate Session.respond
  rw [place, Act.attempt_bind, Act.attempt_bind]
  refine hops_open valid.generalBytes valid.ownBytes selects waits ?_
  intro first u receives
  exact (congrArg Dialogue.Listens (listens first u receives)).mpr
    (u.listens_receiving _ _ _ _ _)

theorem hops_release {s : Linked} {t : TargetSide} {played : List Played} {served : List Served}
    (command : live s.device.config.commandTimeout) (last : live x.lastWait) :
    Hops live (x.between n m played served [] s t (fuel + 1))
      ⟨.running (.done (.ok ⟨.ok (some (.dep x.peer)), played, .ok ()⟩,
          .new { s.device with selected := none })),
        .done (.ok ⟨x.request.encode, served, .error .targetReleased⟩, t.unlinked), [], []⟩ := by
  unfold Session.between play
  rw [Act.attempt_bind]
  exact hops_deselect command last trivial

theorem payloadLimit_flagged (gb : Bytes) :
    payloadLimit (flagGeneralBytes longestFrames gb) = payloadLimit longestFrames := by
  unfold payloadLimit
  rw [frameLimit_flagGeneralBytes]
  rfl

theorem held_opened (x : Session) : Held x.opened x.greeted where
  aligned := ⟨rfl, show (0 : UInt8) ≤ 3 by decide⟩
  receives := rfl
  rates := ⟨rfl, rfl⟩
  requests := payloadLimit_flagged x.own.generalBytes
  answers := payloadLimit_flagged x.request.generalBytes

theorem Held.steps {s : Linked} {t : TargetSide} (held : Held s t) (steps : List Step) :
    Held (steps.foldl (fun s step => step.onInitiator s) s)
      (steps.foldl (fun t step => step.onTarget t) t) := by
  induction steps generalizing s t with
  | nil => exact held
  | cons step steps ih => exact ih (held.step step)

theorem config_foldl (steps : List Step) (s : Linked) :
    (steps.foldl (fun s step => step.onInitiator s) s).device.config = s.device.config := by
  induction steps generalizing s with
  | nil => rfl
  | cons step steps ih => exact (ih (step.onInitiator s)).trans (config_onInitiator step s)

theorem baud_initiator (steps : List Step) (s : Linked) :
    (steps.foldl (fun s step => step.onInitiator s) s).link.info.baud =
      lastBaud s.link.info.baud steps := by
  induction steps generalizing s with
  | nil => rfl
  | cons step steps ih =>
      refine (ih (step.onInitiator s)).trans ?_
      cases step with
      | attention => rfl
      | setBaud baud => rfl
      | exchange e =>
          change lastBaud (Linked.advanced^[e.numbers] s).link.info.baud steps = _
          rw [Linked.info_iterate]
          rfl

theorem baud_target (steps : List Step) {t : TargetSide} {baud : BaudRate}
    (recorded : t.initiator.map DepInfo.baud = some baud) :
    (steps.foldl (fun t step => step.onTarget t) t).initiator.map DepInfo.baud =
      some (lastBaud baud steps) := by
  induction steps generalizing t baud with
  | nil => exact recorded
  | cons step steps ih =>
      cases step with
      | attention => exact ih recorded
      | setBaud next =>
          refine ih ?_
          obtain ⟨peer, known, -⟩ := Option.map_eq_some_iff.mp recorded
          change (t.initiator.map fun i => { i with baud := next }).map DepInfo.baud = some next
          rw [known]
          rfl
      | exchange e =>
          refine ih ?_
          change (TargetSide.advanced^[e.numbers] t).initiator.map DepInfo.baud = some baud
          rw [TargetSide.initiator_iterate]
          exact recorded

structure Session.Lasts (live : Timeout → Prop) (x : Session) : Prop where
  command : live x.initiator.config.commandTimeout
  selects : live x.selectWait
  init : live x.initWait
  last : live x.lastWait
  steps : ∀ step ∈ x.script, step.Lasts live

/-- Any split of the script is a place that the session comes to. -/
theorem opened_split (valid : x.Valid) (lasts : x.Lasts live) (scales : Scales live)
    (loops : cost x.script ≤ n) (listens : cost x.script ≤ m) {done rest : List Step}
    (split : x.script = done ++ rest) :
    ∃ fuel, cost rest ≤ fuel ∧ Opened live (x.start n m) (x.place n m done rest fuel) := by
  have start := opened_place (n := n) (m := m) valid lasts.selects lasts.init
  rw [split] at start loops listens
  obtain ⟨fuel, covers, hops⟩ := hops_steps scales lasts.last done m [] [] (held_opened x)
    lasts.command (fun step member => lasts.steps step (by rw [split]; exact member))
    (fun step member => valid.allowed step (by rw [split]; exact List.mem_append_left rest member))
    loops listens listens
  exact ⟨fuel, covers, start.trans hops⟩

theorem opened_finish (valid : x.Valid) (lasts : x.Lasts live) (scales : Scales live)
    (loops : cost x.script ≤ n) (listens : cost x.script ≤ m) :
    Opened live (x.start n m) x.finish := by
  obtain ⟨fuel, covers, opened⟩ := opened_split valid lasts scales loops listens
    (List.append_nil x.script).symm
  obtain ⟨fuel, rfl⟩ := Nat.exists_eq_add_of_le' covers
  refine opened.trans (hops_release ?_ lasts.last)
  rw [Session.initiatorAfter, config_foldl]
  exact lasts.command

theorem lasting_millis {n : UInt64} : Loopback.Lasting (.millis n) ↔ n.toNat ≠ 0 := by
  unfold Loopback.Lasting Timeout.limit
  rw [ne_eq, Option.some.injEq]

theorem scales_lasting : Scales Loopback.Lasting := by
  intro wait rtox lasting least
  have multiple : 0 < rtox.toNat := least
  cases wait with
  | forever => exact lasting
  | immediate => exact lasting
  | millis n =>
      have positive : 0 < n.toNat * rtox.toNat :=
        Nat.mul_pos (Nat.pos_of_ne_zero (lasting_millis.mp lasting)) multiple
      unfold Timeout.scale
      dsimp only
      split
      · rename_i fits
        rw [lasting_millis, UInt64.toNat_ofNat_of_lt' fits]
        exact Nat.ne_of_gt positive
      · rw [lasting_millis]
        decide

/-- What a session over a link that delivers every frame in order comes to. -/
structure Session.Faithful (x : Session) (n m : Nat) : Prop where
  /-- Every run comes through the place after each step, where the ends agree on the packet number
  and both hold the bit rate that was set last. -/
  places : ∀ done rest, x.script = done ++ rest →
    (x.initiatorAfter done).link.pni = (x.targetAfter done).pni ∧
    (x.initiatorAfter done).link.info.baud = lastBaud x.baud done ∧
    (x.targetAfter done).initiator.map DepInfo.baud = some (lastBaud x.own.baud done) ∧
    ∃ fuel, Passes (x.start n m) (x.place n m done rest fuel)
  /-- Every run ends, and with the notes of a faithful link. -/
  ends : x.finish.Still ∧ ∃ most, ∀ k w, Moves k (x.start n m) w →
    k ≤ most ∧ Moves (most - k) w x.finish
  /-- In a simulated field both programs come to the same results. -/
  field : x.Lasts Loopback.Lasting → ∃ least, ∀ horizon, least ≤ horizon → ∃ pair,
    Loopback.Pair.runBoth horizon {} (x.initiate n (.new x.initiator)).left
      (x.respond m x.target).left = (some x.initiatorResult, some x.targetResult, pair)

theorem lasts_true (x : Session) : x.Lasts fun _ => True where
  command := trivial
  selects := trivial
  init := trivial
  last := trivial
  steps := by
    intro step _
    cases step with
    | attention => exact trivial
    | setBaud baud => exact trivial
    | exchange e => exact ⟨trivial, trivial, fun _ _ => trivial⟩

theorem still_finish (x : Session) : x.finish.Still := by
  rintro v (h | h) <;> cases h

/-- Every session with short general bytes whose target asks for times that may be granted is
faithful, at horizons that cover its script. -/
theorem session_faithful (x : Session) (valid : x.Valid) (n m : Nat) (loops : cost x.script ≤ n)
    (listens : cost x.script ≤ m) : x.Faithful n m where
  places := by
    intro done rest split
    have held := (held_opened x).steps done
    obtain ⟨fuel, -, opened⟩ :=
      opened_split valid (lasts_true x) (fun _ _ _ _ => trivial) loops listens split
    exact ⟨held.aligned.number, baud_initiator done x.opened, baud_target done rfl, fuel,
      opened.passes⟩
  ends := by
    have opened := opened_finish valid (lasts_true x) (fun _ _ _ _ => trivial) loops listens
    exact ⟨still_finish x, opened.passes.le_of_still (still_finish x)⟩
  field := by
    intro lasts
    exact Loopback.runBoth_of_opened (opened_finish valid lasts scales_lasting loops listens)

def Session.sample : Session where
  initiator := ⟨{}, none⟩
  mode := .passive
  baud := .baud106
  generalBytes := some [0x46, 0x66, 0x6d]
  selectWait := .standard
  target := .new ⟨{}, none⟩
  own := ⟨standardNfcid3, 0, allRates, allRates, standardTimeoutExponent, longestFrames, [0x01],
    .passive, .baud106⟩
  initWait := .forever
  script := [.attention, .setBaud .baud424,
    .exchange ⟨[0x01, 0x02, 0x03], [0x04], [(7, .standard)], .forever, .standard⟩]
  lastWait := .forever

theorem session_faithful_sample : Session.sample.Faithful 16 16 := by
  refine session_faithful Session.sample ⟨by decide, by decide, ?_⟩ 16 16 (by decide) (by decide)
  simp only [Session.sample, List.forall_mem_cons, Step.Allowed, List.not_mem_nil, true_and,
    false_imp_iff, implies_true, and_true]
  decide

end Sessions

end Contactless.Dep
