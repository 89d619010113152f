import Contactless.Proofs.Emulation.Session
import Contactless.Proofs.Loopback.Prompt

/-! A host at the target end that answers the frames it is given. Any exchange of a frame that the
chip does not answer by itself ends with the answer of such a host, in whatever order both programs
go on, if the waits are long enough for it. -/
namespace Contactless.Loopback

variable {α β : Type}

/-- What is left of a program at the target end answers at least so many frames. -/
def Hosts : Nat → (Except Error Bytes → Dialogue Terminal β) → Prop
  | 0, _ => True
  | count + 1, next => ∀ frame, ∃ reply pause hearing patience listening,
      next (.ok frame) = .ask (.inl (.send reply pause)) hearing ∧
        hearing (.ok ()) = .ask (.inl (.receive patience)) listening ∧
          Lasting patience ∧ Hosts count listening

/-- The chips at both ends while no frame waits for the host of the target end. -/
def Pair.quiet (a : Armed) (toInitiator : List Bytes) (handleCrc : Bool) (host : End) : Pair :=
  ⟨⟨.armed a, [], toInitiator⟩, ⟨false, handleCrc⟩, host⟩

section Rounds

variable {goal : Play α β → Prop} {next : Except Error Bytes → Dialogue Terminal β}
  {t : Thread β} {a a' : Armed} {host : End} {frame data : Bytes} {toInitiator : List Bytes}
  {wait : Timeout} {handleCrc : Bool} {more : Except Error Bytes → Dialogue Terminal α}

theorem calm_quiet (a : Armed) (toInitiator : List Bytes) (handleCrc : Bool)
    (free : host.aborted = false) : (Pair.quiet a toInitiator handleCrc host).Calm :=
  ⟨⟨a, rfl⟩, rfl, rfl, free⟩

theorem Pair.Calm.eq_quiet {p : Pair} (calm : p.Calm) (placed : p.field.presence = .armed a) :
    p = .quiet a p.field.toInitiator p.initiator.handleCrc p.target := by
  obtain ⟨-, empty, free, -⟩ := calm
  obtain ⟨⟨presence, toTarget, toInitiator⟩, ⟨aborted, handleCrc⟩, host⟩ := p
  dsimp only at placed empty free
  rw [placed, empty, free]
  rfl

/-- A target end that rests takes the frame that waits for it. -/
theorem inevitable_takes (resting : Resting next t) {p p' : Pair} {deadline : Option Nat}
    {resume : Except Error BitFrame → Dialogue Terminal α} (early : Open deadline 0)
    (stuck : (Thread.blocked .reply deadline resume).Stuck .initiator p)
    (looks : p.look .target .frame = (.found (.ok (.ofBytes data)), p'))
    (later : Inevitable Play.Turn goal
      ⟨.blocked .reply deadline resume, .running (next (.ok data)), p'⟩) :
    Inevitable Play.Turn goal ⟨.blocked .reply deadline resume, t, p⟩ := by
  have taken {deadline' : Option Nat} : Inevitable Play.Turn goal
      ⟨.blocked .reply deadline resume,
        .blocked .frame deadline' fun r => next (r.map BitFrame.data), p⟩ :=
    inevitable_target (goes_found looks later) stuck early
  cases resting with
  | calls _ => exact inevitable_target (goes_waits rfl fun _ => taken) stuck early
  | waits _ => exact taken

/-- A frame that the chip gives to its host comes back with an answer of that host. -/
theorem inevitable_round {count : Nat} (hosts : Hosts (count + 1) next)
    (free : host.aborted = false) (lasts : Lasting wait)
    (forwards : a.react (.ofBytes frame) handleCrc = (.forward data, a'))
    (later : ∀ reply listening t', Hosts count listening → Resting listening t' →
      Inevitable Play.Turn goal
        ⟨.running (more (.ok reply)), t', .quiet a' [] handleCrc host⟩)
    (resting : Resting next t) :
    Inevitable Play.Turn goal
      ⟨.running (.ask (.inl (.bytes frame wait)) more), t,
        .quiet a toInitiator handleCrc host⟩ := by
  have carries := carries_inevitable goal
  obtain ⟨aborted, checks⟩ := host
  obtain rfl : aborted = false := free
  obtain ⟨reply, pause, hearing, patience, listening, sends, receives, patient, further⟩ :=
    hosts data
  have looks : (Pair.quiet a toInitiator handleCrc ⟨false, checks⟩).look .initiator
      (.presence (.ofBytes frame) wait) =
        (.forwarded wait, ⟨⟨.armed a', [data], []⟩, ⟨false, handleCrc⟩, ⟨false, checks⟩⟩) := by
    refine (look_presence a (.ofBytes frame) wait [] toInitiator handleCrc _).trans ?_
    rw [forwards]
    rfl
  -- The frame is sent, taken and answered, and the answer is taken.
  refine carries.beside resting (calm_quiet a _ _ rfl) (goes_waits rfl fun now t₁ still => ?_)
  refine carries.beside still (calm_quiet a _ _ rfl) (goes_forwarded looks fun now t₂ still => ?_)
  have early := expired_of_lasting lasts now
  refine inevitable_takes still early ⟨_, rfl⟩ rfl ?_
  rw [sends]
  refine carries.await ⟨_, rfl⟩ early trivial (goes_settled rfl ?_)
  rw [receives]
  exact carries.beside (Resting.calls patient) (calm_quiet a' [reply] handleCrc rfl)
    (goes_found rfl fun t' still => later _ listening t' further still)

end Rounds

/-- An emulator answers as many commands as it may, if its card has an answer to all of them. -/
theorem hosts_serving {κ : Type} {card : Card κ} {wait : Timeout} (lasts : Lasting wait)
    (answers : ∀ command k, ∃ reply k', card command k = (.answer reply, k') ∧ reply ≠ [])
    (m fuel : Nat) (s : Emulation.Session κ)
    {next : Except Error Bytes → Dialogue Terminal (Except Error Emulation.Exit × _)}
    (serves : ∀ command, next (.ok command) = (Emulation.serving card wait m fuel s command).left) :
    Hosts fuel next := by
  induction fuel generalizing s next with
  | zero => trivial
  | succ fuel ih =>
      intro command
      obtain ⟨reply, k', answered, given⟩ := answers command s.card
      obtain ⟨hearing, sends, listening, s', receives, -, goes, -⟩ :=
        Emulation.serving_eq wait m fuel answered given
      refine ⟨reply, wait, _, wait, _, (serves command).trans (congrArg Dialogue.left sends),
        congrArg Dialogue.left receives, lasts, ih s' fun command => ?_⟩
      exact congrArg Dialogue.left (goes command)

end Contactless.Loopback
