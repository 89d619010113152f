import Contactless.Proofs.Dep.Payloads
import Contactless.Proofs.Dep.Supervision
import Contactless.Proofs.Loopback.Schedule

/-! Sessions of the data exchange protocol. The initiator plays a script between opening a link and
releasing it, while the target serves the exchanges of that script, and each end notes what its
calls came to. The main result is that the notes are those of a faithful link, however the moves of
both ends are put in order. -/
namespace Contactless.Dep

/-- A request, the answer to it, and the requests for more time before that. -/
structure Exchange where
  request : Bytes
  answer : Bytes
  /-- Multiples of the agreed wait, each with the wait for its echo. -/
  extensions : List (UInt8 × Timeout)
  receiveWait : Timeout
  sendWait : Timeout

/-- What an initiator does while the target sits in a reception. -/
inductive Step where
  | attention
  | setBaud (baud : BaudRate)
  | exchange (e : Exchange)

/-- What the initiator notes of a step, with the link as it is then. -/
structure Played where
  outcome : Except Error (Option Bytes)
  link : Option Link

/-- What the target notes of an exchange, with its state after it. -/
structure Served where
  received : Except Error Bytes
  granted : List (Except Error Unit)
  sent : Except Error Unit
  state : TargetSide

structure InitiatorReport where
  opened : Except Error (Option Target)
  played : List Played
  closed : Except Error Unit

structure TargetReport where
  first : Except Error Bytes
  served : List Served
  ended : Except Error Bytes

namespace Step

def act : Step → Act Chip InitiatorSide (Option Bytes)
  | attention => do
    InitiatorSide.attention
    return none
  | setBaud baud => do
    InitiatorSide.setBaud baud
    return none
  | exchange e => do
    return some (← InitiatorSide.transceive e.request)

def play (step : Step) : Act Chip InitiatorSide Played := do
  let outcome ← step.act.attempt
  return ⟨outcome, (← get).link⟩

end Step

def Exchange.serve (e : Exchange) (received : Except Error Bytes) : Act Chip TargetSide Served := do
  let granted ← e.extensions.mapM fun x => (TargetSide.requestTime x.1 x.2).attempt
  let sent ← (TargetSide.send e.answer e.sendWait).attempt
  return ⟨received, granted, sent, ← get⟩

/-- The exchanges of a script. The target takes no part in the other steps of its own accord. -/
def exchanges : List Step → List Exchange
  | [] => []
  | .exchange e :: rest => e :: exchanges rest
  | _ :: rest => exchanges rest

/-- The wait of the reception before some exchanges, or of the one that the release ends. -/
def waitBefore (last : Timeout) : List Exchange → Timeout
  | [] => last
  | e :: _ => e.receiveWait

/-- The initiator from some step on, with its notes so far. -/
def play (opened : Except Error (Option Target)) (played : List Played) :
    List Step → Act Chip InitiatorSide InitiatorReport
  | [] => do
    let closed ← InitiatorSide.deselect.attempt
    return ⟨opened, played, closed⟩
  | step :: rest => do
    let note ← step.play
    play opened (played ++ [note]) rest

/-- The target from what a reception came to, with its notes so far. -/
def serve (last : Timeout) (first : Except Error Bytes) (served : List Served) :
    List Exchange → Except Error Bytes → Act Chip TargetSide TargetReport
  | [], ended => return ⟨first, served, ended⟩
  | e :: rest, received => do
    let note ← e.serve received
    let next ← (TargetSide.receive (waitBefore last rest)).attempt
    serve last first (served ++ [note]) rest next

structure Session where
  initiator : Device .initiator
  mode : DepMode
  baud : BaudRate
  /-- General bytes of the initiator, where they are not those of its settings. -/
  generalBytes : Option Bytes
  selectWait : Timeout
  target : TargetSide
  own : DepInfo
  initWait : Timeout
  script : List Step
  lastWait : Timeout

namespace Session

variable (x : Session)

def initiate : Act Chip InitiatorSide InitiatorReport := do
  let opened ← (InitiatorSide.select x.mode x.baud x.generalBytes x.selectWait).attempt
  play opened [] x.script

def respond : Act Chip TargetSide TargetReport := do
  let first ← (TargetSide.init (.dep x.own) x.initWait).attempt
  let next ← (TargetSide.receive (waitBefore x.lastWait (exchanges x.script))).attempt
  serve x.lastWait first [] (exchanges x.script) next

abbrev Ends := Wire (Except Error InitiatorReport × InitiatorSide)
  (Except Error TargetReport × TargetSide)

/-- Both ends before they begin, with the horizons of their loops. -/
def start (n m : Nat) : Ends :=
  ⟨.running (x.initiate n (.new x.initiator)), x.respond m x.target, [], []⟩

end Session

section Expectation

/-- Packet numbers that an exchange uses up. The last frame of the request and the first one of the
answer share theirs. -/
def Exchange.numbers (e : Exchange) : Nat :=
  cuts longestFrames e.request + cuts longestFrames e.answer + 1

namespace Step

def onInitiator (step : Step) (s : Linked) : Linked :=
  match step with
  | attention => s
  | setBaud baud => s.atBaud baud
  | exchange e => Linked.advanced^[e.numbers] s

def onTarget (step : Step) (t : TargetSide) : TargetSide :=
  match step with
  | attention => t
  | setBaud baud => t.setBaud baud
  | exchange e => TargetSide.advanced^[e.numbers] t

/-- What a faithful link makes of a step at the initiator. -/
def result : Step → Option Bytes
  | exchange e => some e.answer
  | _ => none

/-- What a faithful link makes of a step at the target, which ends up in a state. -/
def service (t : TargetSide) : Step → List Served
  | exchange e => [⟨.ok e.request, e.extensions.map fun _ => .ok (), .ok (), t⟩]
  | _ => []

end Step

/-- The notes of an initiator over a faithful link. -/
def playing (s : Linked) : List Step → List Played
  | [] => []
  | step :: rest =>
    ⟨.ok step.result, some (step.onInitiator s).link⟩ :: playing (step.onInitiator s) rest

def serving (t : TargetSide) : List Step → List Served
  | [] => []
  | step :: rest => step.service (step.onTarget t) ++ serving (step.onTarget t) rest

def lastBaud (baud : BaudRate) : List Step → BaudRate
  | [] => baud
  | .setBaud next :: rest => lastBaud next rest
  | _ :: rest => lastBaud baud rest

namespace Session

variable (x : Session)

def request : AtrRequest := InitiatorSide.request x.initiator.config x.generalBytes

/-- The target as the initiator sees it. -/
def peer : DepInfo := (TargetSide.answerTo x.own x.request.flagged).flagged.info x.mode x.baud

def opened : Linked :=
  ⟨{ x.initiator with selected := some (.dep x.peer) }, ⟨x.peer, 0⟩⟩

def greeted : TargetSide := (x.target.prepared x.own).linkedTo x.own x.request.flagged

def initiatorAfter (done : List Step) : Linked :=
  done.foldl (fun s step => step.onInitiator s) x.opened

/-- The target after some steps, while it receives. -/
def targetAfter (done : List Step) : TargetSide :=
  done.foldl (fun t step => step.onTarget t) x.greeted

/-- Both ends in some states between two steps, with their notes so far. The target is in the middle
of a reception, which so many more frames may reach. -/
def between (n m : Nat) (played : List Played) (served : List Served) (rest : List Step)
    (s : Linked) (t : TargetSide) (fuel : Nat) : Ends where
  caller := .running (play (.ok (some (.dep x.peer))) played rest n ⟨s.device, some s.link⟩)
  target := t.receiving (waitBefore x.lastWait (exchanges rest)) m fuel [] fun r =>
    serve x.lastWait x.request.encode served (exchanges rest) r.1 m r.2
  requests := []
  answers := []

/-- Both ends after some steps of the script over a faithful link. -/
def place (n m : Nat) (done rest : List Step) (fuel : Nat) : Ends :=
  x.between n m (playing x.opened done) (serving x.greeted done) rest (x.initiatorAfter done)
    (x.targetAfter done) fuel

/-- What the initiator comes to over a faithful link. -/
def initiatorResult : Except Error InitiatorReport × InitiatorSide :=
  (.ok ⟨.ok (some (.dep x.peer)), playing x.opened x.script, .ok ()⟩,
    .new { (x.initiatorAfter x.script).device with selected := none })

def targetResult : Except Error TargetReport × TargetSide :=
  (.ok ⟨x.request.encode, serving x.greeted x.script, .error .targetReleased⟩,
    (x.targetAfter x.script).unlinked)

def finish : Ends := ⟨.running (.done x.initiatorResult), .done x.targetResult, [], []⟩

end Session

/-- A target may ask for up to 59 times the agreed wait. -/
def Step.Allowed : Step → Prop
  | exchange e => ∀ y ∈ e.extensions, 1 ≤ y.1 ∧ y.1 ≤ rtoxLimit
  | _ => True

structure Session.Valid (x : Session) : Prop where
  generalBytes : x.request.generalBytes.length ≤ 48
  ownBytes : x.own.generalBytes.length ≤ 48
  allowed : ∀ step ∈ x.script, step.Allowed

/-- More than the looks at a frame that a step takes at either end. -/
def Step.cost : Step → Nat
  | exchange e => e.request.length + e.answer.length + e.extensions.length + 1
  | _ => 1

def cost : List Step → Nat
  | [] => 1
  | step :: rest => step.cost + cost rest

end Expectation

end Contactless.Dep
