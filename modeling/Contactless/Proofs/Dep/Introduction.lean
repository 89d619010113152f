import Contactless.Proofs.Dep.Faithful

/-!
What the attribute frames tell each end about the other. The target's answer carries its identifier
and its general bytes, and in place of its own bit rates, timeout and frame size those that targets
have by default.
-/
namespace Contactless.Dep

open Wire

/-- An initiator without a link and a target, about to exchange attribute frames. -/
structure Meeting where
  initiator : Device .initiator
  mode : DepMode
  baud : BaudRate
  /-- General bytes of the initiator, where they are not those of its settings. -/
  generalBytes : Option Bytes
  selectWait : Timeout
  target : TargetSide
  own : DepInfo
  initWait : Timeout

/-- Frame size code of a parameter byte. -/
def reduction (pp : UInt8) : UInt8 := (pp >>> 4) &&& 0x03

/-- A description as it should reach the other end. -/
structure Conveys (own seen : DepInfo) : Prop where
  nfcid3 : seen.nfcid3 = own.nfcid3
  sends : seen.bs = own.bs
  receives : seen.br = own.br
  timeout : seen.timeoutExponent = own.timeoutExponent
  frames : reduction seen.pp = reduction own.pp
  generalBytes : seen.generalBytes = own.generalBytes

/-- A description with the fields that targets have by default. -/
structure Standard (own : DepInfo) : Prop where
  sends : own.bs = allRates
  receives : own.br = allRates
  timeout : own.timeoutExponent = standardTimeoutExponent
  frames : reduction own.pp = reduction longestFrames

namespace Meeting

variable (x : Meeting)

abbrev Ends := Wire (Except Error (Option Target) × InitiatorSide)
  (Except Error Bytes × TargetSide)

/-- Both ends before they begin, with the horizons of their loops. -/
def start (n m : Nat) : Ends :=
  ⟨.running (InitiatorSide.select x.mode x.baud x.generalBytes x.selectWait n (.new x.initiator)),
    TargetSide.init (.dep x.own) x.initWait m x.target, [], []⟩

def request : AtrRequest := InitiatorSide.request x.initiator.config x.generalBytes

/-- Both ends come to these outcomes over a link that delivers every frame in order, whichever end
moves next, and in a simulated field. -/
structure Comes (n m : Nat) (opened : Except Error (Option Target)) (i : InitiatorSide)
    (first : Except Error Bytes) (t : TargetSide) : Prop where
  every : ∃ most, ∀ k w, Moves k (x.start n m) w →
    k ≤ most ∧ Moves (most - k) w ⟨.running (.done (opened, i)), .done (first, t), [], []⟩
  field : Loopback.Lasting x.selectWait → Loopback.Lasting x.initWait →
    ∃ least, ∀ horizon, least ≤ horizon → ∃ pair, Loopback.Pair.runBoth horizon {}
      (InitiatorSide.select x.mode x.baud x.generalBytes x.selectWait n (.new x.initiator)).left
      (TargetSide.init (.dep x.own) x.initWait m x.target).left =
        (some (opened, i), some (first, t), pair)

/-- What the initiator comes to know of the target. -/
def peer : DepInfo :=
  ((TargetSide.answerTo x.own x.request.flagged).flagged).info x.mode x.baud

def linked : InitiatorSide := .linkedTo x.initiator x.peer

def greeted : TargetSide := (x.target.prepared x.own).linkedTo x.own x.request.flagged

variable {x} {live : Timeout → Prop} {n m : Nat}

theorem opened (short : x.request.generalBytes.length ≤ 48)
    (ownShort : x.own.generalBytes.length ≤ 48) (selects : live x.selectWait)
    (waits : live x.initWait) :
    Opened live (x.start n m)
      ⟨.running (.done (.ok (some (.dep x.peer)), x.linked)), .done (x.request.encode, x.greeted),
        [], []⟩ := by
  rw [start, ← (InitiatorSide.select ..).bind_done, ← (TargetSide.init ..).bind_done]
  exact hops_open short ownShort selects waits fun _ _ _ => trivial

theorem comes (short : x.request.generalBytes.length ≤ 48)
    (ownShort : x.own.generalBytes.length ≤ 48) (n m : Nat) :
    x.Comes n m (.ok (some (.dep x.peer))) x.linked x.request.encode x.greeted where
  every := by
    have opens : Opened (fun _ => True) (x.start n m) _ := opened short ownShort trivial trivial
    refine opens.passes.le_of_still ?_
    rintro v (h | h) <;> cases h
  field selects waits := Loopback.runBoth_of_opened (opened short ownShort selects waits)

end Meeting

/-- What both ends know of each other, and how long the frames are that they will send. -/
structure Introduced (x : Meeting) (peer : DepInfo) (i : InitiatorSide) (t : TargetSide) :
    Prop where
  target : i.target = some peer
  nfcid3 : peer.nfcid3 = x.own.nfcid3
  generalBytes : peer.generalBytes = x.own.generalBytes
  standard : Standard peer
  conveyed : Conveys x.own peer ↔ Standard x.own
  requests : payloadLimit peer.pp = payloadLimit x.own.pp ↔
    reduction x.own.pp = reduction longestFrames
  initiator : ∃ j, t.initiator = some j ∧ j.nfcid3 = x.request.nfcid3 ∧
    j.generalBytes = x.request.generalBytes
  answers : t.limit = payloadLimit x.request.pp

theorem reduction_flagGeneralBytes (gb : Bytes) :
    reduction (flagGeneralBytes longestFrames gb) = reduction longestFrames := by
  unfold flagGeneralBytes
  split <;> decide

/-- Only one frame size code stands for the longest frames. -/
theorem payloadLimit_longest_iff (pp : UInt8) :
    payloadLimit longestFrames = payloadLimit pp ↔ reduction pp = reduction longestFrames := by
  have limit : payloadLimit pp =
      (if reduction pp = 0 then 64 else if reduction pp = 1 then 128
        else if reduction pp = 2 then 192 else 254) - headerLength := rfl
  have code : reduction pp = 0 ∨ reduction pp = 1 ∨ reduction pp = 2 ∨ reduction pp = 3 :=
    pni_cases (pp >>> 4)
  rw [limit]
  rcases code with zero | one | two | three
  · rw [zero]
    decide
  · rw [one]
    decide
  · rw [two]
    decide
  · rw [three]
    decide

theorem Meeting.introduced (x : Meeting) : Introduced x x.peer x.linked x.greeted where
  target := rfl
  nfcid3 := rfl
  generalBytes := rfl
  standard := ⟨rfl, rfl, rfl, reduction_flagGeneralBytes x.own.generalBytes⟩
  conveyed := by
    have frames : reduction x.peer.pp = reduction longestFrames :=
      reduction_flagGeneralBytes x.own.generalBytes
    constructor
    · intro conveys
      exact ⟨conveys.sends.symm, conveys.receives.symm, conveys.timeout.symm,
        conveys.frames.symm.trans frames⟩
    · intro standard
      exact ⟨rfl, standard.sends.symm, standard.receives.symm, standard.timeout.symm,
        frames.trans standard.frames.symm, rfl⟩
  requests := by
    have limit : payloadLimit x.peer.pp = payloadLimit longestFrames :=
      payloadLimit_flagged x.own.generalBytes
    rw [limit]
    exact payloadLimit_longest_iff x.own.pp
  initiator := ⟨_, rfl, rfl, rfl⟩
  answers := payloadLimit_flagged x.request.generalBytes

/-- Attribute frames with short general bytes introduce both ends to each other, but the target as
one with the standard bit rates, timeout and frame size: its description arrives whole if and only
if these are its own. -/
theorem meeting_introduces (x : Meeting) (short : x.request.generalBytes.length ≤ 48)
    (ownShort : x.own.generalBytes.length ≤ 48) (n m : Nat) :
    ∃ peer i frame t, x.Comes n m (.ok (some (.dep peer))) i (.ok frame) t ∧
      Introduced x peer i t := by
  obtain ⟨frame, encoded⟩ := x.request.exists_encode short
  have comes := Meeting.comes short ownShort n m
  rw [encoded] at comes
  exact ⟨x.peer, x.linked, frame, x.greeted, comes, x.introduced⟩

/-- A target with one bit rate only, another timeout, and short frames. -/
def Meeting.modest : Meeting where
  initiator := ⟨{}, none⟩
  mode := .passive
  baud := .baud106
  generalBytes := some [0x46, 0x00]
  selectWait := .standard
  target := .new ⟨{}, none⟩
  own := ⟨standardNfcid3, 0, 0x01, 0x03, 0x09, 0x10, [0x01, 0x02, 0x03], .passive, .baud106⟩
  initWait := .standard

theorem meeting_introduces_modest :
    ∃ peer i frame t, Meeting.modest.Comes 0 0 (.ok (some (.dep peer))) i (.ok frame) t ∧
      Introduced Meeting.modest peer i t ∧ peer.generalBytes = [0x01, 0x02, 0x03] := by
  obtain ⟨peer, i, frame, t, comes, introduced⟩ :=
    meeting_introduces Meeting.modest (by decide) (by decide) 0 0
  exact ⟨peer, i, frame, t, comes, introduced, introduced.generalBytes⟩

/-- The modest target is taken for one with all bit rates and the longest frames. -/
theorem description_replaced :
    ∃ peer i first t, Meeting.modest.Comes 0 0 (.ok (some (.dep peer))) i first t ∧
      ¬ Conveys Meeting.modest.own peer ∧
      payloadLimit peer.pp ≠ payloadLimit Meeting.modest.own.pp := by
  refine ⟨_, _, _, _, Meeting.comes (by decide) (by decide) 0 0, ?_, by decide⟩
  intro conveys
  exact absurd conveys.sends (by decide)

end Contactless.Dep
