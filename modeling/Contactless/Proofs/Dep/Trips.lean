import Contactless.Proofs.Accounts
import Contactless.Proofs.Dep.Round
import Contactless.Proofs.Transcript

/-! Round trips of the initiator to a target that may answer anything. Each request for more time is
granted with a longer wait; what comes in instead of one is the answer. -/
namespace Contactless

/-- A scaled wait stops at the longest one there is. -/
theorem Timeout.limit_scale (wait : Timeout) (factor : UInt8) :
    (wait.scale factor).limit =
      wait.limit.map fun ms => min (ms * factor.toNat) (UInt64.size - 1) := by
  cases wait with
  | forever => rfl
  | immediate =>
      change some 0 = some (min (0 * factor.toNat) _)
      rw [Nat.zero_mul, Nat.zero_min]
  | millis n =>
      have scaled : (millis n).limit.map (fun ms => min (ms * factor.toNat) (UInt64.size - 1)) =
          some (min (n.toNat * factor.toNat) (UInt64.size - 1)) := rfl
      rw [scaled, scale]
      split
      · rename_i short
        change some (n.toNat * factor.toNat % UInt64.size) = _
        rw [Nat.mod_eq_of_lt short]
        congr 1
        omega
      · change some (UInt64.size - 1) = _
        congr 1
        omega

namespace Dep

open Act

/-- A request for more time, with the frame that grants it. -/
structure Grant where
  request : Bytes
  pdu : Pdu
  rtox : UInt8
  echo : Bytes
  decodes : Pdu.decode request .answer = .ok pdu
  asks : pdu.pfb = .timeoutExtension
  head : pdu.payload.head? = some rtox
  range : 1 ≤ rtox ∧ rtox ≤ 59
  built : (Pdu.timeoutExtension rtox).encode .request = .ok echo

/-- What is said from a frame on that meets some requests for more time before its answer. The wait
for a grant is always scaled from the first one. -/
def granting (wait : Timeout) :
    Bytes → Timeout → List Grant → Except Error Bytes → List Chip.Event
  | frame, now, [], answer => [⟨.bytes frame now, answer⟩]
  | frame, now, g :: grants, answer =>
    ⟨.bytes frame now, .ok g.request⟩ ::
      granting wait g.echo (wait.scale g.rtox) grants answer

/-- What is made of an answer that is no good request for more time. -/
inductive Concludes : Except Error Bytes → Except Error Pdu → Prop
  | lost (e : Error) : Concludes (.error e) (.error e)
  | unreadable {answer : Bytes} {e : Error} : Pdu.decode answer .answer = .error e →
      Concludes (.ok answer) (.error e)
  | excessive {answer : Bytes} {pdu : Pdu} (detail : String) :
      Pdu.decode answer .answer = .ok pdu → pdu.pfb = .timeoutExtension →
      (∀ rtox, pdu.payload.head? = some rtox → ¬ (1 ≤ rtox ∧ rtox ≤ 59)) →
      Concludes (.ok answer) (.error (.rfProtocol detail))
  | answered {answer : Bytes} {pdu : Pdu} : Pdu.decode answer .answer = .ok pdu →
      pdu.pfb ≠ .timeoutExtension → Concludes (.ok answer) (.ok pdu)

/-- A frame and all that is said until its answer is in. -/
structure Trip where
  asked : Pdu
  frame : Bytes
  grants : List Grant
  answer : Except Error Bytes
  outcome : Except Error Pdu
  built : asked.encode .request = .ok frame
  concludes : Concludes answer outcome

def Trip.events (wait : Timeout) (x : Trip) : List Chip.Event :=
  granting wait x.frame wait x.grants x.answer

section Looks

/-- All that one look at an answer may come to. -/
inductive Looks (wait : Timeout) :
    Bytes → List Chip.Event → Except Error (Bytes ⊕ Pdu) → Prop
  | refused {answer : Bytes} {e : Error} : Concludes (.ok answer) (.error e) →
      Looks wait answer [] (.error e)
  | answered {answer : Bytes} {pdu : Pdu} : Concludes (.ok answer) (.ok pdu) →
      Looks wait answer [] (.ok (.inr pdu))
  | unheard (g : Grant) (e : Error) :
      Looks wait g.request [⟨.bytes g.echo (wait.scale g.rtox), .error e⟩] (.error e)
  | granted (g : Grant) (next : Bytes) :
      Looks wait g.request [⟨.bytes g.echo (wait.scale g.rtox), .ok next⟩] (.ok (.inl next))

variable {wait : Timeout}

theorem assures_sendPdu {pdu : Pdu} {frame : Bytes} (built : pdu.encode .request = .ok frame)
    (d : Device .initiator) :
    (sendPdu pdu wait).Assures d fun t r d' => t = [⟨.bytes frame wait, r⟩] ∧ d' = d := by
  intro n
  unfold sendPdu
  rw [built]
  simp only [Act.bind_apply, Act.ofExcept_apply, Dialogue.bind_done_left, Act.resume_ok,
    exchangeBytes_apply built]
  intro r
  exact ⟨rfl, rfl⟩

theorem readRtox_cases {pdu : Pdu} (asks : pdu.pfb = .timeoutExtension) :
    (∃ rtox, readRtox pdu = .ok rtox ∧ pdu.payload.head? = some rtox ∧ 1 ≤ rtox ∧ rtox ≤ 59) ∨
      ∃ detail, readRtox pdu = .error (.rfProtocol detail) ∧
        ∀ rtox, pdu.payload.head? = some rtox → ¬ (1 ≤ rtox ∧ rtox ≤ 59) := by
  have read : pdu.rtox = pdu.payload.head? := by
    unfold Pdu.rtox
    rw [asks]
  unfold readRtox
  rw [read]
  cases pdu.payload.head? with
  | none => exact .inr ⟨_, rfl, nofun⟩
  | some rtox =>
      by_cases range : 1 ≤ rtox ∧ rtox ≤ 59
      · exact .inl ⟨rtox, if_pos range, rfl, range⟩
      · refine .inr ⟨_, if_neg range, ?_⟩
        rintro rtox' ⟨⟩
        exact range

theorem assures_settle (wait : Timeout) (answer : Bytes) (d : Device .initiator) :
    (settle wait answer).Assures d fun t r d' => Looks wait answer t r ∧ d' = d := by
  refine assures_ofExcept_bind ?_ ?_
  · intro pdu decodes
    by_cases asks : pdu.pfb = .timeoutExtension
    · rw [if_pos asks]
      rcases readRtox_cases asks with ⟨rtox, read, head, range⟩ | ⟨detail, read, outside⟩
      · obtain ⟨echo, built⟩ :=
          (Pdu.timeoutExtension rtox).exists_encode .request (show 1 ≤ 251 by decide)
        let g : Grant := ⟨answer, pdu, rtox, echo, decodes, asks, head, range, built⟩
        rw [read]
        refine (assures_sendPdu built d).bind ?_ ?_
        · rintro _ next _ ⟨rfl, rfl⟩
          exact assures_pure ⟨.granted g next, rfl⟩
        · rintro _ e _ ⟨rfl, rfl⟩
          exact ⟨.unheard g e, rfl⟩
      · rw [read]
        exact assures_throw ⟨.refused (.excessive detail decodes asks outside), rfl⟩
    · rw [if_neg asks]
      exact assures_pure ⟨.answered (.answered decodes asks), rfl⟩
  · intro e failed
    exact ⟨.refused (.unreadable failed), rfl⟩

end Looks

section Trips

variable {wait : Timeout} {asked : Pdu}

/-- Looks at an answer, one after the other, make up the rest of a trip. -/
theorem granting_of_loops {answer : Bytes} {d d' : Device .initiator} {t : List Chip.Event}
    {r : Except Error Pdu}
    (loops : Loops (fun answer d t r d' => Looks wait answer t r ∧ d' = d) answer d t r d') :
    d' = d ∧ ∃ grants last, Concludes last r ∧
      ∀ frame now, ⟨.bytes frame now, .ok answer⟩ :: t = granting wait frame now grants last := by
  induction loops with
  | failed looks =>
      obtain ⟨looks, rfl⟩ := looks
      cases looks with
      | refused concludes => exact ⟨rfl, [], _, concludes, fun _ _ => rfl⟩
      | unheard g e => exact ⟨rfl, [g], _, .lost _, fun _ _ => rfl⟩
  | ended looks =>
      obtain ⟨looks, rfl⟩ := looks
      cases looks with
      | answered concludes => exact ⟨rfl, [], _, concludes, fun _ _ => rfl⟩
  | again looks _ ih =>
      obtain ⟨looks, rfl⟩ := looks
      obtain ⟨rfl, grants, last, concludes, same⟩ := ih
      cases looks with
      | granted g next =>
          refine ⟨rfl, g :: grants, last, concludes, ?_⟩
          intro frame now
          exact congrArg (_ :: ·) (same g.echo (wait.scale g.rtox))

theorem accounts_roundTrip (wait : Timeout) (short : asked.payload.length ≤ 251)
    (d : Device .initiator) :
    (roundTrip asked wait).Accounts d fun t r d' =>
      ∃ x : Trip, x.asked = asked ∧ x.outcome = r ∧ t = x.events wait ∧ d' = d := by
  obtain ⟨frame, built⟩ := asked.exists_encode .request short
  refine (assures_sendPdu built d).accounts.bind ?_ ?_
  · rintro _ answer d ⟨rfl, rfl⟩
    refine (Accounts.loop (fun answer d => (assures_settle wait answer d).accounts) ?_
      answer d).mono ?_
    · rintro _ _ _ _ _ ⟨looks, -⟩
      cases looks with
      | granted g next => exact Nat.one_pos
    · intro t r d' loops
      obtain ⟨rfl, grants, last, concludes, same⟩ := granting_of_loops loops
      exact ⟨⟨asked, frame, grants, last, r, built, concludes⟩, rfl, rfl, same frame wait, rfl⟩
  · rintro _ e d ⟨rfl, rfl⟩
    exact ⟨⟨asked, frame, [], .error e, .error e, built, .lost e⟩, rfl, rfl, rfl, rfl⟩

theorem Linked.accounts_roundTrip (s : Linked) (short : asked.payload.length ≤ 251) :
    (Linked.roundTrip asked).Accounts s fun t r s' => ∃ x : Trip, x.asked = asked ∧
      x.outcome = r ∧ t = x.events s.device.config.commandTimeout ∧ s' = s := by
  refine accounts_get_bind (Accounts.zoom ((Dep.accounts_roundTrip _ short s.device).mono ?_))
  rintro t r d ⟨x, asks, comes, said, rfl⟩
  exact ⟨x, asks, comes, said, rfl⟩

/-- A trip that succeeds has brought something in. -/
theorem Trip.taken_pos (wait : Timeout) {x : Trip} {pdu : Pdu} (comes : x.outcome = .ok pdu) :
    0 < Chip.taken (x.events wait) := by
  obtain ⟨asked, frame, grants, answer, outcome, built, concludes⟩ := x
  cases comes
  cases grants with
  | nil =>
      cases concludes with
      | answered => exact Chip.taken_pos rfl
  | cons g grants => exact Chip.taken_pos rfl

end Trips

section Stops

/-- Nothing is said after a failure, and it is what comes of all. -/
def Stops {α : Type} (t : List Chip.Event) (r : Except Error α) : Prop :=
  ∀ before event after e, t = before ++ event :: after → Chip.Event.failure event = some e →
    after = [] ∧ r = .error e

variable {α β : Type} {t u : List Chip.Event} {a : α}

theorem stops_singleton {event : Chip.Event} {r : Except Error α}
    (fails : ∀ e, Chip.Event.failure event = some e → r = .error e) : Stops [event] r := by
  intro before other after e split failed
  cases before with
  | nil =>
      obtain ⟨rfl, rfl⟩ := List.cons.inj split
      exact ⟨rfl, fails e failed⟩
  | cons first before =>
      have none := (List.cons.inj split).2
      cases before <;> cases none

theorem stops_nil {r : Except Error α} : Stops [] r := by
  intro before event after e split
  cases before <;> cases split

theorem Stops.error {e : Error} (stops : Stops t (.error e : Except Error α)) :
    Stops t (.error e : Except Error β) := by
  intro before event after e' split failed
  obtain ⟨rfl, same⟩ := stops before event after e' split failed
  exact ⟨rfl, congrArg Except.error (Except.error.inj same)⟩

theorem Stops.append {r : Except Error β} (first : Stops t (.ok a)) (rest : Stops u r) :
    Stops (t ++ u) r := by
  intro before event after e split failed
  rcases List.append_eq_append_iff.mp split with ⟨early, rfl, same⟩ | ⟨late, same, later⟩
  · exact rest early event after e same failed
  · cases late with
    | nil => exact rest [] event after e later.symm failed
    | cons other late =>
        obtain ⟨rfl, -⟩ := List.cons.inj later
        cases (first before event late e same failed).2

theorem Concludes.error {answer : Except Error Bytes} {r : Except Error Pdu} {e : Error}
    (concludes : Concludes answer r) (failed : answer = .error e) : r = .error e := by
  cases concludes with
  | lost => exact congrArg Except.error (Except.error.inj failed)
  | _ => cases failed

theorem Trip.stops (wait : Timeout) (x : Trip) : Stops (x.events wait) x.outcome := by
  have all (grants : List Grant) (frame : Bytes) (now : Timeout) :
      Stops (granting wait frame now grants x.answer) x.outcome := by
    induction grants generalizing frame now with
    | nil =>
        refine stops_singleton ?_
        intro e failed
        cases lost : x.answer with
        | error e' =>
            rw [lost] at failed
            cases failed
            exact x.concludes.error lost
        | ok answer =>
            rw [lost] at failed
            cases failed
    | cons g grants ih =>
        have asks : Stops [⟨.bytes frame now, .ok g.request⟩] (.ok ()) := stops_singleton nofun
        exact asks.append (ih g.echo (wait.scale g.rtox))
  exact all x.grants x.frame wait

theorem Trip.stops_of_error (wait : Timeout) {x : Trip} {e : Error}
    (failed : x.outcome = .error e) :
    Stops ([x].flatMap (Trip.events wait)) (.error e : Except Error α) := by
  have alone := x.stops wait
  rw [failed] at alone
  rw [List.flatMap_singleton]
  exact alone.error

theorem Trip.stops_append (wait : Timeout) {x : Trip} {pdu : Pdu} {r : Except Error α}
    (comes : x.outcome = .ok pdu) (rest : Stops u r) : Stops (x.events wait ++ u) r := by
  have first := x.stops wait
  rw [comes] at first
  exact first.append rest

end Stops

section Sizes

/-- Grants are shorter than the frames of any limit. -/
theorem bytes_of_mem_granting {wait now : Timeout} {frame : Bytes} {grants : List Grant}
    {answer : Except Error Bytes} {event : Chip.Event} {n : Nat} (least : 5 ≤ n)
    (short : frame.length ≤ n) (member : event ∈ granting wait frame now grants answer) :
    ∃ sent w a, event = ⟨.bytes sent w, a⟩ ∧ sent.length ≤ n := by
  induction grants generalizing frame now with
  | nil => exact ⟨frame, now, answer, List.mem_singleton.mp member, short⟩
  | cons g grants ih =>
      rcases List.mem_cons.mp member with rfl | later
      · exact ⟨frame, now, _, rfl, short⟩
      · refine ih ?_ later
        rw [(length_of_build g.built).1]
        exact least

theorem Trip.bytes_of_mem {wait : Timeout} {x : Trip} {n : Nat} (some : 0 < n)
    (short : x.asked.payload.length ≤ n) {event : Chip.Event} (member : event ∈ x.events wait) :
    ∃ sent w a, event = ⟨.bytes sent w, a⟩ ∧ sent.length ≤ n + 4 := by
  refine bytes_of_mem_granting (by omega) ?_ member
  rw [(length_of_build x.built).1, List.length_cons]
  omega

end Sizes

end Dep

end Contactless
