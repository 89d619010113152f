import Contactless.Proofs.Relay.Half

/-! Everything that the halves of a relay can do, whatever their chips and the link answer. A log
comes with the result of the half, which is absent while the half is still on its way. -/
namespace Contactless

/-- What a dialogue has come to. -/
def Dialogue.result {I : Interface} {α : Type} : Dialogue I α → Option α
  | .done a => some a
  | _ => none

namespace Relay

abbrev HalfLog := List ChipAndLink.Event

def Link.Event.failure : Link.Event → Option Error
  | ⟨.send _, .error e⟩ => some e
  | ⟨.recv _, .error e⟩ => some e
  | _ => none

/-- A half stops with a failure and tells the other one. -/
inductive Leaving {σ : Type} (e : Error) (s : σ) : HalfLog → Option (Except Error Nat × σ) → Prop
  | begun : Leaving e s [] none
  | gone (r : Except Error Unit) :
      Leaving e s [⟨.inr (.send .shutdown), r⟩] (some (.error e, s))

theorem leaving_of_reaches {σ : Type} {e : Error} {s : σ} {t : HalfLog}
    {x : Dialogue ChipAndLink (Except Error Nat × σ)} (h : (leaving e s).Reaches t x) :
    Leaving e s t x.result := by
  rcases Dialogue.reaches_ask h with ⟨rfl, rfl⟩ | ⟨r, u, rfl, rest⟩
  · exact .begun
  · obtain ⟨rfl, rfl⟩ := Dialogue.reaches_done rest
    exact .gone r

namespace InitiatorHalf

/-- A half that serves commands, so many already. -/
inductive Serving (d : Device .initiator) :
    Nat → HalfLog → Option (Except Error Nat × Device .initiator) → Prop
  | listening (served : Nat) : Serving d served [] none
  | lost (served : Nat) (e : Error) :
      Serving d served [⟨.inr (.recv .forever), .error e⟩] (some (.error e, d))
  | stopped (served : Nat) :
      Serving d served [⟨.inr (.recv .forever), .ok .shutdown⟩] (some (.ok served, d))
  | stray (served : Nat) {frame : LinkFrame} {t o} : (∀ c, frame ≠ .command c) →
      frame ≠ .shutdown → Leaving (unexpected frame) d t o →
      Serving d served (⟨.inr (.recv .forever), .ok frame⟩ :: t) o
  | refused (served : Nat) {command : Bytes} {e t o} : refusal command = some e →
      Leaving e d t o →
      Serving d served (⟨.inr (.recv .forever), .ok (.command command)⟩ :: t) o
  | asked (served : Nat) (command : Bytes) :
      Serving d served [⟨.inr (.recv .forever), .ok (.command command)⟩] none
  | failed (served : Nat) {command : Bytes} {wait : Timeout} {e t o} : Leaving e d t o →
      Serving d served (⟨.inr (.recv .forever), .ok (.command command)⟩ ::
        ⟨.inl (.bytes command wait), .error e⟩ :: t) o
  | answered (served : Nat) (command answer : Bytes) (wait : Timeout) :
      Serving d served [⟨.inr (.recv .forever), .ok (.command command)⟩,
        ⟨.inl (.bytes command wait), .ok answer⟩] none
  | untold (served : Nat) (command answer : Bytes) (wait : Timeout) (e : Error) :
      Serving d served [⟨.inr (.recv .forever), .ok (.command command)⟩,
        ⟨.inl (.bytes command wait), .ok answer⟩,
        ⟨.inr (.send (.response answer)), .error e⟩] (some (.error e, d))
  | served {served : Nat} {command answer : Bytes} {wait : Timeout} {t o} :
      Serving d (served + 1) t o →
      Serving d served (⟨.inr (.recv .forever), .ok (.command command)⟩ ::
        ⟨.inl (.bytes command wait), .ok answer⟩ ::
        ⟨.inr (.send (.response answer)), .ok ()⟩ :: t) o

theorem serving_of_asked {n fuel served : Nat} {d : Device .initiator} {command : Bytes}
    {t : HalfLog} {x : Dialogue ChipAndLink (Except Error Nat × Device .initiator)}
    (later : ∀ {u}, (serving n fuel (served + 1) d).Reaches u x →
      Serving d (served + 1) u x.result)
    (h : (InitiatorHalf.asked n fuel served d command).Reaches t x) :
    Serving d served (⟨.inr (.recv .forever), .ok (.command command)⟩ :: t) x.result := by
  unfold InitiatorHalf.asked at h
  cases refused : refusal command with
  | some e =>
      rw [refused] at h
      exact .refused served refused (leaving_of_reaches h)
  | none =>
      rw [refused] at h
      rcases Dialogue.reaches_ask h with ⟨rfl, rfl⟩ | ⟨(a : Except Error Bytes), u, rfl, rest⟩
      · exact .asked served command
      cases a with
      | error e => exact .failed served (leaving_of_reaches rest)
      | ok answer =>
          rcases Dialogue.reaches_ask rest with
            ⟨rfl, rfl⟩ | ⟨(told : Except Error Unit), u, rfl, last⟩
          · exact .answered served command answer _
          cases told with
          | error e =>
              obtain ⟨rfl, rfl⟩ := Dialogue.reaches_done last
              exact .untold served command answer _ e
          | ok done => exact .served (later last)

theorem serving_of_reaches {n fuel served : Nat} {d : Device .initiator} {t : HalfLog}
    {x : Dialogue ChipAndLink (Except Error Nat × Device .initiator)}
    (h : (serving n fuel served d).Reaches t x) : Serving d served t x.result := by
  induction fuel generalizing served t with
  | zero =>
      cases h
      exact .listening served
  | succ fuel ih =>
      rw [serving_succ] at h
      rcases Dialogue.reaches_ask h with ⟨rfl, rfl⟩ | ⟨(r : Except Error LinkFrame), u, rfl, rest⟩
      · exact .listening served
      cases r with
      | error e =>
          obtain ⟨rfl, rfl⟩ := Dialogue.reaches_done rest
          exact .lost served e
      | ok frame =>
          cases frame with
          | target real =>
              exact .stray served (fun _ => LinkFrame.noConfusion) LinkFrame.noConfusion
                (leaving_of_reaches rest)
          | response a =>
              exact .stray served (fun _ => LinkFrame.noConfusion) LinkFrame.noConfusion
                (leaving_of_reaches rest)
          | shutdown =>
              obtain ⟨rfl, rfl⟩ := Dialogue.reaches_done rest
              exact .stopped served
          | command c => exact serving_of_asked ih rest

/-- A half that looks for a tag, describes it and serves commands. -/
inductive Conduct (n : Nat) (d : Device .initiator) :
    HalfLog → Option (Except Error Nat × Device .initiator) → Prop
  | searching {u x} : (waitForTag n d).Reaches u x →
      Conduct n d (u.map Interface.Event.inLeft) none
  | unfound {u e d' t o} : (waitForTag n d).Yields u (.error e, d') → Leaving e d' t o →
      Conduct n d (u.map Interface.Event.inLeft ++ t) o
  | undescribed {u real d'} (e : Error) : (waitForTag n d).Yields u (.ok real, d') →
      Conduct n d (u.map Interface.Event.inLeft ++ [⟨.inr (.send (.target real)), .error e⟩])
        (some (.error e, d'))
  | described {u real d' t o} : (waitForTag n d).Yields u (.ok real, d') → Serving d' 0 t o →
      Conduct n d (u.map Interface.Event.inLeft ++ ⟨.inr (.send (.target real)), .ok ()⟩ :: t) o

theorem result_left_bind_found (n : Nat)
    (x : Dialogue Chip (Except Error Target × Device .initiator)) :
    (x.left.bind (found n) : Dialogue ChipAndLink _).result = none := by
  cases x with
  | done r =>
      obtain ⟨outcome, d⟩ := r
      cases outcome <;> rfl
  | cut => rfl
  | ask q next => rfl

theorem conduct_of_reaches {n : Nat} {d : Device .initiator} {t : HalfLog}
    {x : Dialogue ChipAndLink (Except Error Nat × Device .initiator)}
    (h : (run n d).Reaches t x) : Conduct n d t x.result := by
  rw [run_eq] at h
  rcases Dialogue.reaches_bind h with ⟨y, first, rfl⟩ | ⟨u, v, ⟨outcome, d'⟩, rfl, first, rest⟩
  · obtain ⟨u, y, rfl, rfl, search⟩ := Dialogue.reaches_left first
    rw [result_left_bind_found]
    exact .searching search
  · obtain ⟨u, rfl, search⟩ := Dialogue.yields_left first
    cases outcome with
    | error e => exact .unfound search (leaving_of_reaches rest)
    | ok real =>
        rcases Dialogue.reaches_ask rest with ⟨rfl, rfl⟩ | ⟨(r : Except Error Unit), v, rfl, last⟩
        · rw [List.append_nil]
          exact .searching search.reaches
        cases r with
        | error e =>
            obtain ⟨rfl, rfl⟩ := Dialogue.reaches_done last
            exact .undescribed e search
        | ok done => exact .described search (serving_of_reaches last)

def sampleTag : Target := .typeA ⟨[0x02, 0x00], rfl⟩ 0x08 ⟨[0x08, 0x11, 0x22, 0x33], .inl rfl⟩ []

/-- A tag that answers the first search. -/
def sampleSearch : List Chip.Event :=
  [⟨.checkAbort, false⟩, ⟨.configure .handleCrc false, .ok ()⟩,
    ⟨.configure .easyFraming false, .ok ()⟩,
    ⟨.bits TypeA.reqa .standard, .ok (.ofBytes [0x02, 0x00])⟩,
    ⟨.bits (.ofBytes (TypeA.anticollision .one)) .standard,
      .ok (.ofBytes [0x08, 0x11, 0x22, 0x33, 0x08])⟩,
    ⟨.bytes (TypeA.select .one (group 0x08 0x11 0x22 0x33)) .standard, .ok [0x08]⟩,
    ⟨.configure .handleCrc true, .ok ()⟩, ⟨.configure .easyFraming true, .ok ()⟩]

end InitiatorHalf

namespace TargetHalf

/-- A half whose session failed tells the other one, and takes back an abort request if that made
it stop. -/
inductive Closing (e : Error) (s : TargetHalf) :
    HalfLog → Option (Except Error Nat × TargetHalf) → Prop
  | begun : Closing e s [] none
  | told (r : Except Error Unit) : isNormalStop e = true →
      Closing e s [⟨.inr (.send .shutdown), r⟩] none
  | normal (r : Except Error Unit) (taken : Unit) : isNormalStop e = true →
      Closing e s [⟨.inr (.send .shutdown), r⟩, ⟨.inl .clearAbort, taken⟩]
        (some (.ok s.exchanged, s))
  | failed (r : Except Error Unit) : isNormalStop e = false →
      Closing e s [⟨.inr (.send .shutdown), r⟩] (some (.error e, s))

theorem closing_of_reaches {e : Error} {s : TargetHalf} {t : HalfLog}
    {x : Dialogue ChipAndLink (Except Error Nat × TargetHalf)}
    (h : (closing e s).Reaches t x) : Closing e s t x.result := by
  rcases Dialogue.reaches_ask h with ⟨rfl, rfl⟩ | ⟨r, u, rfl, rest⟩
  · exact .begun
  cases normal : isNormalStop e with
  | false =>
      rw [normal] at rest
      obtain ⟨rfl, rfl⟩ := Dialogue.reaches_done rest
      exact .failed r normal
  | true =>
      rw [normal] at rest
      rcases Dialogue.reaches_ask rest with ⟨rfl, rfl⟩ | ⟨taken, u, rfl, last⟩
      · exact .told r normal
      · obtain ⟨rfl, rfl⟩ := Dialogue.reaches_done last
        exact .normal r taken normal

inductive Passing (wait : Timeout) :
    TargetHalf → Bytes → HalfLog → Option (Except Error Nat × TargetHalf) → Prop
  | ready (s : TargetHalf) (command : Bytes) : Passing wait s command [] none
  | unsent {s command e t o} : Closing e s t o →
      Passing wait s command (⟨.inr (.send (.command command)), .error e⟩ :: t) o
  | waiting (s : TargetHalf) (command : Bytes) :
      Passing wait s command [⟨.inr (.send (.command command)), .ok ()⟩] none
  | lost {s command e t o} : Closing e s t o →
      Passing wait s command (⟨.inr (.send (.command command)), .ok ()⟩ ::
        ⟨.inr (.recv .forever), .error e⟩ :: t) o
  | stopped (s : TargetHalf) (command : Bytes) :
      Passing wait s command [⟨.inr (.send (.command command)), .ok ()⟩,
        ⟨.inr (.recv .forever), .ok .shutdown⟩] (some (.ok s.exchanged, s))
  | stray {s command frame t o} : (∀ a, frame ≠ .response a) → frame ≠ .shutdown →
      Closing (unexpected frame) s t o →
      Passing wait s command (⟨.inr (.send (.command command)), .ok ()⟩ ::
        ⟨.inr (.recv .forever), .ok frame⟩ :: t) o
  | answered (s : TargetHalf) (command answer : Bytes) :
      Passing wait s command [⟨.inr (.send (.command command)), .ok ()⟩,
        ⟨.inr (.recv .forever), .ok (.response answer)⟩] none
  | ungiven {s command answer e t o} : Closing e s t o →
      Passing wait s command (⟨.inr (.send (.command command)), .ok ()⟩ ::
        ⟨.inr (.recv .forever), .ok (.response answer)⟩ ::
        ⟨.inl (.send answer wait), .error e⟩ :: t) o
  | given (s : TargetHalf) (command answer : Bytes) :
      Passing wait s command [⟨.inr (.send (.command command)), .ok ()⟩,
        ⟨.inr (.recv .forever), .ok (.response answer)⟩, ⟨.inl (.send answer wait), .ok ()⟩] none
  | released {s command answer e t o} : Closing e s.counted t o →
      Passing wait s command (⟨.inr (.send (.command command)), .ok ()⟩ ::
        ⟨.inr (.recv .forever), .ok (.response answer)⟩ :: ⟨.inl (.send answer wait), .ok ()⟩ ::
        ⟨.inl (.receive wait), .error e⟩ :: t) o
  | passed {s command answer next t o} : Passing wait s.counted next t o →
      Passing wait s command (⟨.inr (.send (.command command)), .ok ()⟩ ::
        ⟨.inr (.recv .forever), .ok (.response answer)⟩ :: ⟨.inl (.send answer wait), .ok ()⟩ ::
        ⟨.inl (.receive wait), .ok next⟩ :: t) o

theorem passing_of_answer {wait : Timeout} {n fuel : Nat} {s : TargetHalf}
    {command answer : Bytes} {t : HalfLog}
    {x : Dialogue ChipAndLink (Except Error Nat × TargetHalf)}
    (later : ∀ {next u}, (passing wait n fuel s.counted next).Reaches u x →
      Passing wait s.counted next u x.result)
    (h : (replied wait n fuel s (.ok (.response answer))).Reaches t x) :
    Passing wait s command (⟨.inr (.send (.command command)), .ok ()⟩ ::
      ⟨.inr (.recv .forever), .ok (.response answer)⟩ :: t) x.result := by
  rcases Dialogue.reaches_ask h with ⟨rfl, rfl⟩ | ⟨(sent : Except Error Unit), u, rfl, rest⟩
  · exact .answered s command answer
  cases sent with
  | error e => exact .ungiven (closing_of_reaches rest)
  | ok done =>
      rcases Dialogue.reaches_ask rest with ⟨rfl, rfl⟩ | ⟨(r : Except Error Bytes), u, rfl, last⟩
      · exact .given s command answer
      cases r with
      | error e => exact .released (closing_of_reaches last)
      | ok next => exact .passed (later last)

theorem passing_of_reaches {wait : Timeout} {n fuel : Nat} {s : TargetHalf} {command : Bytes}
    {t : HalfLog} {x : Dialogue ChipAndLink (Except Error Nat × TargetHalf)}
    (h : (passing wait n fuel s command).Reaches t x) : Passing wait s command t x.result := by
  induction fuel generalizing s command t with
  | zero =>
      cases h
      exact .ready s command
  | succ fuel ih =>
      rw [passing_succ] at h
      rcases Dialogue.reaches_ask h with ⟨rfl, rfl⟩ | ⟨(sent : Except Error Unit), u, rfl, rest⟩
      · exact .ready s command
      cases sent with
      | error e => exact .unsent (closing_of_reaches rest)
      | ok done =>
          rcases Dialogue.reaches_ask rest with
            ⟨rfl, rfl⟩ | ⟨(r : Except Error LinkFrame), u, rfl, last⟩
          · exact .waiting s command
          cases r with
          | error e => exact .lost (closing_of_reaches last)
          | ok frame =>
              cases frame with
              | target real =>
                  exact .stray (fun _ => LinkFrame.noConfusion) LinkFrame.noConfusion
                    (closing_of_reaches last)
              | command other =>
                  exact .stray (fun _ => LinkFrame.noConfusion) LinkFrame.noConfusion
                    (closing_of_reaches last)
              | shutdown =>
                  obtain ⟨rfl, rfl⟩ := Dialogue.reaches_done last
                  exact .stopped s command
              | response answer => exact passing_of_answer ih last

/-- A half that waits for the description of a tag, shows it to the reader and passes on
commands. -/
inductive Conduct (s : TargetHalf) : HalfLog → Option (Except Error Nat × TargetHalf) → Prop
  | begun : Conduct s [] none
  | lost {e t o} : Closing e s t o → Conduct s (⟨.inr (.recv .forever), .error e⟩ :: t) o
  | stopped : Conduct s [⟨.inr (.recv .forever), .ok .shutdown⟩] (some (.ok s.exchanged, s))
  | stray {frame t o} : (∀ real, frame ≠ .target real) → frame ≠ .shutdown →
      Closing (unexpected frame) s t o → Conduct s (⟨.inr (.recv .forever), .ok frame⟩ :: t) o
  | hidden {real e t o} : emulatedBy s.device.config real = .error e → Closing e s t o →
      Conduct s (⟨.inr (.recv .forever), .ok (.target real)⟩ :: t) o
  | introduced (real : Target) : Conduct s [⟨.inr (.recv .forever), .ok (.target real)⟩] none
  | unseen {real shown e t o} : emulatedBy s.device.config real = .ok shown →
      Closing e (s.showing shown) t o →
      Conduct s (⟨.inr (.recv .forever), .ok (.target real)⟩ ::
        ⟨.inl (.arm shown s.device.config.targetTimeout), .error e⟩ :: t) o
  | shown {real shown first t o} : emulatedBy s.device.config real = .ok shown →
      Passing s.device.config.targetTimeout (s.showing shown) first t o →
      Conduct s (⟨.inr (.recv .forever), .ok (.target real)⟩ ::
        ⟨.inl (.arm shown s.device.config.targetTimeout), .ok first⟩ :: t) o

theorem conduct_of_reaches {n : Nat} {s : TargetHalf} {t : HalfLog}
    {x : Dialogue ChipAndLink (Except Error Nat × TargetHalf)} (h : (run n s).Reaches t x) :
    Conduct { s with exchanged := 0 } t x.result := by
  rw [run_eq] at h
  rcases Dialogue.reaches_ask h with ⟨rfl, rfl⟩ | ⟨(r : Except Error LinkFrame), u, rfl, rest⟩
  · exact .begun
  cases r with
  | error e => exact .lost (closing_of_reaches rest)
  | ok frame =>
      cases frame with
      | command other =>
          exact .stray (fun _ => LinkFrame.noConfusion) LinkFrame.noConfusion
            (closing_of_reaches rest)
      | response other =>
          exact .stray (fun _ => LinkFrame.noConfusion) LinkFrame.noConfusion
            (closing_of_reaches rest)
      | shutdown =>
          obtain ⟨rfl, rfl⟩ := Dialogue.reaches_done rest
          exact .stopped
      | target real =>
          change (revealed n _ (emulatedBy s.device.config real)).Reaches u x at rest
          cases reveals : emulatedBy s.device.config real with
          | error e =>
              rw [reveals] at rest
              exact .hidden reveals (closing_of_reaches rest)
          | ok shown =>
              rw [reveals] at rest
              rcases Dialogue.reaches_ask rest with
                ⟨rfl, rfl⟩ | ⟨(first : Except Error Bytes), u, rfl, last⟩
              · exact .introduced real
              cases first with
              | error e => exact .unseen reveals (closing_of_reaches last)
              | ok command => exact .shown reveals (passing_of_reaches last)

end TargetHalf

end Relay

end Contactless
