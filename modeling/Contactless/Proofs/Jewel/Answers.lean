import Contactless.Proofs.Exchange
import Contactless.Proofs.Faults
import Contactless.Proofs.Initiator.Operation
import Contactless.Proofs.Jewel.Frame

/-!
What operations on a Jewel tag fail for. An answer of the right length is of the kind that the
command calls for, so that none is ever taken for one to another command.
-/
namespace Contactless.Jewel

/-- Failures of an operation that the chip did not report: an argument that names nothing, a frame
of another length, a byte that holds something else than was written. -/
inductive Own : Error → Prop
  | argument (detail : String) : Own (.invalidParameter detail)
  | length (expected actual : Nat) : Own (.invalidLength expected actual)
  | spoiled (address held written : UInt8) :
      Own (.rfProtocol (s!"byte {Text.Hex.byte address} holds {Text.Hex.byte held}"
        ++ s!" after writing {Text.Hex.byte written}"))

/-- What is said of an answer to another command. -/
def unexpected : List String :=
  ["RALL answer expected", "RID answer expected", "byte answer expected", "block answer expected"]

theorem not_own_of_unexpected {detail : String} (told : detail ∈ unexpected) :
    ¬ Own (.rfProtocol detail) := by
  generalize same : Error.rfProtocol detail = e
  intro own
  cases own with
  | argument => cases same
  | length => cases same
  | spoiled address held written =>
      -- What is fixed of this text is longer than any of the others.
      have short : detail.length ≤ 21 :=
        (by decide : ∀ text ∈ unexpected, text.length ≤ 21) detail told
      have lengths := congrArg String.length (Error.rfProtocol.inj same)
      have byte : (toString "byte ").length = 5 := by decide
      have holds : (toString " holds ").length = 7 := by decide
      have after : (toString " after writing ").length = 15 := by decide
      simp only [String.length_append] at lengths
      omega

theorem own_of_byteAddress {block byte : UInt8} {e : Error}
    (refused : byteAddress block byte = .error e) : Own e := by
  unfold byteAddress at refused
  split at refused
  · cases refused
    exact .argument _
  · cases refused

theorem own_of_decode {r : Request} {frame : Bytes} {e : Error}
    (failed : Response.decode r.code frame = .error e) : Own e := by
  rw [r.decode_code] at failed
  by_cases whole : frame.length = r.scope.responseLength
  · obtain ⟨a, reads⟩ := Scope.exists_reads whole
    cases failed.symm.trans (Scope.decode_of_reads reads)
  · cases failed.symm.trans (Scope.decode_of_length_ne whole)
    exact .length _ _

theorem own_of_octetsAt {n pos : Nat} {frame : Bytes} {e : Error}
    (short : octetsAt n frame pos = .error e) : Own e := by
  unfold octetsAt at short
  split at short
  · cases short
    exact .length _ _
  · cases short

theorem Request.encode_ne_nil (r : Request) : r.encode ≠ [] := by
  cases r <;> exact List.cons_ne_nil _ _

theorem Request.length_encode_le (r : Request) : r.encode.length ≤ Chip.frameLimit := by
  rw [r.length_encode]
  cases r.scope <;> decide

namespace Tag

open Act (Faults)

theorem faults_uid : Faults Own uid := by
  refine Act.faults_get.bind fun d => ?_
  split
  · exact Act.faults_pure _
  · exact Act.faults_throw (.argument _)

theorem assures_exchange (request : Request) (d : Device .initiator) :
    (exchange request).Assures d fun t r d' =>
      ∃ answer, t = [⟨.bytes request.encode d.config.commandTimeout, answer⟩] ∧
        r = (answer >>= Response.decode request.code) ∧ d' = d :=
  (Device.assures_exchangeFrame request.encode_ne_nil request.length_encode_le).read _

theorem reads_of_exchange {request : Request} {d d' : Device .initiator} {t : List Chip.Event}
    {a : Response} (came : (exchange request).Yields d t (.ok a) d') :
    ∃ frame, request.scope.Reads frame a := by
  obtain ⟨answer, -, read, -⟩ := (assures_exchange request d).of_yields came
  obtain ⟨frame, -, decoded⟩ := bind_eq_ok_iff.mp read.symm
  exact ⟨frame, request.decode_eq_ok_iff.mp decoded⟩

theorem faults_exchange (request : Request) : Faults Own (exchange request) := by
  intro n d t e d' yields
  obtain ⟨answer, rfl, failed, -⟩ := (assures_exchange request d).of_yields ⟨n, yields⟩
  cases answer with
  | error e' =>
      cases failed
      exact .inr (Chip.fails_head rfl)
  | ok frame => exact .inl (own_of_decode failed.symm)

/-- What is made of an answer has to do with answers to that request only. -/
theorem faults_exchange_bind {α : Type} {request : Request}
    {f : Response → Act Chip (Device .initiator) α}
    (rest : ∀ frame a, request.scope.Reads frame a → Faults Own (f a)) :
    Faults Own (exchange request >>= f) :=
  (faults_exchange request).bind_of (fun _ _ _ _ => reads_of_exchange)
    fun a ⟨frame, reads⟩ => rest frame a reads

theorem faults_readAll : Faults Own readAll := by
  refine faults_uid.bind fun id => faults_exchange_bind ?_
  rintro _ _ ⟨⟩
  exact Act.faults_pure _

theorem faults_byteExchange {request : Request} (byte : request.scope = .byte) :
    Faults Own (byteExchange request) := by
  refine faults_exchange_bind ?_
  rw [byte]
  rintro _ _ ⟨⟩
  exact Act.faults_pure _

theorem faults_blockExchange {request : Request} (block : request.scope = .block) :
    Faults Own (blockExchange request) := by
  refine faults_exchange_bind ?_
  rw [block]
  rintro _ _ ⟨⟩
  exact Act.faults_pure _

theorem faults_writeByteOf (id : TagId) (block byte data : UInt8) (erase : Bool) :
    Faults Own (writeByteOf id block byte data erase) := by
  refine Act.faults_ofExcept_bind (fun _ => own_of_byteAddress) fun address _ => ?_
  refine (faults_byteExchange ?_).bind fun held => ?_
  · cases erase <;> rfl
  · split
    · exact Act.faults_throw (.spoiled address held data)
    · exact Act.faults_pure _

theorem faults_operation (operation : Operation) : Faults Own operation.run := by
  have done (α : Type) (_ : α) : Faults Own (pure () : Act Chip (Device .initiator) Unit) :=
    Act.faults_pure ()
  cases operation with
  | exchange request =>
      exact (faults_uid.bind fun _ => faults_exchange request).bind (done _)
  | readAll => exact faults_readAll.bind (done _)
  | readByte block byte =>
      refine Act.Faults.bind (faults_uid.bind fun _ => ?_) (done _)
      exact Act.faults_ofExcept_bind (fun _ => own_of_byteAddress) fun _ _ =>
        faults_byteExchange rfl
  | writeByte block byte data erase =>
      exact faults_uid.bind fun id => faults_writeByteOf id block byte data erase
  | readBlock block => exact (faults_uid.bind fun _ => faults_blockExchange rfl).bind (done _)
  | writeBlock block data erase =>
      refine faults_uid.bind fun _ => (faults_blockExchange ?_).bind (done _)
      cases erase <;> rfl
  | restore dump =>
      exact faults_uid.bind fun id => Act.faults_forM (fun _ => faults_writeByteOf id _ _ _ true) _

end Tag

theorem faults_search {σ : Type} (wait : Timeout) :
    Act.Faults Own (Search.jewel wait : Act Chip σ (Option Target)) := by
  refine (Chip.faults_silentAsNone (Chip.faults_bits TypeA.reqa wait)).bind fun answer => ?_
  cases answer with
  | none => exact Act.faults_pure _
  | some frame =>
      refine Act.faults_ofExcept_bind (fun _ => own_of_octetsAt) fun atqa _ => ?_
      refine (Chip.faults_bytes _ wait).bind fun answer => ?_
      refine Act.faults_ofExcept_bind (fun _ => own_of_decode) fun a read => ?_
      cases Request.rid.decode_eq_ok_iff.mp read
      exact Act.faults_pure _

/-- An answer to another command is found only where the chip itself reports it. -/
def Expected {α : Type} (t : List Chip.Event) (r : Except Error α) : Prop :=
  ∀ detail ∈ unexpected, r = .error (.rfProtocol detail) → Chip.Fails t (.rfProtocol detail)

theorem expected_of_faults {σ α : Type} {x : Act Chip σ α} (faults : Act.Faults Own x) {s s' : σ}
    {t : List Chip.Event} {r : Except Error α} (yields : x.Yields s t r s') : Expected t r := by
  obtain ⟨n, yields⟩ := yields
  rintro detail told rfl
  exact (faults n s t _ s' yields).resolve_left (not_own_of_unexpected told)

/-- Requests, their frames and the answers to them go together, other commands have no answers, and
no answer is ever found to be one to another command. -/
theorem requests_answered :
    (∀ r : Request, r.Agrees) ∧
      (∀ code, (∀ r : Request, r.code ≠ code) → ∀ frame, Response.decode code frame =
        .error (.commandNotSupported s!"jewel opcode {Text.Hex.byte code}")) ∧
      (∀ (operation : Tag.Operation) d t r d', operation.run.Yields d t r d' → Expected t r) ∧
      ∀ (σ : Type) (wait : Timeout) (s : σ) t r s',
        (Search.jewel wait : Act Chip σ (Option Target)).Yields s t r s' → Expected t r := by
  refine ⟨Request.agrees, ?_, ?_, ?_⟩
  · intro code unknown frame
    unfold Response.decode
    rw [(Request.lengths_eq_none unknown).2]
  · intro operation d t r d'
    exact expected_of_faults (Tag.faults_operation operation)
  · intro σ wait s t r s'
    exact expected_of_faults (faults_search wait)

end Contactless.Jewel
