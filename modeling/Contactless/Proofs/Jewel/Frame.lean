import Contactless.Jewel.Frame
import Contactless.Proofs.Field

/-!
Requests to Jewel tags, and the answers that each of them takes. The lengths of requests, those of
answers and the reading of answers are three tables over the codes; that they fit together is proved
once, by what each command is about.
-/
namespace Contactless.Jewel

/-- What a command is about; it settles the size of request and answer. -/
inductive Scope where
  | identity
  | memory
  | byte
  | segment
  | block
deriving DecidableEq

namespace Scope

def requestLength : Scope → Nat
  | identity | memory | byte => 7
  | segment | block => 14

def responseLength : Scope → Nat
  | identity => 6
  | memory => 122
  | byte => 2
  | segment => 129
  | block => 9

/-- The answer to a command about the scope, if it is as long as it should be. -/
def decode (s : Scope) (frame : Bytes) : Except Error Response := do
  requireExactLength frame s.responseLength
  match s with
  | identity => return .rid (← octetsAt 2 frame 0) (← octetsAt 4 frame 2)
  | memory => return .rall (← octetsAt 2 frame 0) (.ofImage (← octetsAt 120 frame 2))
  | byte => return .byte (← byteAt frame 0) (← byteAt frame 1)
  | segment => return .rseg ((← byteAt frame 0) >>> 4) (← octetsAt 128 frame 1)
  | block => return .block (← byteAt frame 0) (← octetsAt 8 frame 1)

end Scope

section Layouts

variable {code code' address address' data data' : UInt8} {block block' : Octets 8}
  {id id' : TagId}

theorem length_shortRequest : (shortRequest code address data id).length = 7 := by
  rw [shortRequest, List.length_append, id.length_toList]
  rfl

theorem length_longRequest : (longRequest code address block id).length = 14 := by
  rw [longRequest, List.length_append, List.length_append, block.length_toList, id.length_toList]
  rfl

theorem suffix_shortRequest : id.toList <:+ shortRequest code address data id :=
  ⟨_, rfl⟩

theorem suffix_longRequest : id.toList <:+ longRequest code address block id :=
  ⟨_, rfl⟩

theorem shortRequest_inj
    (same : shortRequest code address data id = shortRequest code' address' data' id') :
    address = address' ∧ data = data' ∧ id = id' := by
  obtain ⟨front, ids⟩ := List.append_inj same rfl
  cases front
  exact ⟨rfl, rfl, Octets.ext_toList ids⟩

theorem longRequest_inj
    (same : longRequest code address block id = longRequest code' address' block' id') :
    address = address' ∧ block = block' ∧ id = id' := by
  obtain ⟨front, ids⟩ := List.append_inj' same (by rw [id.length_toList, id'.length_toList])
  obtain ⟨head, blocks⟩ := List.append_inj front rfl
  cases head
  exact ⟨rfl, Octets.ext_toList blocks, Octets.ext_toList ids⟩

end Layouts

/-- A number of four bits is told by the high half of a byte. -/
theorem shifted_inj {m n : UInt8} (small : m.toNat < 16) (small' : n.toNat < 16)
    (same : m <<< 4 = n <<< 4) : m = n := by
  have shifted (k : UInt8) (less : k.toNat < 16) : (k <<< 4).toNat = 16 * k.toNat := by
    rw [UInt8.toNat_shiftLeft]
    change k.toNat <<< 4 % 2 ^ 8 = _
    rw [Nat.shiftLeft_eq]
    omega
  have values := congrArg UInt8.toNat same
  rw [shifted m small, shifted n small'] at values
  exact UInt8.toNat_inj.mp (by omega)

namespace Request

def scope : Request → Scope
  | rid => .identity
  | rall _ => .memory
  | read _ _ | writeErasing _ _ _ | write _ _ _ => .byte
  | rseg _ _ => .segment
  | readBlock _ _ | writeBlockErasing _ _ _ | writeBlock _ _ _ => .block

/-- The tag that a request is for. Only the request for the identifier itself is for any tag. -/
def uid? : Request → Option TagId
  | rid => none
  | rall id | read id _ | writeErasing id _ _ | write id _ _ | rseg id _ | readBlock id _
  | writeBlockErasing id _ _ | writeBlock id _ _ => some id

/-- A segment is one of sixteen. -/
def Proper : Request → Prop
  | rseg _ segment => segment.toNat < 16
  | _ => True

variable {r s : Request}

theorem requestLength_code (r : Request) : requestLength r.code = some r.scope.requestLength := by
  cases r <;> rfl

theorem responseLength_code (r : Request) :
    responseLength r.code = some r.scope.responseLength := by
  cases r <;> rfl

theorem length_encode (r : Request) : r.encode.length = r.scope.requestLength := by
  cases r with
  | rid => rfl
  | rall | read | writeErasing | write => exact length_shortRequest
  | rseg | readBlock | writeBlockErasing | writeBlock => exact length_longRequest

theorem head?_encode (r : Request) : r.encode.head? = some r.code := by
  cases r <;> rfl

theorem uid?_eq_none_iff : r.uid? = none ↔ r = rid := by
  cases r with
  | rid => exact ⟨fun _ => rfl, fun _ => rfl⟩
  | _ => exact ⟨nofun, nofun⟩

theorem suffix_encode {id : TagId} (known : r.uid? = some id) : id.toList <:+ r.encode := by
  cases r with
  | rid => cases known
  | rall | read | writeErasing | write =>
      cases known
      exact suffix_shortRequest
  | rseg | readBlock | writeBlockErasing | writeBlock =>
      cases known
      exact suffix_longRequest

theorem eq_of_encode (proper : r.Proper) (proper' : s.Proper) (same : r.encode = s.encode) :
    r = s := by
  -- No two commands share a code, so that only requests of one command can share a frame.
  have heads := congrArg List.head? same
  rw [head?_encode, head?_encode] at heads
  have codes := Option.some_inj.mp heads
  cases r with
  | rid => cases s with
    | rid => rfl
    | _ => cases codes
  | rall => cases s with
    | rall =>
        obtain ⟨-, -, rfl⟩ := shortRequest_inj same
        rfl
    | _ => cases codes
  | read => cases s with
    | read =>
        obtain ⟨rfl, -, rfl⟩ := shortRequest_inj same
        rfl
    | _ => cases codes
  | writeErasing => cases s with
    | writeErasing =>
        obtain ⟨rfl, rfl, rfl⟩ := shortRequest_inj same
        rfl
    | _ => cases codes
  | write => cases s with
    | write =>
        obtain ⟨rfl, rfl, rfl⟩ := shortRequest_inj same
        rfl
    | _ => cases codes
  | rseg => cases s with
    | rseg =>
        obtain ⟨segments, -, rfl⟩ := longRequest_inj same
        rw [shifted_inj proper proper' segments]
    | _ => cases codes
  | readBlock => cases s with
    | readBlock =>
        obtain ⟨rfl, -, rfl⟩ := longRequest_inj same
        rfl
    | _ => cases codes
  | writeBlockErasing => cases s with
    | writeBlockErasing =>
        obtain ⟨rfl, rfl, rfl⟩ := longRequest_inj same
        rfl
    | _ => cases codes
  | writeBlock => cases s with
    | writeBlock =>
        obtain ⟨rfl, rfl, rfl⟩ := longRequest_inj same
        rfl
    | _ => cases codes

/-- The seventeenth segment would be asked for as the first. -/
example : (rseg (.zero 4) 16).encode = (rseg (.zero 4) 0).encode := rfl

end Request

/-- The answers that are read for a scope, and as what. -/
inductive Scope.Reads : Scope → Bytes → Response → Prop
  | rid (header : Octets 2) (id : TagId) :
      Reads .identity (header.toList ++ id.toList) (.rid header id)
  | rall (header : Octets 2) (dump : Dump) :
      Reads .memory (header.toList ++ dump.bytes) (.rall header dump)
  | byte (address data : UInt8) : Reads .byte [address, data] (.byte address data)
  | rseg (first : UInt8) (data : Octets 128) :
      Reads .segment (first :: data.toList) (.rseg (first >>> 4) data)
  | block (block : UInt8) (data : Octets 8) :
      Reads .block (block :: data.toList) (.block block data)

namespace Scope

variable {s : Scope} {frame : Bytes} {a : Response}

theorem Reads.length (reads : s.Reads frame a) : frame.length = s.responseLength := by
  cases reads with
  | rid header id =>
      rw [List.length_append, header.length_toList, id.length_toList]
      rfl
  | rall header dump =>
      rw [List.length_append, header.length_toList, Dump.bytes, dump.image.length_toList]
      rfl
  | byte => rfl
  | rseg first data =>
      rw [List.length_cons, data.length_toList]
      rfl
  | block number data =>
      rw [List.length_cons, data.length_toList]
      rfl

/-- Every frame of the right length is an answer. -/
theorem exists_reads (whole : frame.length = s.responseLength) : ∃ a, s.Reads frame a := by
  cases s with
  | identity =>
      obtain ⟨header, id, rfl⟩ := exists_octets_append (m := 2) (n := 4) whole
      exact ⟨_, .rid header id⟩
  | memory =>
      obtain ⟨header, image, rfl⟩ := exists_octets_append (m := 2) (n := 120) whole
      exact ⟨_, .rall header ⟨image⟩⟩
  | byte =>
      match frame, whole with
      | [address, data], _ => exact ⟨_, .byte address data⟩
  | segment =>
      obtain ⟨first, data, rfl⟩ := exists_cons_octets (n := 128) whole
      exact ⟨_, .rseg first data⟩
  | block =>
      obtain ⟨number, data, rfl⟩ := exists_cons_octets (n := 8) whole
      exact ⟨_, .block number data⟩

theorem decode_of_reads (reads : s.Reads frame a) : s.decode frame = .ok a := by
  unfold decode
  rw [requireExactLength_eq_ok_iff.mpr reads.length, ok_bind]
  cases reads with
  | rid header id =>
      dsimp only
      rw [octetsAt_front, octetsAt_rest header.length_toList id]
      rfl
  | rall header dump =>
      dsimp only [Dump.bytes]
      rw [octetsAt_front, octetsAt_rest header.length_toList dump.image]
      rfl
  | byte => rfl
  | rseg first data =>
      have rest : octetsAt 128 (first :: data.toList) 1 = .ok data :=
        octetsAt_rest (List.length_singleton : [first].length = 1) data
      dsimp only
      rw [rest]
      rfl
  | block number data =>
      have rest : octetsAt 8 (number :: data.toList) 1 = .ok data :=
        octetsAt_rest (List.length_singleton : [number].length = 1) data
      dsimp only
      rw [rest]
      rfl

theorem decode_eq_ok_iff : s.decode frame = .ok a ↔ s.Reads frame a := by
  constructor
  · intro read
    have whole := read
    unfold decode at whole
    obtain ⟨⟨⟩, measured, -⟩ := bind_eq_ok_iff.mp whole
    obtain ⟨a', reads⟩ := exists_reads (requireExactLength_eq_ok_iff.mp measured)
    cases read.symm.trans (decode_of_reads reads)
    exact reads
  · exact decode_of_reads

theorem decode_of_length_ne (other : frame.length ≠ s.responseLength) :
    s.decode frame = .error (.invalidLength s.responseLength frame.length) := by
  unfold decode requireExactLength
  rw [if_pos other]
  rfl

end Scope

namespace Request

variable {frame : Bytes} {a : Response}

/-- The arm for a code and the length for it are of one scope. -/
theorem decode_code (r : Request) : Response.decode r.code frame = r.scope.decode frame := by
  unfold Response.decode
  rw [responseLength_code]
  cases r <;> rfl

theorem decode_eq_ok_iff (r : Request) :
    Response.decode r.code frame = .ok a ↔ r.scope.Reads frame a := by
  rw [decode_code]
  exact Scope.decode_eq_ok_iff

theorem exists_decode_iff (r : Request) :
    (∃ a, Response.decode r.code frame = .ok a) ↔ responseLength r.code = some frame.length := by
  rw [responseLength_code, Option.some_inj]
  simp only [decode_eq_ok_iff]
  constructor
  · rintro ⟨a, reads⟩
    exact reads.length.symm
  · intro whole
    exact Scope.exists_reads whole.symm

/-- A request, its frame and the answers to it go together. -/
structure Agrees (r : Request) : Prop where
  sized : requestLength r.code = some r.encode.length
  opens : r.encode.head? = some r.code
  anonymous : r.uid? = none ↔ r = rid
  closes : ∀ id, r.uid? = some id → id.toList <:+ r.encode
  told : r.Proper → ∀ s : Request, s.Proper → s.encode = r.encode → s = r
  answerable : (responseLength r.code).isSome
  answered : ∀ frame, (∃ a, Response.decode r.code frame = .ok a) ↔
    responseLength r.code = some frame.length
  read : ∀ frame a, Response.decode r.code frame = .ok a ↔ r.scope.Reads frame a

theorem agrees (r : Request) : r.Agrees where
  sized := by rw [requestLength_code, length_encode]
  opens := head?_encode r
  anonymous := uid?_eq_none_iff
  closes _ := suffix_encode
  told proper _ proper' := eq_of_encode proper' proper
  answerable := by rw [responseLength_code]; rfl
  answered _ := exists_decode_iff r
  read _ _ := decode_eq_ok_iff r

/-- There are no other commands in either table. -/
theorem lengths_eq_none {code : UInt8} (unknown : ∀ r : Request, r.code ≠ code) :
    requestLength code = none ∧ responseLength code = none := by
  have known (r : Request) : ¬ code = r.code := fun same => unknown r same.symm
  have identity : ¬ code = ridCode := known rid
  have memory : ¬ code = rallCode := known (rall (.zero 4))
  have segment : ¬ code = rsegCode := known (rseg (.zero 4) 0)
  have byte : ¬ (code = readCode ∨ code = writeErasingCode ∨ code = writeCode) := by
    rintro (same | same | same)
    · exact known (read (.zero 4) 0) same
    · exact known (writeErasing (.zero 4) 0 0) same
    · exact known (write (.zero 4) 0 0) same
  have block : ¬ (code = readBlockCode ∨ code = writeBlockErasingCode ∨
      code = writeBlockCode) := by
    rintro (same | same | same)
    · exact known (readBlock (.zero 4) 0) same
    · exact known (writeBlockErasing (.zero 4) 0 (.zero 8)) same
    · exact known (writeBlock (.zero 4) 0 (.zero 8)) same
  constructor
  · have short := not_or.mpr ⟨identity, not_or.mpr ⟨memory, byte⟩⟩
    have long := not_or.mpr ⟨segment, block⟩
    unfold requestLength
    rw [if_neg short, if_neg long]
  · unfold responseLength
    rw [if_neg identity, if_neg memory, if_neg byte, if_neg segment, if_neg block]

end Request

end Contactless.Jewel
