import Contactless.Proofs.Dep.Numbered
import Contactless.Proofs.Dep.Transmission
import Mathlib.Data.List.Chain

/-! Calls of the initiator to a target that may answer anything. The pieces of a payload go out in
order, each once the one before it was acknowledged; after the last one each piece of the answer is
acknowledged until that is complete. -/
namespace Contactless.Dep

/-- Acknowledgements that are numbered from a packet number on. -/
def acks : UInt8 → Nat → List Pdu
  | _, 0 => []
  | pni, n + 1 => .ack pni :: acks (nextPni pni) n

theorem payload_of_mem_acks {pni : UInt8} {n : Nat} {pdu : Pdu} (member : pdu ∈ acks pni n) :
    pdu.payload = [] := by
  induction n generalizing pni with
  | zero => cases member
  | succ n ih =>
      rcases List.mem_cons.mp member with rfl | later
      · rfl
      · exact ih later

/-- A frame on which the piece of the answer with this number is due. -/
def Invites (k : UInt8) (asked : Pdu) : Prop :=
  (∃ last, asked = .information false k last) ∨ asked = .ack k

/-- A trip that is followed by another one. -/
inductive Leads : Trip → Trip → Prop
  | acked {x y : Trip} {k : UInt8} {piece next : Bytes} {pdu : Pdu} {more : Bool} :
      x.asked = .information true k piece → x.outcome = .ok pdu → pdu.pfb = .ack k →
      y.asked = .information more (nextPni k) next → Leads x y
  | more {x y : Trip} {k : UInt8} {payload : Bytes} : Invites k x.asked →
      x.outcome = .ok (.information true k payload) → y.asked = .ack (nextPni k) → Leads x y

/-- What comes of the last trip of a call. -/
inductive Decides (x : Trip) : Except Error Bytes → Prop
  | lost {e : Error} : x.outcome = .error e → Decides x (.error e)
  | unacked {k : UInt8} {piece : Bytes} {pdu : Pdu} (detail : String) :
      x.asked = .information true k piece → x.outcome = .ok pdu → pdu.pfb ≠ .ack k →
      Decides x (.error (.rfProtocol detail))
  | unexpected {k : UInt8} {pdu : Pdu} (detail : String) : Invites k x.asked →
      x.outcome = .ok pdu → (∀ more, pdu.pfb ≠ .information more k) →
      Decides x (.error (.rfProtocol detail))
  | complete {k : UInt8} {payload : Bytes} (out : Bytes) : Invites k x.asked →
      x.outcome = .ok (.information false k payload) → Decides x (.ok out)

namespace Collects

variable {pni pni' : UInt8} {received out : Bytes} {x : Trip} {rest : List Trip}
  {r : Except Error Bytes}

theorem chained (collects : Collects pni received x rest r pni')
    (invites : Invites pni x.asked) : (x :: rest).IsChain Leads := by
  induction collects with
  | lost | unexpected | complete => exact .singleton _
  | more comes asks _ ih => exact .cons_cons (.more invites comes asks) (ih (.inr asks))

theorem decided (collects : Collects pni received x rest r pni')
    (invites : Invites pni x.asked) : ∃ before y, x :: rest = before ++ [y] ∧ Decides y r := by
  induction collects with
  | lost failed => exact ⟨[], _, rfl, .lost failed⟩
  | unexpected detail comes other => exact ⟨[], _, rfl, .unexpected detail invites comes other⟩
  | complete comes => exact ⟨[], _, rfl, .complete _ invites comes⟩
  | @more _ _ _ _ x _ _ _ comes asks _ ih =>
      obtain ⟨before, z, same, decides⟩ := ih (.inr asks)
      exact ⟨x :: before, z, congrArg (x :: ·) same, decides⟩

theorem asked (collects : Collects pni received x rest r pni') :
    ∃ n, rest.map Trip.asked = acks (nextPni pni) n := by
  induction collects with
  | lost | unexpected | complete => exact ⟨0, rfl⟩
  | more comes asks _ ih =>
      obtain ⟨n, same⟩ := ih
      exact ⟨n + 1, congrArg₂ List.cons asks same⟩

/-- An answer that is complete came in pieces that are numbered without a gap, each but the first
asked for by an acknowledgement. -/
theorem of_ok (collects : Collects pni received x rest (.ok out) pni') :
    ∃ outHead outLast, rest.map Trip.asked = acks (nextPni pni) outHead.length ∧
      (x :: rest).map Trip.outcome = (numbered pni outHead outLast).map .ok ∧
      out = received ++ (outHead.flatten ++ outLast) ∧ pni' = nextPni^[outHead.length + 1] pni := by
  generalize came : Except.ok out = r at collects
  induction collects with
  | lost | unexpected => cases came
  | @complete _ _ payload _ comes =>
      cases came
      exact ⟨[], payload, rfl, congrArg (· :: []) comes, rfl, rfl⟩
  | @more _ _ _ payload _ _ _ _ comes asks _ ih =>
      obtain ⟨outHead, outLast, asked, pieces, rfl, rfl⟩ := ih came
      refine ⟨payload :: outHead, outLast, congrArg₂ List.cons asks asked,
        congrArg₂ List.cons comes pieces, ?_, rfl⟩
      rw [List.flatten_cons, List.append_assoc, List.append_assoc]

theorem stops (collects : Collects pni received x rest r pni') (wait : Timeout) :
    Stops ((x :: rest).flatMap (Trip.events wait)) r := by
  induction collects with
  | lost failed => exact Trip.stops_of_error wait failed
  | unexpected detail comes _ | complete comes => exact Trip.stops_append wait comes stops_nil
  | more comes _ _ ih => exact Trip.stops_append wait comes ih

end Collects

namespace Transmits

variable {pni pni' : UInt8} {head : List Bytes} {last out : Bytes} {x : Trip} {xs : List Trip}
  {r : Except Error Bytes}

theorem first (transmits : Transmits pni head last (x :: xs) r pni') :
    ∃ more piece, x.asked = .information more pni piece := by
  cases transmits with
  | lost asks | unacked detail asks | acked asks => exact ⟨true, _, asks⟩
  | said asks => exact ⟨false, _, asks⟩

theorem chained (transmits : Transmits pni head last xs r pni') : xs.IsChain Leads := by
  induction transmits with
  | lost | unacked => exact .singleton _
  | @acked _ _ _ _ _ _ _ rest _ asks comes acks transmits ih =>
      cases rest with
      | nil => exact .singleton _
      | cons y rest =>
          obtain ⟨more, piece, next⟩ := transmits.first
          exact .cons_cons (.acked asks comes acks next) ih
  | said asks collects => exact collects.chained (.inl ⟨_, asks⟩)

theorem decided (transmits : Transmits pni head last xs r pni') :
    ∃ before y, xs = before ++ [y] ∧ Decides y r := by
  induction transmits with
  | lost asks failed => exact ⟨[], _, rfl, .lost failed⟩
  | unacked detail asks comes other => exact ⟨[], _, rfl, .unacked detail asks comes other⟩
  | @acked _ _ _ _ _ x _ _ _ asks comes acks _ ih =>
      obtain ⟨before, y, rfl, decides⟩ := ih
      exact ⟨x :: before, y, rfl, decides⟩
  | said asks collects => exact collects.decided (.inl ⟨_, asks⟩)

theorem in_order (transmits : Transmits pni head last xs r pni') :
    ∃ n, xs.map Trip.asked <+:
      numbered pni head last ++ acks (nextPni^[head.length + 1] pni) n := by
  induction transmits with
  | lost asks | unacked detail asks =>
      exact ⟨0, List.cons_prefix_cons.mpr ⟨asks, List.nil_prefix⟩⟩
  | acked asks comes acks _ ih =>
      obtain ⟨n, before⟩ := ih
      exact ⟨n, List.cons_prefix_cons.mpr ⟨asks, before⟩⟩
  | said asks collects =>
      obtain ⟨n, same⟩ := collects.asked
      refine ⟨n, ?_⟩
      rw [List.map_cons, asks, same]
      exact List.prefix_refl _

theorem of_ok (transmits : Transmits pni head last xs (.ok out) pni') :
    ∃ outHead outLast,
      xs.map Trip.asked =
        numbered pni head last ++ acks (nextPni^[head.length + 1] pni) outHead.length ∧
      (xs.drop head.length).map Trip.outcome =
        (numbered (nextPni^[head.length] pni) outHead outLast).map .ok ∧
      out = outHead.flatten ++ outLast ∧
      pni' = nextPni^[head.length + (outHead.length + 1)] pni := by
  generalize came : Except.ok out = r at transmits
  induction transmits with
  | lost | unacked => cases came
  | @acked _ _ _ _ head _ _ _ _ asks comes acks _ ih =>
      obtain ⟨outHead, outLast, asked, pieces, whole, rfl⟩ := ih came
      refine ⟨outHead, outLast, congrArg₂ List.cons asks asked, pieces, whole, ?_⟩
      rw [List.length_cons, Nat.add_right_comm]
      rfl
  | said asks collects =>
      cases came
      obtain ⟨outHead, outLast, asked, pieces, rfl, rfl⟩ := collects.of_ok
      refine ⟨outHead, outLast, congrArg₂ List.cons asks asked, pieces, rfl, ?_⟩
      rw [List.length_nil, Nat.zero_add]

theorem stops (transmits : Transmits pni head last xs r pni') (wait : Timeout) :
    Stops (xs.flatMap (Trip.events wait)) r := by
  induction transmits with
  | lost asks failed => exact Trip.stops_of_error wait failed
  | unacked detail asks comes _ => exact Trip.stops_append wait comes stops_nil
  | acked asks comes _ _ ih => exact Trip.stops_append wait comes ih
  | said asks collects => exact collects.stops wait

/-- There is room for every frame of a call. -/
theorem bytes_of_mem {n : Nat} {payload : Bytes} {wait : Timeout} {event : Chip.Event}
    (transmits : Transmits pni head last xs r pni') (cut : Cut n payload head last) (some : 0 < n)
    (member : event ∈ xs.flatMap (Trip.events wait)) :
    ∃ frame w a, event = ⟨.bytes frame w, a⟩ ∧ frame.length ≤ n + 4 := by
  obtain ⟨x, among, said⟩ := List.mem_flatMap.mp member
  obtain ⟨k, before⟩ := transmits.in_order
  have short : x.asked.payload.length ≤ n := by
    rcases List.mem_append.mp (before.subset (List.mem_map_of_mem among)) with piece | ack
    · exact cut.payload_le _ piece
    · rw [payload_of_mem_acks ack]
      exact Nat.zero_le n
  exact x.bytes_of_mem some short said

end Transmits

/-- A trip without an answer is the last one, and its failure is what comes of the call. -/
theorem failed_of_chained {xs before after : List Trip} {x : Trip} {r : Except Error Bytes}
    {e : Error} (chained : xs.IsChain Leads)
    (decided : ∃ before y, xs = before ++ [y] ∧ Decides y r) (split : xs = before ++ x :: after)
    (failed : x.outcome = .error e) : after = [] ∧ r = .error e := by
  subst split
  cases after with
  | nil =>
      obtain ⟨before', y, same, decides⟩ := decided
      obtain ⟨-, alone⟩ := List.append_inj' same rfl
      cases alone
      refine ⟨rfl, ?_⟩
      cases decides with
      | lost failed' => exact congrArg Except.error (Except.error.inj (failed'.symm.trans failed))
      | unacked _ _ comes | unexpected _ _ comes | complete _ _ comes =>
          cases comes.symm.trans failed
  | cons z after =>
      have leads : Leads x z := (List.isChain_append.mp chained).2.1.rel
      cases leads with
      | acked _ comes | more _ comes => cases comes.symm.trans failed

/-- What a call of an initiator comes to, given how its payload is cut. -/
structure Converses (wait : Timeout) (link : Link) (payload : Bytes) (head : List Bytes)
    (last : Bytes) (xs : List Trip) (t : List Chip.Event) (r : Except Error Bytes)
    (link' : Link) : Prop where
  cut : Cut (frameLimit link.info.pp - 3) payload head last
  said : t = xs.flatMap (Trip.events wait)
  /-- The frames are the pieces of the payload, and after these acknowledgements. -/
  in_order : ∃ n, xs.map Trip.asked <+:
    numbered link.pni head last ++ acks (nextPni^[head.length + 1] link.pni) n
  /-- A piece goes out once the one before it was acknowledged, and an acknowledgement once a piece
  of the answer has come that is not the last. -/
  chained : xs.IsChain Leads
  decided : ∃ before x, xs = before ++ [x] ∧ Decides x r
  /-- What cannot be read, or asks for time that no target may ask for, ends the call as well. -/
  failed : ∀ before x after e, xs = before ++ x :: after → x.outcome = .error e →
    after = [] ∧ r = .error e
  stops : Stops t r
  /-- A grant waits for a multiple of the agreed wait, or for the longest time there is. -/
  scaled : ∀ factor, (wait.scale factor).limit =
    wait.limit.map fun ms => min (ms * factor.toNat) (UInt64.size - 1)
  fits : ∀ event ∈ t, ∃ frame w answer, event = ⟨.bytes frame w, answer⟩ ∧
    frame.length ≤ frameLimit link.info.pp + 1
  done : ∀ out, r = .ok out → ∃ outHead outLast,
    xs.map Trip.asked =
      numbered link.pni head last ++ acks (nextPni^[head.length + 1] link.pni) outHead.length ∧
    (xs.drop head.length).map Trip.outcome =
      (numbered (nextPni^[head.length] link.pni) outHead outLast).map .ok ∧
    out = outHead.flatten ++ outLast ∧
    link'.pni.toNat = (link.pni.toNat + (head.length + (outHead.length + 1))) % 4
  kept : link' = { link with pni := link'.pni }

/-- Whatever a target answers, a call sends its pieces one by one and then takes in the answer,
until it is complete or something fails. -/
theorem transceive_converses {i : InitiatorSide} {link : Link} (opened : i.link = some link)
    (small : link.pni ≤ 3) (payload : Bytes) :
    ∃ head last, (InitiatorSide.transceive payload).Accounts i fun t r i' =>
      ∃ xs link', i' = ⟨i.device, some link'⟩ ∧
        Converses i.device.config.commandTimeout link payload head last xs t r link' := by
  have some := payloadLimit_pos link.info.pp
  have cut := cut_pieces some payload
  obtain ⟨head, last, cutting⟩ :
      ∃ head last, pieces (payloadLimit link.info.pp) payload = (head, last) := ⟨_, _, rfl⟩
  rw [cutting] at cut
  refine ⟨head, last, (InitiatorSide.accounts_transceive opened cutting).mono ?_⟩
  rintro _ r _ ⟨xs, pni, rfl, transmits, rfl⟩
  refine ⟨xs, { link with pni }, rfl, ?_⟩
  constructor
  case cut => exact cut
  case said => rfl
  case in_order => exact transmits.in_order
  case chained => exact transmits.chained
  case decided => exact transmits.decided
  case failed =>
    intro before x after e split failed
    exact failed_of_chained transmits.chained transmits.decided split failed
  case stops => exact transmits.stops _
  case scaled =>
    intro factor
    exact Timeout.limit_scale _ factor
  case fits =>
    intro event member
    obtain ⟨frame, w, answer, rfl, short⟩ := transmits.bytes_of_mem cut some member
    refine ⟨frame, w, answer, rfl, ?_⟩
    unfold payloadLimit headerLength at short some
    omega
  case done =>
    rintro out rfl
    obtain ⟨outHead, outLast, asked, pieces, whole, count⟩ := transmits.of_ok
    refine ⟨outHead, outLast, asked, pieces, whole, ?_⟩
    rw [count, toNat_iterate_nextPni small]
  case kept => rfl

section Samples

/-- A link to a target with the smallest frames. -/
def narrow (pni : UInt8) : Link :=
  ⟨⟨standardNfcid3, 0, 0, 0, 0, 0, [], .passive, .baud106⟩, pni⟩

def talking (pni : UInt8) : InitiatorSide := ⟨⟨{}, none⟩, some (narrow pni)⟩

/-- A payload in two pieces, of which the first takes more time, and an answer in two pieces. -/
def talk : List Chip.Event :=
  [⟨.bytes ([0x41, 0xd4, 0x06, 0x13] ++ List.replicate 61 0xaa) (.millis 1000),
      .ok [0x05, 0xd5, 0x07, 0x90, 0x02]⟩,
    ⟨.bytes [0x05, 0xd4, 0x06, 0x90, 0x02] (.millis 2000), .ok [0x04, 0xd5, 0x07, 0x43]⟩,
    ⟨.bytes [0x05, 0xd4, 0x06, 0x00, 0xbb] (.millis 1000), .ok [0x05, 0xd5, 0x07, 0x10, 0x01]⟩,
    ⟨.bytes [0x04, 0xd4, 0x06, 0x41] (.millis 1000), .ok [0x05, 0xd5, 0x07, 0x01, 0x02]⟩]

theorem transceive_converses_two_pieces :
    (talking 3).link = some (narrow 3) ∧ (narrow 3).pni ≤ 3 ∧
      ∃ head last xs link', talking 2 = ⟨(talking 3).device, some link'⟩ ∧
        Converses .standard (narrow 3) crowded head last xs talk (.ok [0x01, 0x02]) link' := by
  have opened : (talking 3).link = some (narrow 3) := rfl
  have small : (narrow 3).pni ≤ 3 := by decide
  have cutting : pieces (payloadLimit (narrow 3).info.pp) crowded =
      ([List.replicate 61 0xaa], [0xbb]) := pieces_crowded
  obtain ⟨head, last, accounts⟩ := transceive_converses opened small crowded
  have course : ((do
        [List.replicate 61 0xaa].forM Linked.sendPiece
        Linked.finish [0xbb] : Act Chip Linked Bytes) 3 ⟨(talking 3).device, narrow 3⟩).Yields talk
      (.ok [0x01, 0x02], ⟨(talking 3).device, narrow 2⟩) :=
    .ask _ (.ask _ (.ask _ (.ask _ (.done _))))
  have yields := InitiatorSide.transceive_yields opened cutting course
  exact ⟨rfl, small, head, last, accounts.yields yields⟩

end Samples

end Contactless.Dep
