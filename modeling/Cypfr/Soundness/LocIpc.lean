import Cypfr.Proofs.LocIpc
import Mathlib.Data.List.Chain

/-! # What arrives at a `LocIpc` receiver

Three uses of the same framing. Over a datagram socket with one sender, each call of the receiver takes
the datagrams of one payload and delivers it. Over a datagram socket that several senders share,
everything arrives once as long as no datagram of another sender comes between the header of a long payload and its
last piece; the receiver has no notion of a sender and would take it for a piece. Over a TCP
connection, the payloads sent are the payloads delivered exactly when every read that begins at a
short payload or at a header returns just that.
-/

namespace Cypfr.LocIpc

section OneSender

variable {m : ℕ}

/-- The calls that receive the transmissions at the head of the queue, whatever follows them. -/
theorem receive_sent (room : 32 ≤ m) {payloads : List Bytes} (framed : ∀ payload ∈ payloads, Framed m payload)
    (later : List Bytes) {i : ℕ} {payload : Bytes} (sent : payloads[i]? = some payload) :
    (receive datagramRead m payloads.length (payloads.flatMap (send m) ++ later))[i]? =
      some ⟨payload.length, some payload, (payloads.drop (i + 1)).flatMap (send m) ++ later⟩ := by
  induction payloads generalizing i with
  | nil => cases sent
  | cons first rest ih =>
    have call := recvfrom_send room (framed first List.mem_cons_self) (rest.flatMap (send m) ++ later)
    rw [List.flatMap_cons, List.append_assoc, List.length_cons, receive, call]
    cases i with
    | zero =>
      obtain rfl := Option.some.inj sent
      rfl
    | succ i =>
      rw [List.getElem?_cons_succ, List.drop_succ_cons]
      exact ih (fun p member => framed p (List.mem_cons_of_mem first member)) sent

/-- What one sender sends over a datagram socket, with whatever is in the queue behind it: call `i` of the
receiver finds the datagrams of payload `i` at the head of the queue, takes just these and delivers the
payload. The call writes inside its string; for a long payload this has the payload's length, and the
writes leave the payload in it. -/
theorem datagrams_round_trip (room : 32 ≤ m) {payloads : List Bytes}
    (framed : ∀ payload ∈ payloads, Framed m payload) (later : List Bytes) {i : ℕ} {payload : Bytes}
    (sent : payloads[i]? = some payload) :
    (receive datagramRead m payloads.length (payloads.flatMap (send m) ++ later))[i]? =
        some ⟨payload.length, some payload, (payloads.drop (i + 1)).flatMap (send m) ++ later⟩ ∧
      (payloads.drop i).flatMap (send m) = send m payload ++ (payloads.drop (i + 1)).flatMap (send m) ∧
      (∀ write ∈ recvfromWrites datagramRead m ((payloads.drop i).flatMap (send m) ++ later),
        write.offset + write.data.length ≤ write.size) ∧
      (∀ write ∈ (recvfromWrites datagramRead m ((payloads.drop i).flatMap (send m) ++ later)).tail,
        write.size = payload.length) ∧
      ∀ msg : Bytes, msg.length = payload.length → m < payload.length →
        (recvfromWrites datagramRead m ((payloads.drop i).flatMap (send m) ++ later)).tail.foldl Write.store msg =
          payload := by
  have first : (payloads.drop i).flatMap (send m) = send m payload ++ (payloads.drop (i + 1)).flatMap (send m) := by
    obtain ⟨bound, here⟩ := List.getElem?_eq_some_iff.mp sent
    rw [List.drop_eq_getElem_cons bound, here, List.flatMap_cons]
  refine ⟨receive_sent room framed later sent, first, recvfromWrites_inside datagramRead_capped, ?_⟩
  rw [first, List.append_assoc]
  exact recvfromWrites_send room (framed payload (List.mem_of_getElem? sent)) _

theorem framed_pair : ∀ payload ∈ [List.replicate 33 36, [1]], Framed 32 payload := by
  intro payload member
  rcases List.mem_cons.mp member with rfl | member
  · exact ⟨by decide, by decide, by decide, by decide⟩
  · obtain rfl := List.mem_singleton.mp member
    exact ⟨by decide, by decide, by decide, by decide⟩

/-- A payload of one byte more than the least transmit size, and a short one behind it. -/
theorem datagrams_round_trip_pair :
    (receive datagramRead 32 2 ([List.replicate 33 36, [1]].flatMap (send 32) ++ []))[0]? =
        some ⟨33, some (List.replicate 33 36), [[1]]⟩ :=
  (datagrams_round_trip (le_refl 32) framed_pair [] (i := 0) rfl).1

end OneSender

section Local

/-- A datagram in the receiver's queue, with the sender it came from and whether it is the last one of
its payload. -/
structure Datagram where
  sender : ℕ
  last : Bool
  data : Bytes

def tagPieces (sender : ℕ) : List Bytes → List Datagram
  | [] => []
  | [piece] => [⟨sender, true, piece⟩]
  | piece :: rest => ⟨sender, false, piece⟩ :: tagPieces sender rest

/-- The datagrams of one `Sock::send`. -/
def transmission (sender : ℕ) (payload : Bytes) : List Datagram := tagPieces sender (send maxTxSize payload)

/-- Sender `i` sends the payloads `sent[i]` in order, and its datagrams keep their order in the queue. -/
def Interleaving (sent : List (List Bytes)) (queue : List Datagram) : Prop :=
  ∀ i, queue.filter (fun d => d.sender = i) = (sent.getD i []).flatMap (transmission i)

/-- No datagram of another sender falls between two datagrams of one payload. -/
def Undisturbed (queue : List Datagram) : Prop :=
  queue.IsChain fun d next => d.last = false → next.sender = d.sender

theorem map_tagPieces (sender : ℕ) (pieces : List Bytes) :
    (tagPieces sender pieces).map Datagram.data = pieces := by
  fun_induction tagPieces with
  | case1 => rfl
  | case2 piece => rfl
  | case3 piece rest _ ih => rw [List.map_cons, ih]

theorem sender_tagPieces (sender : ℕ) (pieces : List Bytes) :
    ∀ d ∈ tagPieces sender pieces, d.sender = sender := by
  fun_induction tagPieces with
  | case1 => simp
  | case2 piece => simp
  | case3 piece rest _ ih => simpa using ih

/-- Where the next datagram of a sender is the first in the queue, its whole payload is. -/
theorem Undisturbed.split {sender : ℕ} {pieces : List Bytes} {queue tail : List Datagram} (whole : pieces ≠ [])
    (undisturbed : Undisturbed queue) (first : ∀ d, queue.head? = some d → d.sender = sender)
    (own : queue.filter (fun d => d.sender = sender) = tagPieces sender pieces ++ tail) :
    ∃ rest, queue = tagPieces sender pieces ++ rest ∧ rest.filter (fun d => d.sender = sender) = tail := by
  induction pieces generalizing queue with
  | nil => exact absurd rfl whole
  | cons piece more ih =>
    cases queue with
    | nil => cases more <;> simp [tagPieces] at own
    | cons d queue =>
      rw [List.filter_cons_of_pos (by simpa using first d rfl)] at own
      cases more with
      | nil =>
        obtain ⟨rfl, rest⟩ := List.cons.inj own
        exact ⟨queue, rfl, rest⟩
      | cons piece' more =>
        obtain ⟨rfl, rest⟩ := List.cons.inj own
        cases queue with
        | nil => cases more <;> simp [tagPieces] at rest
        | cons next queue =>
          obtain ⟨same, later⟩ := List.isChain_cons_cons.mp undisturbed
          obtain ⟨left, split, own⟩ := ih (by simp) later
            (fun e head => Option.some.inj head ▸ same rfl) rest
          exact ⟨left, by rw [split]; rfl, own⟩

theorem transmission_ne_nil {payload : Bytes} (nonempty : payload ≠ []) (sender : ℕ) :
    send maxTxSize payload ≠ [] ∧ transmission sender payload ≠ [] := by
  have sent : send maxTxSize payload ≠ [] := by
    rw [send, if_neg nonempty, sendto]
    split_ifs <;> simp
  refine ⟨sent, fun empty => sent ?_⟩
  rw [← map_tagPieces sender (send maxTxSize payload)]
  exact congrArg (List.map Datagram.data) empty

/-- The queue is empty, or it begins with the next payload of one of the senders. -/
theorem Interleaving.next {sent : List (List Bytes)} {queue : List Datagram}
    (sendable : ∀ payloads ∈ sent, ∀ payload ∈ payloads, Sendable payload) (inter : Interleaving sent queue)
    (undisturbed : Undisturbed queue) :
    queue = [] ∧ sent.flatten = [] ∨
      ∃ i payload payloads rest, sent[i]? = some (payload :: payloads) ∧ Sendable payload ∧
        queue = transmission i payload ++ rest ∧ Interleaving (sent.set i payloads) rest ∧ Undisturbed rest := by
  cases queue with
  | nil =>
    refine .inl ⟨rfl, List.flatten_eq_nil_iff.mpr fun payloads member => ?_⟩
    obtain ⟨i, here⟩ := List.mem_iff_getElem?.mp member
    have none := (inter i).symm
    rw [List.getD_eq_getElem?_getD, here, Option.getD_some, List.filter_nil, List.flatMap_eq_nil_iff] at none
    refine List.eq_nil_iff_forall_not_mem.mpr fun payload sent => ?_
    exact (transmission_ne_nil (sendable payloads member payload sent).nonempty i).2 (none payload sent)
  | cons d queue =>
    right
    have own := inter d.sender
    cases here : sent[d.sender]? with
    | none => simp [List.getD_eq_getElem?_getD, here] at own
    | some payloads =>
      cases payloads with
      | nil => simp [List.getD_eq_getElem?_getD, here] at own
      | cons payload payloads =>
        have valid := sendable _ (List.mem_of_getElem? here) payload List.mem_cons_self
        rw [List.getD_eq_getElem?_getD, here, Option.getD_some, List.flatMap_cons] at own
        obtain ⟨rest, split, mine⟩ := undisturbed.split (transmission_ne_nil valid.nonempty d.sender).1
          (fun e head => Option.some.inj head ▸ rfl) own
        refine ⟨d.sender, payload, payloads, rest, here, valid, split, ?_, ?_⟩
        · intro j
          by_cases same : j = d.sender
          · rw [same, mine, List.getD_eq_getElem?_getD, List.getElem?_set_self (List.getElem?_eq_some_iff.mp here).1]
            rfl
          · have others := inter j
            rw [split, List.filter_append, List.filter_eq_nil_iff.mpr, List.nil_append] at others
            · rw [others, List.getD_eq_getElem?_getD, List.getD_eq_getElem?_getD,
                List.getElem?_set_ne (Ne.symm same)]
            · intro e member
              simpa [sender_tagPieces _ _ e member] using Ne.symm same
        · exact (split ▸ undisturbed : Undisturbed (_ ++ rest)).right_of_append

theorem perm_set_tail {sent : List (List Bytes)} {i : ℕ} {payload : Bytes} {payloads : List Bytes}
    (here : sent[i]? = some (payload :: payloads)) :
    (payload :: (sent.set i payloads).flatten).Perm sent.flatten := by
  obtain ⟨bound, value⟩ := List.getElem?_eq_some_iff.mp here
  have parts : sent = sent.take i ++ (payload :: payloads) :: sent.drop (i + 1) := by
    rw [← value, List.cons_getElem_drop_succ, List.take_append_drop]
  rw [List.set_eq_take_append_cons_drop, if_pos bound]
  nth_rewrite 3 [parts]
  simp only [List.flatten_append, List.flatten_cons, List.cons_append]
  exact List.perm_middle.symm

theorem listen_interleaving {sent : List (List Bytes)} {queue : List Datagram}
    (sendable : ∀ payloads ∈ sent, ∀ payload ∈ payloads, Sendable payload) (inter : Interleaving sent queue)
    (undisturbed : Undisturbed queue) {fuel : ℕ} (enough : queue.length ≤ fuel) :
    (listen datagramRead maxTxSize fuel (queue.map Datagram.data)).Perm sent.flatten := by
  induction fuel generalizing sent queue with
  | zero =>
    obtain rfl := List.length_eq_zero_iff.mp (Nat.le_zero.mp enough)
    rcases inter.next sendable undisturbed with ⟨-, none⟩ | ⟨i, payload, payloads, rest, -, valid, split, -⟩
    · rw [none]; rfl
    · exact absurd (List.append_eq_nil_iff.mp split.symm).1 (transmission_ne_nil valid.nonempty i).2
  | succ fuel ih =>
    rcases inter.next sendable undisturbed with
      ⟨rfl, none⟩ | ⟨i, payload, payloads, rest, here, valid, rfl, left, calm⟩
    · rw [none]; rfl
    · have positive := List.length_pos_iff.mpr (transmission_ne_nil valid.nonempty i).2
      rw [List.map_append, transmission, map_tagPieces,
        listen_of_message (List.length_pos_iff.mpr valid.nonempty) (recvfrom_send (by decide) valid.framed _)]
      refine List.Perm.trans (List.Perm.cons payload (ih ?_ left calm ?_)) (perm_set_tail here)
      · intro others member p inside
        rcases List.mem_or_eq_of_mem_set member with old | rfl
        · exact sendable others old p inside
        · exact sendable _ (List.mem_of_getElem? here) p (List.mem_cons_of_mem payload inside)
      · rw [List.length_append] at enough
        omega

/-- Several senders, every interleaving that does not tear a payload apart: each payload sent is handed
to `onReceive` once, and nothing else is. -/
theorem local_delivers_each_once {sent : List (List Bytes)} {queue : List Datagram}
    (sendable : ∀ payloads ∈ sent, ∀ payload ∈ payloads, Sendable payload) (inter : Interleaving sent queue)
    (undisturbed : Undisturbed queue) :
    (listenLocal (queue.map Datagram.data)).Perm sent.flatten :=
  listen_interleaving sendable inter undisturbed (List.length_map _).ge

def zeros (n : ℕ) : Bytes := List.replicate n 0

@[simp] theorem length_zeros (n : ℕ) : (zeros n).length = n := List.length_replicate

@[simp] theorem take_zeros (n k : ℕ) : (zeros n).take k = zeros (min k n) := List.take_replicate

@[simp] theorem drop_zeros (n k : ℕ) : (zeros n).drop k = zeros (n - k) := List.drop_replicate

@[simp] theorem zeros_eq_nil (n : ℕ) : zeros n = [] ↔ n = 0 := List.replicate_eq_nil_iff 0

theorem zeros_append (n k : ℕ) : zeros n ++ zeros k = zeros (n + k) := List.replicate_append_replicate

/-- One byte more than fits: a header, a full piece and a piece of one byte. -/
theorem transmission_oversized : transmission 0 (zeros 8193) =
    [⟨0, false, header 8193⟩, ⟨0, false, zeros 8192⟩, ⟨0, true, zeros 1⟩] := by
  have pieces : sendPieces 8192 8193 (zeros 8193) = [zeros 8192, zeros 1] := by
    rw [show sendPieces 8192 8193 = sendPieces 8192 (8190 + 1 + 1 + 1) from rfl, sendPieces, sendPieces, sendPieces]
    simp
  rw [transmission, send, if_neg (by simp), sendto, length_zeros, if_neg (by decide), maxTxSize, pieces]
  rfl

theorem sendable_oversized : Sendable (zeros 8193) :=
  ⟨by simp, by simp, by simp [maxTxSize], by simp [maxTxSize]⟩

theorem sendable_one : Sendable [1] := ⟨by decide, by decide, by decide, by decide⟩

/-- Two senders, the first with a long payload. -/
theorem sendable_senders : ∀ payloads ∈ [[zeros 8193], [[1]]], ∀ payload ∈ payloads, Sendable payload := by
  intro payloads member payload inside
  simp only [List.mem_cons, List.not_mem_nil, or_false] at member
  rcases member with rfl | rfl
  · obtain rfl := List.mem_singleton.mp inside
    exact sendable_oversized
  · obtain rfl := List.mem_singleton.mp inside
    exact sendable_one

/-- A short payload of the second sender arrives before the header of the first one's long payload. -/
theorem local_delivers_each_once_oversized :
    (listenLocal ([⟨1, true, [1]⟩, ⟨0, false, header 8193⟩, ⟨0, false, zeros 8192⟩,
      ⟨0, true, zeros 1⟩].map Datagram.data)).Perm [[zeros 8193], [[1]]].flatten := by
  apply local_delivers_each_once
  · exact sendable_senders
  · intro i
    match i with
    | 0 => simp [transmission_oversized]
    | 1 => simp [transmission, send, sendto, tagPieces, maxTxSize]
    | i + 2 => simp
  · simp [Undisturbed]

/-- The same short payload after the header is taken for the first piece of the long payload. -/
theorem local_interleaved_piece_mixed :
    ∃ (sent : List (List Bytes)) (queue : List Datagram),
      (∀ payloads ∈ sent, ∀ payload ∈ payloads, Sendable payload) ∧ Interleaving sent queue ∧
        ¬ (listenLocal (queue.map Datagram.data)).Perm sent.flatten := by
  refine ⟨[[zeros 8193], [[1]]],
    [⟨0, false, header 8193⟩, ⟨1, true, [1]⟩, ⟨0, false, zeros 8192⟩, ⟨0, true, zeros 1⟩], ?_, ?_, ?_⟩
  · exact sendable_senders
  · intro i
    match i with
    | 0 => simp [transmission_oversized]
    | 1 => simp [transmission, send, sendto, tagPieces, maxTxSize]
    | i + 2 => simp
  · have call : recvfrom datagramRead maxTxSize [header 8193, [1], zeros 8192, zeros 1] =
        some ⟨8193, some ([1] ++ zeros 8192), [zeros 1]⟩ := by
      have got : datagramRead maxTxSize [header 8193, [1], zeros 8192, zeros 1] =
          some (header 8193, [[1], zeros 8192, zeros 1]) := by
        rw [datagramRead, List.take_of_length_le (length_header_le (by decide) (by decide) (by decide))]
      apply recvfrom_long (by decide) got
      · have collected : reassemble datagramRead 8193 8193 [] ([[1], zeros 8192] ++ [zeros 1]) = _ :=
          reassemble_datagrams (by simp) [zeros 1] (by simp) (by simp)
        simpa using collected
      · simp
    intro perm
    rw [listenLocal, List.length_map, List.length_cons, List.map_cons, List.map_cons, List.map_cons, List.map_cons,
      List.map_nil, listen_of_message (by decide) call] at perm
    have member := perm.mem_iff.mp List.mem_cons_self
    rcases List.mem_cons.mp member with mixed | short
    · have head := congrArg (fun l => l.head?) mixed
      rw [show zeros 8193 = 0 :: zeros 8192 from rfl] at head
      cases head
    · have size := congrArg List.length (List.mem_singleton.mp short)
      simp at size

end Local

section Tcp

/-- Every read that begins at the start of a short payload, or of the header of a long one, returns just
that payload or that header. The pieces of a long payload may be cut anywhere. -/
def Aligned : List Bytes → List Bytes → Prop
  | [], _ => True
  | payload :: rest, segments =>
    (streamRead maxTxSize segments).map Prod.fst =
        some (if payload.length ≤ maxTxSize then payload else header payload.length) ∧
      Aligned rest (dropBytes (send maxTxSize payload).flatten.length segments)

/-- The bytes of the payloads on the connection. -/
def wire (payloads : List Bytes) : Bytes := (payloads.flatMap (send maxTxSize)).flatten

theorem flatten_send {payload : Bytes} (nonempty : payload ≠ []) :
    (send maxTxSize payload).flatten =
      if payload.length ≤ maxTxSize then payload else header payload.length ++ payload := by
  rw [send, if_neg nonempty, sendto]
  split_ifs
  · simp
  · rw [List.flatten_cons, (flatten_sendPieces maxTxSize (by decide) le_rfl).1]

theorem wire_cons (payload : Bytes) (rest : List Bytes) :
    wire (payload :: rest) = (send maxTxSize payload).flatten ++ wire rest := by
  simp [wire]

/-- Aligned reads deliver the payloads one by one. -/
theorem listen_of_aligned {payloads segments : List Bytes} (sendable : ∀ payload ∈ payloads, Sendable payload)
    (nonempty : ∀ segment ∈ segments, segment ≠ []) (stream : segments.flatten = wire payloads)
    (aligned : Aligned payloads segments) {fuel : ℕ} (enough : payloads.length ≤ fuel) :
    listen streamRead maxTxSize fuel segments = payloads := by
  induction payloads generalizing segments fuel with
  | nil =>
    have done : segments = [] := by
      cases segments with
      | nil => rfl
      | cons segment later => simp [wire, nonempty segment List.mem_cons_self] at stream
    subst done
    cases fuel <;> rfl
  | cons payload rest ih =>
    obtain ⟨fuel, rfl⟩ : ∃ k, fuel = k + 1 := ⟨fuel - 1, by simp at enough; omega⟩
    obtain ⟨valid, bounded, notAbort, notHead⟩ := sendable payload List.mem_cons_self
    have positive := List.length_pos_iff.mpr valid
    obtain ⟨read, aligned⟩ := aligned
    obtain ⟨⟨first, left⟩, got, frame⟩ := Option.map_eq_some_iff.mp read
    obtain ⟨-, -, joined, remaining⟩ := streamRead_eq_some (by decide) nonempty got
    have tail := ih (fun p member => sendable p (List.mem_cons_of_mem payload member))
      (dropBytes_nonempty nonempty (send maxTxSize payload).flatten.length)
      (by rw [flatten_dropBytes, stream, wire_cons, List.drop_left]) aligned (by simpa using enough)
    rw [wire_cons, flatten_send valid] at stream
    rw [flatten_send valid] at tail
    simp only at frame
    split_ifs at frame tail stream with short
    · subst frame
      rw [listen_of_message positive (recvfrom_short valid (notAbort short) (notHead short) got), remaining, tail]
    · subst frame
      have body : left.flatten = payload ++ wire rest := by
        rw [stream, List.append_assoc] at joined
        exact (List.append_cancel_left joined).symm
      have collected : reassemble streamRead payload.length payload.length [] left = _ :=
        reassemble_stream (remaining ▸ dropBytes_nonempty nonempty _) (by simp) (by simp)
      rw [body, if_pos (by simp), List.length_nil, Nat.sub_zero, List.take_left, List.nil_append] at collected
      rw [listen_of_message positive (recvfrom_long bounded got collected rfl), remaining, dropBytes_dropBytes,
        ← List.length_append, tail]

/-- Delivering the payloads takes at least the bytes of their frames, and takes no more only if the
reads are aligned: a read mistaken for a header discards at least the bytes of a true one. -/
theorem aligned_of_listen {payloads segments : List Bytes} (sendable : ∀ payload ∈ payloads, Sendable payload)
    (nonempty : ∀ segment ∈ segments, segment ≠ []) {fuel : ℕ}
    (heard : listen streamRead maxTxSize fuel segments = payloads) :
    (wire payloads).length ≤ segments.flatten.length ∧
      (segments.flatten = wire payloads → Aligned payloads segments) := by
  induction payloads generalizing segments fuel with
  | nil => exact ⟨by simp [wire], fun _ => trivial⟩
  | cons payload rest ih =>
    have valid := (sendable payload List.mem_cons_self).nonempty
    have positive := List.length_pos_iff.mpr valid
    obtain ⟨fuel', received, call, delivered, later⟩ := listen_eq_cons valid heard
    obtain ⟨-, first, left, got, source⟩ := recvfrom_message call delivered valid
    obtain ⟨-, fits, joined, remaining⟩ := streamRead_eq_some (by decide) nonempty got
    have leftNonempty := remaining ▸ dropBytes_nonempty nonempty first.length
    have others : ∀ p ∈ rest, Sendable p := fun p member => sendable p (List.mem_cons_of_mem payload member)
    rcases source with ⟨rfl, rfl⟩ | ⟨msgLen, msg, collected, taken, discarded⟩
    · obtain ⟨size, aligned⟩ := ih others leftNonempty later
      rw [wire_cons, flatten_send valid, if_pos fits, joined]
      refine ⟨by simpa using size, fun stream => ⟨by simp [got, fits], ?_⟩⟩
      rw [flatten_send valid, if_pos fits, ← remaining]
      exact aligned (List.append_cancel_left stream)
    · rw [reassemble_stream leftNonempty (by simp) (by simp)] at collected
      split_ifs at collected with enough
      obtain ⟨text, after⟩ := Prod.mk.inj (Option.some.inj collected)
      obtain ⟨size, aligned⟩ := ih others (after ▸ dropBytes_nonempty leftNonempty _) later
      simp only [List.length_nil, Nat.sub_zero, List.nil_append, Option.some.injEq] at text after enough
      have length : payload.length = msgLen % 2 ^ 32 := by
        rw [taken, ← text, List.length_take, List.length_take]
        omega
      have header_le := discarded payload.length positive (by omega)
      rw [← after, flatten_dropBytes, List.length_drop] at size
      have total := congrArg List.length joined
      rw [List.length_append] at total
      have atLeast : (header payload.length).length + payload.length + (wire rest).length ≤
          segments.flatten.length := by omega
      have wireLength : (wire (payload :: rest)).length = (if payload.length ≤ maxTxSize then payload.length else
          (header payload.length).length + payload.length) + (wire rest).length := by
        rw [wire_cons, flatten_send valid, List.length_append]
        split_ifs <;> simp
      refine ⟨by rw [wireLength]; split_ifs <;> omega, fun stream => ?_⟩
      have exact := congrArg List.length stream
      rw [wireLength] at exact
      have headerPositive := List.length_pos_iff.mpr (header_ne_nil payload.length)
      split_ifs at exact with short
      · omega
      · rw [wire_cons, flatten_send valid, if_neg short, joined, List.append_assoc] at stream
        obtain ⟨frame, body⟩ := List.append_inj stream (by omega)
        have announced : msgLen = payload.length := by omega
        refine ⟨by simp [got, frame, short], ?_⟩
        rw [flatten_send valid, if_neg short, List.length_append, ← frame, ← dropBytes_dropBytes, ← remaining,
          ← announced, after]
        apply aligned
        rw [← after, flatten_dropBytes, body, announced, List.drop_left]

theorem length_le_wire {payloads : List Bytes} (sendable : ∀ payload ∈ payloads, Sendable payload) :
    payloads.length ≤ (wire payloads).length := by
  induction payloads with
  | nil => simp
  | cons payload rest ih =>
    have valid := (sendable payload List.mem_cons_self).nonempty
    have positive := List.length_pos_iff.mpr valid
    have tail := ih fun p member => sendable p (List.mem_cons_of_mem payload member)
    rw [wire_cons, flatten_send valid, List.length_append, List.length_cons]
    split_ifs
    · omega
    · rw [List.length_append]; omega

/-- Over one TCP connection, for every way the kernel cuts the stream: the payloads delivered are the
payloads sent exactly when the reads are aligned. -/
theorem tcp_delivers_iff {payloads segments : List Bytes} (sendable : ∀ payload ∈ payloads, Sendable payload)
    (nonempty : ∀ segment ∈ segments, segment ≠ []) (stream : segments.flatten = wire payloads) :
    listenTcp segments = payloads ↔ Aligned payloads segments := by
  constructor
  · intro heard
    exact (aligned_of_listen sendable nonempty heard).2 stream
  · intro aligned
    refine listen_of_aligned sendable nonempty stream aligned ?_
    rw [stream]
    exact length_le_wire sendable

/-- A header read on its own, a body in two reads that do not match the pieces sent, and a short payload. -/
theorem tcp_delivers_oversized :
    listenTcp [header 8193, zeros 1, zeros 8192, [1]] = [zeros 8193, [1]] := by
  refine (tcp_delivers_iff ?_ ?_ ?_).mpr ?_
  · intro payload member
    rcases List.mem_cons.mp member with rfl | short
    · exact sendable_oversized
    · obtain rfl := List.mem_singleton.mp short
      exact sendable_one
  · simp [header_ne_nil]
  · rw [wire_cons, wire_cons, flatten_send (by simp), flatten_send (by simp), length_zeros, if_neg (by decide),
      if_pos (by decide), show 8193 = 1 + 8192 from rfl, ← zeros_append]
    simp [wire]
  · have fits : (header 8193).length ≤ maxTxSize := length_header_le (by decide) (by decide) (by decide)
    have long : ¬ 8193 ≤ maxTxSize := by decide
    have left : dropBytes ((header 8193).length + 8193) [header 8193, zeros 1, zeros 8192, [1]] = [[1]] := by
      simp [dropBytes]
    have whole := flatten_send (show zeros 8193 ≠ [] by simp)
    simp only [Aligned, whole, length_zeros, long, if_false,
      List.length_append, left, streamRead, List.take_of_length_le fits]
    exact ⟨rfl, by decide, trivial⟩

/-- Two short payloads that the kernel joins are delivered as one. -/
theorem tcp_joined_payloads :
    ∃ payloads segments : List Bytes, (∀ payload ∈ payloads, Sendable payload) ∧
      (∀ segment ∈ segments, segment ≠ []) ∧ segments.flatten = wire payloads ∧
        listenTcp segments ≠ payloads := by
  refine ⟨[[1], [1]], [[1, 1]], ?_, by decide, by decide, by decide⟩
  intro payload member
  obtain rfl : payload = [1] := by simpa using member
  exact sendable_one

end Tcp

end Cypfr.LocIpc
