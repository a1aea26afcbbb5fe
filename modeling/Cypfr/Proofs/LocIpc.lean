import Cypfr.Model.LocIpc
import Cypfr.Proofs.CNumber
import Cypfr.Proofs.CString
import Mathlib.Data.List.TakeWhile
import Mathlib.Tactic.Ring

/-! # One call of `Sock::recvfrom`

What the receiver does when a read returns a short payload or a header, for any kernel, and what
the reassembly loop collects from a queue of datagrams and from a stream.
-/

namespace Cypfr

/-- `sscanf` reads at least as many digits as any number up to the one it returns has. -/
theorem length_numeral_le_scanDigits {s : Bytes} {n : ℕ} (positive : 0 < n) (below : n ≤ scanDigits s) :
    (Decimal.numeral n).length ≤ s.length := by
  have digits : ∀ b ∈ s.takeWhile Decimal.isDigit, Decimal.isDigit b = true :=
    fun b member => List.mem_takeWhile_imp member
  have bound : n < 10 ^ (s.takeWhile Decimal.isDigit).length :=
    (below.trans (Nat.min_le_left ..)).trans_lt (Decimal.value_lt digits)
  exact (Decimal.length_numeral_le_of_lt positive bound).trans (List.takeWhile_sublist _).length_le

theorem length_numeral_le_scanZu {s : Bytes} {n : ℕ} (positive : 0 < n) (below : n ≤ scanZu s)
    (small : scanZu s < 2 ^ 63) : (Decimal.numeral n).length ≤ s.length := by
  have shorter : (s.dropWhile isSpace).length ≤ s.length := (List.dropWhile_sublist _).length_le
  unfold scanZu at below small
  generalize s.dropWhile isSpace = text at *
  split at below
  · next rest =>
    have limit : scanDigits rest ≤ 2 ^ 64 - 1 := Nat.min_le_right ..
    have digits := length_numeral_le_scanDigits (s := rest) positive (by simp only at small; omega)
    exact digits.trans (by simp at shorter; omega)
  · next rest =>
    exact (length_numeral_le_scanDigits positive below).trans (by simp at shorter; omega)
  · exact (length_numeral_le_scanDigits positive below).trans shorter

theorem scanZu_numeral {n : ℕ} (bound : n < 2 ^ 64) : scanZu (Decimal.numeral n) = n := by
  have whole : Decimal.numeral n ++ [] = Decimal.numeral n := List.append_nil _
  have digits : scanDigits (Decimal.numeral n) = n := by
    have stop : ∀ b ∈ ([] : Bytes).head?, Decimal.isDigit b = false := by simp
    rw [scanDigits, ← whole, takeWhile_numeral_append stop, Decimal.value_numeral]
    omega
  obtain ⟨d, rest, start, notSpace, notMinus, notPlus⟩ := numeral_begins n []
  rw [whole] at start
  rw [start] at digits
  rw [start, scanZu, List.dropWhile_cons_of_neg (by simp [notSpace])]
  split
  · next head => exact absurd (List.cons.inj head).1 notMinus
  · next head => exact absurd (List.cons.inj head).1 notPlus
  · exact digits

namespace LocIpc

/-- A payload that `sendto` takes: not empty, with a 32-bit length, and not mistaken for an abort or a
header when it is short. -/
structure Sendable (payload : Bytes) : Prop where
  nonempty : payload ≠ []
  bounded : payload.length < 2 ^ 32
  notAbort : payload.length ≤ maxTxSize → ¬ abortText <+: payload
  notHead : payload.length ≤ maxTxSize → ¬ locIpcHead <+: payload

/-- The same for a sender and a receiver with `mMaxTxSize` at `m`. -/
structure Framed (m : ℕ) (payload : Bytes) : Prop where
  nonempty : payload ≠ []
  bounded : payload.length < 2 ^ 32
  notAbort : payload.length ≤ m → ¬ abortText <+: payload
  notHead : payload.length ≤ m → ¬ locIpcHead <+: payload

theorem Sendable.framed {payload : Bytes} (sendable : Sendable payload) : Framed maxTxSize payload :=
  ⟨sendable.nonempty, sendable.bounded, sendable.notAbort, sendable.notHead⟩

theorem length_header (n : ℕ) : (header n).length = locIpcHead.length + (Decimal.numeral n).length :=
  List.length_append

theorem length_header_le {n m : ℕ} (positive : 0 < n) (bounded : n < 2 ^ 32) (room : 32 ≤ m) :
    (header n).length ≤ m := by
  have digits := Decimal.length_numeral_le_of_lt (k := 10) positive (by omega)
  have head : locIpcHead.length = 8 := by decide
  rw [length_header, head]
  omega

theorem header_ne_nil (n : ℕ) : header n ≠ [] := by
  intro empty
  have := congrArg List.length empty
  rw [length_header, show locIpcHead.length = 8 by decide] at this
  simp at this

theorem header_not_abort (n : ℕ) : strncmpEq msgAbort.length (header n) msgAbort = false := by
  have start : header n = 36 :: (locIpcHead.tail ++ Decimal.numeral n) := rfl
  rw [start, show msgAbort.length = 19 + 1 by decide, strncmpEq, List.headD_cons,
    show msgAbort.headD 0 = 76 by decide]
  rfl

theorem header_starts (n : ℕ) : strncmpEq locIpcHead.length (header n) locIpcHead = true := by
  have equal := strncmpEq_of_starts (List.prefix_append locIpcHead (Decimal.numeral n)) []
  rwa [List.append_nil] at equal

theorem not_head {p : Bytes} (notHead : ¬ locIpcHead <+: p) : strncmpEq locIpcHead.length p locIpcHead = false := by
  rw [Bool.eq_false_iff]
  intro equal
  exact notHead (starts_of_strncmpEq [] (by decide) le_rfl (by simpa using equal))

theorem scanZu_header {n : ℕ} (bounded : n < 2 ^ 32) : scanZu ((header n).drop locIpcHead.length) = n := by
  rw [header, List.drop_left]
  exact scanZu_numeral (by omega)

section Receiver

variable {κ : Type*} {read : ℕ → κ → Option (Bytes × κ)} {m : ℕ} {sid rest after : κ}

/-- A read that returns a short payload delivers it. -/
theorem recvfrom_short {p : Bytes} (nonempty : p ≠ []) (notAbort : ¬ abortText <+: p)
    (notHead : ¬ locIpcHead <+: p) (got : read m sid = some (p, rest)) :
    recvfrom read m sid = some ⟨p.length, some p, rest⟩ := by
  have abort : strncmpEq msgAbort.length p msgAbort = false := by
    rw [Bool.eq_false_iff]
    exact fun equal => notAbort (starts_of_strncmpEq _ (by decide) (by decide) equal)
  simp [recvfrom, got, nonempty, abort, not_head notHead]

/-- A read that returns a header delivers what the loop then collects. -/
theorem recvfrom_long {n : ℕ} {msg : Bytes} (bounded : n < 2 ^ 32) (got : read m sid = some (header n, rest))
    (collected : reassemble read n n [] rest = some (some msg, after)) (complete : msg.length = n) :
    recvfrom read m sid = some ⟨n, some msg, after⟩ := by
  have whole : msg.take (n % 2 ^ 32) = msg := by
    rw [Nat.mod_eq_of_lt bounded, List.take_of_length_le complete.le]
  have fits : ¬ 2 ^ 63 ≤ n := by omega
  simp only [recvfrom, got, header_ne_nil, if_false, header_not_abort, header_starts, scanZu_header bounded, fits,
    collected, whole,
    Bool.false_eq_true, Bool.true_eq_false]

/-- What a delivered message can have come from: one read, or one read that began with the header text
and was at least as long as the true header, with the message collected after it. -/
theorem recvfrom_message {received : Received κ} {message : Bytes}
    (call : recvfrom read m sid = some received) (delivered : received.message = some message)
    (nonempty : message ≠ []) :
    0 < received.nBytes ∧ ∃ first rest, read m sid = some (first, rest) ∧
      (first = message ∧ received.sid = rest ∨
        ∃ msgLen msg, reassemble read msgLen msgLen [] rest = some (some msg, received.sid) ∧
          message = msg.take (msgLen % 2 ^ 32) ∧
          ∀ n, 0 < n → n ≤ msgLen → (header n).length ≤ first.length) := by
  unfold recvfrom at call
  split at call
  · cases call
  · next first rest got =>
    split_ifs at call with empty abort short
    · obtain rfl := Option.some.inj call
      cases delivered
    · obtain rfl := Option.some.inj call
      cases delivered
    · obtain rfl := Option.some.inj call
      exact ⟨List.length_pos_iff.mpr empty, first, rest, got, .inl ⟨Option.some.inj delivered, rfl⟩⟩
    · simp only at call
      split_ifs at call with large
      split at call
      · cases call
      · obtain rfl := Option.some.inj call
        cases delivered
      · next msg after collected =>
        obtain rfl := Option.some.inj call
        obtain rfl := Option.some.inj delivered
        refine ⟨?_, first, rest, got, .inr ⟨_, msg, collected, rfl, ?_⟩⟩
        · refine Nat.pos_of_ne_zero fun zero => nonempty ?_
          simp only at zero
          rw [zero, Nat.zero_mod, List.take_zero]
        intro n positive below
        have digits := length_numeral_le_scanZu positive below (by omega)
        have starts : locIpcHead <+: first :=
          starts_of_strncmpEq [] (by decide) le_rfl (by simpa using short)
        have := starts.length_le
        rw [List.length_drop] at digits
        rw [length_header]
        omega

/-- A call that delivers nothing ends the listening. -/
theorem recvfrom_silent {received : Received κ} (call : recvfrom read m sid = some received)
    (silent : received.message = none) : received.nBytes = 0 := by
  unfold recvfrom at call
  split at call
  · cases call
  · split_ifs at call
    · obtain rfl := Option.some.inj call
      rfl
    · obtain rfl := Option.some.inj call
      rfl
    · obtain rfl := Option.some.inj call
      cases silent
    · simp only at call
      split_ifs at call
      split at call
      · cases call
      · obtain rfl := Option.some.inj call
        rfl
      · obtain rfl := Option.some.inj call
        cases silent

theorem listen_of_message {n : ℕ} {p : Bytes} (positive : 0 < n)
    (call : recvfrom read m sid = some ⟨n, some p, after⟩) (fuel : ℕ) :
    listen read m (fuel + 1) sid = p :: listen read m fuel after := by
  simp [listen, call, positive]

theorem listen_eq_cons {fuel : ℕ} {p : Bytes} {ps : List Bytes} (nonempty : p ≠ [])
    (heard : listen read m fuel sid = p :: ps) :
    ∃ fuel' received, recvfrom read m sid = some received ∧ received.message = some p ∧
      listen read m fuel' received.sid = ps := by
  cases fuel with
  | zero => cases heard
  | succ fuel =>
    rw [listen] at heard
    split at heard
    · cases heard
    · next received call =>
      cases message : received.message with
      | none =>
        rw [message, recvfrom_silent call message] at heard
        cases heard
      | some first =>
        rw [message] at heard
        obtain ⟨rfl, tail⟩ := List.cons.inj heard
        rw [if_pos (recvfrom_message call message nonempty).1] at tail
        exact ⟨fuel, received, call, message, tail⟩

end Receiver

section Datagrams

/-- The loop collects exactly the pieces that make up the announced length. -/
theorem reassemble_datagrams {pieces : List Bytes} (nonempty : ∀ piece ∈ pieces, piece ≠ []) (queue : List Bytes)
    {n fuel : ℕ} {msg : Bytes} (total : (msg ++ pieces.flatten).length = n) (enough : pieces.length ≤ fuel) :
    reassemble datagramRead n fuel msg (pieces ++ queue) = some (some (msg ++ pieces.flatten), queue) := by
  induction pieces generalizing msg fuel with
  | nil =>
    cases fuel with
    | zero => simp [reassemble]
    | succ fuel => simp [reassemble, ← total]
  | cons piece rest ih =>
    obtain ⟨fuel, rfl⟩ : ∃ k, fuel = k + 1 := ⟨fuel - 1, by simp at enough; omega⟩
    have here : piece ≠ [] := nonempty piece List.mem_cons_self
    have positive := List.length_pos_iff.mpr here
    simp only [List.flatten_cons, List.length_append] at total
    rw [reassemble, if_pos (by omega), List.cons_append, datagramRead,
      List.take_of_length_le (by omega)]
    simp only [here, if_false]
    rw [ih (fun other member => nonempty other (List.mem_cons_of_mem piece member))
      (by simp only [List.length_append]; omega) (by simpa using enough)]
    simp

theorem sendPieces_nonempty {mMaxTxSize : ℕ} (positive : 0 < mMaxTxSize) (fuel : ℕ) (payload : Bytes) :
    ∀ piece ∈ sendPieces mMaxTxSize fuel payload, piece ≠ [] := by
  induction fuel generalizing payload with
  | zero => simp [sendPieces]
  | succ fuel ih =>
    rw [sendPieces]
    split_ifs with done
    · simp
    · intro piece member
      rcases List.mem_cons.mp member with rfl | later
      · simp [done, positive.ne']
      · exact ih _ piece later

theorem flatten_sendPieces (mMaxTxSize : ℕ) (positive : 0 < mMaxTxSize) {fuel : ℕ} {payload : Bytes}
    (enough : payload.length ≤ fuel) :
    (sendPieces mMaxTxSize fuel payload).flatten = payload ∧
      (sendPieces mMaxTxSize fuel payload).length ≤ payload.length := by
  induction fuel generalizing payload with
  | zero =>
    obtain rfl := List.length_eq_zero_iff.mp (Nat.le_zero.mp enough)
    simp [sendPieces]
  | succ fuel ih =>
    rw [sendPieces]
    split_ifs with done
    · simp [done]
    · have some := List.length_pos_iff.mpr done
      have shorter : (payload.drop mMaxTxSize).length ≤ fuel := by simp; omega
      obtain ⟨joined, count⟩ := ih shorter
      refine ⟨by rw [List.flatten_cons, joined, List.take_append_drop], ?_⟩
      rw [List.length_drop] at count
      rw [List.length_cons]
      omega

/-- A long transmission at the head of the queue: its header is read, and the loop collects its pieces. -/
theorem reassemble_sendPieces {m : ℕ} (positive : 0 < m) (payload : Bytes) (queue : List Bytes) :
    reassemble datagramRead payload.length payload.length [] (sendPieces m payload.length payload ++ queue) =
      some (some payload, queue) := by
  obtain ⟨joined, count⟩ := flatten_sendPieces m positive (le_refl payload.length)
  rw [reassemble_datagrams (sendPieces_nonempty positive _ payload) queue (by rw [joined]; rfl) count, joined]
  rfl

/-- A whole transmission at the head of the queue is received as the payload. -/
theorem recvfrom_send {m : ℕ} {payload : Bytes} (room : 32 ≤ m) (framed : Framed m payload) (queue : List Bytes) :
    recvfrom datagramRead m (send m payload ++ queue) = some ⟨payload.length, some payload, queue⟩ := by
  obtain ⟨nonempty, bounded, notAbort, notHead⟩ := framed
  have positive := List.length_pos_iff.mpr nonempty
  rw [send, if_neg nonempty, sendto]
  split_ifs with short
  · apply recvfrom_short nonempty (notAbort short) (notHead short)
    rw [List.singleton_append, datagramRead, List.take_of_length_le short]
  · have got : datagramRead m (header payload.length :: (sendPieces m payload.length payload ++ queue)) =
        some (header payload.length, sendPieces m payload.length payload ++ queue) := by
      rw [datagramRead, List.take_of_length_le (length_header_le positive bounded room)]
    exact recvfrom_long bounded got (reassemble_sendPieces (by omega) payload queue) rfl

end Datagrams

section Writes

variable {κ : Type*} {read : ℕ → κ → Option (Bytes × κ)} {m : ℕ} {sid rest : κ}

/-- The kernel stores no more bytes than it was asked for. -/
def Capped (read : ℕ → κ → Option (Bytes × κ)) : Prop :=
  ∀ cap sid piece rest, read cap sid = some (piece, rest) → piece.length ≤ cap

theorem datagramRead_capped : Capped datagramRead := by
  intro cap queue piece rest got
  cases queue with
  | nil => cases got
  | cons datagram queue =>
    obtain ⟨rfl, rfl⟩ := Prod.mk.inj (Option.some.inj got)
    rw [List.length_take]
    exact Nat.min_le_left ..

/-- The loop writes into the string of the announced length, and not past its end. -/
theorem reassembleWrites_inside (capped : Capped read) {msgLen fuel received : ℕ} :
    ∀ write ∈ reassembleWrites read msgLen fuel received sid,
      write.size = msgLen ∧ write.offset + write.data.length ≤ msgLen := by
  induction fuel generalizing received sid with
  | zero => simp [reassembleWrites]
  | succ fuel ih =>
    rw [reassembleWrites]
    split_ifs with missing
    · cases got : read (msgLen - received) sid with
      | none => simp
      | some result =>
        obtain ⟨piece, left⟩ := result
        have fits := capped _ _ _ _ got
        intro write member
        rcases List.mem_cons.mp member with rfl | member
        · exact ⟨rfl, by simp only; omega⟩
        · split_ifs at member
          · cases member
          · exact ih write member
    · simp

theorem recvfromWrites_inside (capped : Capped read) :
    ∀ write ∈ recvfromWrites read m sid, write.offset + write.data.length ≤ write.size := by
  rw [recvfromWrites]
  cases got : read m sid with
  | none => simp
  | some result =>
    obtain ⟨first, left⟩ := result
    intro write member
    rcases List.mem_cons.mp member with rfl | member
    · simpa using capped _ _ _ _ got
    · split_ifs at member
      · cases member
      · cases member
      · cases member
      · simp only at member
        split_ifs at member
        · cases member
        · obtain ⟨size, inside⟩ := reassembleWrites_inside capped write member
          exact size ▸ inside

theorem length_foldl_store {writes : List Write} {msg : Bytes}
    (inside : ∀ write ∈ writes, write.offset + write.data.length ≤ msg.length) :
    (writes.foldl Write.store msg).length = msg.length := by
  induction writes generalizing msg with
  | nil => rfl
  | cons write rest ih =>
    have here := inside write List.mem_cons_self
    have same : (Write.store msg write).length = msg.length := by
      simp only [Write.store, List.length_append, List.length_take, List.length_drop]
      omega
    rw [List.foldl_cons, ih, same]
    intro other member
    rw [same]
    exact inside other (List.mem_cons_of_mem write member)

/-- The bytes of a long message are those that the loop has stored in the string. -/
theorem reassemble_stored (capped : Capped read) {msgLen fuel : ℕ} {msg whole buffer : Bytes} {after : κ}
    (collected : reassemble read msgLen fuel msg sid = some (some whole, after)) (size : buffer.length = msgLen)
    (stored : buffer.take msg.length = msg) :
    ((reassembleWrites read msgLen fuel msg.length sid).foldl Write.store buffer).take whole.length = whole := by
  induction fuel generalizing msg buffer sid with
  | zero =>
    obtain ⟨rfl, rfl⟩ : msg = whole ∧ sid = after := by simpa [reassemble] using collected
    exact stored
  | succ fuel ih =>
    rw [reassemble] at collected
    rw [reassembleWrites]
    split_ifs at collected ⊢ with missing
    · cases got : read (msgLen - msg.length) sid with
      | none => simp [got] at collected
      | some result =>
        obtain ⟨piece, left⟩ := result
        have fits := capped _ _ _ _ got
        simp only [got] at collected ⊢
        split_ifs at collected ⊢ with empty
        · cases collected
        · rw [← List.length_append, List.foldl_cons]
          apply ih collected
          · simp only [Write.store, List.length_append, List.length_take, List.length_drop]
            omega
          · rw [Write.store, stored, ← List.length_append, List.take_left]
    · obtain ⟨rfl, rfl⟩ : msg = whole ∧ sid = after := by simpa using collected
      exact stored

/-- A read that returns a header is followed by the writes of the loop. -/
theorem recvfromWrites_long {n : ℕ} (bounded : n < 2 ^ 32) (got : read m sid = some (header n, rest)) :
    recvfromWrites read m sid = ⟨m, 0, header n⟩ :: reassembleWrites read n n 0 rest := by
  have fits : ¬ 2 ^ 63 ≤ n := by omega
  simp only [recvfromWrites, got, header_ne_nil, if_false, header_not_abort, header_starts, scanZu_header bounded,
    fits, Bool.false_eq_true, Bool.true_eq_false]

/-- A read that returns a short payload is the only one. -/
theorem recvfromWrites_short {p : Bytes} (notHead : ¬ locIpcHead <+: p) (got : read m sid = some (p, rest)) :
    recvfromWrites read m sid = [⟨m, 0, p⟩] := by
  simp [recvfromWrites, got, not_head notHead]

/-- The loop that receives a transmission works on a string of just the payload's length, and stores the
payload in it. -/
theorem recvfromWrites_send {payload : Bytes} (room : 32 ≤ m) (framed : Framed m payload) (queue : List Bytes) :
    (∀ write ∈ (recvfromWrites datagramRead m (send m payload ++ queue)).tail, write.size = payload.length) ∧
      ∀ msg : Bytes, msg.length = payload.length → m < payload.length →
        (recvfromWrites datagramRead m (send m payload ++ queue)).tail.foldl Write.store msg = payload := by
  obtain ⟨nonempty, bounded, notAbort, notHead⟩ := framed
  have positive := List.length_pos_iff.mpr nonempty
  rw [send, if_neg nonempty, sendto]
  split_ifs with short
  · have got : datagramRead m ([payload] ++ queue) = some (payload, queue) := by
      rw [List.singleton_append, datagramRead, List.take_of_length_le short]
    rw [recvfromWrites_short (notHead short) got]
    exact ⟨by simp, fun msg size long => absurd short (by omega)⟩
  · have got : datagramRead m (header payload.length :: (sendPieces m payload.length payload ++ queue)) =
        some (header payload.length, sendPieces m payload.length payload ++ queue) := by
      rw [datagramRead, List.take_of_length_le (length_header_le positive bounded room)]
    rw [List.cons_append, recvfromWrites_long bounded got]
    refine ⟨fun write member => (reassembleWrites_inside datagramRead_capped write member).1, fun msg size long => ?_⟩
    have collected := reassemble_sendPieces (m := m) (by omega) payload queue
    have stored := reassemble_stored datagramRead_capped collected size rfl
    rwa [List.take_of_length_le] at stored
    rw [length_foldl_store]
    · exact size.le
    · intro write member
      obtain ⟨-, inside⟩ := reassembleWrites_inside datagramRead_capped write member
      rw [size]
      exact inside

end Writes

section Stream

/-- The segments that are left when `n` bytes have been read. -/
def dropBytes : ℕ → List Bytes → List Bytes
  | _, [] => []
  | n, segment :: rest =>
    if segment.length ≤ n then dropBytes (n - segment.length) rest else segment.drop n :: rest

theorem flatten_dropBytes (n : ℕ) (segments : List Bytes) :
    (dropBytes n segments).flatten = segments.flatten.drop n := by
  induction segments generalizing n with
  | nil => simp [dropBytes]
  | cons segment rest ih =>
    rw [dropBytes, List.flatten_cons, List.drop_append]
    split_ifs with whole
    · rw [ih, List.drop_of_length_le whole, List.nil_append]
    · rw [List.flatten_cons, Nat.sub_eq_zero_of_le (by omega), List.drop_zero]

theorem dropBytes_nonempty {segments : List Bytes} (nonempty : ∀ segment ∈ segments, segment ≠ []) (n : ℕ) :
    ∀ segment ∈ dropBytes n segments, segment ≠ [] := by
  induction segments generalizing n with
  | nil => simp [dropBytes]
  | cons first rest ih =>
    have later : ∀ segment ∈ rest, segment ≠ [] := fun s member => nonempty s (List.mem_cons_of_mem first member)
    rw [dropBytes]
    split_ifs with whole
    · exact ih later _
    · intro segment member
      rcases List.mem_cons.mp member with rfl | member
      · simpa using whole
      · exact later segment member

theorem dropBytes_zero {segments : List Bytes} (nonempty : ∀ segment ∈ segments, segment ≠ []) :
    dropBytes 0 segments = segments := by
  cases segments with
  | nil => rfl
  | cons first rest =>
    have positive := List.length_pos_iff.mpr (nonempty first List.mem_cons_self)
    rw [dropBytes, if_neg (by omega), List.drop_zero]

theorem dropBytes_dropBytes (a b : ℕ) (segments : List Bytes) :
    dropBytes b (dropBytes a segments) = dropBytes (a + b) segments := by
  induction segments generalizing a with
  | nil => rfl
  | cons first rest ih =>
    by_cases whole : first.length ≤ a
    · rw [dropBytes, if_pos whole, ih, dropBytes, if_pos (by omega)]
      congr 1
      omega
    · rw [dropBytes, if_neg whole, dropBytes, dropBytes, List.length_drop, List.drop_drop]
      by_cases through : first.length ≤ a + b
      · rw [if_pos (by omega), if_pos through]
        congr 1
        omega
      · rw [if_neg (by omega), if_neg through]

/-- A read returns the next bytes of the stream, at most a segment and at least one byte. -/
theorem streamRead_eq_some {segments rest : List Bytes} {first : Bytes} {cap : ℕ} (positive : 0 < cap)
    (nonempty : ∀ segment ∈ segments, segment ≠ []) (got : streamRead cap segments = some (first, rest)) :
    first ≠ [] ∧ first.length ≤ cap ∧ segments.flatten = first ++ rest.flatten ∧
      rest = dropBytes first.length segments := by
  cases segments with
  | nil => cases got
  | cons segment later =>
    obtain ⟨rfl, rfl⟩ := Prod.mk.inj (Option.some.inj got)
    have here := nonempty segment List.mem_cons_self
    have rest := dropBytes_zero fun s member => nonempty s (List.mem_cons_of_mem segment member)
    refine ⟨by simp [here, positive.ne'], by simp, ?_, ?_⟩
    · split_ifs with whole
      · rw [List.flatten_cons, List.take_of_length_le (by simpa using whole)]
      · rw [List.flatten_cons, List.flatten_cons, ← List.append_assoc, List.take_append_drop]
    · rw [dropBytes, List.length_take]
      split_ifs with whole fits fits
      · rw [show min cap segment.length - segment.length = 0 by omega, rest]
      · simp at whole; omega
      · simp at whole; omega
      · rw [Nat.min_eq_left (by omega)]

theorem streamRead_of_bytes (segments : List Bytes) (some : segments.flatten ≠ []) (cap : ℕ) :
    ∃ first rest, streamRead cap segments = Option.some (first, rest) := by
  cases segments with
  | nil => exact absurd rfl some
  | cons segment later => exact ⟨_, _, rfl⟩

/-- The loop collects the next bytes of the stream, however they are cut. -/
theorem reassemble_stream {segments : List Bytes} (nonempty : ∀ segment ∈ segments, segment ≠ []) {n fuel : ℕ}
    {msg : Bytes} (started : msg.length ≤ n) (enough : n - msg.length ≤ fuel) :
    reassemble streamRead n fuel msg segments =
      if n - msg.length ≤ segments.flatten.length then
        some (some (msg ++ segments.flatten.take (n - msg.length)), dropBytes (n - msg.length) segments)
      else none := by
  induction fuel generalizing msg segments with
  | zero =>
    have complete : n - msg.length = 0 := by omega
    simp [reassemble, complete, dropBytes_zero nonempty]
  | succ fuel ih =>
    rw [reassemble]
    by_cases short : msg.length < n
    · rw [if_pos short]
      cases segments with
      | nil => simp [streamRead]; omega
      | cons segment later =>
        obtain ⟨first, rest, got⟩ := streamRead_of_bytes (segment :: later)
          (by simp [nonempty segment List.mem_cons_self]) (n - msg.length)
        obtain ⟨found, fits, joined, left⟩ := streamRead_eq_some (by omega) nonempty got
        have size := List.length_pos_iff.mpr found
        rw [got]
        simp only [found, if_false]
        rw [ih (left ▸ dropBytes_nonempty nonempty _) (by simp; omega) (by simp; omega), joined]
        have need : n - (msg ++ first).length + first.length = n - msg.length := by simp; omega
        simp only [List.length_append] at need ⊢
        have iff : n - (msg.length + first.length) ≤ rest.flatten.length ↔
            n - msg.length ≤ first.length + rest.flatten.length := by omega
        simp only [iff]
        split_ifs
        · rw [left, dropBytes_dropBytes, ← need, List.take_append]
          rw [List.take_of_length_le (l := first) (by omega), Nat.add_sub_cancel, List.append_assoc,
            Nat.add_comm first.length]
        · rfl
    · have complete : n - msg.length = 0 := by omega
      simp [short, complete, dropBytes_zero nonempty]

end Stream

end LocIpc

end Cypfr
