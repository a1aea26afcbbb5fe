import Cypfr.Model.BluetoothPcm
import Cypfr.Proofs.BluetoothAudioSession

/-! # Passes of a transfer

What a transfer has moved is always the first part of its buffer. A pass that does not end the transfer either
moves a byte or uses up a part of the time, so a transfer ends.
-/

namespace Cypfr.BluetoothAudio

open BluetoothAudioSession ByteList

variable {Payload : Type} {value : SessionType → UInt16} {d : Direction} {bytes : ℕ} {given : List Int8}

section Directions

/-- After a pass the buffer holds what the pass moved behind what it held before, and is as it was beyond. -/
structure Direction.Lawful (d : Direction) : Prop where
  poll : 0 < d.pollMs
  length : ∀ {buffer : List Int8} {total num : ℕ} (front : ℕ → Int8), total + num ≤ buffer.length →
    (d.bytes buffer total num front).length = num
  take : ∀ {buffer : List Int8} {total num : ℕ} (front : ℕ → Int8), total + num ≤ buffer.length →
    (d.store buffer total (d.bytes buffer total num front)).take (total + num) =
      buffer.take total ++ d.bytes buffer total num front
  drop : ∀ {buffer : List Int8} {total num : ℕ} (front : ℕ → Int8), total + num ≤ buffer.length →
    (d.store buffer total (d.bytes buffer total num front)).drop (total + num) = buffer.drop (total + num)

theorem writing_lawful : writing.Lawful where
  poll := Nat.one_pos
  length _ fits := length_read_of_le fits
  take _ _ := List.take_add
  drop _ _ := rfl

theorem reading_lawful : reading.Lawful where
  poll := Nat.one_pos
  length front _ := by simp [reading]
  take {buffer total num} front fits := by
    have size : ((List.range num).map front).length = num := by simp
    have whole : (buffer.take total ++ (List.range num).map front).length = total + num := by
      rw [List.length_append, List.length_take, size]
      omega
    change (write buffer total ((List.range num).map front)).take (total + num) = _
    rw [write_eq_append (by rwa [size]), List.take_append_of_le_length whole.ge, ← whole, List.take_length]
    rfl
  drop {buffer total num} front fits := by
    have size : ((List.range num).map front).length = num := by simp
    have whole : (buffer.take total ++ (List.range num).map front).length = total + num := by
      rw [List.length_append, List.length_take, size]
      omega
    change (write buffer total ((List.range num).map front)).drop (total + num) = _
    rw [write_eq_append (by rwa [size]), ← whole, List.drop_left, whole, size]

end Directions

namespace Transfer

/-- What a transfer has moved is the first part of its buffer, and the rest of the buffer is as it was given, as is
all of it when passes do not store. -/
structure Prefix (d : Direction) (bytes : ℕ) (given : List Int8) (t : Transfer Payload) : Prop where
  within : t.total ≤ bytes
  size : t.buffer.length = given.length
  moved : t.stream = t.buffer.take t.total
  rest : t.buffer.drop t.total = given.drop t.total
  kept : (∀ buffer total chunk, d.store buffer total chunk = buffer) → t.buffer = given

/-- The bytes and the time that are left. -/
def budget (bytes : ℕ) (t : Transfer Payload) : ℕ := bytes - t.total + t.timeout_ms

variable {t : Transfer Payload} {p : Pass Payload}

theorem proceed_cases (P : Outcome Payload → Prop) (again : t.total < bytes → P (.again t)) (ended : P (.returned t)) :
    P (t.proceed bytes) := by
  rw [proceed]
  split
  · exact again ‹_›
  · exact ended

theorem session_type_session (s : BluetoothAudioSession Payload) :
    (p.session value s).session_type_ = s.session_type_ := by
  rw [Pass.session]
  induction p.calls generalizing s with
  | nil => rfl
  | cons call calls ih => rw [List.foldl_cons, ih, session_type_next]

/-- A session with samples that is ready has a queue. -/
theorem data_mq_of_ready {s : BluetoothAudioSession Payload} (software : isOffload s.session_type_ = false)
    (ready : s.IsSessionReady = true) : ∃ mq, s.data_mq_ = some mq := by
  cases queue : s.data_mq_ with
  | some mq => exact ⟨mq, rfl⟩
  | none => simp [IsSessionReady, software, queue] at ready

theorem isOffload_of_is_software_session {session_type : SessionType}
    (software : is_software_session session_type = true) : isOffload session_type = false := by
  revert software
  cases session_type <;> decide

/-- What a pass comes to: the transfer has ended, or goes on with less left; its law holds either way. -/
inductive Passed (d : Direction) (bytes : ℕ) (given : List Int8) (t : Transfer Payload) : Outcome Payload → Prop
  | again {t' : Transfer Payload} (law : t'.Prefix d bytes given) (less : t'.budget bytes < t.budget bytes)
      (same : t'.session.session_type_ = t.session.session_type_) : Passed d bytes given t (.again t')
  | returned {t' : Transfer Payload} (law : t'.Prefix d bytes given) : Passed d bytes given t (.returned t')

/-- The transfer after a pass that has moved some bytes. -/
theorem Prefix.move (lawful : d.Lawful) (fits : bytes ≤ given.length) (law : t.Prefix d bytes given) {num : ℕ}
    (room : num ≤ bytes - t.total) (memory : ℕ) (front : ℕ → Int8) :
    ({ t with
        buffer := d.store t.buffer t.total (d.bytes t.buffer t.total num front)
        total := t.total + num
        moved := t.moved ++ [⟨memory, d.bytes t.buffer t.total num front⟩] } : Transfer Payload).Prefix d bytes
          given := by
  have inside : t.total + num ≤ t.buffer.length := by
    have := law.within
    rw [law.size]
    omega
  have taken := lawful.take front inside
  have left := lawful.drop front inside
  have lengths := congrArg List.length (List.take_append_drop (t.total + num)
    (d.store t.buffer t.total (d.bytes t.buffer t.total num front)))
  constructor
  · have := law.within
    change t.total + num ≤ bytes
    omega
  · rw [taken, left, List.length_append, List.length_append, List.length_take, lawful.length front inside,
      List.length_drop] at lengths
    rw [← lengths, ← law.size]
    omega
  · change (t.moved ++ [_]).flatMap Chunk.bytes = _
    rw [List.flatMap_append, List.flatMap_singleton, taken, ← law.moved]
    rfl
  · change (d.store _ _ _).drop (t.total + num) = given.drop (t.total + num)
    rw [left, ← List.drop_drop, law.rest, List.drop_drop]
  · exact fun inert => (inert _ _ _).trans (law.kept inert)

variable (value) in
theorem Prefix.pass (lawful : d.Lawful) (fits : bytes ≤ given.length) (law : t.Prefix d bytes given)
    (software : isOffload t.session.session_type_ = false) : Passed d bytes given t (t.pass value d bytes p) := by
  have same : (p.session value t.session).session_type_ = t.session.session_type_ := session_type_session t.session
  have still : ({ t with session := p.session value t.session } : Transfer Payload).Prefix d bytes given :=
    ⟨law.within, law.size, law.moved, law.rest, law.kept⟩
  rw [Transfer.pass]
  split
  · obtain ⟨mq, queue⟩ := data_mq_of_ready (s := p.session value t.session) (same ▸ software) ‹_›
    simp only [queue]
    split
    · split
      · have room : (if p.available > bytes - t.total then bytes - t.total else p.available) ≤ bytes - t.total := by
          split <;> omega
        have next := still.move lawful fits room mq.memory p.front
        refine proceed_cases (Passed d bytes given t) (fun more => .again next ?_ same) (.returned next)
        change t.total + _ < bytes at more
        change bytes - (t.total + _) + t.timeout_ms < bytes - t.total + t.timeout_ms
        by_cases large : p.available > bytes - t.total
        · rw [if_pos large] at more ⊢
          omega
        · rw [if_neg large] at more ⊢
          omega
      · exact .returned still
    · split
      · have waited : ({ t with session := p.session value t.session, timeout_ms := t.timeout_ms - d.pollMs } :
            Transfer Payload).Prefix d bytes given := ⟨law.within, law.size, law.moved, law.rest, law.kept⟩
        refine proceed_cases (Passed d bytes given t) (fun more => .again waited ?_ same) (.returned waited)
        change bytes - t.total + (t.timeout_ms - d.pollMs) < bytes - t.total + t.timeout_ms
        have := lawful.poll
        omega
      · exact .returned still
  · exact .returned still

/-- With a pass for each byte and each part of the time, the loop ends. -/
theorem Prefix.loop (lawful : d.Lawful) (fits : bytes ≤ given.length) (law : t.Prefix d bytes given)
    (software : isOffload t.session.session_type_ = false) {fuel : ℕ} (enough : t.budget bytes < fuel)
    (passes : ℕ → Pass Payload) : ∃ t', t.loop value d bytes passes fuel = .returned t' ∧ t'.Prefix d bytes given := by
  induction fuel generalizing t passes with
  | zero => exact absurd enough (Nat.not_lt_zero _)
  | succ fuel ih =>
    rw [Transfer.loop]
    have passed := law.pass value (p := passes 0) lawful fits software
    generalize t.pass value d bytes (passes 0) = outcome at passed
    cases passed with
    | again law less same => exact ih law (same ▸ software) (by omega) _
    | returned law => exact ⟨_, rfl, law⟩

end Transfer

end Cypfr.BluetoothAudio
