import Cypfr.Proofs.Tracking
import Cypfr.ToMathlib.LeastFold
import Mathlib.Order.Bounds.Image
import Mathlib.Order.MinMax

/-! # What the multiplexed sessions demand

The smallest interval and the smallest power mode of some sessions, how they change with the sessions, and that
the loops of the multiplexers find them.
-/

namespace Cypfr.Tracking

/-- Options that the loops count as set. -/
def TrackingOptions.Valid (o : TrackingOptions) : Prop := o.size ≠ 0 ∧ o.powerMode ≠ .invalid

/-- The number of the power mode. -/
def TrackingOptions.power (o : TrackingOptions) : ℕ := o.powerMode.value

/-- The smallest interval and the smallest power mode of some sessions. -/
structure Demand (sessions : List TrackingOptions) (interval power : ℕ) : Prop where
  interval : IsLeast ((fun o : TrackingOptions => o.minInterval) '' {o | o ∈ sessions}) interval
  power : IsLeast (TrackingOptions.power '' {o | o ∈ sessions}) power

namespace Demand

variable {sessions sessions' : List TrackingOptions} {interval power interval' power' : ℕ} {new : TrackingOptions}

theorem unique (first : Demand sessions interval power) (second : Demand sessions interval' power') :
    interval = interval' ∧ power = power' :=
  ⟨first.interval.unique second.interval, first.power.unique second.power⟩

theorem single (only : ∀ o, o ∈ sessions ↔ o = new) : Demand sessions new.minInterval new.power := by
  have sets : {o | o ∈ sessions} = {new} := Set.ext only
  constructor <;> rw [sets, Set.image_singleton] <;> exact isLeast_singleton

/-- One more session. -/
theorem insert (more : ∀ o, o ∈ sessions' ↔ o = new ∨ o ∈ sessions) (demand : Demand sessions interval power) :
    Demand sessions' (min new.minInterval interval) (min new.power power) := by
  have sets : {o | o ∈ sessions'} = Insert.insert new {o | o ∈ sessions} := Set.ext more
  constructor <;> rw [sets, Set.image_insert_eq]
  · exact demand.interval.insert _
  · exact demand.power.insert _

/-- A session with new options that have the interval and the power mode of the old. -/
theorem replace {others : List TrackingOptions} {old : TrackingOptions}
    (was : ∀ o, o ∈ sessions ↔ o = old ∨ o ∈ others) (more : ∀ o, o ∈ sessions' ↔ o = new ∨ o ∈ others)
    (sameInterval : old.minInterval = new.minInterval) (samePower : old.power = new.power)
    (demand : Demand sessions interval power) : Demand sessions' interval power := by
  have before : {o | o ∈ sessions} = Insert.insert old {o | o ∈ others} := Set.ext was
  have now : {o | o ∈ sessions'} = Insert.insert new {o | o ∈ others} := Set.ext more
  obtain ⟨least, leastPower⟩ := demand
  rw [before, Set.image_insert_eq] at least leastPower
  constructor <;> rw [now, Set.image_insert_eq]
  · rwa [← sameInterval]
  · rwa [← samePower]

/-- The demand is met by some options exactly when they have its interval and power mode. -/
theorem iff_eq (demand : Demand sessions interval power) :
    Demand sessions interval' power' ↔ interval' = interval ∧ power' = power := by
  constructor
  · exact fun other => other.unique demand
  · rintro ⟨rfl, rfl⟩
    exact demand

end Demand

section Loops

variable {sessions : List TrackingOptions}

theorem multiplex_eq (sessions : List TrackingOptions) : multiplex sessions =
    (sessions.foldl (LeastFold.pick (fun o : TrackingOptions => o.size = 0) fun o => o.minInterval) .zero,
      (sessions.map fun o => o.powerMode).foldl (LeastFold.pick (· = .invalid) GnssPowerMode.value) .invalid) := by
  rw [multiplex, List.foldl_map]
  refine Prod.ext (List.foldl_hom Prod.fst ?_).symm (List.foldl_hom Prod.snd ?_).symm
  · exact fun _ _ => rfl
  · exact fun _ _ => rfl

/-- The loops of the multiplexers find the first of the sessions with the smallest interval. -/
theorem first_multiplex (nonempty : sessions ≠ []) (valid : ∀ o ∈ sessions, o.Valid) :
    LeastFold.First (fun o : TrackingOptions => o.minInterval) sessions (multiplex sessions).1 := by
  rw [multiplex_eq]
  exact LeastFold.first_foldl nonempty (fun o member => (valid o member).1) rfl

/-- They find the demand of the sessions. -/
theorem demand_multiplex (nonempty : sessions ≠ []) (valid : ∀ o ∈ sessions, o.Valid) :
    Demand sessions (multiplex sessions).1.minInterval (multiplex sessions).2.value := by
  refine ⟨(first_multiplex nonempty valid).isLeast, ?_⟩
  · rw [multiplex_eq]
    have modes : {mode | mode ∈ sessions.map fun o => o.powerMode} = (fun o => o.powerMode) '' {o | o ∈ sessions} :=
      Set.ext fun mode => List.mem_map
    have set : ∀ mode ∈ sessions.map fun o => o.powerMode, ¬ mode = .invalid := by
      intro mode member
      obtain ⟨o, among, rfl⟩ := List.mem_map.mp member
      exact (valid o among).2
    have least := (LeastFold.first_foldl (f := GnssPowerMode.value)
      (fun none => nonempty (List.map_eq_nil_iff.mp none)) set rfl).isLeast
    rwa [modes, Set.image_image] at least

/-- The loop of a restart finds it as well. -/
theorem demand_restart (nonempty : sessions ≠ []) (valid : ∀ o ∈ sessions, o.Valid) :
    Demand sessions (sessions.foldl restartSession (.zero, .zero)).1.minInterval
      (sessions.foldl restartSession (.zero, .zero)).2.power := by
  have fst : (sessions.foldl restartSession (.zero, .zero)).1 =
      sessions.foldl (LeastFold.pick (fun o : TrackingOptions => o.size = 0) fun o => o.minInterval) .zero :=
    (List.foldl_hom Prod.fst fun _ _ => rfl).symm
  have snd : (sessions.foldl restartSession (.zero, .zero)).2 =
      sessions.foldl (LeastFold.pick (fun o : TrackingOptions => o.size = 0) TrackingOptions.power) .zero := by
    have loop : (sessions.foldl restartSession (.zero, .zero)).2 =
      sessions.foldl (fun (found session : TrackingOptions) =>
        if found.size = 0 ∨ session.powerMode ≠ .invalid ∧ session.powerMode.value < found.powerMode.value then session
        else found) .zero :=
      (List.foldl_hom Prod.snd fun _ _ => rfl).symm
    rw [loop]
    refine List.foldl_ext _ _ _ fun found session member => if_congr (or_congr_right ?_) rfl rfl
    exact and_iff_right (valid session member).2
  rw [fst, snd]
  exact ⟨(LeastFold.first_foldl nonempty (fun o member => (valid o member).1) rfl).isLeast,
    (LeastFold.first_foldl nonempty (fun o member => (valid o member).1) rfl).isLeast⟩

end Loops

theorem TrackingOptions.Valid.clampInterval {o : TrackingOptions} (valid : o.Valid) : o.clampInterval.Valid := by
  rw [TrackingOptions.clampInterval]
  split_ifs
  · exact valid
  · exact valid

theorem TrackingOptions.Valid.fallBack {o : TrackingOptions} (valid : o.Valid) : o.fallBack.Valid := by
  rw [TrackingOptions.fallBack]
  split_ifs
  · exact ⟨valid.1, fun same => by cases same⟩
  · exact valid

section Options

variable {Client : Type} [LinearOrder Client] {a : GnssAdapter Client} {key : LocationSessionKey Client}
  {o new old : TrackingOptions}

theorem mem_allOptions : o ∈ a.allOptions ↔ ∃ key, (key, o) ∈ a.timeBasedTrackingSessions.entries := by
  simp [GnssAdapter.allOptions]

theorem mem_otherOptions :
    o ∈ a.otherOptions key ↔ ∃ other, other ≠ key ∧ (other, o) ∈ a.timeBasedTrackingSessions.entries := by
  simp [GnssAdapter.otherOptions, and_comm]

theorem mem_allOptions_insert :
    o ∈ ({ a with timeBasedTrackingSessions := a.timeBasedTrackingSessions.insert key new } :
    GnssAdapter Client).allOptions ↔
      o = new ∨ o ∈ a.otherOptions key := by
  simp only [mem_allOptions, mem_otherOptions, SortedMap.mem_entries_insert, Prod.mk.injEq]
  constructor
  · rintro ⟨other, ⟨-, rfl⟩ | ⟨different, member⟩⟩
    · exact .inl rfl
    · exact .inr ⟨other, different, member⟩
  · rintro (rfl | ⟨other, different, member⟩)
    · exact ⟨key, .inl ⟨rfl, rfl⟩⟩
    · exact ⟨other, .inr ⟨different, member⟩⟩

theorem mem_allOptions_of_found (found : a.timeBasedTrackingSessions.find? key = some old) :
    o ∈ a.allOptions ↔ o = old ∨ o ∈ a.otherOptions key := by
  have entry := SortedMap.find?_eq_some_iff.mp found
  rw [mem_allOptions, mem_otherOptions]
  constructor
  · rintro ⟨other, member⟩
    rcases eq_or_ne other key with rfl | different
    · exact .inl (SortedMap.eq_of_mem member entry)
    · exact .inr ⟨other, different, member⟩
  · rintro (rfl | ⟨other, -, member⟩)
    · exact ⟨key, entry⟩
    · exact ⟨other, member⟩

theorem mem_otherOptions_of_new (fresh : key ∉ a.timeBasedTrackingSessions) :
    o ∈ a.otherOptions key ↔ o ∈ a.allOptions := by
  rw [mem_allOptions, mem_otherOptions]
  refine exists_congr fun other => and_iff_right_of_imp fun member => ?_
  rintro rfl
  exact fresh ⟨o, member⟩

theorem allOptions_erase :
    ({ a with timeBasedTrackingSessions := a.timeBasedTrackingSessions.erase key } : GnssAdapter Client).allOptions =
      a.otherOptions key := by
  rw [GnssAdapter.allOptions, GnssAdapter.otherOptions]
  exact congrArg _ (List.filter_congr fun entry _ => decide_eq_decide.mpr Iff.rfl)

/-- Erasing a time-based session leaves the others. -/
theorem eraseTrackingSession_of_mem (held : key ∈ a.timeBasedTrackingSessions) :
    a.eraseTrackingSession key = { a with timeBasedTrackingSessions := a.timeBasedTrackingSessions.erase key } := by
  rw [GnssAdapter.eraseTrackingSession, if_pos (SortedMap.contains_iff.mpr held)]

theorem otherOptions_eq_nil_iff (held : key ∈ a.timeBasedTrackingSessions) :
    a.otherOptions key = [] ↔ a.timeBasedTrackingSessions.size = 1 := by
  rw [← SortedMap.isEmpty_erase_iff held, SortedMap.isEmpty, List.isEmpty_iff, ← allOptions_erase,
    GnssAdapter.allOptions, List.map_eq_nil_iff]

end Options

section Asks

variable {Client : Type} [LinearOrder Client] {a : GnssAdapter Client} (key : LocationSessionKey Client)
  (options : TrackingOptions)

/-- What is asked when a session is to run with some options beside others, if these call for more. -/
def beside (others : List TrackingOptions) (options : TrackingOptions) : Option TrackingOptions :=
  if (withSession (multiplex others) options).2 then some (withSession (multiplex others) options).1 else none

/-- What the modem is asked for when a session starts. -/
def startAsks (a : GnssAdapter Client) (options : TrackingOptions) : Option TrackingOptions :=
  if a.timeBasedTrackingSessions.isEmpty then some options else beside a.allOptions options

/-- Options with another interval or power mode. -/
def TrackingOptions.Changes (old new : TrackingOptions) : Prop :=
  old.minInterval ≠ new.minInterval ∨ old.powerMode ≠ new.powerMode

instance (old new : TrackingOptions) : Decidable (old.Changes new) := inferInstanceAs (Decidable (_ ∨ _))

/-- What the modem is asked for when a session changes its options. -/
def updateAsks (a : GnssAdapter Client) (key : LocationSessionKey Client) (old new : TrackingOptions) :
    Option TrackingOptions :=
  if old.Changes new then
    if a.timeBasedTrackingSessions.size = 1 then some new else beside (a.otherOptions key) new
  else none

/-- What the modem is asked for when a session stops and others do not. -/
def stopAsks (others : List TrackingOptions) (old : TrackingOptions) : Option TrackingOptions :=
  if old.minInterval < (multiplex others).1.minInterval ∨ old.power < (multiplex others).2.value then
    some { (multiplex others).1 with powerMode := (multiplex others).2 }
  else none

/-- A multiplexer makes the request that it has, leaves the adapter and says whether it made none. -/
def Makes (p : AdapterM Client Bool) (a : GnssAdapter Client) (asks : Option TrackingOptions)
    (response : LocApiResponse Client) : Prop :=
  p.result a = asks.isNone ∧ p.next a = a ∧
    p.emitted a = (asks.map fun sent => .request (.startTimeBasedTracking sent) (some response)).toList

theorem makes_none (response : LocApiResponse Client) : Makes (pure true) a none response := ⟨rfl, rfl, rfl⟩

theorem makes_some (off : a.nHzNeeded = false) (response : LocApiResponse Client) :
    Makes (do requestTimeBasedTracking key options response; pure false) a (some options) response := by
  obtain ⟨next, emitted⟩ := requestTimeBasedTracking_off key options response off
  refine ⟨rfl, ?_, ?_⟩
  · rw [Emit.next_bind, next, Emit.next_pure]
  · rw [Emit.emitted_bind, emitted, Emit.emitted_pure]
    rfl

theorem makes_beside (off : a.nHzNeeded = false) (others : List TrackingOptions) (response : LocApiResponse Client) :
    Makes (if (withSession (multiplex others) options).2 then do
      requestTimeBasedTracking key (withSession (multiplex others) options).1 response
      pure false
    else pure true) a (beside others options) response := by
  rw [beside]
  split_ifs
  · exact makes_some key _ off response
  · exact makes_none response

theorem Makes.congr {p q : AdapterM Client Bool} {asks : Option TrackingOptions} {response : LocApiResponse Client}
    (makes : Makes q a asks response) (same : p a = q a) : Makes p a asks response := by
  rwa [Makes, Emit.result, Emit.next, Emit.emitted, same]

theorem makes_start (off : a.nHzNeeded = false) :
    Makes (startTimeBasedTrackingMultiplex key options) a (startAsks a options) (.startTime key) := by
  rw [startAsks]
  cases none : a.timeBasedTrackingSessions.isEmpty with
  | true =>
    refine (makes_some key options off (.startTime key)).congr ?_
    rw [startTimeBasedTrackingMultiplex, Emit.get_bind_apply, if_pos none]
    rfl
  | false =>
    refine (makes_beside key options off a.allOptions (.startTime key)).congr ?_
    rw [startTimeBasedTrackingMultiplex, Emit.get_bind_apply, none, if_neg Bool.false_ne_true]
    rfl

theorem makes_update (off : a.nHzNeeded = false) {old : TrackingOptions}
    (found : a.timeBasedTrackingSessions.find? key = some old) :
    Makes (updateTrackingMultiplex key options) a (updateAsks a key old options) (.updateTime key old) := by
  rw [updateAsks]
  by_cases changed : old.Changes options
  · rw [if_pos changed]
    by_cases alone : a.timeBasedTrackingSessions.size = 1
    · rw [if_pos alone]
      refine (makes_some key options off (.updateTime key old)).congr ?_
      rw [updateTrackingMultiplex, Emit.get_bind_apply, found]
      exact congrFun ((if_pos changed).trans (if_pos alone)) a
    · rw [if_neg alone]
      refine (makes_beside key options off (a.otherOptions key) (.updateTime key old)).congr ?_
      rw [updateTrackingMultiplex, Emit.get_bind_apply, found]
      exact congrFun ((if_pos changed).trans (if_neg alone)) a
  · rw [if_neg changed]
    refine (makes_none (.updateTime key old)).congr ?_
    rw [updateTrackingMultiplex, Emit.get_bind_apply, found]
    exact congrFun (if_neg changed) a

theorem makes_stop (off : a.nHzNeeded = false) {old : TrackingOptions}
    (found : a.timeBasedTrackingSessions.find? key = some old) (more : a.timeBasedTrackingSessions.size ≠ 1) :
    Makes (stopTimeBasedTrackingMultiplex key) a (stopAsks (a.otherOptions key) old) (.startTime key) := by
  rw [stopAsks]
  by_cases less : old.minInterval < (multiplex (a.otherOptions key)).1.minInterval ∨
      old.power < (multiplex (a.otherOptions key)).2.value
  · rw [if_pos less]
    refine (makes_some key _ off (.startTime key)).congr ?_
    rw [stopTimeBasedTrackingMultiplex, Emit.get_bind_apply, if_neg more, found]
    exact congrFun (if_pos less) a
  · rw [if_neg less]
    refine (makes_none (.startTime key)).congr ?_
    rw [stopTimeBasedTrackingMultiplex, Emit.get_bind_apply, if_neg more, found]
    exact congrFun (if_neg less) a

/-- What the modem is asked for when it restarts. -/
def restartAsks (a : GnssAdapter Client) : Option TrackingOptions :=
  if a.timeBasedTrackingSessions.isEmpty then none
  else
    let found := a.allOptions.foldl restartSession (.zero, .zero)
    some (found.2.setLocationOptions found.1.toLocationOptions)

theorem checkAndRestartTimeBasedSession_off (off : a.nHzNeeded = false) :
    checkAndRestartTimeBasedSession.next a = a ∧ checkAndRestartTimeBasedSession.emitted a =
      ((restartAsks a).map fun sent => .request (.startTimeBasedTracking sent) none).toList := by
  rw [checkAndRestartTimeBasedSession, restartAsks, Emit.next_get_bind, Emit.emitted_get_bind]
  cases a.timeBasedTrackingSessions.isEmpty with
  | true => exact ⟨rfl, rfl⟩
  | false =>
    obtain ⟨-, silent, unchanged⟩ := checkAndSetSPEToRunforNHz_cases (a := a)
      ((a.allOptions.foldl restartSession (.zero, .zero)).2.setLocationOptions
        (a.allOptions.foldl restartSession (.zero, .zero)).1.toLocationOptions)
    obtain ⟨result, next⟩ := unchanged off
    simp only [Bool.false_eq_true, if_false, Emit.next_bind, Emit.emitted_bind, silent, result, next]
    exact ⟨rfl, rfl⟩

/-- Without the fixed rate and distance-based sessions a restart makes the request that it has. -/
theorem restartSessions_off (off : a.nHzNeeded = false) (noDistance : ∀ key, key ∉ a.distanceBasedTrackingSessions) :
    restartSessions.next a = { a with speAlreadyRunningAtHighestInterval := false } ∧
    restartSessions.emitted a =
      ((restartAsks a).map fun sent => .request (.startTimeBasedTracking sent) none).toList := by
  have nothing : a.distanceBasedTrackingSessions.entries = [] :=
    List.isEmpty_iff.mp (SortedMap.isEmpty_iff.mpr noDistance)
  obtain ⟨next, emitted⟩ :=
    checkAndRestartTimeBasedSession_off (a := { a with speAlreadyRunningAtHighestInterval := false }) off
  simp only [restartSessions, Emit.next_bind, Emit.emitted_bind, Emit.next_modify, Emit.emitted_modify, Emit.result_get,
    Emit.next_get, Emit.emitted_get, next, emitted, nothing, List.nil_append]
  exact ⟨rfl, List.append_nil _⟩

/-- The only session stops the engine. -/
theorem stopTimeBasedTrackingMultiplex_alone (alone : a.timeBasedTrackingSessions.size = 1) :
    (stopTimeBasedTrackingMultiplex key).result a = false ∧
    (stopTimeBasedTrackingMultiplex key).next a = { a with speAlreadyRunningAtHighestInterval := false } ∧
    (stopTimeBasedTrackingMultiplex key).emitted a = [.request .stopFix (some (.stopTime key))] := by
  rw [stopTimeBasedTrackingMultiplex, Emit.result_get_bind, Emit.next_get_bind, Emit.emitted_get_bind, if_pos alone]
  exact ⟨rfl, rfl, rfl⟩

end Asks

section Demands

variable {others sessions : List TrackingOptions} {new old : TrackingOptions} {last : Option TrackingOptions}

/-- The options last sent are what some sessions demand. -/
def Asked (sessions : List TrackingOptions) (last : Option TrackingOptions) : Prop :=
  ∃ sent, last = some sent ∧ Demand sessions sent.minInterval sent.power

/-- If a session has a smaller interval than all others but not a smaller power mode, the first of the others with the
smallest interval has the smallest power mode as well. -/
def Fits (others : List TrackingOptions) (new : TrackingOptions) : Prop :=
  (∀ o ∈ others, new.minInterval < o.minInterval) → (∃ o ∈ others, o.power ≤ new.power) →
    ∀ fastest, LeastFold.First (fun o : TrackingOptions => o.minInterval) others fastest →
      ∀ o ∈ others, fastest.power ≤ o.power

/-- If some of the others have no larger interval and some no larger power mode than a session has now, that was so
with the options that it had before. -/
def Backed (others : List TrackingOptions) (old new : TrackingOptions) : Prop :=
  (∃ o ∈ others, o.minInterval ≤ new.minInterval) → (∃ o ∈ others, o.power ≤ new.power) →
    (∃ o ∈ others, o.minInterval ≤ old.minInterval) ∧ ∃ o ∈ others, o.power ≤ old.power

theorem Demand.interval_le_iff {interval power bound : ℕ} (demand : Demand sessions interval power) :
    (∃ o ∈ sessions, o.minInterval ≤ bound) ↔ interval ≤ bound :=
  LeastFold.exists_le_iff demand.interval

theorem Demand.power_le_iff {interval power bound : ℕ} (demand : Demand sessions interval power) :
    (∃ o ∈ sessions, o.power ≤ bound) ↔ power ≤ bound :=
  LeastFold.exists_le_iff demand.power

theorem asked_some {sent : TrackingOptions} :
    Asked sessions (some sent) ↔ Demand sessions sent.minInterval sent.power := by
  constructor
  · rintro ⟨other, same, demand⟩
    cases same
    exact demand
  · exact fun demand => ⟨sent, rfl, demand⟩

theorem value_injective : GnssPowerMode.value.Injective := by
  intro mode other
  cases mode <;> cases other <;> simp [GnssPowerMode.value]

/-- When nothing is asked, the new session calls for no more than the others. -/
theorem beside_eq_none : beside others new = none ↔
    (multiplex others).1.minInterval ≤ new.minInterval ∧ (multiplex others).2.value ≤ new.power := by
  simp [beside, withSession, TrackingOptions.power]

/-- The power mode of what is asked beside others is the new session's or that of the fastest session. -/
theorem fits_iff (nonempty : others ≠ []) (valid : ∀ o ∈ others, o.Valid) (asks : beside others new ≠ none) :
    Fits others new ↔
      new.power < (multiplex others).2.value ∨ (multiplex others).1.powerMode = (multiplex others).2 := by
  have demand := demand_multiplex nonempty valid
  have first := first_multiplex nonempty valid
  have faster : (∀ o ∈ others, new.minInterval < o.minInterval) ↔ new.minInterval <
    (multiplex others).1.minInterval := by
    rw [← not_le, ← demand.interval_le_iff]
    simp only [not_exists, not_and, not_le]
  rw [Fits, faster, demand.power_le_iff, ← not_lt, or_iff_not_imp_left]
  constructor
  · intro fits weaker
    have interval : new.minInterval < (multiplex others).1.minInterval := by
      by_contra slower
      exact asks (beside_eq_none.mpr ⟨not_lt.mp slower, not_lt.mp weaker⟩)
    have least := fits interval weaker _ first
    obtain ⟨strongest, member, value⟩ := demand.power.1
    exact value_injective (le_antisymm ((least strongest member).trans value.le) (demand.power.2 ⟨_, first.mem, rfl⟩))
  · intro right interval weaker fastest isFirst o member
    obtain rfl := isFirst.unique first
    rw [TrackingOptions.power, right weaker]
    exact demand.power.2 ⟨o, member, rfl⟩

/-- What is asked beside others. -/
theorem asked_beside (nonempty : others ≠ []) (valid : ∀ o ∈ others, o.Valid)
    (more : ∀ o, o ∈ sessions ↔ o = new ∨ o ∈ others) {sent : TrackingOptions} (asks : beside others new = some sent) :
    Asked sessions (some sent) ↔ Fits others new := by
  have demand := (demand_multiplex nonempty valid).insert more
  have something : beside others new ≠ none := asks ▸ Option.some_ne_none sent
  rw [beside] at asks
  split_ifs at asks
  cases asks
  rw [asked_some, demand.iff_eq, fits_iff nonempty valid something, withSession]
  by_cases stronger : new.powerMode.value < (multiplex others).2.value
  · simp only [TrackingOptions.power, min_eq_left_of_lt stronger, ← min_def_lt, stronger, true_or, if_true, and_self]
  · simp only [TrackingOptions.power, min_eq_right (not_lt.mp stronger), ← min_def_lt, stronger, false_or, true_and]
    exact value_injective.eq_iff

/-- What has been sent still is what the sessions demand when the new session calls for no more. -/
theorem asked_kept (nonempty : others ≠ []) (valid : ∀ o ∈ others, o.Valid)
    (more : ∀ o, o ∈ sessions ↔ o = new ∨ o ∈ others) (none : beside others new = none) :
    Asked sessions last ↔ ∃ sent, last = some sent ∧ sent.minInterval = (multiplex others).1.minInterval ∧
      sent.power = (multiplex others).2.value := by
  obtain ⟨slower, weaker⟩ := beside_eq_none.mp none
  have demand := (demand_multiplex nonempty valid).insert more
  rw [min_eq_right slower, min_eq_right weaker] at demand
  exact exists_congr fun sent => and_congr_right fun _ => demand.iff_eq

/-- A new session that calls for no more fits. -/
theorem fits_of_none (nonempty : others ≠ []) (valid : ∀ o ∈ others, o.Valid) (none : beside others new = none) :
    Fits others new := by
  intro faster
  have slower := (demand_multiplex nonempty valid).interval_le_iff.mpr (beside_eq_none.mp none).1
  obtain ⟨o, member, below⟩ := slower
  exact absurd below (not_le.mpr (faster o member))

/-- A session that starts. -/
theorem asked_start {Client : Type} [LinearOrder Client] {a : GnssAdapter Client}
    (valid : ∀ o ∈ a.allOptions, o.Valid)
    (more : ∀ o, o ∈ sessions ↔ o = new ∨ o ∈ a.allOptions)
    (before : a.allOptions ≠ [] → Asked a.allOptions last) :
    Asked sessions ((startAsks a new).or last) ↔ (a.allOptions ≠ [] → Fits a.allOptions new) := by
  have empty : a.timeBasedTrackingSessions.isEmpty = a.allOptions.isEmpty := by
    rw [SortedMap.isEmpty, GnssAdapter.allOptions, List.isEmpty_map]
  rw [startAsks, empty]
  by_cases nobody : a.allOptions = []
  · rw [nobody, List.isEmpty_nil, if_pos rfl, Option.some_or, asked_some]
    refine iff_of_true (Demand.single fun o => ?_) fun some => absurd rfl some
    rw [more o, nobody]
    exact or_iff_left List.not_mem_nil
  · rw [List.isEmpty_eq_false_iff.mpr nobody, if_neg Bool.false_ne_true, imp_iff_right nobody]
    cases asks : beside a.allOptions new with
    | some sent => exact asked_beside nobody valid more asks
    | none =>
      obtain ⟨sent, was, demand⟩ := before nobody
      refine iff_of_true ((asked_kept nobody valid more asks).mpr ⟨sent, was, ?_⟩) (fits_of_none nobody valid asks)
      exact demand.unique (demand_multiplex nobody valid)

/-- A restart. -/
theorem asked_restart {Client : Type} [LinearOrder Client] {a : GnssAdapter Client} (nonempty : a.allOptions ≠ [])
    (valid : ∀ o ∈ a.allOptions, o.Valid) : Asked a.allOptions (restartAsks a) := by
  have some : a.timeBasedTrackingSessions.isEmpty = false := by
    refine List.isEmpty_eq_false_iff.mpr fun none => nonempty ?_
    rw [GnssAdapter.allOptions, none, List.map_nil]
  rw [restartAsks, some, if_neg Bool.false_ne_true, asked_some]
  exact demand_restart nonempty valid

/-- A session that changes its options. -/
theorem asked_update {Client : Type} [LinearOrder Client] {a : GnssAdapter Client} {key : LocationSessionKey Client}
    (valid : ∀ o ∈ a.otherOptions key, o.Valid) (alone : a.otherOptions key = [] ↔ a.timeBasedTrackingSessions.size = 1)
    (was : ∀ o, o ∈ a.allOptions ↔ o = old ∨ o ∈ a.otherOptions key)
    (more : ∀ o, o ∈ sessions ↔ o = new ∨ o ∈ a.otherOptions key) (before : Asked a.allOptions last) :
    Asked sessions ((updateAsks a key old new).or last) ↔
      (old.Changes new → a.timeBasedTrackingSessions.size ≠ 1 →
        Fits (a.otherOptions key) new ∧ Backed (a.otherOptions key) old new) := by
  rw [updateAsks]
  by_cases changed : old.Changes new
  · rw [if_pos changed, imp_iff_right changed]
    by_cases one : a.timeBasedTrackingSessions.size = 1
    · rw [if_pos one, Option.some_or, asked_some]
      refine iff_of_true (Demand.single fun o => ?_) fun more => absurd one more
      rw [more o, alone.mpr one]
      exact or_iff_left List.not_mem_nil
    · have nonempty := mt alone.mp one
      rw [if_neg one, imp_iff_right one]
      have least := demand_multiplex nonempty valid
      rw [Backed, least.interval_le_iff, least.interval_le_iff, least.power_le_iff, least.power_le_iff]
      cases asks : beside (a.otherOptions key) new with
      | some sent =>
        rw [Option.some_or, asked_beside nonempty valid more asks]
        refine (and_iff_left fun slower weaker => ?_).symm
        rw [beside_eq_none.mpr ⟨slower, weaker⟩] at asks
        cases asks
      | none =>
        obtain ⟨slower, weaker⟩ := beside_eq_none.mp asks
        obtain ⟨sent, rfl, demand⟩ := before
        obtain ⟨interval, power⟩ := demand.unique (least.insert was)
        rw [Option.none_or, asked_kept nonempty valid more asks, imp_iff_right slower, imp_iff_right weaker,
          and_iff_right (fits_of_none nonempty valid asks), ← min_eq_right_iff, ← min_eq_right_iff, ← interval, ← power]
        constructor
        · rintro ⟨other, same, equal⟩
          cases same
          exact equal
        · exact fun equal => ⟨sent, rfl, equal⟩
  · rw [if_neg changed, Option.none_or]
    refine iff_of_true ?_ fun differs => absurd differs changed
    obtain ⟨sameInterval, samePower⟩ := not_or.mp changed
    obtain ⟨sent, rfl, demand⟩ := before
    refine ⟨sent, rfl, demand.replace was more (not_not.mp sameInterval) ?_⟩
    rw [TrackingOptions.power, not_not.mp samePower, TrackingOptions.power]

/-- A session that stops beside others. -/
theorem asked_stop (nonempty : others ≠ []) (valid : ∀ o ∈ others, o.Valid)
    (was : ∀ o, o ∈ sessions ↔ o = old ∨ o ∈ others) (before : Asked sessions last) :
    Asked others ((stopAsks others old).or last) := by
  have demand := demand_multiplex nonempty valid
  rw [stopAsks]
  split_ifs with less
  · exact asked_some.mpr demand
  · obtain ⟨slower, weaker⟩ := not_or.mp less
    obtain ⟨sent, rfl, whole⟩ := before
    obtain ⟨interval, power⟩ := whole.unique (demand.insert was)
    refine ⟨sent, rfl, demand.iff_eq.mpr ⟨?_, ?_⟩⟩
    · rw [interval, min_eq_right (not_lt.mp slower)]
    · rw [power, min_eq_right (not_lt.mp weaker)]

end Demands

end Cypfr.Tracking
