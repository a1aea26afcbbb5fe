import Cypfr.Proofs.TrackingModem

/-! # The log of a run and its outstanding requests

As long as every request waits for an answer, the requests that the log has without a result are the outstanding
ones, each under its own number. What the last of the requests does to the engine follows from the log.
-/

namespace Cypfr.Tracking

/-- What an accepted request does to the engine: it runs, or it stops. -/
def LocApiRequest.engine : LocApiRequest → Option Bool
  | .startTimeBasedTracking _ => some true
  | .stopFix => some false
  | _ => none

/-- What the request that a response waits for does to the engine. -/
def LocApiResponse.engine {Client : Type} : LocApiResponse Client → Option Bool
  | .startTime _ | .updateTime _ _ => some true
  | .stopTime _ => some false
  | _ => none

/-- What a request with some result does to the engine if results of this kind count. -/
def engineOf (counts : Option LocationError → Bool) (entry : LocApiRequest × Option LocationError) : Option Bool :=
  if counts entry.2 then entry.1.engine else none

/-- What the last request that counts did to the engine. -/
def lastEngine (counts : Option LocationError → Bool) (log : List (LocApiRequest × Option LocationError)) : Option Bool :=
  (log.filterMap (engineOf counts)).getLast?

def accepted (result : Option LocationError) : Bool := result = some .success

/-- Accepted or still to be answered. -/
def unfailed (result : Option LocationError) : Bool := result = none ∨ result = some .success

section Log

variable {counts : Option LocationError → Bool} {log log' : List (LocApiRequest × Option LocationError)}
  {entry : LocApiRequest × Option LocationError}

theorem lastEngine_append : lastEngine counts (log ++ log') = (lastEngine counts log').or (lastEngine counts log) := by
  rw [lastEngine, List.filterMap_append, List.getLast?_append, lastEngine, lastEngine]

theorem lastEngine_cons :
    lastEngine counts (entry :: log) = (lastEngine counts log).or (engineOf counts entry) := by
  rw [← List.singleton_append, lastEngine_append]
  congr 1
  rw [lastEngine, List.filterMap_cons]
  cases engineOf counts entry <;> rfl

/-- An entry of a list, and the list with this entry changed. -/
theorem exists_modify {α : Type} {l : List α} {i : ℕ} {x : α} (found : l[i]? = some x) :
    ∃ before rest, l = before ++ x :: rest ∧ ∀ f : α → α, l.modify i f = before ++ f x :: rest := by
  induction l generalizing i with
  | nil => cases found
  | cons y l ih =>
    cases i with
    | zero =>
      cases found
      exact ⟨[], l, rfl, fun _ => rfl⟩
    | succ i =>
      obtain ⟨before, rest, split, modified⟩ := ih found
      refine ⟨y :: before, rest, congrArg (y :: ·) split, fun f => ?_⟩
      rw [List.modify_succ_cons, modified f]
      rfl

/-- An answer leaves a start as the last request that counts unless a start fails. -/
theorem lastEngine_answered {number : ℕ} {request : LocApiRequest} {err : LocationError}
    (waits : log[number]? = some (request, none)) (harmless : err = .success ∨ request.engine ≠ some true)
    (runs : lastEngine unfailed log = some true) :
    lastEngine unfailed (log.modify number fun entry => (entry.1, some err)) = some true := by
  obtain ⟨before, rest, rfl, modified⟩ := exists_modify waits
  rw [lastEngine_append, lastEngine_cons, engineOf] at runs
  rw [modified, lastEngine_append, lastEngine_cons, engineOf]
  cases later : lastEngine unfailed rest with
  | some runs' => rwa [later] at runs
  | none =>
    rw [later] at runs
    by_cases success : err = .success
    · subst success
      exact runs
    · have failed : unfailed (some err) = false := by
        rw [unfailed, decide_eq_false_iff_not]
        rintro (none | same)
        · cases none
        · exact success (Option.some.inj same)
      have other := harmless.resolve_left success
      rw [failed, if_neg Bool.false_ne_true]
      cases effect : request.engine with
      | none =>
        rw [effect, ite_self] at runs
        exact runs
      | some runs' =>
        rw [effect, if_pos (show unfailed none = true from rfl)] at runs
        exact absurd (effect.trans runs) other

/-- Without requests that wait, those that have not failed were accepted. -/
theorem lastEngine_of_settled (settled : ∀ entry ∈ log, entry.2 ≠ none) : lastEngine unfailed log =
    lastEngine accepted log := by
  have same : ∀ entry ∈ log, engineOf unfailed entry = engineOf accepted entry := by
    intro entry member
    obtain ⟨request, result⟩ := entry
    cases result with
    | none => exact absurd rfl (settled _ member)
    | some err => simp [engineOf, unfailed, accepted]
  rw [lastEngine, lastEngine, List.filterMap_congr same]

end Log

section Pairing

variable {Client : Type} [LinearOrder Client]

/-- A request waits for the response that belongs to it. -/
def Output.Paired : Output Client → Prop
  | .request sent response => ∃ answer, response = some answer ∧ sent.engine = answer.engine
  | .reportResponse _ _ => True

/-- The outstanding requests are those that the log has without a result. -/
structure Session.Logged (s : Session Client) : Prop where
  pairs : ∀ waiting ∈ s.outstanding, ∃ request, s.log[waiting.number]? = some (request, none) ∧
    request.engine = waiting.response.engine
  distinct : (s.outstanding.map Outstanding.number).Nodup
  complete : ∀ n request, s.log[n]? = some (request, none) → ∃ waiting ∈ s.outstanding, waiting.number = n

namespace Session.Logged

variable {s : Session Client} {origin : Option (Command Client)}

theorem number_lt (logged : s.Logged) {waiting : Outstanding Client} (member : waiting ∈ s.outstanding) :
    waiting.number < s.log.length := by
  obtain ⟨request, found, -⟩ := logged.pairs waiting member
  exact (List.getElem?_eq_some_iff.mp found).1

theorem record (logged : s.Logged) {output : Output Client} (paired : output.Paired) :
    (s.record origin output).Logged := by
  cases output with
  | reportResponse key err => exact ⟨logged.pairs, logged.distinct, logged.complete⟩
  | request sent response =>
    obtain ⟨answer, rfl, effect⟩ := paired
    constructor
    · intro waiting member
      rcases List.mem_append.mp member with before | added
      · obtain ⟨request, found, same⟩ := logged.pairs waiting before
        exact ⟨request, (List.getElem?_append_left (logged.number_lt before)).trans found, same⟩
      · cases List.mem_singleton.mp added
        exact ⟨sent, by rw [Session.record]; simp, effect⟩
    · refine (List.map_append ..).symm ▸ List.nodup_append.mpr ⟨logged.distinct, List.nodup_singleton _, ?_⟩
      rintro _ old _ new rfl
      obtain ⟨waiting, member, same⟩ := List.mem_map.mp old
      exact (logged.number_lt member).ne (same.trans (List.mem_singleton.mp new))
    · intro n request found
      rcases Nat.lt_or_ge n s.log.length with old | new
      · obtain ⟨waiting, member, same⟩ := logged.complete n request ((List.getElem?_append_left old).symm.trans found)
        exact ⟨waiting, List.mem_append_left _ member, same⟩
      · have within := (List.getElem?_eq_some_iff.mp found).1
        rw [Session.record, List.length_append, List.length_singleton] at within
        exact ⟨⟨s.log.length, origin, answer⟩, List.mem_append_right _ List.mem_cons_self,
          Nat.le_antisymm new (Nat.lt_succ_iff.mp within)⟩

theorem foldl_record (logged : s.Logged) {outputs : List (Output Client)} (paired : ∀ output ∈ outputs, output.Paired) :
    (outputs.foldl (Session.record origin) s).Logged := by
  induction outputs generalizing s with
  | nil => exact logged
  | cons output rest ih =>
    exact ih (logged.record (paired output List.mem_cons_self)) fun other member =>
      paired other (List.mem_cons_of_mem _ member)

theorem after (logged : s.Logged) {p : AdapterM Client Unit} (paired : ∀ output ∈ p.emitted s.adapter, output.Paired) :
    (s.after origin p).Logged :=
  foldl_record (s := s.become (p.next s.adapter)) ⟨logged.pairs, logged.distinct, logged.complete⟩ paired

theorem answered (logged : s.Logged) {index : ℕ} {waiting : Outstanding Client}
    (waits : s.outstanding[index]? = some waiting)
    (err : LocationError) : (s.answered index waiting.number err).Logged := by
  have others : ∀ other ∈ s.outstanding.eraseIdx index, other ∈ s.outstanding ∧ waiting.number ≠ other.number := by
    intro other member
    obtain ⟨i, different, found⟩ := List.mem_eraseIdx_iff_getElem?.mp member
    refine ⟨List.mem_of_getElem? found, fun same => different ?_⟩
    have first : (s.outstanding.map Outstanding.number)[i]? = some other.number := by rw [List.getElem?_map, found]; rfl
    have second : (s.outstanding.map Outstanding.number)[index]? = some waiting.number := by
      rw [List.getElem?_map, waits]
      rfl
    obtain ⟨within, first⟩ := List.getElem?_eq_some_iff.mp first
    obtain ⟨within', second⟩ := List.getElem?_eq_some_iff.mp second
    exact (logged.distinct.getElem_inj_iff).mp (first.trans (same.symm.trans second.symm))
  constructor
  · intro other member
    obtain ⟨before, different⟩ := others other member
    obtain ⟨request, found, same⟩ := logged.pairs other before
    exact ⟨request, (List.getElem?_modify_ne _ _ different).trans found, same⟩
  · exact logged.distinct.sublist ((List.eraseIdx_sublist s.outstanding index).map _)
  · intro n request found
    rcases eq_or_ne waiting.number n with rfl | different
    · have answered := (List.getElem?_modify_eq _ _ s.log).symm.trans found
      obtain ⟨entry, -, same⟩ := Option.map_eq_some_iff.mp answered
      cases (Prod.mk.inj same).2
    · obtain ⟨other, member, rfl⟩ :=
        logged.complete n request ((List.getElem?_modify_ne _ s.log different).symm.trans found)
      obtain ⟨i, place⟩ := List.mem_iff_getElem?.mp member
      refine ⟨other, List.mem_eraseIdx_iff_getElem?.mpr ⟨i, ?_, place⟩, rfl⟩
      rintro rfl
      cases waits.symm.trans place
      exact different rfl

end Session.Logged

end Pairing

section Emitted

variable {Client : Type}

/-- What an output asks of the engine. -/
def Output.engine : Output Client → Option Bool
  | .request sent _ => sent.engine
  | .reportResponse _ _ => none

/-- What the last output that concerns the engine asks of it. -/
def lastAsked (outputs : List (Output Client)) : Option Bool := (outputs.filterMap Output.engine).getLast?

theorem lastAsked_append (outputs outputs' : List (Output Client)) :
    lastAsked (outputs ++ outputs') = (lastAsked outputs').or (lastAsked outputs) := by
  rw [lastAsked, List.filterMap_append, List.getLast?_append, lastAsked, lastAsked]

variable [LinearOrder Client] {a : GnssAdapter Client} {key : LocationSessionKey Client} {s : Session Client}
  {origin : Option (Command Client)}

/-- What a step asks of the engine comes last in the log and has not failed. -/
theorem lastEngine_after (p : AdapterM Client Unit) : lastEngine unfailed (s.after origin p).log =
    (lastAsked (p.emitted s.adapter)).or (lastEngine unfailed s.log) := by
  rw [Session.log_after, lastEngine_append, lastAsked, lastEngine, List.filterMap_map, List.filterMap_filterMap]
  congr 2
  refine List.filterMap_congr fun output _ => ?_
  cases output <;> rfl

/-- What a multiplexer and the report that is left ask of the engine, without the fixed rate. -/
theorem Multiplexes.lastAsked_cases {quiet : Prop} {result : Bool} {outputs : List (Output Client)}
    {asks : LocApiRequest → LocApiResponse Client → Prop} (multiplexes : Multiplexes key a quiet result outputs asks)
    (off : a.nHzNeeded = false) (a' : GnssAdapter Client) :
    let all := outputs ++ (reportNoWait key result).emitted a'
    (quiet ∧ lastAsked all = none ∧ ∀ output ∈ all, output.Paired) ∨
      ∃ request response, asks request response ∧ lastAsked all = request.engine ∧
        (request.engine = response.engine → ∀ output ∈ all, output.Paired) := by
  cases multiplexes with
  | nothing isQuiet report silent =>
    refine .inl ⟨isQuiet, ?_, ?_⟩ <;> rw [silent, report]
    · rfl
    · intro output member
      cases List.mem_singleton.mp member
      exact trivial
  | reported running =>
    rw [off] at running
    cases running
  | asked request response told sent isAsked =>
    refine .inr ⟨request, response, isAsked, ?_, ?_⟩ <;> rw [told, sent]
    · change lastAsked [.request request (some response)] = request.engine
      rw [lastAsked, List.filterMap_cons]
      cases effect : Output.engine (.request request (some response)) with
      | none => exact effect.symm
      | some runs => exact effect.symm
    · intro effect output member
      cases List.mem_singleton.mp member
      exact ⟨response, rfl, effect⟩

variable (key) (options : TrackingOptions) (off : a.nHzNeeded = false)

include off

/-- A start asks the engine to run unless there are other sessions. -/
theorem startTimeBased_asks :
    ((lastAsked ((startTimeBased key options).emitted a) = none ∧ ∃ other, other ∈ a.timeBasedTrackingSessions) ∨
      lastAsked ((startTimeBased key options).emitted a) = some true) ∧
    ∀ output ∈ (startTimeBased key options).emitted a, output.Paired := by
  obtain ⟨-, multiplexes⟩ : SameSessions a _ ∧ _ := startTimeBasedTrackingMultiplex_cases key options
  rw [startTimeBased, Emit.emitted_bind, Emit.emitted_bind]
  rcases multiplexes.lastAsked_cases off _ with ⟨others, none, paired⟩ | ⟨request, response, ⟨rfl, sent, rfl⟩, runs,
    paired⟩
  · exact ⟨.inl ⟨none, others⟩, paired⟩
  · exact ⟨.inr runs, paired rfl⟩

/-- An update asks the engine to run or nothing. -/
theorem updateTimeBased_asks :
    (lastAsked ((updateTimeBased key options).emitted a) = none ∨
      lastAsked ((updateTimeBased key options).emitted a) = some true) ∧
    ∀ output ∈ (updateTimeBased key options).emitted a, output.Paired := by
  obtain ⟨-, multiplexes⟩ : SameSessions a _ ∧ _ := updateTrackingMultiplex_cases key options
  rw [updateTimeBased, Emit.emitted_bind, Emit.emitted_bind]
  rcases multiplexes.lastAsked_cases off _ with
    ⟨-, none, paired⟩ | ⟨request, response, ⟨⟨old, rfl, -⟩, sent, rfl⟩, runs, paired⟩
  · exact ⟨.inl none, paired⟩
  · exact ⟨.inr runs, paired rfl⟩

/-- A stop asks the engine to stop if there are no other sessions. -/
theorem stopTimeBased_asks :
    (a.timeBasedTrackingSessions.size = 1 ∧ lastAsked ((stopTimeBased key).emitted a) = some false ∨
      a.timeBasedTrackingSessions.size ≠ 1 ∧ (lastAsked ((stopTimeBased key).emitted a) = none ∨
        lastAsked ((stopTimeBased key).emitted a) = some true)) ∧
    ∀ output ∈ (stopTimeBased key).emitted a, output.Paired := by
  obtain ⟨-, multiplexes⟩ : SameSessions a _ ∧ _ := stopTimeBasedTrackingMultiplex_cases key
  rw [stopTimeBased, Emit.emitted_bind, Emit.emitted_bind]
  rcases multiplexes.lastAsked_cases off _ with
    ⟨more, none, paired⟩ | ⟨request, response, ⟨rfl, rfl, one⟩ | ⟨⟨sent, rfl⟩, rfl, more⟩, runs, paired⟩
  · exact ⟨.inr ⟨more, .inl none⟩, paired⟩
  · exact ⟨.inl ⟨one, runs⟩, paired rfl⟩
  · exact ⟨.inr ⟨more, .inr runs⟩, paired rfl⟩

omit off in
/-- A switch to a distance-based session stops the time-based one and asks for the other. -/
theorem emitted_switchToDistance : (switchToDistance key options).emitted a = (stopTimeBased key).emitted a ++
    [.request (.startDistanceBasedTracking key.id options.toLocationOptions) (some .ignore)] := by
  simp only [switchToDistance, stopTimeBased, Emit.emitted_bind, erase, save, Emit.emitted_modify, Emit.emitted_emit,
    List.nil_append, List.append_assoc]

/-- Every request of a command waits for its response. -/
theorem paired_runs {command : Command Client} {p : AdapterM Client Unit} (runs : Runs a command p) :
    ∀ output ∈ p.emitted a, output.Paired := by
  have single {request : LocApiRequest} {response : LocApiResponse Client} (effect : request.engine = response.engine) :
      ∀ output ∈ [Output.request request (some response)], output.Paired := by
    intro output member
    cases List.mem_singleton.mp member
    exact ⟨response, rfl, effect⟩
  have report (key : LocationSessionKey Client) (err : LocationError) :
      ∀ output ∈ [Output.reportResponse key err], output.Paired := by
    intro output member
    cases List.mem_singleton.mp member
    exact trivial
  cases runs with
  | wait | startIgnored => exact fun output member => absurd member List.not_mem_nil
  | startDistance | updateToTime | updateDistance | stopDistance => exact single rfl
  | updateRefused | stopUnknown => exact report _ _
  | startTime => exact (startTimeBased_asks _ _ off).2
  | updateTime => exact (updateTimeBased_asks _ _ off).2
  | stopTime => exact (stopTimeBased_asks _ off).2
  | updateToDistance =>
    rw [emitted_switchToDistance]
    intro output member
    rcases List.mem_append.mp member with stop | start
    · exact (stopTimeBased_asks _ off).2 output stop
    · exact single rfl output start

/-- So does every request of an answer. -/
theorem paired_proc (response : LocApiResponse Client) (err : LocationError) :
    ∀ output ∈ (response.proc err).emitted a, output.Paired := by
  cases reporter : response.reporter with
  | some key =>
    rw [emitted_reporter err reporter]
    intro output member
    cases List.mem_singleton.mp member
    exact trivial
  | none =>
    cases response with
    | ignore => exact fun output member => absurd member List.not_mem_nil
    | switchToTime key options => exact (startTimeBased_asks key options off).2
    | restartDistance key options =>
      rw [LocApiResponse.proc, Emit.emitted_ite]
      split_ifs
      · intro output member
        cases List.mem_singleton.mp member
        exact ⟨_, rfl, rfl⟩
      · exact fun output member => absurd member List.not_mem_nil
    | _ => cases reporter

end Emitted

end Cypfr.Tracking
