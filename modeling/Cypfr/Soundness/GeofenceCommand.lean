import Cypfr.Machine.Run
import Cypfr.Proofs.GeofenceCommand

/-! # One response for each command

A command with its arrays is answered once and with the result of each of its geofences, unless an error is lost: the
answers to requests to resume or to modify are entered only if they say success, and an answer after the last geofence
is done comes too late. Without its arrays a command is not answered at all.
-/

namespace Cypfr.Geofence

open Tracking ClientBase Machine

namespace GeofenceCommand

def adds : GeofenceCommand → Bool
  | addGeofences _ => true
  | _ => false

def HasArrays : GeofenceCommand → Prop
  | withoutArrays _ => False
  | _ => True

end GeofenceCommand

namespace CommandRun

variable {Client : Type} [LinearOrder Client]

section Statement

variable (client : Client) (command : GeofenceCommand)

/-- What the adapter does meanwhile leaves the errors of the command and the callback of its client. -/
def Undisturbed (own : ℕ) (s : CommandRun Client) : CommandTurn Client → Prop
  | .meanwhile adapter =>
    adapter.errs.getD own [] = s.adapter.errs.getD own [] ∧ adapter.collectiveResponseCb client
  | _ => True

/-- All queued calls ran, and all requests were answered. -/
def Finished (s : CommandRun Client) : Prop := s.calls = [] ∧ s.requests = []

/-- One response with the result of each geofence. -/
def Answered (s : CommandRun Client) : Prop :=
  s.reports = [(client, (List.range command.ids.length).map s.results, command.ids)]

/-- No error comes as an answer to a request to resume or to modify, or after the result of the last geofence. -/
def ErrorsInTime (s : CommandRun Client) : CommandTurn Client → Prop
  | .answer err _ => err ≠ .success →
    ∀ response ∈ s.requests.head?, response.EntersErrors ∧ s.results (command.ids.length - 1) = none
  | _ => True

end Statement

section Underway

variable {client : Client} {command : GeofenceCommand} {own i : ℕ} {ids : List UInt32} {adds : Bool}
  {waiting queued : List ℕ} {s : CommandRun Client} {response : GeofenceResponse Client} {err result : LocationError}
  {entry : Option LocationError} {hwId : UInt32}

/-- The client has its callback, and got no other reports. -/
structure Serves (client : Client) (ids : List UInt32) (s : CommandRun Client) : Prop where
  registered : s.adapter.collectiveResponseCb client = true
  addressed : ∀ report ∈ s.reports, report.1 = client ∧ report.2.2 = ids

/-- What is outstanding of a command: its requests and its calls are those for the geofences without a result. -/
structure Underway (client : Client) (own : ℕ) (ids : List UInt32) (adds : Bool) (waiting queued : List ℕ)
    (s : CommandRun Client) : Prop where
  requests : List.Forall₂ (fun response i => response.IsRequest adds ⟨client, own, ids, i⟩) s.requests waiting
  calls : List.Forall₂ (fun response i => response.IsCall adds ⟨client, own, ids, i⟩) s.calls queued
  pending : (s.tally own).Pending ids.length .success adds waiting queued
  serves : s.Serves client ids

theorem Serves.proceed (serves : s.Serves client ids)
    (closes : ∀ item ∈ response.closes s.adapter err, item.client = client ∧ item.ids = ids) :
    (s.proceed response err hwId).Serves client ids where
  registered := by rw [registered_proceed, serves.registered]
  addressed := by
    intro report member
    rw [reports_proceed] at member
    rcases List.mem_append.mp member with earlier | last
    · exact serves.addressed report earlier
    · cases done : response.closes s.adapter err with
      | none =>
        rw [done] at last
        exact absurd last List.not_mem_nil
      | some item =>
        rw [done, Option.elim_some, Replies.report] at last
        split_ifs at last
        · cases List.mem_singleton.mp last
          exact closes item done
        · exact absurd last List.not_mem_nil

theorem underway_goesOn
    (requests : List.Forall₂ (fun response i => response.IsRequest adds ⟨client, own, ids, i⟩) s.requests waiting)
    (calls : List.Forall₂ (fun response i => response.IsCall adds ⟨client, own, ids, i⟩) s.calls queued)
    (pending : (s.tally own).Pending ids.length .success adds waiting (i :: queued)) (serves : s.Serves client ids)
    (goes : response.GoesOn s.adapter err hwId adds ⟨client, own, ids, i⟩) :
    (s.proceed response err hwId).Underway client own ids adds (waiting ++ [i]) queued := by
  obtain ⟨sent, follow, request, asks⟩ := goes.asks
  refine ⟨?_, calls, ?_, serves.proceed fun item done => ?_⟩
  · rw [requests_proceed, asks]
    exact List.rel_append requests (.cons request .nil)
  · rw [tally_goesOn goes]
    exact pending.goesOn
  · rw [goes.closes] at done
    exact absurd done (Option.not_mem_none item)

theorem underway_ends
    (requests : List.Forall₂ (fun response i => response.IsRequest adds ⟨client, own, ids, i⟩) s.requests waiting)
    (calls : List.Forall₂ (fun response i => response.IsCall adds ⟨client, own, ids, i⟩) s.calls queued)
    (serves : s.Serves client ids) (ends : response.Ends s.adapter err hwId ⟨client, own, ids, i⟩ entry result)
    (pending : ((s.proceed response err hwId).tally own).Pending ids.length .success adds waiting queued) :
    (s.proceed response err hwId).Underway client own ids adds waiting queued := by
  refine ⟨?_, calls, pending, serves.proceed fun item done => ?_⟩
  · rw [requests_proceed, ends.asks, List.map_nil, List.append_nil]
    exact requests
  · rcases ends.closes with own | ⟨-, none⟩
    · rw [own] at done
      cases Option.mem_some.mp done
      exact ⟨rfl, rfl⟩
    · rw [none] at done
      exact absurd done (Option.not_mem_none item)

/-- A queued call goes on to a request, or enters that its identifier is unknown. -/
theorem underway_call (underway : s.Underway client own ids adds waiting queued) :
    (∃ waiting queued, (s.step .call).Underway client own ids adds waiting queued) ∧
      (((s.step .call).tally own).Right ids.length ↔ (s.tally own).Right ids.length) := by
  obtain ⟨requests, calls, pending, serves⟩ := underway
  cases head : s.calls with
  | nil =>
    rw [step, head]
    exact ⟨⟨waiting, queued, requests, calls, pending, serves⟩, Iff.rfl⟩
  | cons response rest =>
    rw [head] at calls
    obtain ⟨i, queued, call, later, rfl⟩ := List.forall₂_cons_left_iff.mp calls
    obtain ⟨inside, unknown⟩ := (pending.unknown i).mp (List.mem_append_right _ List.mem_cons_self)
    have popped : Serves client ids { s with calls := rest } := ⟨serves.registered, serves.addressed⟩
    rw [step, head]
    rcases call.cases (a := s.adapter) .success 0 with goes | ⟨rfl, ends⟩
    · refine ⟨⟨_, _, underway_goesOn (s := { s with calls := rest }) requests later pending popped goes⟩, ?_⟩
      rw [tally_goesOn (s := { s with calls := rest }) goes]
      split_ifs
      · exact Iff.rfl
      · exact Tally.right_mark_iff unknown
    · have after := tally_ends (s := { s with calls := rest }) ends serves.registered
      refine ⟨⟨waiting, queued, underway_ends (s := { s with calls := rest }) requests later popped ends ?_⟩, ?_⟩
      · rw [after]
        exact pending.enter_queued
      · rw [after]
        exact Tally.right_entered_iff pending.sound unknown inside (pending.last_of_queued (List.cons_ne_nil i queued))

/-- The first request is answered: the answer counts if it is success, or if it is entered in time. -/
theorem underway_answer (underway : s.Underway client own command.ids adds waiting queued) (err : LocationError)
    (hwId : UInt32) :
    (∃ waiting queued, (s.step (.answer err hwId)).Underway client own command.ids adds waiting queued) ∧
      (((s.step (.answer err hwId)).tally own).Right command.ids.length ↔
        (s.tally own).Right command.ids.length ∧ s.ErrorsInTime command (.answer err hwId)) := by
  obtain ⟨requests, calls, pending, serves⟩ := underway
  rw [ErrorsInTime]
  cases head : s.requests with
  | nil =>
    rw [step, head]
    exact ⟨⟨waiting, queued, requests, calls, pending, serves⟩,
      (and_iff_left fun _ _ none => absurd none (Option.not_mem_none _)).symm⟩
  | cons response rest =>
    rw [head] at requests
    obtain ⟨i, waiting, request, later, rfl⟩ := List.forall₂_cons_left_iff.mp requests
    have popped : Serves client command.ids { s with requests := rest } := ⟨serves.registered, serves.addressed⟩
    simp only [step, head, List.head?_cons, Option.mem_some_iff, forall_eq']
    by_cases entered : err ≠ .success → response.EntersErrors
    · have ends := request.ends (a := s.adapter) hwId entered
      have after := tally_ends (s := { s with requests := rest }) ends serves.registered
      refine ⟨⟨waiting, queued, underway_ends (s := { s with requests := rest }) later calls popped ends ?_⟩, ?_⟩
      · rw [after]
        exact pending.enter_waiting
      · rw [after]
        apply pending.right_answered_iff.trans (and_congr_right' ?_)
        constructor
        · exact fun counts error => ⟨entered error, counts.resolve_right error⟩
        · exact fun inTime => (em (err = .success)).symm.imp_left fun error => (inTime error).2
    · obtain ⟨error, lost⟩ := Classical.not_imp.mp entered
      obtain ⟨rfl, ends⟩ := request.lost (a := s.adapter) hwId error lost
      have after := tally_lost (s := { s with requests := rest }) ends serves.registered
      refine ⟨⟨waiting, queued, underway_ends (s := { s with requests := rest }) later calls popped ends ?_⟩, ?_⟩
      · exact pending.lose_waiting after
      · exact iff_of_false (pending.not_right_lost error after) fun both => lost (both.2 error).1

theorem underway_step (underway : ∃ waiting queued, s.Underway client own command.ids adds waiting queued)
    (turn : CommandTurn Client) (undisturbed : s.Undisturbed client own turn) :
    (∃ waiting queued, (s.step turn).Underway client own command.ids adds waiting queued) ∧
      (((s.step turn).tally own).Right command.ids.length ↔
        (s.tally own).Right command.ids.length ∧ s.ErrorsInTime command turn) := by
  obtain ⟨waiting, queued, underway⟩ := underway
  cases turn with
  | call => exact ⟨(underway_call underway).1, (underway_call underway).2.trans (and_iff_left trivial).symm⟩
  | answer err hwId => exact underway_answer underway err hwId
  | meanwhile adapter =>
    have same : (s.step (.meanwhile adapter)).tally own = s.tally own := by
      rw [tally, tally, ← undisturbed.1]
      rfl
    obtain ⟨requests, calls, pending, serves⟩ := underway
    refine ⟨⟨waiting, queued, requests, calls, same ▸ pending, undisturbed.2, serves.addressed⟩, ?_⟩
    rw [same]
    exact (and_iff_left trivial).symm

theorem run_eq_forEachItem (client : Client) (arrays : command.HasArrays) :
    ∃ (α : Type) (elements : List α) (response : Item Client → α → GeofenceResponse Client),
      command.run client = forEachItem client command.ids elements response ∧
        elements.length = command.ids.length ∧ ∀ item element, (response item element).IsCall command.adds item := by
  cases command with
  | addGeofences geofences =>
    exact ⟨_, geofences, fun item geofence => .add item geofence.1 geofence.2.1 geofence.2.2, rfl,
      List.length_map _ |>.symm, fun _ _ => ⟨rfl, rfl⟩⟩
  | removeGeofences ids => exact ⟨_, ids, .remove, rfl, rfl, fun _ _ => ⟨rfl, rfl⟩⟩
  | pauseGeofences ids => exact ⟨_, ids, .pause, rfl, rfl, fun _ _ => ⟨rfl, rfl⟩⟩
  | resumeGeofences ids => exact ⟨_, ids, .resume, rfl, rfl, fun _ _ => ⟨rfl, rfl⟩⟩
  | modifyGeofences geofences =>
    exact ⟨_, geofences, fun item geofence => .modify item geofence.1 geofence.2, rfl, List.length_map _ |>.symm,
      fun _ _ => ⟨rfl, rfl⟩⟩
  | withoutArrays ids => exact arrays.elim

variable {a : GeofenceAdapter Client}

/-- At first all calls are queued, in order. -/
theorem underway_start (arrays : command.HasArrays) (items : command.ids ≠ [])
    (registered : a.collectiveResponseCb client) :
    (start client command a).Underway client a.errs.length command.ids command.adds []
      (List.range command.ids.length) := by
  obtain ⟨α, elements, response, run, length, calls⟩ := run_eq_forEachItem client arrays
  have nonempty : elements ≠ [] := by
    rw [← List.length_pos_iff, length]
    exact List.length_pos_iff.mpr items
  have asked : asked (command.run client) a = _ := run ▸ asked_forEachItem client command.ids elements response
  have next : (command.run client).next a = _ := run ▸ next_forEachItem client command.ids response nonempty
  have quiet : reported (command.run client) a = [] := run ▸ reported_forEachItem client command.ids response
  have none (i : ℕ) : command.resultsAtFirst i = none := by
    cases command with
    | withoutArrays ids => exact arrays.elim
    | _ => rfl
  have adapter : (start client command a).adapter =
      { a with errs := a.errs ++ [List.replicate elements.length Option.none] } := next
  have tally : (start client command a).tally a.errs.length =
      ⟨List.replicate command.ids.length Option.none, command.resultsAtFirst, []⟩ := by
    have reports : (start client command a).reports = [] := quiet
    rw [CommandRun.tally, reports, adapter, length, List.getD_eq_getElem?_getD, List.getElem?_concat_length]
    rfl
  refine ⟨.nil, ?_, ?_, ?_⟩
  · have queued : (start client command a).calls =
        elements.zipIdx.map fun element => response ⟨client, a.errs.length, command.ids, element.2⟩ element.1 := by
      apply (congrArg (List.map Prod.snd) asked).trans
      rw [List.map_map]
      rfl
    have indices : List.range command.ids.length = elements.zipIdx.map Prod.snd := by
      rw [← length, List.range_eq_range', List.zipIdx_map_snd]
    rw [queued, indices, List.forall₂_map_left_iff, List.forall₂_map_right_iff, List.forall₂_same]
    exact fun element _ => calls _ element.1
  · rw [tally]
    apply Tally.Pending.start ⟨List.length_replicate, fun i known => absurd (none i) known, .inl rfl⟩ none
  · refine ⟨?_, fun report member => ?_⟩
    · rw [adapter]
      exact registered
    · change report ∈ reported (command.run client) a at member
      rw [quiet] at member
      exact absurd member List.not_mem_nil

end Underway

section Runs

variable (client : Client) (command : GeofenceCommand) (a : GeofenceAdapter Client)

/-- Without its arrays a command is never answered. -/
theorem not_answered_withoutArrays (ids : List UInt32) (turns : List (CommandTurn Client)) :
    (turns.foldl step (start client (.withoutArrays ids) a)).reports = [] := by
  have nothing : (Geofence.withoutArrays client ids).emitted a = [] := emitted_withoutArrays client ids
  have idle : Throughout step (fun s : CommandRun Client => s.calls = [] ∧ s.requests = [] ∧ s.reports = [])
      (start client (.withoutArrays ids) a) turns := by
    refine throughout_of_eachStep (C := fun _ _ => True) ?_ ?_ fun _ _ _ => trivial
    · rw [start, GeofenceCommand.run, nothing]
      exact ⟨rfl, rfl, rfl⟩
    · rintro s turn ⟨calls, requests, reports⟩ -
      cases turn with
      | call =>
        rw [step, calls]
        exact ⟨calls, requests, reports⟩
      | answer =>
        rw [step, requests]
        exact ⟨calls, requests, reports⟩
      | meanwhile => exact ⟨calls, requests, reports⟩
  exact (idle turns List.prefix_rfl).2.2

variable {client command a} {s : CommandRun Client} {own : ℕ} {adds : Bool} {waiting queued : List ℕ}

/-- When a command is finished, its tally is right exactly when it is answered. -/
theorem answered_iff_right (underway : s.Underway client own command.ids adds waiting queued) (finished : s.Finished)
    (items : command.ids ≠ []) : s.Answered client command ↔ (s.tally own).Right command.ids.length := by
  obtain ⟨requests, calls, pending, serves⟩ := underway
  rw [finished.2, List.forall₂_nil_left_iff] at requests
  rw [finished.1, List.forall₂_nil_left_iff] at calls
  have positive := List.length_pos_iff.mpr items
  have complete (i : ℕ) (inside : i < command.ids.length) : (s.tally own).results i ≠ none := by
    intro unknown
    have member := (pending.unknown i).mpr ⟨inside, unknown⟩
    rw [requests, calls] at member
    exact List.not_mem_nil member
  rw [Tally.right_iff_sent pending.sound positive.ne' complete, Answered, tally]
  constructor
  · intro answered
    rw [answered]
    rfl
  · intro sent
    obtain ⟨⟨addressee, errs, ids⟩, same, rfl⟩ := List.map_eq_singleton_iff.mp sent
    obtain ⟨sameClient, sameIds⟩ := serves.addressed _ (same ▸ List.mem_singleton_self _)
    rw [same, ← sameClient, ← sameIds]

/-- A finished command is answered once with all results exactly when it has its arrays and no error is lost. -/
theorem answered_iff (client : Client) (command : GeofenceCommand) (a : GeofenceAdapter Client)
    (turns : List (CommandTurn Client)) (items : command.ids ≠ []) (registered : a.collectiveResponseCb client)
    (undisturbed : EachStep step (Undisturbed client a.errs.length) (start client command a) turns)
    (finished : (turns.foldl step (start client command a)).Finished) :
    (turns.foldl step (start client command a)).Answered client command ↔
      command.HasArrays ∧ EachStep step (ErrorsInTime command) (start client command a) turns := by
  by_cases arrays : command.HasArrays
  · have start := underway_start arrays items registered
    have kept : ∀ s turn, (∃ waiting queued, Underway client a.errs.length command.ids command.adds waiting queued s) →
        s.Undisturbed client a.errs.length turn →
        ∃ waiting queued, Underway client a.errs.length command.ids command.adds waiting queued (s.step turn) :=
      fun s turn underway undisturbed => (underway_step underway turn undisturbed).1
    obtain ⟨waiting, queued, underway⟩ := throughout_of_eachStep ⟨_, _, start⟩ kept undisturbed turns List.prefix_rfl
    rw [answered_iff_right underway finished items, and_iff_right arrays]
    exact final_iff_eachStep_of (P := fun s => (s.tally a.errs.length).Right command.ids.length) undisturbed
      ⟨_, _, start⟩ kept start.pending.right_start
      fun s turn underway undisturbed => (underway_step underway turn undisturbed).2
  · apply iff_of_false ?_ fun both => arrays both.1
    cases command with
    | withoutArrays ids =>
      rw [Answered, not_answered_withoutArrays]
      exact (List.cons_ne_nil _ _).symm
    | _ => exact absurd trivial arrays

/-- Geofence 7 of client 0 with the hardware identifier 3. -/
def oneGeofence : GeofenceAdapter ℕ :=
  ⟨.empty, SortedMap.empty.insert ⟨0, 7⟩ 3, fun _ => true, []⟩

/-- An error for a geofence that is removed, and an identifier that is unknown after it. -/
theorem answered_iff_remove :
    let turns := [.call, .answer .generalFailure 0, .call]
    let s := start 0 (.removeGeofences [7, 9]) oneGeofence
    (turns.foldl step s).Answered 0 (.removeGeofences [7, 9]) ↔
      (GeofenceCommand.removeGeofences [7, 9]).HasArrays ∧
        EachStep step (ErrorsInTime (.removeGeofences [7, 9])) s turns :=
  answered_iff 0 (.removeGeofences [7, 9]) oneGeofence [.call, .answer .generalFailure 0, .call]
    (List.cons_ne_nil _ _) rfl (eachStep_cons trivial (eachStep_cons trivial (eachStep_cons trivial eachStep_nil)))
    ⟨rfl, rfl⟩

/-- A geofence that the modem does not resume: nothing is answered. -/
theorem resume_error_not_answered : ¬ ∀ (command : GeofenceCommand) (a : GeofenceAdapter ℕ) turns,
    command.ids ≠ [] → a.collectiveResponseCb 0 = true →
      EachStep step (Undisturbed 0 a.errs.length) (start 0 command a) turns →
        (turns.foldl step (start 0 command a)).Finished →
          (turns.foldl step (start 0 command a)).Answered 0 command := by
  intro always
  have answered := always (.resumeGeofences [7]) oneGeofence [.call, .answer .generalFailure 0]
    (List.cons_ne_nil _ _) rfl (eachStep_cons trivial (eachStep_cons trivial eachStep_nil)) ⟨rfl, rfl⟩
  rw [Answered] at answered
  exact absurd answered (by decide)

end Runs

end CommandRun

end Cypfr.Geofence
