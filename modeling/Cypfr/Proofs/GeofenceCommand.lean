import Cypfr.Machine.Tally
import Cypfr.Model.GeofenceCommand
import Cypfr.Proofs.Geofence

/-! # How the responses of a command are collected

Each function of a command enters at most one error for its geofence, and sends the errors at most once, if its
geofence is the last.
-/

namespace Cypfr.Geofence

open Tracking ClientBase Machine

section Programs

variable {Client : Type} [LinearOrder Client] {a : GeofenceAdapter Client}

/-- The error that a function enters, and for which geofence. -/
def GeofenceResponse.enters (a : GeofenceAdapter Client) (err : LocationError) :
    GeofenceResponse Client → Option (Item Client × LocationError)
  | .remove item id => some (item, if a.mGeofenceIds.contains ⟨item.client, id⟩ then .success else .idUnknown)
  | .pause item id => some (item, if a.mGeofenceIds.contains ⟨item.client, id⟩ then .success else .idUnknown)
  | .resume item id => some (item, if a.mGeofenceIds.contains ⟨item.client, id⟩ then .success else .idUnknown)
  | .modify item id _ => some (item, if a.mGeofenceIds.contains ⟨item.client, id⟩ then .success else .idUnknown)
  | .added item _ _ _ => some (item, err)
  | .removed item _ => some (item, err)
  | .paused item _ => some (item, err)
  | .resumed item _ => if err = .success then some (item, err) else none
  | .modified item _ _ => if err = .success then some (item, err) else none
  | _ => none

/-- The geofence that is done with a function. -/
def GeofenceResponse.closes (a : GeofenceAdapter Client) (err : LocationError) :
    GeofenceResponse Client → Option (Item Client)
  | .remove item id => if a.mGeofenceIds.contains ⟨item.client, id⟩ then none else some item
  | .pause item id => if a.mGeofenceIds.contains ⟨item.client, id⟩ then none else some item
  | .resume item id => if a.mGeofenceIds.contains ⟨item.client, id⟩ then none else some item
  | .modify item id _ => if a.mGeofenceIds.contains ⟨item.client, id⟩ then none else some item
  | .added item _ _ _ => some item
  | .removed item _ => some item
  | .paused item _ => some item
  | .resumed item _ => if err = .success then some item else none
  | .modified item _ _ => some item
  | _ => none

/-- The arrays of errors and the clients with a callback. -/
structure Replies (Client : Type) where
  errs : List (List (Option LocationError))
  collectiveResponseCb : Client → Bool

/-- With an error entered, if there is one. -/
def Replies.enter (replies : Replies Client) : Option (Item Client × LocationError) → Replies Client
  | none => replies
  | some (item, err) =>
    { replies with errs := replies.errs.modify item.errs fun errs => errs.set item.i (some err) }

/-- The report on a geofence that is done: all errors, if it is the last. -/
def Replies.report (replies : Replies Client) (item : Item Client) :
    List (Client × List (Option LocationError) × List UInt32) :=
  if item.i + 1 = item.ids.length ∧ replies.collectiveResponseCb item.client then
    [(item.client, replies.errs.getD item.errs [], item.ids)]
  else []

def GeofenceAdapter.replies (a : GeofenceAdapter Client) : Replies Client := ⟨a.errs, a.collectiveResponseCb⟩

@[simp] theorem replies_setErr (item : Item Client) (err : LocationError) :
    ((setErr item err).next a).replies = a.replies.enter (some (item, err)) := rfl

theorem replies_removeGeofenceItem (hwId : UInt32) : ((removeGeofenceItem hwId).next a).replies = a.replies := by
  rw [removeGeofenceItem, Emit.next_get_bind]
  cases a.mGeofences.find? hwId with
  | none => rfl
  | some object =>
    rw [Emit.next_ite]
    split_ifs <;> rfl

/-- What a program reports to clients. -/
def reported (p : AdapterM Client Unit) (a : GeofenceAdapter Client) :
    List (Client × List (Option LocationError) × List UInt32) :=
  (p.emitted a).filterMap GeofenceOutput.reported

@[simp] theorem reported_pure : reported (pure ()) a = [] := rfl

@[simp] theorem reported_request (sent : GeofenceRequest) (response : GeofenceResponse Client) :
    reported (request sent response) a = [] := rfl

@[simp] theorem reported_bind (p : AdapterM Client Unit) (f : Unit → AdapterM Client Unit) :
    reported (p >>= f) a = reported p a ++ reported (f ()) (p.next a) := List.filterMap_append

@[simp] theorem reported_get_bind (g : GeofenceAdapter Client → AdapterM Client Unit) :
    reported (Emit.get >>= g) a = reported (g a) a := rfl

@[simp] theorem reported_ite (c : Prop) [Decidable c] (p q : AdapterM Client Unit) :
    reported (if c then p else q) a = if c then reported p a else reported q a := by
  split <;> rfl

@[simp] theorem reported_setErr (item : Item Client) (err : LocationError) : reported (setErr item err) a = [] := rfl

@[simp] theorem reported_reportLast (item : Item Client) : reported (reportLast item) a = a.replies.report item := by
  rw [reportLast, reported_get_bind, reported_ite, reportResponse, reported_get_bind, reported_ite, Replies.report,
    ite_and]
  rfl

@[simp] theorem reported_saveGeofenceItem (client : Client) (id hwId : UInt32) (options : GeofenceOption)
    (info : GeofenceInfo) : reported (saveGeofenceItem client id hwId options info) a = [] := rfl

@[simp] theorem reported_removeGeofenceItem (hwId : UInt32) : reported (removeGeofenceItem hwId) a = [] := by
  rw [removeGeofenceItem, reported_get_bind]
  cases a.mGeofences.find? hwId with
  | none => rfl
  | some object =>
    rw [reported_ite]
    exact ite_self _

@[simp] theorem reported_changeGeofence (hwId : UInt32) (change : GeofenceObject Client → GeofenceObject Client) :
    reported (changeGeofence hwId change) a = [] := rfl

theorem contains_of_find? {key : GeofenceKey Client} {found : Option UInt32}
    (known : a.mGeofenceIds.find? key = found) : a.mGeofenceIds.contains key = found.isSome :=
  congrArg Option.isSome known

theorem replies_withHwId (item : Item Client) (id : UInt32) {ask : UInt32 → AdapterM Client Unit}
    (asks : ∀ hwId a, (ask hwId).next a = a) : ((withHwId item id ask).next a).replies = a.replies.enter
      (some (item, if a.mGeofenceIds.contains ⟨item.client, id⟩ then .success else .idUnknown)) := by
  simp only [withHwId, getHwIdFromClient, Emit.next_bind, Emit.result_get_bind, Emit.result_pure, Emit.next_pure]
  cases known : a.mGeofenceIds.find? ⟨item.client, id⟩ with
  | none => simp [contains_of_find? known]
  | some hwId => simp [asks, contains_of_find? known]

theorem reported_getHwIdFromClient_bind (client : Client) (id : UInt32) (f : Option UInt32 → AdapterM Client Unit) :
    reported (getHwIdFromClient client id >>= f) a = reported (f (a.mGeofenceIds.find? ⟨client, id⟩)) a := rfl

theorem reported_withHwId (item : Item Client) (id : UInt32) (sent : UInt32 → GeofenceRequest)
    (response : UInt32 → GeofenceResponse Client) :
    reported (withHwId item id fun hwId => request (sent hwId) (response hwId)) a =
      if a.mGeofenceIds.contains ⟨item.client, id⟩ then []
      else (a.replies.enter (some (item, .idUnknown))).report item := by
  rw [withHwId, reported_getHwIdFromClient_bind]
  cases known : a.mGeofenceIds.find? ⟨item.client, id⟩ with
  | none => simp [contains_of_find? known]
  | some hwId => simp [contains_of_find? known]

theorem replies_proc (response : GeofenceResponse Client) (err : LocationError) (hwId : UInt32) :
    ((response.proc err hwId).next a).replies = a.replies.enter (response.enters a err) := by
  cases response with
  | add | ignore => rfl
  | remove | pause | resume | modify => exact replies_withHwId _ _ fun _ _ => rfl
  | added | paused =>
    simp only [GeofenceResponse.proc, Emit.next_bind, Emit.next_ite, next_reportLast]
    split_ifs <;> rfl
  | removed item hwId =>
    simp only [GeofenceResponse.proc, Emit.next_bind, Emit.next_ite, next_reportLast]
    split_ifs
    · rw [replies_setErr, replies_removeGeofenceItem]
      rfl
    · rfl
  | resumed | modified =>
    simp only [GeofenceResponse.proc, GeofenceResponse.enters, Emit.next_bind, Emit.next_ite, Emit.next_pure,
      next_reportLast]
    split_ifs <;> rfl
  | clientRemoved hwId =>
    simp only [GeofenceResponse.proc, Emit.next_ite]
    split_ifs <;> rfl
  | readded object =>
    simp only [GeofenceResponse.proc, Emit.next_bind, Emit.next_ite, Emit.next_pure, next_request, ite_self]
    split_ifs <;> rfl

theorem reported_proc (response : GeofenceResponse Client) (err : LocationError) (hwId : UInt32) :
    reported (response.proc err hwId) a =
      (response.closes a err).elim [] (a.replies.enter (response.enters a err)).report := by
  cases response with
  | add | ignore => rfl
  | remove item id | pause item id | resume item id | modify item id =>
    apply (reported_withHwId ..).trans
    rw [GeofenceResponse.closes, GeofenceResponse.enters]
    split_ifs <;> rfl
  | added item id options info =>
    simp only [GeofenceResponse.proc, reported_bind, reported_ite, reported_setErr, reported_reportLast,
      reported_saveGeofenceItem]
    split_ifs <;> rfl
  | removed item hwId =>
    simp only [GeofenceResponse.proc, reported_bind, reported_ite, reported_setErr, reported_reportLast,
      reported_removeGeofenceItem, replies_setErr]
    split_ifs
    · rw [replies_removeGeofenceItem]
      rfl
    · rfl
  | paused item hwId =>
    simp only [GeofenceResponse.proc, pauseGeofenceItem, reported_bind, reported_ite, reported_setErr,
      reported_reportLast, reported_changeGeofence]
    split_ifs <;> rfl
  | resumed item hwId =>
    simp only [GeofenceResponse.proc, resumeGeofenceItem, reported_bind, reported_ite, reported_setErr,
      reported_reportLast, reported_changeGeofence, reported_pure, GeofenceResponse.closes, GeofenceResponse.enters]
    split_ifs <;> rfl
  | modified item hwId options =>
    simp only [GeofenceResponse.proc, modifyGeofenceItem, reported_bind, reported_ite, reported_setErr,
      reported_reportLast, reported_changeGeofence, GeofenceResponse.enters]
    split_ifs <;> rfl
  | clientRemoved hwId =>
    rw [GeofenceResponse.proc, reported_ite]
    exact ite_self _
  | readded object => simp [GeofenceResponse.proc, GeofenceResponse.closes]

section Commands

variable {α : Type} (client : Client) (ids : List UInt32) {elements : List α}
  (response : Item Client → α → GeofenceResponse Client)

/-- A command allocates its errors and reports nothing yet. -/
theorem next_forEachItem (some : elements ≠ []) : (forEachItem client ids elements response).next a =
    { a with errs := a.errs ++ [List.replicate elements.length none] } := by
  rw [forEachItem, if_neg (mt List.isEmpty_iff.mp some), Emit.next_bind, next_requests]
  rfl

theorem reported_forEachItem : reported (forEachItem client ids elements response) a = [] := by
  rw [forEachItem, reported_ite]
  split_ifs
  · rfl
  · apply List.filterMap_eq_nil_iff.mpr
    intro output emitted
    rw [Emit.emitted_bind, Emit.emitted_forM _
      (fun element => [.request .callQueue (response ⟨client, a.errs.length, ids, element.2⟩ element.1)])
      fun _ _ => rfl] at emitted
    obtain ⟨element, -, member⟩ := List.mem_flatMap.mp emitted
    cases List.mem_singleton.mp member
    rfl

/-- Without its arrays a command queues nothing and reports nothing. -/
theorem emitted_withoutArrays : (withoutArrays client ids).emitted a = [] := by
  rw [withoutArrays, Emit.emitted_ite]
  split_ifs
  · rfl
  · rw [Emit.emitted_bind, Emit.emitted_forM _ (fun _ => []) fun _ _ => rfl, List.flatMap_eq_nil_iff.mpr fun _ _ => rfl]
    rfl

end Commands

end Programs

section Functions

variable {Client : Type} [LinearOrder Client] {a : GeofenceAdapter Client} {adds : Bool} {item : Item Client}
  {response : GeofenceResponse Client}

/-- The function of a call that a command queued for a geofence. -/
def GeofenceResponse.IsCall (adds : Bool) (item : Item Client) : GeofenceResponse Client → Prop
  | .add own _ _ _ => adds = true ∧ own = item
  | .remove own _ => adds = false ∧ own = item
  | .pause own _ => adds = false ∧ own = item
  | .resume own _ => adds = false ∧ own = item
  | .modify own _ _ => adds = false ∧ own = item
  | _ => False

/-- The function of a request for a geofence of a command. -/
def GeofenceResponse.IsRequest (adds : Bool) (item : Item Client) : GeofenceResponse Client → Prop
  | .added own _ _ _ => adds = true ∧ own = item
  | .removed own _ => adds = false ∧ own = item
  | .paused own _ => adds = false ∧ own = item
  | .resumed own _ => adds = false ∧ own = item
  | .modified own _ _ => adds = false ∧ own = item
  | _ => False

/-- Errors are entered too, not only success. -/
def GeofenceResponse.EntersErrors : GeofenceResponse Client → Prop
  | .resumed .. => False
  | .modified .. => False
  | _ => True

/-- A function that goes on to a request. -/
structure GeofenceResponse.GoesOn (response : GeofenceResponse Client) (a : GeofenceAdapter Client)
    (err : LocationError) (hwId : UInt32) (adds : Bool) (item : Item Client) : Prop where
  asks : ∃ sent follow, GeofenceResponse.IsRequest adds item follow ∧ response.asks a err hwId = [(sent, follow)]
  enters : response.enters a err = if adds then none else some (item, .success)
  closes : response.closes a err = none
  result : response.result? a err = none

/-- A function after which the result of a geofence is known. -/
structure GeofenceResponse.Ends (response : GeofenceResponse Client) (a : GeofenceAdapter Client)
    (err : LocationError) (hwId : UInt32) (item : Item Client) (entry : Option LocationError) (result : LocationError) :
    Prop where
  asks : response.asks a err hwId = []
  enters : response.enters a err = entry.map fun err => (item, err)
  closes : response.closes a err = some item ∨ entry = none ∧ response.closes a err = none
  result : response.result? a err = some (item.i, result)

/-- A call makes a request, or finds that the identifier is unknown. -/
theorem GeofenceResponse.IsCall.cases (call : response.IsCall adds item) (err : LocationError) (hwId : UInt32) :
    response.GoesOn a err hwId adds item ∨
      adds = false ∧ response.Ends a err hwId item (some .idUnknown) .idUnknown := by
  cases response with
  | add own id options info =>
    obtain ⟨rfl, rfl⟩ := call
    exact .inl ⟨⟨_, .added own id options info, ⟨rfl, rfl⟩, rfl⟩, rfl, rfl, rfl⟩
  | remove own id | pause own id | resume own id | modify own id =>
    obtain ⟨rfl, rfl⟩ := call
    cases known : a.mGeofenceIds.find? ⟨own.client, id⟩ with
    | some hwId =>
      refine .inl ⟨?_, ?_, ?_, ?_⟩
      · simp [asks, known, IsRequest]
      · simp [enters, contains_of_find? known]
      · simp [closes, contains_of_find? known]
      · simp [result?, contains_of_find? known]
    | none =>
      refine .inr ⟨rfl, ?_, ?_, .inl ?_, ?_⟩
      · simp [asks, known]
      · simp [enters, contains_of_find? known]
      · simp [closes, contains_of_find? known]
      · simp [result?, contains_of_find? known]
  | _ => exact call.elim

/-- An answer that says success or whose function enters errors is entered. -/
theorem GeofenceResponse.IsRequest.ends (request : response.IsRequest adds item) {err : LocationError} (hwId : UInt32)
    (entered : err ≠ .success → response.EntersErrors) : response.Ends a err hwId item (some err) err := by
  cases response with
  | added | removed | paused =>
    obtain ⟨rfl, rfl⟩ := request
    exact ⟨rfl, rfl, .inl rfl, rfl⟩
  | resumed =>
    obtain ⟨rfl, rfl⟩ := request
    have success : err = .success := not_not.mp entered
    exact ⟨rfl, if_pos success, .inl (if_pos success), rfl⟩
  | modified =>
    obtain ⟨rfl, rfl⟩ := request
    have success : err = .success := not_not.mp entered
    exact ⟨rfl, if_pos success, .inl rfl, rfl⟩
  | _ => exact request.elim

/-- Any other answer is lost. -/
theorem GeofenceResponse.IsRequest.lost (request : response.IsRequest adds item) {err : LocationError} (hwId : UInt32)
    (error : err ≠ .success) (lost : ¬ response.EntersErrors) :
    adds = false ∧ response.Ends a err hwId item none err := by
  cases response with
  | resumed =>
    obtain ⟨rfl, rfl⟩ := request
    exact ⟨rfl, rfl, if_neg error, .inr ⟨rfl, if_neg error⟩, rfl⟩
  | modified =>
    obtain ⟨rfl, rfl⟩ := request
    exact ⟨rfl, rfl, if_neg error, .inl rfl, rfl⟩
  | added | removed | paused => exact absurd trivial lost
  | _ => exact request.elim

end Functions

namespace CommandRun

variable {Client : Type} [LinearOrder Client] {s : CommandRun Client} {client : Client} {own i : ℕ} {ids : List UInt32}
  {adds : Bool} {response : GeofenceResponse Client} {err result : LocationError} {hwId : UInt32}

/-- The errors of a command as a tally of its results. -/
def tally (own : ℕ) (s : CommandRun Client) : Tally LocationError :=
  ⟨s.adapter.errs.getD own [], s.results, s.reports.map fun report => report.2.1⟩

theorem requests_proceed : (s.proceed response err hwId).requests =
    s.requests ++ (response.asks s.adapter err hwId).map Prod.snd := by
  rw [← asked_proc]
  rfl

theorem replies_proceed : (s.proceed response err hwId).adapter.replies =
    s.adapter.replies.enter (response.enters s.adapter err) :=
  replies_proc response err hwId

theorem reports_proceed : (s.proceed response err hwId).reports = s.reports ++
    (response.closes s.adapter err).elim [] (s.adapter.replies.enter (response.enters s.adapter err)).report :=
  congrArg (s.reports ++ ·) (reported_proc response err hwId)

omit [LinearOrder Client] in
theorem errs_enter (replies : Replies Client) (err : LocationError) :
    (replies.enter (some (⟨client, own, ids, i⟩, err))).errs.getD own [] =
      (replies.errs.getD own []).set i (some err) := by
  simp only [Replies.enter, List.getD_eq_getElem?_getD, List.getElem?_modify, if_true]
  cases replies.errs[own]? <;> rfl

theorem registered_proceed : (s.proceed response err hwId).adapter.collectiveResponseCb =
    s.adapter.collectiveResponseCb := by
  apply (congrArg Replies.collectiveResponseCb replies_proceed).trans
  cases response.enters s.adapter err <;> rfl

/-- What is entered and sent by a function whose result is known. -/
theorem tally_proceed : (s.proceed response err hwId).tally own =
    ⟨(s.adapter.replies.enter (response.enters s.adapter err)).errs.getD own [],
      match response.result? s.adapter err with
      | some (i, result) => Function.update s.results i (some result)
      | none => s.results,
      (s.reports ++ (response.closes s.adapter err).elim []
        (s.adapter.replies.enter (response.enters s.adapter err)).report).map fun report => report.2.1⟩ := by
  rw [tally, reports_proceed, ← replies_proceed]
  rfl

theorem tally_goesOn (goes : response.GoesOn s.adapter err hwId adds ⟨client, own, ids, i⟩) :
    (s.proceed response err hwId).tally own =
      if adds then s.tally own else (s.tally own).mark i .success := by
  rw [tally_proceed, goes.closes, goes.result, goes.enters, Option.elim_none, List.append_nil]
  split_ifs
  · rfl
  · rw [errs_enter]
    rfl

/-- A geofence of which the errors are sent when it is done. -/
theorem tally_report {replies : Replies Client} (registered : replies.collectiveResponseCb client) :
    (s.reports ++ replies.report ⟨client, own, ids, i⟩).map (fun report => report.2.1) =
      if i + 1 = ids.length then s.reports.map (fun report => report.2.1) ++ [replies.errs.getD own []]
      else s.reports.map fun report => report.2.1 := by
  rw [Replies.report]
  split_ifs with both last last
  · rw [List.map_append]
    rfl
  · exact absurd both.1 last
  · exact absurd ⟨last, registered⟩ both
  · rw [List.append_nil]

theorem tally_ends (ends : response.Ends s.adapter err hwId ⟨client, own, ids, i⟩ (some result) result)
    (registered : s.adapter.collectiveResponseCb client) : (s.proceed response err hwId).tally own =
      (((s.tally own).mark i result).settle i result).close ids.length i := by
  have done := ends.closes.resolve_right fun none => Option.some_ne_none result none.1
  rw [tally_proceed, done, ends.result, ends.enters, Option.map_some, Option.elim_some, tally_report, errs_enter,
    Tally.close]
  · split_ifs <;> rfl
  · exact registered

/-- The result is lost, whether or not the errors are sent. -/
theorem tally_lost (ends : response.Ends s.adapter err hwId ⟨client, own, ids, i⟩ none result)
    (registered : s.adapter.collectiveResponseCb client) :
    (s.proceed response err hwId).tally own = ((s.tally own).settle i result).close ids.length i ∨
      (s.proceed response err hwId).tally own = (s.tally own).settle i result := by
  rw [tally_proceed, ends.result, ends.enters, Option.map_none]
  rcases ends.closes with done | ⟨-, open_⟩
  · rw [done, Option.elim_some, tally_report, Tally.close]
    · refine .inl ?_
      split_ifs <;> rfl
    · exact registered
  · rw [open_, Option.elim_none, List.append_nil]
    exact .inr rfl

end CommandRun

end Cypfr.Geofence
