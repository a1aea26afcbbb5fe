import Cypfr.Model.GeofenceModem

/-! # What the geofence functions do

Each response changes the two tables in one of five ways and asks at most one thing; a command only queues calls.
-/

namespace Cypfr.Geofence

open Tracking ClientBase

/-- What a response changes in the tables. -/
inductive TableChange (Client : Type) where
  | keep
  | save (object : GeofenceObject Client) (hwId : UInt32)
  | remove (hwId : UInt32)
  | alter (hwId : UInt32) (change : GeofenceObject Client → GeofenceObject Client)
  | drop (hwId : UInt32)

/-- The object that is saved for a geofence. -/
def newObject {Client : Type} (key : GeofenceKey Client) (options : GeofenceOption) (info : GeofenceInfo) :
    GeofenceObject Client :=
  { key, breachMask := options.breachTypeMask, responsiveness := options.responsiveness, dwellTime := options.dwellTime,
    latitude := info.latitude, longitude := info.longitude, radius := info.radius, paused := false }

/-- The two tables of an adapter. -/
structure Tables (Client : Type) [LinearOrder Client] where
  geofences : SortedMap UInt32 (GeofenceObject Client)
  ids : SortedMap (GeofenceKey Client) UInt32

section Changes

variable {Client : Type} [LinearOrder Client]

def GeofenceAdapter.tables (a : GeofenceAdapter Client) : Tables Client := ⟨a.mGeofences, a.mGeofenceIds⟩

def TableChange.apply (t : Tables Client) : TableChange Client → Tables Client
  | keep => t
  | save object hwId => ⟨t.geofences.insert hwId object, t.ids.insert object.key hwId⟩
  | remove hwId =>
    match t.geofences.find? hwId with
    | some object => if t.ids.contains object.key then ⟨t.geofences.erase hwId, t.ids.erase object.key⟩ else t
    | none => t
  | alter hwId change =>
    match t.geofences.find? hwId with
    | some object => { t with geofences := t.geofences.insert hwId (change object) }
    | none => t
  | drop hwId => { t with geofences := t.geofences.erase hwId }

/-- The change of a response that says success. -/
def GeofenceResponse.change (hwId : UInt32) : GeofenceResponse Client → TableChange Client
  | .added item id options info => .save (newObject ⟨item.client, id⟩ options info) hwId
  | .removed _ hwId => .remove hwId
  | .paused _ hwId => .alter hwId fun o => { o with paused := true }
  | .resumed _ hwId => .alter hwId fun o => { o with paused := false }
  | .modified _ hwId options => .alter hwId fun o =>
    { o with breachMask := options.breachTypeMask, responsiveness := options.responsiveness, dwellTime := options.dwellTime }
  | .clientRemoved hwId => .drop hwId
  | .readded object => .save { object with paused := false } hwId
  | _ => .keep

/-- What a response asks the modem. -/
def GeofenceResponse.asks (a : GeofenceAdapter Client) (err : LocationError) (hwId : UInt32) :
    GeofenceResponse Client → List (GeofenceRequest × GeofenceResponse Client)
  | .add item id options info => [(.addGeofence id options info, .added item id options info)]
  | .remove item id =>
    ((a.mGeofenceIds.find? ⟨item.client, id⟩).map fun hwId => (.removeGeofence hwId id, .removed item hwId)).toList
  | .pause item id =>
    ((a.mGeofenceIds.find? ⟨item.client, id⟩).map fun hwId => (.pauseGeofence hwId id, .paused item hwId)).toList
  | .resume item id =>
    ((a.mGeofenceIds.find? ⟨item.client, id⟩).map fun hwId => (.resumeGeofence hwId id, .resumed item hwId)).toList
  | .modify item id options =>
    ((a.mGeofenceIds.find? ⟨item.client, id⟩).map fun hwId =>
      (.modifyGeofence hwId id options, .modified item hwId options)).toList
  | .readded object => if err = .success ∧ object.paused then [(.pauseGeofence hwId object.key.id, .ignore)] else []
  | _ => []

end Changes

section Programs

variable {Client : Type} [LinearOrder Client] {a : GeofenceAdapter Client}

/-- What a program asks the modem. -/
def asked (p : AdapterM Client Unit) (a : GeofenceAdapter Client) : List (GeofenceRequest × GeofenceResponse Client) :=
  (p.emitted a).filterMap GeofenceOutput.asked

@[simp] theorem asked_pure : asked (pure ()) a = [] := rfl

@[simp] theorem asked_modify (f : GeofenceAdapter Client → GeofenceAdapter Client) : asked (Emit.modify f) a = [] := rfl

@[simp] theorem asked_request (sent : GeofenceRequest) (response : GeofenceResponse Client) :
    asked (request sent response) a = [(sent, response)] := rfl

@[simp] theorem asked_bind (p : AdapterM Client Unit) (f : Unit → AdapterM Client Unit) :
    asked (p >>= f) a = asked p a ++ asked (f ()) (p.next a) := List.filterMap_append

@[simp] theorem asked_get_bind (g : GeofenceAdapter Client → AdapterM Client Unit) :
    asked (Emit.get >>= g) a = asked (g a) a := rfl

@[simp] theorem asked_ite (c : Prop) [Decidable c] (p q : AdapterM Client Unit) :
    asked (if c then p else q) a = if c then asked p a else asked q a := by
  split <;> rfl

@[simp] theorem asked_setErr (item : Item Client) (err : LocationError) : asked (setErr item err) a = [] := rfl

@[simp] theorem tables_setErr (item : Item Client) (err : LocationError) :
    ((setErr item err).next a).tables = a.tables := rfl

@[simp] theorem ids_setErr (item : Item Client) (err : LocationError) :
    ((setErr item err).next a).mGeofenceIds = a.mGeofenceIds := rfl

@[simp] theorem next_request (sent : GeofenceRequest) (response : GeofenceResponse Client) :
    (request sent response).next a = a := rfl

@[simp] theorem next_reportResponse (client : Client) (errs : List (Option LocationError)) (ids : List UInt32) :
    (reportResponse client errs ids).next a = a := by
  simp [reportResponse]

@[simp] theorem asked_reportResponse (client : Client) (errs : List (Option LocationError)) (ids : List UInt32) :
    asked (reportResponse client errs ids) a = [] := by
  rw [reportResponse, asked_get_bind, asked_ite]
  split <;> rfl

@[simp] theorem next_reportLast (item : Item Client) : (reportLast item).next a = a := by
  simp [reportLast]

@[simp] theorem asked_reportLast (item : Item Client) : asked (reportLast item) a = [] := by
  simp [reportLast]

theorem tables_withHwId (item : Item Client) (id : UInt32) {ask : UInt32 → AdapterM Client Unit}
    (asks : ∀ hwId a, ((ask hwId).next a) = a) : ((withHwId item id ask).next a).tables = a.tables := by
  simp only [withHwId, getHwIdFromClient, Emit.next_bind, Emit.result_get_bind, Emit.result_pure, Emit.next_pure]
  cases a.mGeofenceIds.find? ⟨item.client, id⟩ with
  | none => simp
  | some hwId => simp [asks]

theorem asked_getHwIdFromClient_bind (client : Client) (id : UInt32) (f : Option UInt32 → AdapterM Client Unit) :
    asked (getHwIdFromClient client id >>= f) a = asked (f (a.mGeofenceIds.find? ⟨client, id⟩)) a := rfl

theorem asked_withHwId (item : Item Client) (id : UInt32) (sent : UInt32 → GeofenceRequest)
    (response : UInt32 → GeofenceResponse Client) :
    asked (withHwId item id fun hwId => request (sent hwId) (response hwId)) a =
      ((a.mGeofenceIds.find? ⟨item.client, id⟩).map fun hwId => (sent hwId, response hwId)).toList := by
  rw [withHwId, asked_getHwIdFromClient_bind]
  cases a.mGeofenceIds.find? ⟨item.client, id⟩ <;> simp

theorem tables_removeGeofenceItem (hwId : UInt32) :
    ((removeGeofenceItem hwId).next a).tables = (TableChange.remove hwId).apply a.tables := by
  simp only [removeGeofenceItem, Emit.next_get_bind, TableChange.apply, GeofenceAdapter.tables]
  cases a.mGeofences.find? hwId with
  | none => rfl
  | some object =>
    simp only [Emit.next_ite, Emit.next_modify, Emit.next_pure]
    split_ifs with known
    · exact (if_pos known).symm
    · exact (if_neg known).symm

theorem tables_changeGeofence (hwId : UInt32) (change : GeofenceObject Client → GeofenceObject Client) :
    ((changeGeofence hwId change).next a).tables = (TableChange.alter hwId change).apply a.tables := by
  simp only [changeGeofence, setGeofences, Emit.next_modify, TableChange.apply, GeofenceAdapter.tables]
  cases a.mGeofences.find? hwId <;> rfl

/-- An answer with success changes the tables as its response says, any other leaves them. -/
theorem tables_proc (response : GeofenceResponse Client) (err : LocationError) (hwId : UInt32) :
    ((response.proc err hwId).next a).tables =
      if err = .success then (response.change hwId).apply a.tables else a.tables := by
  cases response with
  | add | ignore => exact (ite_self _).symm
  | remove | pause | resume | modify =>
    rw [GeofenceResponse.proc, tables_withHwId _ _ fun hwId a => rfl]
    exact (ite_self _).symm
  | added item id options info =>
    simp only [GeofenceResponse.proc, Emit.next_bind, Emit.next_ite, next_reportLast]
    split_ifs <;> rfl
  | removed item hwId =>
    simp only [GeofenceResponse.proc, Emit.next_bind, Emit.next_ite, next_reportLast]
    split_ifs
    · exact tables_removeGeofenceItem hwId
    · rfl
  | paused item hwId =>
    simp only [GeofenceResponse.proc, Emit.next_bind, Emit.next_ite, next_reportLast]
    split_ifs
    · exact tables_changeGeofence hwId _
    · rfl
  | resumed item hwId =>
    simp only [GeofenceResponse.proc, Emit.next_bind, Emit.next_ite, Emit.next_pure, next_reportLast]
    split_ifs
    · exact tables_changeGeofence hwId _
    · rfl
  | modified item hwId options =>
    simp only [GeofenceResponse.proc, Emit.next_bind, Emit.next_ite, next_reportLast]
    split_ifs
    · exact tables_changeGeofence hwId _
    · rfl
  | clientRemoved hwId =>
    simp only [GeofenceResponse.proc, Emit.next_ite]
    split_ifs <;> rfl
  | readded object =>
    simp only [GeofenceResponse.proc, Emit.next_bind, Emit.next_ite, Emit.next_pure, next_request, ite_self]
    split_ifs <;> rfl

@[simp] theorem asked_saveGeofenceItem (client : Client) (id hwId : UInt32) (options : GeofenceOption)
    (info : GeofenceInfo) : asked (saveGeofenceItem client id hwId options info) a = [] := rfl

@[simp] theorem asked_removeGeofenceItem (hwId : UInt32) : asked (removeGeofenceItem hwId) a = [] := by
  rw [removeGeofenceItem, asked_get_bind]
  cases a.mGeofences.find? hwId with
  | none => rfl
  | some object => simp

@[simp] theorem asked_changeGeofence (hwId : UInt32) (change : GeofenceObject Client → GeofenceObject Client) :
    asked (changeGeofence hwId change) a = [] := rfl

theorem asked_proc (response : GeofenceResponse Client) (err : LocationError) (hwId : UInt32) :
    asked (response.proc err hwId) a = response.asks a err hwId := by
  cases response with
  | add | ignore => rfl
  | remove | pause | resume | modify => exact asked_withHwId ..
  | added | removed => simp [GeofenceResponse.proc, GeofenceResponse.asks]
  | paused | resumed | modified =>
    simp [GeofenceResponse.proc, GeofenceResponse.asks, pauseGeofenceItem, resumeGeofenceItem, modifyGeofenceItem]
  | clientRemoved hwId => simp [GeofenceResponse.proc, GeofenceResponse.asks, setGeofences]
  | readded object =>
    simp only [GeofenceResponse.proc, GeofenceResponse.asks, asked_bind, asked_ite, asked_pure, asked_request,
      asked_saveGeofenceItem, List.append_nil, ite_and]

section Each

variable {α : Type} (elements : List α) (sent : α → GeofenceRequest) (response : α → GeofenceResponse Client)

theorem next_requests : (elements.forM fun element => request (sent element) (response element)).next a = a := by
  rw [Emit.next_forM]
  exact List.foldl_fixed _

theorem asked_requests : asked (elements.forM fun element => request (sent element) (response element)) a =
    elements.map fun element => (sent element, response element) := by
  rw [asked, Emit.emitted_forM _ (fun element => [.request (sent element) (response element)]) fun _ _ => rfl]
  induction elements with
  | nil => rfl
  | cons first rest ih => exact congrArg ((sent first, response first) :: ·) ih

end Each

section Commands

variable {α : Type} (client : Client) (ids : List UInt32) (elements : List α)
  (response : Item Client → α → GeofenceResponse Client)

/-- A command leaves the tables. -/
theorem tables_forEachItem : ((forEachItem client ids elements response).next a).tables = a.tables := by
  rw [forEachItem, Emit.next_ite]
  split_ifs
  · rfl
  · rw [Emit.next_bind, next_requests]
    rfl

theorem asked_forEachItem : asked (forEachItem client ids elements response) a =
    elements.zipIdx.map fun element => (.callQueue, response ⟨client, a.errs.length, ids, element.2⟩ element.1) := by
  rw [forEachItem, asked_ite]
  split_ifs with none
  · rw [List.isEmpty_iff.mp none]
    rfl
  · exact asked_requests ..

end Commands

section Clients

variable (client : Client)

/-- The identifiers of a client. -/
def departing (client : Client) (a : GeofenceAdapter Client) : List (GeofenceKey Client × UInt32) :=
  a.mGeofenceIds.entries.filter fun entry => entry.1.client = client

/-- The identifier of a geofence goes, and the modem is asked to remove it. -/
def depart (entry : GeofenceKey Client × UInt32) : AdapterM Client Unit := do
  Emit.modify fun a => { a with mGeofenceIds := a.mGeofenceIds.erase entry.1 }
  request (.removeGeofence entry.2 entry.1.id) (.clientRemoved entry.2)

theorem stopClientSessions_eq :
    stopClientSessions client = Emit.get >>= fun a => (departing client a).forM depart := rfl

theorem next_departs (entries : List (GeofenceKey Client × UInt32)) : (entries.forM depart).next a =
    { a with mGeofenceIds := (entries.map Prod.fst).foldl SortedMap.erase a.mGeofenceIds } := by
  rw [Emit.next_forM]
  induction entries generalizing a with
  | nil => rfl
  | cons first rest ih => exact ih

/-- A client that goes leaves its geofences. -/
theorem geofences_removeClient : ((removeClient client).next a).mGeofences = a.mGeofences := by
  rw [removeClient, Emit.next_bind, stopClientSessions_eq, Emit.next_get_bind, next_departs]
  rfl

/-- A client that goes takes its identifiers along. -/
theorem ids_removeClient (key : GeofenceKey Client) : ((removeClient client).next a).mGeofenceIds.find? key =
    if key.client = client then none else a.mGeofenceIds.find? key := by
  rw [removeClient, Emit.next_bind, stopClientSessions_eq, Emit.next_get_bind, next_departs, Emit.next_modify]
  by_cases among : key ∈ (departing client a).map Prod.fst
  · rw [SortedMap.find?_foldl_erase_of_mem among, if_pos]
    obtain ⟨entry, member, rfl⟩ := List.mem_map.mp among
    exact of_decide_eq_true (List.mem_filter.mp member).2
  · rw [SortedMap.find?_foldl_erase_of_notMem among, right_eq_ite_iff]
    intro own
    refine SortedMap.find?_eq_none_iff.mpr fun ⟨hwId, member⟩ => among ?_
    exact List.mem_map.mpr ⟨(key, hwId), List.mem_filter.mpr ⟨member, decide_eq_true own⟩, rfl⟩

theorem asked_removeClient : asked (removeClient client) a =
    (departing client a).map fun entry => (.removeGeofence entry.2 entry.1.id, .clientRemoved entry.2) := by
  have departs (entries : List (GeofenceKey Client × UInt32)) (a : GeofenceAdapter Client) :
      asked (entries.forM depart) a =
        entries.map fun entry => (.removeGeofence entry.2 entry.1.id, .clientRemoved entry.2) := by
    induction entries generalizing a with
    | nil => rfl
    | cons first rest ih => exact congrArg (_ :: ·) (ih _)
  rw [removeClient, asked_bind, stopClientSessions_eq, asked_get_bind, departs, asked_modify, List.append_nil]

end Clients

/-- A restart clears the tables, unless there are no geofences, -/
theorem tables_restartGeofences :
    (restartGeofences.next a).tables = if a.mGeofences.isEmpty then a.tables else ⟨.empty, .empty⟩ := by
  rw [restartGeofences, Emit.next_get_bind, Emit.next_ite]
  split_ifs
  · rfl
  · rw [Emit.next_bind, next_requests]
    rfl

/-- and asks for all geofences again. -/
theorem asked_restartGeofences : asked restartGeofences a = a.mGeofences.entries.map fun entry =>
    (.addGeofence entry.2.key.id ⟨16, entry.2.breachMask, entry.2.responsiveness, entry.2.dwellTime⟩
      ⟨entry.2.latitude, entry.2.longitude, entry.2.radius⟩, .readded entry.2) := by
  rw [restartGeofences, asked_get_bind, asked_ite]
  split_ifs with none
  · rw [SortedMap.isEmpty, List.isEmpty_iff] at none
    rw [none]
    rfl
  · rw [asked_bind, asked_modify, List.nil_append]
    exact asked_requests ..

end Programs

end Cypfr.Geofence
