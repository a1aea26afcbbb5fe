import Cypfr.Machine.Run
import Cypfr.Proofs.OsObserver

/-! # What the observer keeps over a run

Three properties of the observer over whole runs of requests: whether its two maps agree, whether the
framework is subscribed to what the clients want, and which clients a report reaches.
-/

namespace Cypfr.OsObserver

open Cypfr.LocUtil LocUnorderedSetMap Machine

variable {Client DataItemId Value Status : Type} [DecidableEq Client] [DecidableEq DataItemId]
  (items : DataItems DataItemId Value Status)

/-- Data items that are a number with a value, all of them handled; a copy reports whether it differs. -/
def numbered : DataItems ℕ (ℕ × ℕ) Unit where
  getId := Prod.fst
  createNewDataItem id := some (id, 0)
  copy target source := (source, target != source)
  eventDataItemNotify _ _ := (true, ())

/-- One request of a run. -/
def step (o : SystemStatusOsObserver Client DataItemId Value Status) (request : Request Client DataItemId Value) :
    SystemStatusOsObserver Client DataItemId Value Status :=
  (request.proc items).next o

section Mirror

/-- Each map is the other one turned around, and neither has an empty entry. -/
structure Mirrored (o : SystemStatusOsObserver Client DataItemId Value Status) : Prop where
  mirror : ∀ c d, o.clientToDataItems.Linked c d ↔ o.dataItemToClients.Linked d c
  full : Full o

/-- An `updateSubscription` request comes from a client without subscriptions. -/
def UpdateOfNewClient (o : SystemStatusOsObserver Client DataItemId Value Status) : Request Client DataItemId Value → Prop
  | .updateSubscription l (some client) => l ≠ [] → ∀ d, ¬ o.clientToDataItems.Linked client d
  | _ => True

variable {o : SystemStatusOsObserver Client DataItemId Value Status}

theorem full_start (status : Status) : Full (.start status : SystemStatusOsObserver Client DataItemId Value Status) :=
  ⟨nonEmpty_empty, nonEmpty_empty⟩

theorem SameSubscriptions.full {o' : SystemStatusOsObserver Client DataItemId Value Status}
    (same : SameSubscriptions o o')
    (full : Full o) : Full o' :=
  ⟨same.clientToDataItems ▸ full.clients, same.dataItemToClients ▸ full.items⟩

/-- Every request leaves the maps without empty entries. -/
theorem full_step (full : Full o) (request : Request Client DataItemId Value) : Full (step items o request) := by
  cases request with
  | setSubscriptionObj => rw [step, Request.proc, next_setSubscriptionObj]; exact ⟨full.clients, full.items⟩
  | subscribe l client toRequestData =>
    rw [step, Request.proc]
    rcases withClient_cases l client fun client => handleSubscribeReq l client toRequestData with
      ⟨idle, -⟩ | ⟨c, -, -, handled⟩
    · rw [idle]; exact full
    · rw [handled]; exact full_handleSubscribeReq l c full toRequestData
  | updateSubscription l client =>
    rw [step, Request.proc]
    rcases withClient_cases l client (handleUpdateSubscriptionReq l) with ⟨idle, -⟩ | ⟨c, -, some, handled⟩
    · rw [idle]; exact full
    · rw [handled]; exact full_handleUpdateSubscriptionReq c some full
  | unsubscribe l client =>
    rw [step, Request.proc]
    rcases withClient_cases l client (handleUnsubscribeReq l) with ⟨idle, -⟩ | ⟨c, -, -, handled⟩
    · rw [idle]; exact full
    · rw [handled]; exact full_handleUnsubscribeReq l c full
  | unsubscribeAll client =>
    cases client with
    | none => exact full
    | some c => exact full_handleUnsubscribeAllReq c full
  | notify dlist => exact (sameSubscriptions_notify items dlist).full full

/-- The two maps agree when they stand for one relation. -/
theorem Represents.mirrored {R : Client → DataItemId → Prop} (represents : Represents o R) (full : Full o) :
    Mirrored o :=
  ⟨fun c d => (represents.client c d).trans (represents.item c d).symm, full⟩

theorem Mirrored.represents (mirrored : Mirrored o) : Represents o fun c d => o.clientToDataItems.Linked c d :=
  ⟨fun _ _ => Iff.rfl, fun c d => (mirrored.mirror c d).symm⟩

theorem SameSubscriptions.represents {o' : SystemStatusOsObserver Client DataItemId Value Status}
    {R : Client → DataItemId → Prop} (same : SameSubscriptions o o') (represents : Represents o R) : Represents o' R :=
  ⟨same.clientToDataItems ▸ represents.client, same.dataItemToClients ▸ represents.item⟩

/-- The relation between clients and items after a request other than `updateSubscription`. -/
def Request.subscriptions (R : Client → DataItemId → Prop) : Request Client DataItemId Value → Client → DataItemId → Prop
  | .subscribe l client _ => fun c d => R c d ∨ client = some c ∧ d ∈ l
  | .unsubscribe l client => fun c d => R c d ∧ ¬ (client = some c ∧ d ∈ l)
  | .unsubscribeAll client => fun c d => R c d ∧ client ≠ some c
  | _ => R

/-- The request is `updateSubscription`. -/
def Request.isUpdate : Request Client DataItemId Value → Bool
  | .updateSubscription _ _ => true
  | _ => false

/-- Every other request changes both maps as the relation changes. -/
theorem represents_step {R : Client → DataItemId → Prop} (full : Full o) (represents : Represents o R)
    {request : Request Client DataItemId Value} (other : request.isUpdate = false) :
    Represents (step items o request) (request.subscriptions R) := by
  cases request with
  | setSubscriptionObj =>
    rw [step, Request.proc, next_setSubscriptionObj]
    exact ⟨represents.client, represents.item⟩
  | subscribe l client toRequestData =>
    rw [step, Request.proc]
    rcases withClient_cases l client fun client => handleSubscribeReq l client toRequestData with
      ⟨idle, nothing⟩ | ⟨c, rfl, -, handled⟩
    · rw [idle]
      refine represents.congr fun c d => ⟨.inl, ?_⟩
      rintro (related | ⟨rfl, member⟩)
      · exact related
      · rcases nothing with nothing | rfl <;> simp at *
    · rw [handled]
      exact (represents_handleSubscribeReq l c full represents toRequestData).congr fun c' d => by
        simp [Request.subscriptions, eq_comm]
  | updateSubscription l client => cases other
  | unsubscribe l client =>
    rw [step, Request.proc]
    rcases withClient_cases l client (handleUnsubscribeReq l) with ⟨idle, nothing⟩ | ⟨c, rfl, -, handled⟩
    · rw [idle]
      refine represents.congr fun c d => ⟨fun related => ⟨related, ?_⟩, And.left⟩
      rintro ⟨rfl, member⟩
      rcases nothing with nothing | rfl <;> simp at *
    · rw [handled]
      exact (represents_handleUnsubscribeReq l c full represents).congr fun c' d => by
        simp [Request.subscriptions, eq_comm]
  | unsubscribeAll client =>
    cases client with
    | none => exact represents.congr fun c d => by simp [Request.subscriptions]
    | some c =>
      exact (represents_handleUnsubscribeAllReq c full represents).congr fun c' d => by
        simp [Request.subscriptions, eq_comm]
  | notify dlist => exact (sameSubscriptions_notify items dlist).represents represents

/-- `updateSubscription` keeps the maps in agreement for a client without subscriptions, and only for one. -/
theorem mirrored_handleUpdateSubscriptionReq {l : List DataItemId} (client : Client) (some : l ≠ []) (full : Full o)
    (mirrored : Mirrored o) : Mirrored ((handleUpdateSubscriptionReq l client).next o) ↔
      ∀ d, ¬ o.clientToDataItems.Linked client d := by
  have linked := linked_handleUpdateSubscriptionReq client some full mirrored.represents
  constructor
  · intro after d related
    have both := after.mirror client d
    rw [(linked client d).1, (linked client d).2] at both
    simp only [if_true, related, true_iff] at both
    tauto
  · intro new
    refine ⟨fun c d => ?_, full_handleUpdateSubscriptionReq client some full⟩
    rw [(linked c d).1, (linked c d).2]
    split_ifs with same
    · subst same
      simp [new d]
    · exact Iff.rfl

/-- A request keeps the maps in agreement unless it updates the subscriptions a client has. -/
theorem mirrored_step (full : Full o) (mirrored : Mirrored o) (request : Request Client DataItemId Value) :
    Mirrored (step items o request) ↔ UpdateOfNewClient o request := by
  cases update : request.isUpdate with
  | false =>
    have after := represents_step items full mirrored.represents update
    have unconditional : UpdateOfNewClient o request := by
      cases request with
      | updateSubscription l client => cases update
      | _ => trivial
    exact iff_of_true (after.mirrored (full_step items full request)) unconditional
  | true =>
    cases request with
    | updateSubscription l client =>
      rw [step, Request.proc]
      rcases withClient_cases l client (handleUpdateSubscriptionReq l) with ⟨idle, nothing⟩ | ⟨c, rfl, some, handled⟩
      · rw [idle]
        refine iff_of_true mirrored ?_
        rcases nothing with rfl | rfl
        · trivial
        · cases client with
          | none => trivial
          | some c => exact fun some => absurd rfl some
      · rw [handled, mirrored_handleUpdateSubscriptionReq c some full mirrored]
        exact ⟨fun new _ => new, fun new => new some⟩
    | _ => cases update

/-- The two maps mirror each other throughout a run exactly when every `updateSubscription` request in it
comes from a client without subscriptions. -/
theorem mirrored_throughout_iff (status : Status) (requests : List (Request Client DataItemId Value)) :
    Throughout (step items) Mirrored (.start status) requests ↔
      EachStep (step items) UpdateOfNewClient (.start status) requests := by
  have start : Mirrored (.start status : SystemStatusOsObserver Client DataItemId Value Status) :=
    ⟨fun c d => by simp [SystemStatusOsObserver.start], full_start status⟩
  exact throughout_iff_eachStep (full_start status) (fun o request full => full_step items full request) start
    fun o request full mirrored => mirrored_step items full mirrored request

/-- A client of item 1 that asks for item 2 instead stays a client of item 1 in the other map. -/
theorem update_leaves_client : ¬ Throughout (step numbered) Mirrored (.start ())
    [.subscribe [1] (some 7) false, .updateSubscription [2] (some 7)] := by
  intro always
  have mirror := (always _ (List.prefix_refl _)).mirror 7 1
  exact absurd mirror (by decide)

end Mirror

section Framework

/-- What a call makes of the items that are subscribed at the framework. -/
def Call.atFramework (subscribed : UnorderedSet DataItemId) : Call Client DataItemId Value → UnorderedSet DataItemId
  | .subscribe l => subscribed.insertAll l
  | .unsubscribe l => subscribed.eraseAll l
  | .requestData _ => subscribed
  | .notify _ _ => subscribed

/-- The observer beside the items that are subscribed at the framework. -/
structure Session (Client DataItemId Value Status : Type) where
  observer : SystemStatusOsObserver Client DataItemId Value Status
  subscribed : UnorderedSet DataItemId

/-- What a program does to the observer, and its calls at the framework. -/
def Session.after (s : Session Client DataItemId Value Status) (p : ObserverM Client DataItemId Value Status Unit) :
    Session Client DataItemId Value Status :=
  ⟨p.next s.observer, (p.emitted s.observer).foldl Call.atFramework s.subscribed⟩

/-- One request of a run. -/
def Session.step (s : Session Client DataItemId Value Status) (request : Request Client DataItemId Value) :
    Session Client DataItemId Value Status :=
  s.after (request.proc items)

def Session.start (status : Status) : Session Client DataItemId Value Status :=
  ⟨.start status, .empty⟩

section Calls

variable {o : SystemStatusOsObserver Client DataItemId Value Status} (subscribed : UnorderedSet DataItemId)

omit [DecidableEq DataItemId] in
@[simp] theorem mem_containerTransfer {s : UnorderedSet DataItemId} {d : DataItemId} : d ∈ containerTransfer s ↔
    d ∈ s :=
  List.mem_reverse

omit [DecidableEq Client] in
@[simp] theorem atFramework_sendCachedDataItems (s : UnorderedSet DataItemId) (client : Client) :
    ((sendCachedDataItems s client).emitted o).foldl Call.atFramework subscribed = subscribed := by
  simp only [sendCachedDataItems, Emit.emitted_get_bind, Emit.emitted_ite, Emit.emitted_pure, Emit.emitted_emit]
  split_ifs <;> rfl

variable (l : List DataItemId) (client : Client)

theorem mem_atFramework_handleSubscribeReq (toRequestData : Bool) {d : DataItemId} :
    d ∈ ((handleSubscribeReq l client toRequestData).emitted o).foldl Call.atFramework subscribed ↔
      d ∈ subscribed ∨ o.subscriptionObj = true ∧ toRequestData = false ∧
        d ∈ (o.dataItemToClients.addAll (.ofList l) (.singleton client)).2 := by
  rw [handleSubscribeReq, Emit.emitted_get_bind]
  simp only [Emit.emitted_bind, Emit.emitted_modify, Emit.next_modify,
    Emit.emitted_ite, Emit.emitted_pure, Emit.emitted_emit, List.nil_append, List.foldl_append,
    atFramework_sendCachedDataItems]
  split_ifs with set data none
  · simp [Call.atFramework, data]
  · simp [UnorderedSet.isEmpty_iff.mp none]
  · simp [Call.atFramework, set, data, or_comm]
  · simp [set]

theorem mem_atFramework_handleUpdateSubscriptionReq {d : DataItemId} :
    d ∈ ((handleUpdateSubscriptionReq l client).emitted o).foldl Call.atFramework subscribed ↔
      if o.subscriptionObj = true then
        (d ∈ subscribed ∨ d ∈ ((o.dataItemToClients.trimOrRemove (o.clientToDataItems.update client (.ofList l)).1
          (.singleton client)).map.addAll (o.clientToDataItems.update client (.ofList l)).2.2 (.singleton client)).2) ∧
        d ∉ (o.dataItemToClients.trimOrRemove (o.clientToDataItems.update client (.ofList l)).1
          (.singleton client)).goneKeys
      else d ∈ subscribed := by
  rw [handleUpdateSubscriptionReq, Emit.emitted_get_bind]
  simp only [Emit.emitted_bind, Emit.emitted_modify,
    Emit.next_modify, Emit.emitted_ite, Emit.emitted_pure, Emit.emitted_emit, List.nil_append, List.foldl_append,
    atFramework_sendCachedDataItems]
  split_ifs with set new gone gone
  · simp [UnorderedSet.isEmpty_iff.mp new, UnorderedSet.isEmpty_iff.mp gone]
  · simp [Call.atFramework, UnorderedSet.isEmpty_iff.mp new, and_comm]
  · simp [Call.atFramework, UnorderedSet.isEmpty_iff.mp gone, or_comm]
  · simp [Call.atFramework, and_comm, or_comm]
  · simp

theorem mem_atFramework_handleUnsubscribeReq {d : DataItemId} :
    d ∈ ((handleUnsubscribeReq l client).emitted o).foldl Call.atFramework subscribed ↔
      d ∈ subscribed ∧ ¬ (o.subscriptionObj = true ∧ d ∈ (o.dataItemToClients.trimOrRemove
        (o.clientToDataItems.trimOrRemove (.singleton client) (.ofList l)).goneVals (.singleton client)).goneKeys) := by
  rw [handleUnsubscribeReq, Emit.emitted_get_bind]
  simp only [Emit.emitted_bind, Emit.emitted_modify, Emit.emitted_ite,
    Emit.emitted_pure, Emit.emitted_emit, List.nil_append, Bool.and_eq_true, Bool.not_eq_true']
  split_ifs with both
  · simp [Call.atFramework, both.1, and_comm]
  · simp only [not_and, Bool.not_eq_false, UnorderedSet.isEmpty_iff] at both
    simp only [List.foldl_nil, iff_self_and]
    rintro - ⟨set, gone⟩
    exact both set d gone

theorem mem_atFramework_handleUnsubscribeAllReq {d : DataItemId} :
    d ∈ ((handleUnsubscribeAllReq client).emitted o).foldl Call.atFramework subscribed ↔
      d ∈ subscribed ∧ ¬ (o.subscriptionObj = true ∧ d ∈ (o.dataItemToClients.trimOrRemove
        (o.clientToDataItems.getValSet client) (.singleton client)).goneKeys) := by
  rw [handleUnsubscribeAllReq, Emit.emitted_get_bind]
  simp only [Emit.emitted_bind, Emit.emitted_modify, Emit.emitted_ite,
    Emit.emitted_pure, Emit.emitted_emit, List.nil_append, Bool.and_eq_true, Bool.not_eq_true']
  split_ifs with none both
  · have nothing : (o.clientToDataItems.getValSet client).elems = [] := List.isEmpty_iff.mp none
    simp [trimOrRemove, nothing]
  · simp [Call.atFramework, both.2, and_comm]
  · simp only [not_and', Bool.not_eq_false, UnorderedSet.isEmpty_iff] at both
    simp only [List.foldl_nil, iff_self_and]
    rintro - ⟨set, gone⟩
    exact both set d gone

omit [DecidableEq Client] in
@[simp] theorem emitted_updateCache (d : Option Value) : (updateCache items d).emitted o = [] := by
  cases d with
  | none => rfl
  | some d =>
    rw [updateCache, Emit.emitted_get_bind]
    simp only [Emit.emitted_bind, Emit.emitted_modify, Emit.emitted_ite, Emit.emitted_pure, List.nil_append]
    split_ifs
    · split
      · split
        · rfl
        · rfl
      · rfl
    · rfl

omit [DecidableEq Client] in
@[simp] theorem emitted_updateCaches (diVec : List (Option Value)) (toBeSent : UnorderedSet DataItemId) :
    (updateCaches items diVec toBeSent).emitted o = [] := by
  induction diVec generalizing o toBeSent with
  | nil => rfl
  | cons item rest ih =>
    rw [updateCaches, Emit.emitted_bind, emitted_updateCache, ih]
    rfl

theorem atFramework_sendToClients (toBeSent : UnorderedSet DataItemId) (clients : List Client) :
    ((sendToClients toBeSent clients).emitted o).foldl Call.atFramework subscribed = subscribed := by
  induction clients with
  | nil => rfl
  | cons client rest ih =>
    rw [sendToClients, Emit.emitted_get_bind, Emit.emitted_bind, List.foldl_append, atFramework_sendCachedDataItems,
      next_sendCachedDataItems, ih]

theorem atFramework_notify (dlist : List Value) :
    ((notify items dlist).emitted o).foldl Call.atFramework subscribed = subscribed := by
  rw [notify, Emit.emitted_ite]
  split_ifs
  · rfl
  · rw [handleNotify, Emit.emitted_bind, emitted_updateCaches, List.nil_append, Emit.emitted_get_bind,
      atFramework_sendToClients]

end Calls

variable {s : Session Client DataItemId Value Status}

/-- Nothing is subscribed before the subscription object is set. -/
structure Session.Sound (s : Session Client DataItemId Value Status) : Prop where
  full : Full s.observer
  idle : s.observer.subscriptionObj = false → ∀ d, d ∉ s.subscribed

namespace Session

variable (l : List DataItemId) (client : Client)

/-- Without the subscription object no request is passed on. -/
theorem idle_step (sound : s.Sound) (request : Request Client DataItemId Value)
    (unset : (s.step items request).observer.subscriptionObj = false) (d : DataItemId) :
    d ∉ (s.step items request).subscribed := by
  cases request with
  | setSubscriptionObj =>
    rw [step, after, Request.proc, next_setSubscriptionObj] at unset
    cases unset
  | subscribe l client toRequestData =>
    rw [step, Request.proc] at unset ⊢
    rcases withClient_cases l client fun client => handleSubscribeReq l client toRequestData with
      ⟨idle, -⟩ | ⟨c, -, -, handled⟩
    · rw [idle] at unset ⊢; exact sound.idle unset d
    · rw [handled, after, next_handleSubscribeReq] at unset
      rw [handled, after, mem_atFramework_handleSubscribeReq]
      simp_all [sound.idle unset d]
  | updateSubscription l client =>
    rw [step, Request.proc] at unset ⊢
    rcases withClient_cases l client (handleUpdateSubscriptionReq l) with ⟨idle, -⟩ | ⟨c, -, -, handled⟩
    · rw [idle] at unset ⊢; exact sound.idle unset d
    · rw [handled, after, next_handleUpdateSubscriptionReq] at unset
      rw [handled, after, mem_atFramework_handleUpdateSubscriptionReq]
      simp_all [sound.idle unset d]
  | unsubscribe l client =>
    rw [step, Request.proc] at unset ⊢
    rcases withClient_cases l client (handleUnsubscribeReq l) with ⟨idle, -⟩ | ⟨c, -, -, handled⟩
    · rw [idle] at unset ⊢; exact sound.idle unset d
    · rw [handled, after, next_handleUnsubscribeReq] at unset
      rw [handled, after, mem_atFramework_handleUnsubscribeReq]
      exact fun member => sound.idle unset d member.1
  | unsubscribeAll client =>
    cases client with
    | none => exact sound.idle unset d
    | some c =>
      rw [step, Request.proc, after] at unset ⊢
      rw [next_handleUnsubscribeAllReq] at unset
      rw [mem_atFramework_handleUnsubscribeAllReq]
      have before : s.observer.subscriptionObj = false := by
        split_ifs at unset
        · exact unset
        · exact unset
      exact fun member => sound.idle before d member.1
  | notify dlist =>
    have same : SameSubscriptions s.observer ((notify items dlist).next s.observer) :=
      sameSubscriptions_notify items dlist
    rw [step, after, Request.proc] at unset ⊢
    rw [same.subscriptionObj] at unset
    rw [atFramework_notify]
    exact sound.idle unset d

theorem sound_step (sound : s.Sound) (request : Request Client DataItemId Value) : (s.step items request).Sound :=
  ⟨full_step items sound.full request, idle_step items sound request⟩

end Session

end Framework

section Delivery

/-- The subscriptions after some requests, none of them `updateSubscription`. -/
def subscriptions (requests : List (Request Client DataItemId Value)) : Client → DataItemId → Prop :=
  requests.foldl Request.subscriptions fun _ _ => False

/-- Some value in the vector updates the item: `updateCache` returns true for it when its turn comes. -/
def UpdatedIn (o : SystemStatusOsObserver Client DataItemId Value Status) (diVec : List (Option Value))
    (d : DataItemId) : Prop :=
  ∃ done item rest, diVec = done ++ some item :: rest ∧ items.getId item = d ∧
    (updateCache items (some item)).result (done.foldl (fun o item => (updateCache items item).next o) o) = true

/-- The lists that the calls deliver to a client. -/
def deliveries (client : Client) (calls : List (Call Client DataItemId Value)) : List (List Value) :=
  calls.filterMap fun
    | .notify c dlist => if c = client then some dlist else none
    | _ => none

/-- The list holds the cached values of the items with a property, once each. -/
def CachedValues (cache : AList fun _ : DataItemId => Value) (property : DataItemId → Prop) (dlist : List Value) : Prop :=
  ∃ ids : List DataItemId, ids.Nodup ∧ (∀ d, d ∈ ids ↔ property d) ∧ dlist.map some = ids.map cache.lookup

section Caches

variable {o : SystemStatusOsObserver Client DataItemId Value Status}

omit [DecidableEq Client]

theorem next_updateCaches (diVec : List (Option Value)) (toBeSent : UnorderedSet DataItemId) :
    (updateCaches items diVec toBeSent).next o = diVec.foldl (fun o item => (updateCache items item).next o) o := by
  induction diVec generalizing o toBeSent with
  | nil => rfl
  | cons item rest ih => rw [updateCaches, Emit.next_bind, ih, List.foldl_cons]

theorem updatedIn_cons {item : Option Value} {rest : List (Option Value)} {d : DataItemId} :
    UpdatedIn items o (item :: rest) d ↔
      (∃ value, item = some value ∧ items.getId value = d ∧ (updateCache items item).result o = true) ∨
        UpdatedIn items ((updateCache items item).next o) rest d := by
  constructor
  · rintro ⟨done, value, later, split, same, updated⟩
    cases done with
    | nil =>
      cases split
      exact .inl ⟨value, rfl, same, updated⟩
    | cons first done =>
      cases split
      exact .inr ⟨done, value, later, rfl, same, updated⟩
  · rintro (⟨value, rfl, same, updated⟩ | ⟨done, value, later, rfl, same, updated⟩)
    · exact ⟨[], value, rest, rfl, same, updated⟩
    · exact ⟨item :: done, value, later, rfl, same, updated⟩

/-- The first loop collects the items that were updated. -/
theorem mem_updateCaches (diVec : List (Option Value)) (toBeSent : UnorderedSet DataItemId) (d : DataItemId) :
    d ∈ (updateCaches items diVec toBeSent).result o ↔ d ∈ toBeSent ∨ UpdatedIn items o diVec d := by
  induction diVec generalizing o toBeSent with
  | nil => simp [updateCaches, UpdatedIn]
  | cons item rest ih =>
    rw [updateCaches, Emit.result_bind, ih, updatedIn_cons]
    cases updated : (updateCache items item).result o with
    | false => simp
    | true =>
      cases item with
      | none => cases updated
      | some value =>
        simp only [if_true, Option.toList_some, List.map_cons, List.map_nil, UnorderedSet.mem_insertAll,
          List.mem_singleton, Option.some.injEq, and_true, exists_eq_left', eq_comm]
        tauto

/-- A value is put into the cache, unless `updateCache` returns false. -/
theorem updateCache_cases (item : Value) :
    (updateCache items (some item)).result o = false ∧
        ((updateCache items (some item)).next o).dataItemCache = o.dataItemCache ∨
      ∃ value, ((updateCache items (some item)).next o).dataItemCache =
        o.dataItemCache.insert (items.getId item) value := by
  rw [updateCache, Emit.result_get_bind, Emit.next_get_bind]
  simp only [Emit.result_bind, Emit.next_bind, Emit.next_modify, Emit.result_ite, Emit.next_ite, Emit.result_pure,
    Emit.next_pure]
  split_ifs with handled
  · cases found : o.dataItemCache.lookup (items.getId item) with
    | none =>
      cases created : items.createNewDataItem (items.getId item) with
      | none => exact .inl ⟨rfl, rfl⟩
      | some dataitem => exact .inr ⟨_, rfl⟩
    | some cached => exact .inr ⟨_, rfl⟩
  · exact .inl ⟨rfl, rfl⟩

/-- A value stays in the cache. -/
theorem lookup_updateCache {d : DataItemId} (cached : (o.dataItemCache.lookup d).isSome = true) (item : Option Value) :
    (((updateCache items item).next o).dataItemCache.lookup d).isSome = true := by
  cases item with
  | none => exact cached
  | some item =>
    rcases updateCache_cases items item with ⟨-, same⟩ | ⟨value, put⟩
    · rw [same]; exact cached
    · rw [put]
      rcases eq_or_ne d (items.getId item) with rfl | other
      · rw [AList.lookup_insert]; rfl
      · rw [AList.lookup_insert_ne other]; exact cached

/-- What is updated is in the cache. -/
theorem lookup_updated {item : Value} (updated : (updateCache items (some item)).result o = true) :
    (((updateCache items (some item)).next o).dataItemCache.lookup (items.getId item)).isSome = true := by
  rcases updateCache_cases items item with ⟨unchanged, -⟩ | ⟨value, put⟩
  · rw [unchanged] at updated; cases updated
  · rw [put, AList.lookup_insert]; rfl

theorem lookup_updatedIn {diVec : List (Option Value)} {d : DataItemId} (updated : UpdatedIn items o diVec d) :
    ((diVec.foldl (fun o item => (updateCache items item).next o) o).dataItemCache.lookup d).isSome = true := by
  obtain ⟨done, item, rest, rfl, rfl, updated⟩ := updated
  rw [List.foldl_append, List.foldl_cons]
  induction rest using List.reverseRecOn with
  | nil => exact lookup_updated items updated
  | append_singleton rest last ih =>
    rw [List.foldl_append]
    exact lookup_updateCache items ih last

theorem map_foldl_cached {cache : AList fun _ : DataItemId => Value} (ids : List DataItemId)
    (cached : ∀ d ∈ ids, (cache.lookup d).isSome = true) (values : List Value) :
    (ids.foldl (pushCached cache) values).map some = ids.reverse.map cache.lookup ++ values.map some := by
  induction ids generalizing values with
  | nil => rfl
  | cons d rest ih =>
    obtain ⟨value, found⟩ := Option.isSome_iff_exists.mp (cached d List.mem_cons_self)
    rw [List.foldl_cons, pushCached, found, ih (fun d member => cached d (List.mem_cons_of_mem _ member))]
    simp [found]

theorem map_cachedDataItems {cache : AList fun _ : DataItemId => Value} {s : UnorderedSet DataItemId}
    (cached : ∀ d ∈ s, (cache.lookup d).isSome = true) :
    (cachedDataItems cache s).map some = s.elems.reverse.map cache.lookup := by
  have values := map_foldl_cached s.elems cached []
  rw [List.map_nil, List.append_nil] at values
  exact values

theorem emitted_sendCachedDataItems (s : UnorderedSet DataItemId) (client : Client) :
    (sendCachedDataItems s client).emitted o =
      if (cachedDataItems o.dataItemCache s).isEmpty then
      [] else [.notify client (cachedDataItems o.dataItemCache s)] := by
  rw [sendCachedDataItems, Emit.emitted_get_bind, Emit.emitted_ite, Emit.emitted_pure, Emit.emitted_emit]

end Caches

variable {o : SystemStatusOsObserver Client DataItemId Value Status}

theorem mem_foldl_insertClients {m : LocUnorderedSetMap DataItemId Client} (ids : List DataItemId)
    (found : UnorderedSet Client) {client : Client} :
    client ∈ ids.foldl (insertClients m) found ↔ client ∈ found ∨ ∃ d ∈ ids, m.Linked d client := by
  induction ids generalizing found with
  | nil => simp
  | cons d rest ih =>
    rw [List.foldl_cons, ih, insertClients]
    cases entry : m.getValSetPtr d with
    | none => simp [linked_iff, entry]
    | some clients =>
      simp only [UnorderedSet.mem_insertAll, UnorderedSet.mem_elems, linked_iff, List.exists_mem_cons_iff, entry,
        Option.some.injEq, exists_eq_left']
      tauto

theorem mem_clientsOf {m : LocUnorderedSetMap DataItemId Client} {ids : UnorderedSet DataItemId} {client : Client} :
    client ∈ clientsOf m ids ↔ ∃ d ∈ ids, m.Linked d client := by
  rw [clientsOf, mem_foldl_insertClients]
  simp

omit [DecidableEq DataItemId] in
theorem deliveries_append (client : Client) (calls calls' : List (Call Client DataItemId Value)) :
    deliveries client (calls ++ calls') = deliveries client calls ++ deliveries client calls' :=
  List.filterMap_append

/-- The list that a client is sent for some items, unless it is empty. -/
def sent (cache : AList fun _ : DataItemId => Value) (s : UnorderedSet DataItemId) : List (List Value) :=
  if (cachedDataItems cache s).isEmpty then [] else [cachedDataItems cache s]

theorem deliveries_sendCachedDataItems (s : UnorderedSet DataItemId) (c client : Client) :
    deliveries client ((sendCachedDataItems s c).emitted o) = if c = client then sent o.dataItemCache s else [] := by
  rw [emitted_sendCachedDataItems, sent]
  split_ifs with none same same
  · rfl
  · rfl
  · simp [deliveries, same]
  · simp [deliveries, same]

/-- The last loop sends every client in it one list, unless that is empty. -/
theorem deliveries_sendToClients (toBeSent : UnorderedSet DataItemId) {clients : List Client} (nodup : clients.Nodup)
    (client : Client) : deliveries client ((sendToClients toBeSent clients).emitted o) =
      if client ∈ clients then
        sent o.dataItemCache ((o.clientToDataItems.getValSet client).filter fun id => id ∈ toBeSent)
      else [] := by
  induction clients with
  | nil => rfl
  | cons c rest ih =>
    obtain ⟨new, nodup⟩ := List.nodup_cons.mp nodup
    rw [sendToClients, Emit.emitted_get_bind, Emit.emitted_bind, deliveries_append, deliveries_sendCachedDataItems,
      next_sendCachedDataItems, ih nodup]
    rcases eq_or_ne c client with rfl | other
    · simp [new]
    · simp [other, other.symm]

/-- The subscriptions of a run without `updateSubscription` are those of its requests. -/
theorem represents_subscriptions (status : Status) {requests : List (Request Client DataItemId Value)}
    (others : ∀ request ∈ requests, request.isUpdate = false) :
    Full (requests.foldl (step items) (.start status)) ∧
      Represents (requests.foldl (step items) (.start status)) (subscriptions requests) := by
  induction requests using List.reverseRecOn with
  | nil =>
    refine ⟨full_start status, ?_, ?_⟩
    · intro c d; simp [SystemStatusOsObserver.start, subscriptions]
    · intro c d; simp [SystemStatusOsObserver.start, subscriptions]
  | append_singleton done request ih =>
    obtain ⟨full, represents⟩ := ih fun request member => others request (List.mem_append_left _ member)
    rw [subscriptions, List.foldl_append, List.foldl_append]
    exact ⟨full_step items full request, represents_step items full represents (others request (by simp))⟩

/-- A client is called once, with the cached values of the items it wants, or not at all when there are none. -/
structure Delivers (wanted : DataItemId → Prop) (cache : AList fun _ : DataItemId => Value) (delivered : List (List Value)) :
    Prop where
  once : (∃ d, wanted d) → ∃ dlist, delivered = [dlist] ∧ CachedValues cache wanted dlist
  never : (¬ ∃ d, wanted d) → delivered = []

theorem delivers_sent {cache : AList fun _ : DataItemId => Value} {s : UnorderedSet DataItemId}
    {wanted : DataItemId → Prop} (same : ∀ d, d ∈ s ↔ wanted d) (cached : ∀ d, wanted d → (cache.lookup d).isSome =
    true) :
    Delivers wanted cache (sent cache s) := by
  have values := map_cachedDataItems fun d member => cached d ((same d).mp member)
  constructor
  · rintro ⟨d, wants⟩
    refine ⟨cachedDataItems cache s, ?_, s.elems.reverse, List.nodup_reverse.mpr s.nodup, ?_, values⟩
    · rw [sent, if_neg]
      intro none
      rw [List.isEmpty_iff.mp none, List.map_nil, eq_comm, List.map_eq_nil_iff, List.reverse_eq_nil_iff] at values
      have member : d ∈ s.elems := (same d).mpr wants
      rw [values] at member
      exact List.not_mem_nil member
    · intro d
      rw [List.mem_reverse]
      exact same d
  · intro nobody
    have none : s.elems = [] := List.eq_nil_iff_forall_not_mem.mpr fun d member => nobody ⟨d, (same d).mp member⟩
    simp [sent, cachedDataItems, none]

theorem handleNotify_delivers {R : Client → DataItemId → Prop} (represents : Represents o R)
    (diVec : List (Option Value))
    (client : Client) : Delivers (fun d => R client d ∧ UpdatedIn items o diVec d)
      ((handleNotify items diVec).next o).dataItemCache (deliveries client ((handleNotify items diVec).emitted o)) := by
  have after : Represents ((updateCaches items diVec .empty).next o) R :=
    (sameSubscriptions_updateCaches items diVec .empty).represents represents
  have updated (d : DataItemId) : d ∈ (updateCaches items diVec .empty).result o ↔ UpdatedIn items o diVec d := by
    rw [mem_updateCaches]
    simp
  have caller : client ∈ clientsOf ((updateCaches items diVec .empty).next o).dataItemToClients
      ((updateCaches items diVec .empty).result o) ↔ ∃ d, R client d ∧ UpdatedIn items o diVec d := by
    rw [mem_clientsOf]
    simp only [updated, after.item, and_comm]
  rw [next_handleNotify, handleNotify, Emit.emitted_bind, emitted_updateCaches, List.nil_append, Emit.emitted_get_bind,
    deliveries_sendToClients _ (UnorderedSet.nodup _)]
  split_ifs with called
  · refine delivers_sent (fun d => ?_) fun d wanted => ?_
    · simp [updated, after.client]
    · rw [next_updateCaches]
      exact lookup_updatedIn items wanted.2
  · exact ⟨fun wants => absurd (caller.mpr wants) called, fun _ => rfl⟩

/-- Reporting a list calls each client that subscribes to an updated item once, with the cached values of
those items, and no other client. -/
theorem notify_delivers (status : Status) {requests : List (Request Client DataItemId Value)}
    (others : ∀ request ∈ requests, request.isUpdate = false) (dlist : List Value) (client : Client) :
    let o := requests.foldl (step items) (.start status)
    let wanted := fun d => subscriptions requests client d ∧ UpdatedIn items o (copies items dlist) d
    Delivers wanted ((notify items dlist).next o).dataItemCache
      (deliveries client ((notify items dlist).emitted o)) := by
  intro o wanted
  obtain ⟨-, represents⟩ := represents_subscriptions items status others
  cases dlist with
  | nil =>
    have nobody : ¬ ∃ d, wanted d := by
      rintro ⟨d, -, done, item, rest, split, -⟩
      simp [copies] at split
    exact ⟨fun wants => absurd wants nobody, fun _ => rfl⟩
  | cons first rest => exact handleNotify_delivers items represents (copies items (first :: rest)) client

/-- Client 7 subscribes to items 1 and 2 and is called once for two values of item 1. -/
theorem notify_delivers_numbered :
    let requests : List (Request ℕ ℕ (ℕ × ℕ)) := [.subscribe [1, 2, 1] (some 7) false, .subscribe [2] (some 8) false]
    let o := requests.foldl (step numbered) (.start ())
    let wanted := fun d => subscriptions requests 7 d ∧ UpdatedIn numbered o (copies numbered [(1, 5), (1, 6)]) d
    wanted 1 ∧ ∃ delivered, deliveries 7 ((notify numbered [(1, 5), (1, 6)]).emitted o) = [delivered] ∧
      CachedValues ((notify numbered [(1, 5), (1, 6)]).next o).dataItemCache wanted delivered := by
  intro requests o wanted
  have wants : wanted 1 := by
    refine ⟨.inl (.inr ⟨rfl, by decide⟩), [none, none], (1, 5), [some (1, 6)], rfl, rfl, rfl⟩
  have others : ∀ request ∈ requests, request.isUpdate = false := by decide
  exact ⟨wants, (notify_delivers numbered () others [(1, 5), (1, 6)] 7).once ⟨1, wants⟩⟩

end Delivery

end Cypfr.OsObserver
