import Cypfr.Model.OsObserver
import Cypfr.Proofs.LocUnorderedSetMap

/-! # What a request does to the observer

The two maps of the observer stand for one relation between clients and data items. Each request but
`updateSubscription` changes that relation as its name says, in both maps alike.
-/

namespace Cypfr.OsObserver

open Cypfr.LocUtil LocUnorderedSetMap

variable {Client DataItemId Value Status : Type}

/-- Two observers with the same subscriptions. -/
structure SameSubscriptions (o o' : SystemStatusOsObserver Client DataItemId Value Status) : Prop where
  clientToDataItems : o'.clientToDataItems = o.clientToDataItems
  dataItemToClients : o'.dataItemToClients = o.dataItemToClients
  subscriptionObj : o'.subscriptionObj = o.subscriptionObj

theorem SameSubscriptions.trans {o o' o'' : SystemStatusOsObserver Client DataItemId Value Status}
    (first : SameSubscriptions o o') (second : SameSubscriptions o' o'') : SameSubscriptions o o'' :=
  ⟨second.1.trans first.1, second.2.trans first.2, second.3.trans first.3⟩

/-- A request without items or client does nothing. -/
theorem withClient_cases (l : List DataItemId) (client : Option Client)
    (handle : Client → ObserverM Client DataItemId Value Status Unit) :
    withClient l client handle = pure () ∧ (client = none ∨ l = []) ∨
      ∃ c, client = some c ∧ l ≠ [] ∧ withClient l client handle = handle c := by
  cases client with
  | none => exact .inl ⟨rfl, .inl rfl⟩
  | some c =>
    cases l with
    | nil => exact .inl ⟨rfl, .inr rfl⟩
    | cons d rest => exact .inr ⟨c, rfl, List.cons_ne_nil d rest, rfl⟩

section States

variable {o : SystemStatusOsObserver Client DataItemId Value Status} (items : DataItems DataItemId Value Status)

theorem next_setSubscriptionObj : setSubscriptionObj.next o = { o with subscriptionObj := true } := by
  simp [setSubscriptionObj]

variable [DecidableEq DataItemId]

@[simp] theorem next_sendCachedDataItems (s : UnorderedSet DataItemId) (client : Client) :
    (sendCachedDataItems s client).next o = o := by
  simp [sendCachedDataItems]

theorem sameSubscriptions_updateCache (d : Option Value) : SameSubscriptions o ((updateCache items d).next o) := by
  cases d with
  | none => exact ⟨rfl, rfl, rfl⟩
  | some d =>
    simp only [updateCache, Emit.next_bind, Emit.next_modify, Emit.next_ite, Emit.next_pure]
    split_ifs with handled
    · split
      · split
        · exact ⟨rfl, rfl, rfl⟩
        · exact ⟨rfl, rfl, rfl⟩
      · exact ⟨rfl, rfl, rfl⟩
    · exact ⟨rfl, rfl, rfl⟩

theorem sameSubscriptions_updateCaches (diVec : List (Option Value)) (toBeSent : UnorderedSet DataItemId) :
    SameSubscriptions o ((updateCaches items diVec toBeSent).next o) := by
  induction diVec generalizing o toBeSent with
  | nil => exact ⟨rfl, rfl, rfl⟩
  | cons item rest ih =>
    rw [updateCaches, Emit.next_bind]
    exact (sameSubscriptions_updateCache items item).trans (ih _)

variable [DecidableEq Client] (l : List DataItemId) (client : Client)

theorem next_handleSubscribeReq (toRequestData : Bool) : (handleSubscribeReq l client toRequestData).next o =
    { o with
      dataItemToClients := (o.dataItemToClients.addAll (.ofList l) (.singleton client)).1
      clientToDataItems := (o.clientToDataItems.add client (.ofList l)).2 } := by
  simp [handleSubscribeReq]

theorem next_handleUnsubscribeReq : (handleUnsubscribeReq l client).next o =
    { o with
      clientToDataItems := (o.clientToDataItems.trimOrRemove (.singleton client) (.ofList l)).map
      dataItemToClients := (o.dataItemToClients.trimOrRemove
        (o.clientToDataItems.trimOrRemove (.singleton client) (.ofList l)).goneVals (.singleton client)).map } := by
  simp [handleUnsubscribeReq]

theorem next_handleUnsubscribeAllReq : (handleUnsubscribeAllReq client).next o =
    if (o.clientToDataItems.getValSet client).isEmpty then o
    else
      { o with
        clientToDataItems := o.clientToDataItems.remove client
        dataItemToClients := (o.dataItemToClients.trimOrRemove (o.clientToDataItems.getValSet client)
          (.singleton client)).map } := by
  simp [handleUnsubscribeAllReq]

theorem next_handleUpdateSubscriptionReq : (handleUpdateSubscriptionReq l client).next o =
    { o with
      clientToDataItems := (o.clientToDataItems.update client (.ofList l)).2.1
      dataItemToClients := ((o.dataItemToClients.trimOrRemove (o.clientToDataItems.update client (.ofList l)).1
        (.singleton client)).map.addAll (o.clientToDataItems.update client (.ofList l)).2.2 (.singleton client)).1
          } := by
  simp [handleUpdateSubscriptionReq]

@[simp] theorem next_sendToClients (toBeSent : UnorderedSet DataItemId) (clients : List Client) :
    (sendToClients toBeSent clients).next o = o := by
  induction clients with
  | nil => rfl
  | cons client rest ih => simp [sendToClients, ih]

theorem next_handleNotify (diVec : List (Option Value)) :
    (handleNotify items diVec).next o = (updateCaches items diVec .empty).next o := by
  simp [handleNotify]

theorem sameSubscriptions_notify (dlist : List Value) : SameSubscriptions o ((notify items dlist).next o) := by
  rw [notify, Emit.next_ite]
  split_ifs
  · exact ⟨rfl, rfl, rfl⟩
  · rw [next_handleNotify]
    exact sameSubscriptions_updateCaches items _ _

end States

section Relation

variable [DecidableEq Client] [DecidableEq DataItemId]

/-- No map of the observer has an empty entry. -/
structure Full (o : SystemStatusOsObserver Client DataItemId Value Status) : Prop where
  clients : o.clientToDataItems.NonEmpty
  items : o.dataItemToClients.NonEmpty

/-- Both maps stand for one relation. -/
structure Represents (o : SystemStatusOsObserver Client DataItemId Value Status) (R : Client → DataItemId → Prop) :
    Prop where
  client : ∀ c d, o.clientToDataItems.Linked c d ↔ R c d
  item : ∀ c d, o.dataItemToClients.Linked d c ↔ R c d

variable {o : SystemStatusOsObserver Client DataItemId Value Status} {R : Client → DataItemId → Prop}
  (l : List DataItemId) (client : Client)

theorem Represents.congr (represents : Represents o R) {R' : Client → DataItemId → Prop}
    (same : ∀ c d, R c d ↔ R' c d) :
    Represents o R' :=
  ⟨fun c d => (represents.client c d).trans (same c d), fun c d => (represents.item c d).trans (same c d)⟩

theorem full_handleSubscribeReq (full : Full o) (toRequestData : Bool) :
    Full ((handleSubscribeReq l client toRequestData).next o) := by
  rw [next_handleSubscribeReq]
  exact ⟨(adds_add full.clients client (.ofList l)).full, (adds_addAll full.items _ _).full⟩

theorem represents_handleSubscribeReq (full : Full o) (represents : Represents o R) (toRequestData : Bool) :
    Represents ((handleSubscribeReq l client toRequestData).next o) fun c d => R c d ∨ c = client ∧ d ∈ l := by
  rw [next_handleSubscribeReq]
  constructor
  · intro c d
    refine ((adds_add full.clients client (.ofList l)).linked c d).trans ?_
    rw [represents.client, List.mem_singleton, UnorderedSet.mem_ofList]
  · intro c d
    refine ((adds_addAll full.items _ _).linked d c).trans ?_
    rw [represents.item, UnorderedSet.mem_elems, UnorderedSet.mem_ofList, UnorderedSet.mem_singleton]
    tauto

theorem full_handleUnsubscribeReq (full : Full o) : Full ((handleUnsubscribeReq l client).next o) := by
  rw [next_handleUnsubscribeReq]
  exact ⟨(trims_trimOrRemove full.clients _ _).full, (trims_trimOrRemove full.items _ _).full⟩

theorem represents_handleUnsubscribeReq (full : Full o) (represents : Represents o R) :
    Represents ((handleUnsubscribeReq l client).next o) fun c d => R c d ∧ ¬ (c = client ∧ d ∈ l) := by
  have unused := trims_trimOrRemove full.clients (.singleton client) (.ofList l)
  rw [next_handleUnsubscribeReq]
  constructor
  · intro c d
    refine (unused.linked c d).trans ?_
    rw [represents.client, UnorderedSet.mem_elems, UnorderedSet.mem_singleton, UnorderedSet.mem_ofList]
  · intro c d
    refine ((trims_trimOrRemove full.items _ _).linked d c).trans ?_
    have gone := unused.goneVals d
    simp only [UnorderedSet.mem_elems, UnorderedSet.mem_singleton, UnorderedSet.mem_ofList, UnorderedSet.not_mem_empty,
      false_or, exists_eq_left, represents.client] at gone
    rw [represents.item, UnorderedSet.mem_elems, gone, UnorderedSet.mem_singleton]
    constructor
    · rintro ⟨related, kept⟩
      refine ⟨related, ?_⟩
      rintro ⟨rfl, member⟩
      exact kept ⟨⟨related, member⟩, rfl⟩
    · rintro ⟨related, kept⟩
      refine ⟨related, ?_⟩
      rintro ⟨⟨-, member⟩, same⟩
      exact kept ⟨same, member⟩

theorem full_handleUnsubscribeAllReq (full : Full o) : Full ((handleUnsubscribeAllReq client).next o) := by
  rw [next_handleUnsubscribeAllReq]
  split_ifs
  · exact full
  · exact ⟨full.clients.remove client, (trims_trimOrRemove full.items _ _).full⟩

theorem represents_handleUnsubscribeAllReq (full : Full o) (represents : Represents o R) :
    Represents ((handleUnsubscribeAllReq client).next o) fun c d => R c d ∧ c ≠ client := by
  rw [next_handleUnsubscribeAllReq]
  split_ifs with none
  · rw [UnorderedSet.isEmpty_iff] at none
    have unrelated (c : Client) (d : DataItemId) (related : R c d) : c ≠ client := by
      rintro rfl
      exact none d ((represents.client c d).mpr related)
    constructor
    · intro c d
      rw [represents.client]
      exact ⟨fun related => ⟨related, unrelated c d related⟩, And.left⟩
    · intro c d
      rw [represents.item]
      exact ⟨fun related => ⟨related, unrelated c d related⟩, And.left⟩
  · constructor
    · intro c d
      rw [linked_remove, represents.client, and_comm]
    · intro c d
      refine ((trims_trimOrRemove full.items _ _).linked d c).trans ?_
      rw [represents.item, UnorderedSet.mem_elems, mem_getValSet, represents.client, UnorderedSet.mem_singleton]
      constructor
      · rintro ⟨related, kept⟩
        refine ⟨related, ?_⟩
        rintro rfl
        exact kept ⟨related, rfl⟩
      · rintro ⟨related, other⟩
        exact ⟨related, fun gone => other gone.2⟩

section Update

variable {l} (some : l ≠ [])
include some

theorem ofList_isEmpty : (UnorderedSet.ofList l).isEmpty = false := by
  obtain ⟨d, member⟩ := List.exists_mem_of_ne_nil l some
  exact UnorderedSet.isEmpty_eq_false_iff.mpr ⟨d, by simpa using member⟩

theorem update_eq (m : LocUnorderedSetMap Client DataItemId) : m.update client (.ofList l) =
    ((removeAndReturnInterset (m.getValSet client) (.ofList l)).1, m.put client (.ofList l),
      (removeAndReturnInterset (m.getValSet client) (.ofList l)).2.2) := by
  rw [LocUnorderedSetMap.update, ofList_isEmpty some]
  rfl

theorem full_handleUpdateSubscriptionReq (full : Full o) : Full ((handleUpdateSubscriptionReq l client).next o) := by
  obtain ⟨d, member⟩ := List.exists_mem_of_ne_nil l some
  rw [next_handleUpdateSubscriptionReq]
  refine ⟨?_, (adds_addAll (trims_trimOrRemove full.items _ _).full _ _).full⟩
  rw [update_eq client some]
  exact full.clients.put ⟨d, by simpa using member⟩

/-- `updateSubscription` makes the list the items of the client in the one map. In the other it takes the
client from the items that stay and leaves it at the items that go. -/
theorem linked_handleUpdateSubscriptionReq (full : Full o) (represents : Represents o R) (c : Client) (d : DataItemId) :
    (((handleUpdateSubscriptionReq l client).next o).clientToDataItems.Linked c d ↔
      if c = client then d ∈ l else R c d) ∧
    (((handleUpdateSubscriptionReq l client).next o).dataItemToClients.Linked d c ↔
      if c = client then (R c d ↔ d ∉ l) else R c d) := by
  have common := mem_removeAndReturnInterset (o.clientToDataItems.getValSet client) (.ofList l)
  simp only [mem_getValSet, represents.client, UnorderedSet.mem_ofList] at common
  rw [next_handleUpdateSubscriptionReq, update_eq client some]
  dsimp only
  constructor
  · rw [linked_put, represents.client, UnorderedSet.mem_ofList]
  · have trims := trims_trimOrRemove full.items
      (removeAndReturnInterset (o.clientToDataItems.getValSet client) (.ofList l)).1 (.singleton client)
    refine ((adds_addAll trims.full _ _).linked d c).trans ?_
    rw [trims.linked, represents.item, UnorderedSet.mem_elems, UnorderedSet.mem_elems, (common d).1, (common d).2,
      UnorderedSet.mem_singleton]
    split_ifs with same
    · subst same; tauto
    · simp [same]

end Update

end Relation

end Cypfr.OsObserver
