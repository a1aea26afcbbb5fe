import Cypfr.Machine.Emit
import Cypfr.Model.LocUnorderedSetMap

/-! # The observer of the framework's data items

`core/SystemStatusOsObserver.cpp`: clients subscribe to data items, the observer subscribes to them at
the framework, caches the values the framework reports and passes them on. Requests are messages to one
task, so each is processed as a whole.

The data items themselves come from a library that is loaded at run time, and `SystemStatus` keeps a
report of its own for each of them: what the observer uses of the two is a parameter.
-/

namespace Cypfr.OsObserver

open Cypfr.LocUtil

/-- What the observer uses of `IDataItemCore`, its factory and `SystemStatus`. A copy also says whether it
changed the target. -/
structure DataItems (DataItemId Value Status : Type) where
  getId : Value → DataItemId
  createNewDataItem : DataItemId → Option Value
  copy : Value → Value → Value × Bool
  eventDataItemNotify : Status → Value → Bool × Status

variable {Client DataItemId Value Status : Type}

/-- The observer, with whether its subscription object is set. -/
structure SystemStatusOsObserver (Client DataItemId Value Status : Type) where
  clientToDataItems : LocUnorderedSetMap Client DataItemId
  dataItemToClients : LocUnorderedSetMap DataItemId Client
  dataItemCache : AList fun _ : DataItemId => Value
  subscriptionObj : Bool
  systemStatus : Status

/-- The observer as it is constructed. -/
def SystemStatusOsObserver.start (status : Status) : SystemStatusOsObserver Client DataItemId Value Status :=
  { clientToDataItems := .empty, dataItemToClients := .empty, dataItemCache := ∅, subscriptionObj := false,
    systemStatus := status }

/-- The calls of the observer: the first three go to the subscription object, the last to a client. -/
inductive Call (Client DataItemId Value : Type) where
  | subscribe (l : List DataItemId)
  | unsubscribe (l : List DataItemId)
  | requestData (l : List DataItemId)
  | notify (client : Client) (dlist : List Value)
deriving DecidableEq

abbrev ObserverM (Client DataItemId Value Status : Type) :=
  Emit (SystemStatusOsObserver Client DataItemId Value Status) (Call Client DataItemId Value)

/-- `containerTransfer` from a set to a list: every element is put in front. -/
def containerTransfer (s : UnorderedSet DataItemId) : List DataItemId := s.elems.reverse

variable [DecidableEq Client] [DecidableEq DataItemId]

/-- Put the cached value of an item in front. -/
def pushCached (cache : AList fun _ : DataItemId => Value) (dataItems : List Value) (each : DataItemId) : List Value :=
  match cache.lookup each with
  | some value => value :: dataItems
  | none => dataItems

/-- The cached values of some items. -/
def cachedDataItems (cache : AList fun _ : DataItemId => Value) (s : UnorderedSet DataItemId) : List Value :=
  s.elems.foldl (pushCached cache) []

/-- `sendCachedDataItems`. -/
def sendCachedDataItems (s : UnorderedSet DataItemId) (client : Client) :
    ObserverM Client DataItemId Value Status Unit := do
  let o ← Emit.get
  let dataItems := cachedDataItems o.dataItemCache s
  if dataItems.isEmpty then pure ()
  else Emit.emit (.notify client dataItems)

/-- `setSubscriptionObj`. -/
def setSubscriptionObj : ObserverM Client DataItemId Value Status Unit := do
  Emit.modify fun o => { o with subscriptionObj := true }
  let o ← Emit.get
  if o.dataItemToClients.getKeys.isEmpty then pure ()
  else do
    let dis := containerTransfer o.dataItemToClients.getKeys
    Emit.emit (.subscribe dis)
    Emit.emit (.requestData dis)

/-- `HandleSubscribeReq`. -/
def handleSubscribeReq (l : List DataItemId) (client : Client) (toRequestData : Bool) :
    ObserverM Client DataItemId Value Status Unit := do
  let dataItemSet := UnorderedSet.ofList l
  let o ← Emit.get
  let added := o.dataItemToClients.addAll dataItemSet (.singleton client)
  Emit.modify fun o =>
    { o with dataItemToClients := added.1, clientToDataItems := (o.clientToDataItems.add client dataItemSet).2 }
  sendCachedDataItems dataItemSet client
  if o.subscriptionObj then
    if toRequestData then Emit.emit (.requestData l)
    else if added.2.isEmpty then pure ()
    else Emit.emit (.subscribe (containerTransfer added.2))
  else pure ()

/-- `HandleUpdateSubscriptionReq`. -/
def handleUpdateSubscriptionReq (l : List DataItemId) (client : Client) :
    ObserverM Client DataItemId Value Status Unit := do
  let o ← Emit.get
  let updated := o.clientToDataItems.update client (.ofList l)
  let trimmed := o.dataItemToClients.trimOrRemove updated.1 (.singleton client)
  let added := trimmed.map.addAll updated.2.2 (.singleton client)
  Emit.modify fun o => { o with clientToDataItems := updated.2.1, dataItemToClients := added.1 }
  sendCachedDataItems updated.2.2 client
  if o.subscriptionObj then do
    if added.2.isEmpty then pure ()
    else Emit.emit (.subscribe (containerTransfer added.2))
    if trimmed.goneKeys.isEmpty then pure ()
    else Emit.emit (.unsubscribe (containerTransfer trimmed.goneKeys))
  else pure ()

/-- `HandleUnsubscribeReq`. -/
def handleUnsubscribeReq (l : List DataItemId) (client : Client) : ObserverM Client DataItemId Value Status Unit := do
  let o ← Emit.get
  let unused := o.clientToDataItems.trimOrRemove (.singleton client) (.ofList l)
  let trimmed := o.dataItemToClients.trimOrRemove unused.goneVals (.singleton client)
  Emit.modify fun o => { o with clientToDataItems := unused.map, dataItemToClients := trimmed.map }
  if o.subscriptionObj && !trimmed.goneKeys.isEmpty then
    Emit.emit (.unsubscribe (containerTransfer trimmed.goneKeys))
  else pure ()

/-- `HandleUnsubscribeAllReq`. -/
def handleUnsubscribeAllReq (client : Client) : ObserverM Client DataItemId Value Status Unit := do
  let o ← Emit.get
  let diByClient := o.clientToDataItems.getValSet client
  if diByClient.isEmpty then pure ()
  else do
    let trimmed := o.dataItemToClients.trimOrRemove diByClient (.singleton client)
    Emit.modify fun o =>
      { o with clientToDataItems := o.clientToDataItems.remove client, dataItemToClients := trimmed.map }
    if !trimmed.goneKeys.isEmpty && o.subscriptionObj then
      Emit.emit (.unsubscribe (containerTransfer trimmed.goneKeys))
    else pure ()

section Notify

variable (items : DataItems DataItemId Value Status)

/-- `updateCache`; the value is none for a null pointer. -/
def updateCache (d : Option Value) : ObserverM Client DataItemId Value Status Bool :=
  match d with
  | none => pure false
  | some d => do
    let o ← Emit.get
    let handled := items.eventDataItemNotify o.systemStatus d
    Emit.modify fun o => { o with systemStatus := handled.2 }
    if handled.1 then
      match o.dataItemCache.lookup (items.getId d) with
      | none =>
        match items.createNewDataItem (items.getId d) with
        | none => pure false
        | some dataitem => do
          Emit.modify fun o =>
            { o with dataItemCache := o.dataItemCache.insert (items.getId d) (items.copy dataitem d).1 }
          pure true
      | some cached => do
        Emit.modify fun o =>
          { o with dataItemCache := o.dataItemCache.insert (items.getId d) (items.copy cached d).1 }
        pure (items.copy cached d).2
    else pure false

/-- The first loop of `HandleNotify`: the identifiers of the values that changed the cache. -/
def updateCaches : List (Option Value) → UnorderedSet DataItemId →
    ObserverM Client DataItemId Value Status (UnorderedSet DataItemId)
  | [], toBeSent => pure toBeSent
  | item :: rest, toBeSent => do
    let updated ← updateCache items item
    updateCaches rest (if updated then toBeSent.insertAll (item.toList.map items.getId) else toBeSent)

/-- Insert the clients of a data item. -/
def insertClients (m : LocUnorderedSetMap DataItemId Client) (clientSet : UnorderedSet Client) (each : DataItemId) :
    UnorderedSet Client :=
  match m.getValSetPtr each with
  | some clients => clientSet.insertAll clients.elems
  | none => clientSet

/-- The clients of some data items. -/
def clientsOf (m : LocUnorderedSetMap DataItemId Client) (ids : UnorderedSet DataItemId) : UnorderedSet Client :=
  ids.elems.foldl (insertClients m) .empty

/-- The last loop of `HandleNotify`. -/
def sendToClients (toBeSent : UnorderedSet DataItemId) : List Client → ObserverM Client DataItemId Value Status Unit
  | [] => pure ()
  | client :: rest => do
    let o ← Emit.get
    sendCachedDataItems ((o.clientToDataItems.getValSet client).filter fun id => id ∈ toBeSent) client
    sendToClients toBeSent rest

/-- `HandleNotify`. -/
def handleNotify (diVec : List (Option Value)) : ObserverM Client DataItemId Value Status Unit := do
  let toBeSent ← updateCaches items diVec .empty
  let o ← Emit.get
  sendToClients toBeSent (clientsOf o.dataItemToClients toBeSent).elems

/-- The copies that `notify` hands to the task, behind as many null pointers as the list is long. -/
def copies (dlist : List Value) : List (Option Value) :=
  List.replicate dlist.length none ++ dlist.filterMap fun each =>
    (items.createNewDataItem (items.getId each)).map fun di => some (items.copy di each).1

/-- `notify`. -/
def notify (dlist : List Value) : ObserverM Client DataItemId Value Status Unit :=
  if dlist.isEmpty then pure () else handleNotify items (copies items dlist)

end Notify

/-- The requests; the client is none for a null pointer. -/
inductive Request (Client DataItemId Value : Type) where
  | setSubscriptionObj
  | subscribe (l : List DataItemId) (client : Option Client) (toRequestData : Bool)
  | updateSubscription (l : List DataItemId) (client : Option Client)
  | unsubscribe (l : List DataItemId) (client : Option Client)
  | unsubscribeAll (client : Option Client)
  | notify (dlist : List Value)
deriving DecidableEq

/-- A request that names items and a client, unless one of them is missing. -/
def withClient (l : List DataItemId) (client : Option Client)
    (handle : Client → ObserverM Client DataItemId Value Status Unit) : ObserverM Client DataItemId Value Status Unit :=
  match client with
  | none => pure ()
  | some client => if l.isEmpty then pure () else handle client

/-- The processing of a request. -/
def Request.proc (items : DataItems DataItemId Value Status) :
    Request Client DataItemId Value → ObserverM Client DataItemId Value Status Unit
  | .setSubscriptionObj => OsObserver.setSubscriptionObj
  | .subscribe l client toRequestData => withClient l client fun client => handleSubscribeReq l client toRequestData
  | .updateSubscription l client => withClient l client (handleUpdateSubscriptionReq l)
  | .unsubscribe l client => withClient l client (handleUnsubscribeReq l)
  | .unsubscribeAll client =>
    match client with
    | none => pure ()
    | some client => handleUnsubscribeAllReq client
  | .notify dlist => OsObserver.notify items dlist

end Cypfr.OsObserver
