import Cypfr.Model.LocationApiMsg
import Cypfr.Proofs.LocationApiPbMsgConv
import Mathlib.Algebra.Group.Nat.Defs

/-! # Lists in messages

A message of the daemon arrives if it has been given a converter, with the payload that was made of it. What is made
of the payload again has the list of the message, but for breached geofences.
-/

namespace Cypfr.LocationApiPb

theorem getEnumForPBELocMsgID_getPBEnum (msgId : ELocMsgID) :
    getEnumForPBELocMsgID (getPBEnumForELocMsgID msgId) = msgId := by
  cases msgId <;> rfl

theorem getEnumForPBBatchingStatus_getPBEnum (status : BatchingStatus) :
    getEnumForPBBatchingStatus (getPBEnumForBatchingStatus status) = status := by
  cases status <;> rfl

/-- An error with a counterpart in the messages. -/
def GeofenceResponse.Known (resp : GeofenceResponse) : Prop :=
  resp.error = .success ∨ resp.error = .invalidParameter ∨ resp.error = .notSupported ∨ resp.error = .timeout ∨
    resp.error = .generalFailure

theorem getEnumForPBLocationError_getPBEnum {resp : GeofenceResponse} (known : resp.Known) :
    getEnumForPBLocationError (getPBEnumForLocationError resp.error) = resp.error := by
  rcases known with is | is | is | is | is <;> rw [is] <;> rfl

namespace MsgClass

variable {Bytes Body Payload : Type} (protobuf : Protobuf Bytes) (c : MsgClass Bytes Body Payload)

/-- What a client gets of a message. -/
def arrives (msg : LocAPIMsg Body) (mPbufMsgConv : LocationApiPbMsgConv) (memory : Body) : Option (LocAPIMsg Body) :=
  (c.serializeToProtobuf protobuf msg).bind fun data => c.onReceive protobuf data mPbufMsgConv memory

variable {mPbufMsgConv : LocationApiPbMsgConv} {msg : LocAPIMsg Body} {memory : Body}

theorem arrives_of_none (unset : msg.pLocApiPbMsgConv = none) : c.arrives protobuf msg mPbufMsgConv memory = none := by
  rw [arrives, serializeToProtobuf, unset]
  rfl

theorem arrives_of_some {given : LocationApiPbMsgConv} (set : msg.pLocApiPbMsgConv = some given)
    (name : msg.mSocketName = SERVICE_NAME) :
    c.arrives protobuf msg mPbufMsgConv memory =
      some ⟨.construct SERVICE_NAME msg.msgId mPbufMsgConv, c.pbConvert (c.convertToPB msg.body) memory⟩ := by
  have valid : (LocAPIMsgHeader.construct SERVICE_NAME msg.msgId none).isValidServerMsg = true := by
    simp [LocAPIMsgHeader.isValidServerMsg, LocAPIMsgHeader.construct]
  rw [arrives, serializeToProtobuf, set, name]
  simp only [Option.bind_some, onReceive, protobuf.header.parse_serialize, c.encoding.parse_serialize,
    getEnumForPBELocMsgID_getPBEnum, valid, if_true, bind, pure]
  rfl

end MsgClass

section Lists

variable {room there : ℕ}

/-- The list of a message. -/
def CollectiveResPayload.Carries (payload : CollectiveResPayload room) (resp : List GeofenceResponse) : Prop :=
  payload.count.toNat = resp.length ∧ payload.resp.front resp.length = resp

structure LocAPIBatchNotification.Carries (notif : LocAPIBatchNotification room) (location : List Location) : Prop where
  status : notif.status = .BATCHING_STATUS_POSITION_AVAILABE
  count : notif.count.toNat = location.length
  locations : notif.location.front location.length = location

def LocAPIGeofenceBreachNotification.Carries (notif : LocAPIGeofenceBreachNotification room)
    (id : List (BitVec 32)) : Prop :=
  notif.count.toNat = id.length ∧ notif.id.front id.length = id

theorem front_store_map_map {α β : Type} {convert : α → β} {back : β → α} {items : List α} (memory : Vector α there)
    (fits : items.length ≤ there) (same : ∀ x ∈ items, back (convert x) = x) :
    (memory.store ((items.map convert).map back)).front items.length = items := by
  have copied : (items.map convert).map back = items := by
    rw [List.map_map]
    exact (List.map_congr_left same).trans (List.map_id _)
  rw [copied, Vector.front_store _ fits]

theorem count_ofNat {count : BitVec 32} {n : ℕ} (is : count.toNat = n) : (BitVec.ofNat 32 n).toNat = n := by
  have small := count.isLt
  rw [is] at small
  rw [BitVec.toNat_ofNat, Nat.mod_eq_of_lt small]

theorem pbConvertToCollectiveResPayload_carries {payload : CollectiveResPayload room} {resp : List GeofenceResponse}
    (carries : payload.Carries resp) (known : ∀ r ∈ resp, r.Known) (memory : CollectiveResPayload there)
    (fits : resp.length ≤ there) :
    (pbConvertToCollectiveResPayload (convertCollectiveResPayloadToPB payload) memory).Carries resp := by
  obtain ⟨count, list⟩ := carries
  rw [pbConvertToCollectiveResPayload, convertCollectiveResPayloadToPB, count, list]
  refine ⟨?_, front_store_map_map _ fits fun r member => ?_⟩
  · rw [List.length_map, count_ofNat count]
  · rw [getEnumForPBLocationError_getPBEnum (known r member)]

theorem pbConvertToLocAPIBatchNotification_carries {notif : LocAPIBatchNotification room} {location : List Location}
    (carries : notif.Carries location) (known : ∀ l ∈ location, l.Known) (memory : LocAPIBatchNotification there)
    (fits : location.length ≤ there) :
    (pbConvertToLocAPIBatchNotification (convertLocAPIBatchingNotifMsgToPB notif) memory).Carries location := by
  obtain ⟨status, count, list⟩ := carries
  rw [pbConvertToLocAPIBatchNotification, convertLocAPIBatchingNotifMsgToPB, count, list]
  refine ⟨?_, ?_, front_store_map_map _ fits fun l member => pbConvertToLocation_convert (known l member)⟩
  · rw [getEnumForPBBatchingStatus_getPBEnum, status]
  · rw [List.length_map, count_ofNat count]

/-- Of the breached geofences only one gets through, if the memory happens to count it. -/
theorem pbConvertToLocAPIGfBreachNotification_carries_iff {notif : LocAPIGeofenceBreachNotification room}
    {id : List (BitVec 32)} (carries : notif.Carries id) (nonempty : id ≠ [])
    (memory : LocAPIGeofenceBreachNotification there) (fits : id.length ≤ there) :
    (pbConvertToLocAPIGfBreachNotification (convertLocAPIGfBreachNotifToPB notif) memory).Carries id ↔
      memory.count.toNat = id.length ∧ (memory.id.front id.length).drop 1 = id.drop 1 := by
  obtain ⟨count, list⟩ := carries
  have some : 1 ≤ id.length := List.length_pos_iff.mpr nonempty
  have one : (id.take 1).length = 1 := by rw [List.length_take, Nat.min_eq_left some]
  rw [pbConvertToLocAPIGfBreachNotification, convertLocAPIGfBreachNotifToPB, count, list]
  refine and_congr_right fun _ => ?_
  show (memory.id.store (id.take 1)).front id.length = id ↔ _
  rw [Vector.front_store_append _ (one.symm ▸ some) fits, one]
  have split := (List.take_append_drop 1 id).symm
  constructor
  · intro whole
    exact List.append_cancel_left (whole.trans split)
  · intro rest
    rw [rest, ← split]

end Lists

namespace LocHalDaemonClientHandler

variable {room : ℕ}

theorem onCollectiveResponseCallback_carries {resp : List GeofenceResponse} (zeros : CollectiveResPayload room)
    (pendingMsgId : ELocMsgID) (fits : resp.length ≤ room) (small : resp.length < 2 ^ 32) :
    (onCollectiveResponseCallback zeros pendingMsgId resp).body.Carries resp :=
  ⟨(BitVec.toNat_ofNat _ _).trans (Nat.mod_eq_of_lt small), Vector.front_store _ fits⟩

theorem onBatchingCb_carries {location : List Location} (zeros : LocAPIBatchNotification room)
    (fits : location.length ≤ room) (small : location.length < 2 ^ 32) :
    (onBatchingCb zeros location).body.Carries location where
  status := rfl
  count := (BitVec.toNat_ofNat _ _).trans (Nat.mod_eq_of_lt small)
  locations := Vector.front_store _ fits

theorem onGeofenceBreachCb_carries {clientIds : List (BitVec 32)} (zeros : LocAPIGeofenceBreachNotification room)
    (timestamp : BitVec 64) (location : Location) (type : GeofenceBreachType) (fits : clientIds.length ≤ room)
    (small : clientIds.length < 2 ^ 32) :
    (onGeofenceBreachCb zeros timestamp location type clientIds).body.Carries clientIds :=
  ⟨(BitVec.toNat_ofNat _ _).trans (Nat.mod_eq_of_lt small), Vector.front_store _ fits⟩

end LocHalDaemonClientHandler

end Cypfr.LocationApiPb
