import Cypfr.Proofs.LocationApiMsg

/-! # Lists on the way from the daemon

The daemon writes its messages with lists into zeros, and thereby leaves them without a converter: nothing is made of
such a message. With a converter the answers and the batches would arrive with their lists, and of the breached
geofences only the first.
-/

namespace Cypfr.LocationApiPb

open LocHalDaemonClientHandler MsgClass

variable {Bytes : Type} {room : ℕ}

/-- A client gets none of the lists. -/
theorem lists_never_arrive (protobuf : Protobuf Bytes) (mPbufMsgConv : LocationApiPbMsgConv) :
    (∀ (zeros memory : CollectiveResPayload room) (pendingMsgId : ELocMsgID) (resp : List GeofenceResponse),
      ¬ ∃ msg ∈ (LocAPICollectiveRespMsg protobuf).arrives protobuf
        (onCollectiveResponseCallback zeros pendingMsgId resp) mPbufMsgConv memory, msg.body.Carries resp) ∧
    (∀ (zeros memory : LocAPIBatchNotification room) (location : List Location),
      ¬ ∃ msg ∈ (LocAPIBatchingIndMsg protobuf).arrives protobuf (onBatchingCb zeros location) mPbufMsgConv memory,
        msg.body.Carries location) ∧
    ∀ (zeros memory : LocAPIGeofenceBreachNotification room) (timestamp : BitVec 64) (location : Location)
      (type : GeofenceBreachType) (clientIds : List (BitVec 32)),
      ¬ ∃ msg ∈ (LocAPIGeofenceBreachIndMsg protobuf).arrives protobuf
        (onGeofenceBreachCb zeros timestamp location type clientIds) mPbufMsgConv memory,
        msg.body.Carries clientIds := by
  refine ⟨?_, ?_, ?_⟩
  · rintro zeros memory pendingMsgId resp ⟨msg, got, -⟩
    rw [arrives_of_none _ _ rfl] at got
    cases got
  · rintro zeros memory location ⟨msg, got, -⟩
    rw [arrives_of_none _ _ rfl] at got
    cases got
  · rintro zeros memory timestamp location type clientIds ⟨msg, got, -⟩
    rw [arrives_of_none _ _ rfl] at got
    cases got

/-- Messages that stand for their own encoding. -/
inductive Encoded where
  | header (mSocketName : String) (msgId : PBELocMsgID) (msgVersion : BitVec 32) (payload : Encoded)
  | collectiveResp (payload : PBCollectiveResPayload)
  | batchingInd (payload : PBLocAPIBatchNotification)
  | geofenceBreachInd (payload : PBLocAPIGeofenceBreachNotification)

def Encoded.protobuf : Protobuf Encoded where
  header :=
    { SerializeToString := fun m => .header m.mSocketName m.msgId m.msgVersion m.payload
      ParseFromString := fun
        | .header mSocketName msgId msgVersion payload => some ⟨mSocketName, msgId, msgVersion, payload⟩
        | _ => none
      parse_serialize := fun _ => rfl }
  collectiveResp :=
    { SerializeToString := .collectiveResp
      ParseFromString := fun
        | .collectiveResp payload => some payload
        | _ => none
      parse_serialize := fun _ => rfl }
  batchingInd :=
    { SerializeToString := .batchingInd
      ParseFromString := fun
        | .batchingInd payload => some payload
        | _ => none
      parse_serialize := fun _ => rfl }
  geofenceBreachInd :=
    { SerializeToString := .geofenceBreachInd
      ParseFromString := fun
        | .geofenceBreachInd payload => some payload
        | _ => none
      parse_serialize := fun _ => rfl }

/-- The answer to a request for one geofence does not arrive. -/
theorem one_response_lost :
    ¬ ∃ msg ∈ (LocAPICollectiveRespMsg Encoded.protobuf).arrives Encoded.protobuf
      (onCollectiveResponseCallback ⟨0, #v[⟨0, .success⟩]⟩ .E_LOCAPI_ADD_GEOFENCES_MSG_ID [⟨7, .success⟩]) .converter
      ⟨0, #v[⟨0, .success⟩]⟩, msg.body.Carries [⟨7, .success⟩] := by
  rintro ⟨msg, got, -⟩
  cases got

/-! The messages of the daemon, had they been given a converter. -/

section Constructed

variable (protobuf : Protobuf Bytes) (given mPbufMsgConv : LocationApiPbMsgConv)

theorem responses_arrive_constructed (zeros memory : CollectiveResPayload room) (pendingMsgId : ELocMsgID)
    {resp : List GeofenceResponse} (known : ∀ r ∈ resp, r.Known) (fits : resp.length ≤ room)
    (small : resp.length < 2 ^ 32) :
    ∃ msg ∈ (LocAPICollectiveRespMsg protobuf).arrives protobuf
      { onCollectiveResponseCallback zeros pendingMsgId resp with pLocApiPbMsgConv := given } mPbufMsgConv memory,
      msg.msgId = pendingMsgId ∧ msg.body.Carries resp := by
  refine ⟨_, arrives_of_some protobuf _ rfl rfl, rfl, ?_⟩
  apply pbConvertToCollectiveResPayload_carries _ known memory fits
  exact onCollectiveResponseCallback_carries zeros pendingMsgId fits small

theorem locations_arrive_constructed (zeros memory : LocAPIBatchNotification room) {location : List Location}
    (known : ∀ l ∈ location, l.Known) (fits : location.length ≤ room) (small : location.length < 2 ^ 32) :
    ∃ msg ∈ (LocAPIBatchingIndMsg protobuf).arrives protobuf
      { onBatchingCb zeros location with pLocApiPbMsgConv := given } mPbufMsgConv memory,
      msg.body.Carries location := by
  refine ⟨_, arrives_of_some protobuf _ rfl rfl, ?_⟩
  apply pbConvertToLocAPIBatchNotification_carries _ known memory fits
  exact onBatchingCb_carries zeros fits small

/-- The identifiers of breached geofences arrive if the memory of the client happens to hold what is not read. -/
theorem breach_arrives_constructed_iff (zeros memory : LocAPIGeofenceBreachNotification room) (timestamp : BitVec 64)
    (location : Location) (type : GeofenceBreachType) {clientIds : List (BitVec 32)} (nonempty : clientIds ≠ [])
    (fits : clientIds.length ≤ room) (small : clientIds.length < 2 ^ 32) :
    (∃ msg ∈ (LocAPIGeofenceBreachIndMsg protobuf).arrives protobuf
      { onGeofenceBreachCb zeros timestamp location type clientIds with pLocApiPbMsgConv := given }
      mPbufMsgConv memory, msg.body.Carries clientIds) ↔
      memory.count.toNat = clientIds.length ∧
        (memory.id.front clientIds.length).drop 1 = clientIds.drop 1 := by
  have carries := onGeofenceBreachCb_carries zeros timestamp location type fits small
  rw [← pbConvertToLocAPIGfBreachNotification_carries_iff carries nonempty memory fits,
    arrives_of_some protobuf _ rfl rfl]
  constructor
  · rintro ⟨msg, got, same⟩
    obtain rfl := Option.mem_some.mp got
    exact same
  · intro same
    exact ⟨_, rfl, same⟩

end Constructed

end Cypfr.LocationApiPb
