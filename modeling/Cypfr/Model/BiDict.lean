import Cypfr.Machine.Emit
import Cypfr.ToMathlib.SortedMap

/-! # Identifiers and sessions

`gps/location/LocationAPIClientBase.h`: a client names what it starts by identifiers of its own, the location
API by sessions. `BiDict` maps each to the other and a session to what else is known of it. The geofence calls
of `LocationAPIClientBase.cpp` keep theirs in one such dictionary.
-/

namespace Cypfr.ClientBase

/-- `operator[]` of a map: an absent key is inserted with the value zero. -/
def subscript (m : SortedMap UInt32 UInt32) (key : UInt32) : UInt32 × SortedMap UInt32 UInt32 :=
  match m.find? key with
  | some value => (value, m)
  | none => (0, m.insert key 0)

/-- `BiDict`: identifiers to sessions, sessions to identifiers, and what is known of a session. -/
structure BiDict (T : Type) where
  forwardMap : SortedMap UInt32 UInt32
  backwardMap : SortedMap UInt32 UInt32
  extMap : SortedMap UInt32 T

namespace BiDict

variable {T : Type}

def empty : BiDict T := ⟨.empty, .empty, .empty⟩

def hasId (d : BiDict T) (id : UInt32) : Bool := d.forwardMap.contains id

def hasSession (d : BiDict T) (session : UInt32) : Bool := d.backwardMap.contains session

def set (d : BiDict T) (id session : UInt32) (ext : T) : BiDict T where
  forwardMap := d.forwardMap.insert id session
  backwardMap := d.backwardMap.insert session id
  extMap := d.extMap.insert session ext

def rmById (d : BiDict T) (id : UInt32) : BiDict T :=
  let found := subscript d.forwardMap id
  { forwardMap := found.2.erase id
    backwardMap := d.backwardMap.erase found.1
    extMap := d.extMap.erase found.1 }

def rmBySession (d : BiDict T) (session : UInt32) : BiDict T :=
  let found := subscript d.backwardMap session
  { forwardMap := d.forwardMap.erase found.1
    backwardMap := found.2.erase session
    extMap := d.extMap.erase session }

def getId (d : BiDict T) (session : UInt32) : UInt32 := (d.backwardMap.find? session).getD 0

def getSession (d : BiDict T) (id : UInt32) : UInt32 := (d.forwardMap.find? id).getD 0

/-- `getExtById`, which may leave a new identifier behind. -/
def getExtById [Inhabited T] (d : BiDict T) (id : UInt32) : T × BiDict T :=
  let found := subscript d.forwardMap id
  (if found.1 > 0 then (d.extMap.find? found.1).getD default else default, { d with forwardMap := found.2 })

def getExtBySession [Inhabited T] (d : BiDict T) (session : UInt32) : T := (d.extMap.find? session).getD default

def getAllSessions (d : BiDict T) : List UInt32 := d.backwardMap.entries.map Prod.fst

end BiDict

/-- `GeofenceOption`. -/
structure GeofenceOption where
  size : UInt32
  breachTypeMask : UInt32
  responsiveness : UInt32
  dwellTime : UInt32
deriving DecidableEq

/-- What waits for the response to a geofence call. -/
inductive GeofenceRequest where
  | addGeofences
  | removeGeofences (removed : BiDict UInt32)
  | modifyGeofences
  | resumeGeofences

/-- The calls of the location API; a geofence is added with further data that only passes through. -/
inductive GeofenceCall where
  | addGeofences (options : List GeofenceOption)
  | removeGeofences (sessions : List UInt32)
  | modifyGeofences (sessions : List UInt32) (options : List GeofenceOption)
  | resumeGeofences (sessions : List UInt32)
deriving DecidableEq

def geofenceSessionId : UInt32 := 0xFFFFFFFF

/-- What the geofence calls use of `LocationAPIClientBase`: whether there is a location API, the dictionary, and
the queue of the requests with its session. -/
structure GeofenceClient where
  hasLocationAPI : Bool
  geofenceBiDict : BiDict UInt32
  session : UInt32
  queue : List GeofenceRequest

abbrev GeofenceM := Emit GeofenceClient GeofenceCall

/-- A client that has added no geofence. -/
def GeofenceClient.initial (hasLocationAPI : Bool) : GeofenceClient := ⟨hasLocationAPI, .empty, 0, []⟩

def pushGeofenceRequest (request : GeofenceRequest) : GeofenceM Unit :=
  Emit.modify fun c => { c with queue := c.queue ++ [request] }

/-- A round of the loop of `locAPIAddGeofences`. -/
def setGeofence (d : BiDict UInt32) (added : (UInt32 × GeofenceOption) × UInt32) : BiDict UInt32 :=
  d.set added.1.1 added.2 added.1.2.breachTypeMask

/-- `locAPIAddGeofences` for identifiers with their options; `sessions` is what the location API returns, if not
null. -/
def locAPIAddGeofences (geofences : List (UInt32 × GeofenceOption)) (sessions : Option (List UInt32)) :
    GeofenceM Bool := do
  let c ← Emit.get
  if !c.hasLocationAPI then pure false
  else do
    if c.session ≠ geofenceSessionId then
      Emit.modify fun c => { c with session := geofenceSessionId, queue := [] }
    Emit.emit (.addGeofences (geofences.map Prod.snd))
    match sessions with
    | none => pure false
    | some sessions => do
      pushGeofenceRequest .addGeofences
      Emit.modify fun c => { c with geofenceBiDict := (geofences.zip sessions).foldl setGeofence c.geofenceBiDict }
      pure true

/-- The sessions found so far and the dictionary with what a round of a loop made of it. -/
structure Found where
  sessions : List UInt32
  dict : BiDict UInt32

/-- A round of the loop of `locAPIRemoveGeofences`, with the dictionary of what was removed. -/
def removeGeofence (found : Found × BiDict UInt32) (id : UInt32) : Found × BiDict UInt32 :=
  let session := found.1.dict.getSession id
  if session > 0 then
    (⟨found.1.sessions ++ [session], found.1.dict.rmBySession session⟩,
      found.2.set id session (found.1.dict.getExtBySession session))
  else found

/-- `locAPIRemoveGeofences`. -/
def locAPIRemoveGeofences (ids : List UInt32) : GeofenceM Unit := do
  let c ← Emit.get
  if c.hasLocationAPI ∧ c.session = geofenceSessionId then do
    let found := ids.foldl removeGeofence (⟨[], c.geofenceBiDict⟩, .empty)
    Emit.modify fun c => { c with geofenceBiDict := found.1.dict }
    if found.1.sessions ≠ [] then do
      pushGeofenceRequest (.removeGeofences found.2)
      Emit.emit (.removeGeofences found.1.sessions)

/-- A round of a loop that sets the mask of a geofence. -/
def maskGeofence (found : Found) (masked : UInt32 × UInt32) : Found :=
  let session := found.dict.getSession masked.1
  if session > 0 then ⟨found.sessions ++ [session], found.dict.set masked.1 session masked.2⟩ else found

/-- `locAPIModifyGeofences` for identifiers with their options. -/
def locAPIModifyGeofences (geofences : List (UInt32 × GeofenceOption)) : GeofenceM Unit := do
  let c ← Emit.get
  if c.hasLocationAPI ∧ c.session = geofenceSessionId then do
    let masks := geofences.map fun geofence => (geofence.1, geofence.2.breachTypeMask)
    let found := masks.foldl maskGeofence ⟨[], c.geofenceBiDict⟩
    Emit.modify fun c => { c with geofenceBiDict := found.dict }
    if found.sessions ≠ [] then do
      pushGeofenceRequest .modifyGeofences
      Emit.emit (.modifyGeofences found.sessions (geofences.map Prod.snd))

/-- A round of the loop of `locAPIResumeGeofences` without masks. -/
def resumeGeofence (found : Found) (id : UInt32) : Found :=
  let session := found.dict.getSession id
  if session > 0 then ⟨found.sessions ++ [session], found.dict⟩ else found

/-- `locAPIResumeGeofences`; the masks may be null. -/
def locAPIResumeGeofences (ids : List UInt32) (mask : Option (List UInt32)) : GeofenceM Unit := do
  let c ← Emit.get
  if c.hasLocationAPI ∧ c.session = geofenceSessionId then do
    let found := match mask with
      | some mask => (ids.zip mask).foldl maskGeofence ⟨[], c.geofenceBiDict⟩
      | none => ids.foldl resumeGeofence ⟨[], c.geofenceBiDict⟩
    Emit.modify fun c => { c with geofenceBiDict := found.dict }
    if found.sessions ≠ [] then do
      pushGeofenceRequest .resumeGeofences
      Emit.emit (.resumeGeofences found.sessions)

/-- `locAPIRemoveAllGeofences`, which passes the sessions on as identifiers. -/
def locAPIRemoveAllGeofences : GeofenceM Unit := do
  let c ← Emit.get
  let sessions := c.geofenceBiDict.getAllSessions
  if sessions ≠ [] then locAPIRemoveGeofences sessions

end Cypfr.ClientBase
