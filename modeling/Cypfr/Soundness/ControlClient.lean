import Cypfr.Machine.Run
import Cypfr.Model.ControlClient

/-! # No configuration request is answered

The array of a queue is only replaced where there is one, and there is none to begin with. No response finds a
request, so none that was sent is answered.
-/

namespace Cypfr.ClientBase

open Machine Tracking

/-- The calls of a client, each with what the control API returns, and the responses. -/
inductive ControlEvent where
  | updateConfig (config : GnssConfig) (idArray : Option SessionArrayPtr)
  | getConfig (mask : UInt32) (idArray : Option SessionArrayPtr)
  | collectiveResponse (errors : List LocationError) (ids : SessionArrayPtr)

/-- A client with the requests it sent, each with its array, the arrays that are not answered yet, and the requests
that were called back with the arrays of the callbacks. -/
structure ControlExchange where
  client : ControlClient
  sent : List (ConfigRequest × SessionArrayPtr)
  outstanding : List SessionArrayPtr
  answered : List (ConfigRequest × Option SessionArrayPtr)

namespace ControlExchange

variable {x : ControlExchange} {e : ControlEvent}

def initial (hasLocationControlAPI : Bool) : ControlExchange := ⟨.initial hasLocationControlAPI, [], [], []⟩

/-- The request of a call, when the control API is called. -/
def request : ControlCall → Option ConfigRequest
  | .gnssUpdateConfig _ => some .gnssUpdateConfig
  | .gnssGetConfig _ => some .gnssGetConfig
  | _ => none

/-- The request that a callback answers. -/
def callback : ControlCall → Option (ConfigRequest × Option SessionArrayPtr)
  | .onGnssUpdateConfigCb _ ids => some (.gnssUpdateConfig, ids)
  | .onGnssGetConfigCb _ ids => some (.gnssGetConfig, ids)
  | _ => none

/-- The requests among some calls, with the array that the control API returned for them. -/
def requested (calls : List ControlCall) (idArray : Option SessionArrayPtr) : List (ConfigRequest × SessionArrayPtr) :=
  idArray.elim [] fun idArray => (calls.filterMap request).map fun request => (request, idArray)

/-- What a call of the client comes to. -/
def call (x : ControlExchange) (program : ControlM LocationError) (idArray : Option SessionArrayPtr) :
    ControlExchange where
  client := program.next x.client
  sent := x.sent ++ requested (program.emitted x.client) idArray
  outstanding := x.outstanding ++ (requested (program.emitted x.client) idArray).map Prod.snd
  answered := x.answered ++ (program.emitted x.client).filterMap callback

/-- What a response comes to. -/
def respond (x : ControlExchange) (errors : List LocationError) (ids : SessionArrayPtr) : ControlExchange where
  client := (onCtrlCollectiveResponseCb errors (some ids)).next x.client
  sent := x.sent
  outstanding := x.outstanding.erase ids
  answered := x.answered ++ ((onCtrlCollectiveResponseCb errors (some ids)).emitted x.client).filterMap callback

def step (x : ControlExchange) : ControlEvent → ControlExchange
  | .updateConfig config idArray => x.call (locAPIGnssUpdateConfig config idArray) idArray
  | .getConfig mask idArray => x.call (locAPIGnssGetConfig mask idArray) idArray
  | .collectiveResponse errors ids => x.respond errors ids

/-- A response carries the array that was returned for a request that is not answered yet. -/
def Carries (x : ControlExchange) : ControlEvent → Prop
  | .collectiveResponse _ ids => ids ∈ x.outstanding
  | _ => True

/-- Each request that was sent is called back once, with its array. -/
def EachCalledBack (x : ControlExchange) : Prop :=
  x.answered.Perm (x.sent.map fun request => (request.1, some request.2))

/-- The client sends no request: it has no control API, knows the configuration already, or gets no array. -/
def SendsNothing (x : ControlExchange) : ControlEvent → Prop
  | .updateConfig config idArray =>
    x.client.hasLocationControlAPI = false ∨ x.client.config.equals config ∨ idArray = none
  | .getConfig _ idArray => x.client.hasLocationControlAPI = false ∨ idArray = none
  | .collectiveResponse _ _ => True

/-- No queue has an array, and nothing was called back. -/
structure Unanswered (x : ControlExchange) : Prop where
  noUpdateArray : x.client.configUpdate.sessionArrayPtr = none
  noGetArray : x.client.configGet.sessionArrayPtr = none
  noCallback : x.answered = []

theorem pushFor_array {q : ConfigRequestQueue} (none : q.sessionArrayPtr = none) (idArray : SessionArrayPtr)
    (request : ConfigRequest) : (q.pushFor idArray request).sessionArrayPtr = .none := by
  rw [ConfigRequestQueue.pushFor, if_neg (not_not.mpr none)]
  exact none

section Calls

variable {c : ControlClient} (config : GnssConfig) (mask : UInt32) (idArray : Option SessionArrayPtr)

theorem updateConfig_emitted : (locAPIGnssUpdateConfig config idArray).emitted c =
    if c.hasLocationControlAPI ∧ ¬ c.config.equals config then [.gnssUpdateConfig config] else [] := by
  cases has : c.hasLocationControlAPI <;> cases same : c.config.equals config <;> cases idArray <;>
    simp [locAPIGnssUpdateConfig, has, same]

theorem getConfig_emitted : (locAPIGnssGetConfig mask idArray).emitted c =
    if c.hasLocationControlAPI then [.gnssGetConfig mask] else [] := by
  cases has : c.hasLocationControlAPI <;> cases idArray <;> simp [locAPIGnssGetConfig, has]

theorem updateConfig_arrays (noUpdateArray : c.configUpdate.sessionArrayPtr = none) :
    ((locAPIGnssUpdateConfig config idArray).next c).configUpdate.sessionArrayPtr = none ∧
      ((locAPIGnssUpdateConfig config idArray).next c).configGet = c.configGet := by
  cases has : c.hasLocationControlAPI <;> cases same : c.config.equals config <;> cases idArray <;>
    simp [locAPIGnssUpdateConfig, has, same, noUpdateArray, pushFor_array]

theorem getConfig_arrays (noGetArray : c.configGet.sessionArrayPtr = none) :
    ((locAPIGnssGetConfig mask idArray).next c).configGet.sessionArrayPtr = none ∧
      ((locAPIGnssGetConfig mask idArray).next c).configUpdate = c.configUpdate := by
  cases has : c.hasLocationControlAPI <;> cases idArray <;>
    simp [locAPIGnssGetConfig, has, noGetArray, pushFor_array]

/-- A response finds no request while no queue has an array. -/
theorem response_ignored (noUpdateArray : c.configUpdate.sessionArrayPtr = none)
    (noGetArray : c.configGet.sessionArrayPtr = none) (errors : List LocationError) (ids : SessionArrayPtr) :
    onCtrlCollectiveResponseCb errors (some ids) c = ((), c, []) := by
  have found : getRequestBySessionArrayPtr (some ids) c = (none, c, []) := by
    rw [getRequestBySessionArrayPtr, Emit.get_bind_apply, noUpdateArray, noGetArray,
      if_neg (Option.some_ne_none ids).symm, if_neg (Option.some_ne_none ids).symm]
    rfl
  exact Emit.bind_eq found rfl

end Calls

theorem unanswered_step (unanswered : x.Unanswered) : (x.step e).Unanswered := by
  obtain ⟨noUpdateArray, noGetArray, noCallback⟩ := unanswered
  cases e with
  | updateConfig config idArray =>
    obtain ⟨update, get⟩ := updateConfig_arrays config idArray noUpdateArray
    refine ⟨update, (congrArg ConfigRequestQueue.sessionArrayPtr get).trans noGetArray, ?_⟩
    rw [step, call, noCallback, updateConfig_emitted]
    split_ifs <;> rfl
  | getConfig mask idArray =>
    obtain ⟨get, update⟩ := getConfig_arrays mask idArray noGetArray
    refine ⟨(congrArg ConfigRequestQueue.sessionArrayPtr update).trans noUpdateArray, get, ?_⟩
    rw [step, call, noCallback, getConfig_emitted]
    split_ifs <;> rfl
  | collectiveResponse errors ids =>
    have ignored := response_ignored noUpdateArray noGetArray errors ids
    refine ⟨?_, ?_, ?_⟩
    · rw [step, respond, Emit.next, ignored]
      exact noUpdateArray
    · rw [step, respond, Emit.next, ignored]
      exact noGetArray
    · rw [step, respond, Emit.emitted, ignored]
      exact (List.append_nil _).trans noCallback

/-- No request was sent after a step exactly when none was before and the step sends none. -/
theorem sent_step_iff : (x.step e).sent = [] ↔ x.sent = [] ∧ x.SendsNothing e := by
  cases e with
  | updateConfig config idArray =>
    rw [step, call, List.append_eq_nil_iff, updateConfig_emitted]
    cases has : x.client.hasLocationControlAPI <;> cases same : x.client.config.equals config <;> cases idArray <;>
      simp [SendsNothing, requested, request, has, same]
  | getConfig mask idArray =>
    rw [step, call, List.append_eq_nil_iff, getConfig_emitted]
    cases has : x.client.hasLocationControlAPI <;> cases idArray <;> simp [SendsNothing, requested, request, has]
  | collectiveResponse errors ids => exact (and_iff_left trivial).symm

/-- In every run in which all requests get their responses, each is called back exactly when there are none. -/
theorem each_called_back_iff (hasLocationControlAPI : Bool) (events : List ControlEvent) :
    EachStep step Carries (.initial hasLocationControlAPI) events →
      (events.foldl step (.initial hasLocationControlAPI)).outstanding = [] →
        ((events.foldl step (.initial hasLocationControlAPI)).EachCalledBack ↔
          EachStep step SendsNothing (.initial hasLocationControlAPI) events) := by
  intro carries _
  have unanswered : Throughout step Unanswered (.initial hasLocationControlAPI) events :=
    throughout_of_eachStep ⟨rfl, rfl, rfl⟩ (fun _ _ unanswered _ => unanswered_step unanswered) carries
  have none := (unanswered events List.prefix_rfl).noCallback
  have sent := final_iff_eachStep_of (P := fun x => x.sent = []) carries (I := fun _ => True) trivial
    (fun _ _ _ _ => trivial) rfl fun _ _ _ _ => sent_step_iff
  rw [← sent, EachCalledBack, none, List.nil_perm, List.map_eq_nil_iff]

section Asked

/-- A client asks for its configuration and gets the response. -/
def askOnce : List ControlEvent := [.getConfig 1 (some 4096), .collectiveResponse [.success] 4096]

theorem carries_askOnce : EachStep step Carries (.initial true) askOnce :=
  eachStep_cons trivial (eachStep_cons (List.mem_singleton.mpr rfl) eachStep_nil)

theorem each_called_back_iff_askOnce : (askOnce.foldl step (.initial true)).EachCalledBack ↔
    EachStep step SendsNothing (.initial true) askOnce :=
  each_called_back_iff true askOnce carries_askOnce rfl

/-- The response is not passed on. -/
theorem response_lost : ¬ ∀ events, EachStep step Carries (.initial true) events →
    (events.foldl step (.initial true)).outstanding = [] → (events.foldl step (.initial true)).EachCalledBack := by
  intro always
  have perm := (always askOnce carries_askOnce rfl).length_eq
  exact absurd perm (by decide)

end Asked

end ControlExchange

end Cypfr.ClientBase
