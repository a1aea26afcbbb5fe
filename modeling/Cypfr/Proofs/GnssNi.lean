import Cypfr.Model.GnssNi

/-! # The steps of network initiated requests

What an event can do to the adapter and the threads, case by case. The results about runs rest on these cases.
-/

namespace Cypfr.GnssNi

variable {Client Payload : Type}

/-- The payload that a message carries. -/
def LocMsg.payload? : LocMsg Client Payload → Option Payload
  | .reportNiNotify _ data _ => some data
  | .informNiResponse _ payload => some payload
  | _ => none

/-- The message that an event posts. -/
def Event.posts? : Event Client Payload → Option (LocMsg Client Payload)
  | .addClient client callbacks => some (.addClient client callbacks)
  | .removeClient client => some (.removeClient client)
  | .requestNiNotifyEvent notify data state => some (.reportNiNotify notify data state)
  | .gnssNiResponseCommand client id response => some (.gnssNiResponse client id response)
  | .adapter _ _ => none
  | .thread _ _ => none

/-- What a thread takes out of its session to send it. -/
def taken (resp : GnssNiResponse) (raw : Option Payload) : Option (GnssNiResponse × Payload) :=
  if resp = .ignore then none else raw.map fun payload => (resp, payload)

/-- What it frees. -/
def freed (resp : GnssNiResponse) (raw : Option Payload) : List (Output Client Payload) :=
  if resp = .ignore then raw.toList.map .free else []

/-- A request that the adapter leaves to the clients, and that no emergency accepts. -/
def undecided (conf : NiConf) (notify : GnssNiNotification) (state : LocInEmergency) : Bool :=
  !denied conf notify state && notify.type != .emergencySupl &&
    !(notify.type == .controlPlane && isInEmergency conf state && conf.cpMtlrEs == 1)

/-- A thread that has not yet taken the request out of a session. -/
def NiThread.serves (k : NiKind) : NiThread Payload → Bool
  | .starting j => j == k
  | .waiting j => j == k
  | _ => false

def NiThread.payload? : NiThread Payload → Option Payload
  | .unlocked _ (some (_, payload)) => some payload
  | .cleared (some (_, payload)) => some payload
  | _ => none

variable [LinearOrder Client]

/-- The request that the task loses with a message: there is no client to tell. -/
def System.loses? (s : System Client Payload) (conf : NiConf) : LocMsg Client Payload → Option Payload
  | .reportNiNotify notify data state => if s.gnssNiCb = none ∧ undecided conf notify state then some data else none
  | _ => none

/-- The request that is lost with an event. -/
def System.dropped? (s : System Client Payload) : Event Client Payload → Option Payload
  | .adapter conf _ => if s.task = .idle then s.msgs.head?.bind (s.loses? conf) else none
  | _ => none

section Fields

variable {s : System Client Payload} {k : NiKind} {f : NiSession Payload → NiSession Payload}

@[simp] theorem sessions_modifySession :
    (s.modifySession k f).sessions = Function.update s.sessions k (f (s.sessions k)) := rfl
@[simp] theorem msgs_modifySession : (s.modifySession k f).msgs = s.msgs := rfl
@[simp] theorem threads_modifySession : (s.modifySession k f).threads = s.threads := rfl
@[simp] theorem task_modifySession : (s.modifySession k f).task = s.task := rfl

variable {response : GnssNiResponse}

@[simp] theorem msgs_writeResponse : (s.writeResponse k response).msgs = s.msgs := rfl
@[simp] theorem threads_writeResponse : (s.writeResponse k response).threads = s.threads := rfl

/-- A session keeps its request when something else of it changes. -/
theorem rawRequest_modifySession (keeps : ∀ session, (f session).rawRequest = session.rawRequest) (j : NiKind) :
    ((s.modifySession k f).sessions j).rawRequest = (s.sessions j).rawRequest := by
  rw [sessions_modifySession]
  rcases eq_or_ne j k with rfl | other
  · rw [Function.update_self, keeps]
  · rw [Function.update_of_ne other]

@[simp] theorem rawRequest_writeResponse (j : NiKind) :
    ((s.writeResponse k response).sessions j).rawRequest = (s.sessions j).rawRequest :=
  rawRequest_modifySession (f := fun session => { session with resp := response, respRecvd := true }) (fun _ => rfl) j

variable {msg : LocMsg Client Payload}

@[simp] theorem sessions_sendMsg : (s.sendMsg msg).sessions = s.sessions := rfl
@[simp] theorem msgs_sendMsg : (s.sendMsg msg).msgs = s.msgs ++ [msg] := rfl
@[simp] theorem threads_sendMsg : (s.sendMsg msg).threads = s.threads := rfl
@[simp] theorem task_sendMsg : (s.sendMsg msg).task = s.task := rfl

variable {client : Client} {notify : GnssNiNotification} {data : Payload}

@[simp] theorem sessions_save : (s.save k client notify data).sessions =
    Function.update s.sessions k { s.sessions k with rawRequest := some data, reqID := s.reqIDCounter + 1 } := rfl
@[simp] theorem msgs_save : (s.save k client notify data).msgs = s.msgs := rfl
@[simp] theorem threads_save : (s.save k client notify data).threads = s.threads := rfl
@[simp] theorem task_save : (s.save k client notify data).task = .saved k client notify := rfl

variable [DecidableEq Payload] {t t' : NiThread Payload}

@[simp] theorem sessions_moveThread : (s.moveThread t t').sessions = s.sessions := rfl
@[simp] theorem msgs_moveThread : (s.moveThread t t').msgs = s.msgs := rfl
@[simp] theorem threads_moveThread : (s.moveThread t t').threads = t' :: s.threads.erase t := rfl
@[simp] theorem task_moveThread : (s.moveThread t t').task = s.task := rfl

end Fields

theorem dropped?_of_busy {s : System Client Payload} (busy : s.task ≠ .idle) (e : Event Client Payload) :
    s.dropped? e = none := by
  cases e with
  | adapter conf created => exact if_neg busy
  | _ => rfl

section Served

variable (s : System Client Payload) (conf : NiConf)

/-- What the task can do with a message. -/
inductive Served : LocMsg Client Payload → System Client Payload → List (Output Client Payload) → Prop
  | clients {msg} {mClientData} (bare : msg.payload? = none) : Served msg { s with mClientData } []
  | decided {msg} {payload} {response} {task} (carried : msg.payload? = some payload)
      (next : task = .idle ∨ task = .acceptedEs none)
      (kept : s.loses? conf msg = none) :
      Served msg { s with task } [.informNiResponse response payload]
  | freed {notify} {data} {state} (client : Client) (told : s.gnssNiCb = some client) :
      Served (.reportNiNotify notify data state) s [.free data]
  | dropped {notify} {data} {state} (nobody : s.gnssNiCb = none) (left : undecided conf notify state) :
      Served (.reportNiNotify notify data state) s []
  | saved {notify} {data} {state} (client : Client) (told : s.gnssNiCb = some client)
      (free : s.open? notify.type.kind = false) (freeEs : s.open? .sessionEs = false) :
      Served (.reportNiNotify notify data state) (s.save notify.type.kind client notify data) []
  | refused {client} {id} {response} :
      Served (.gnssNiResponse client id response) s [.reportResponse client .idUnknown id]
  | found {client} {id} {response} {k} (answers : s.answersTo k id)
      (notAccepted : ¬ (k = .sessionEs ∧ response = .accept)) :
      Served (.gnssNiResponse client id response) { s with task := .answering client id response k } []
  | accepted {client} {id} (answers : s.answersTo .sessionEs id) :
      Served (.gnssNiResponse client id .accept) { s with task := .acceptedEs (some (client, id)) } []

end Served

namespace System

variable {s : System Client Payload} {conf : NiConf}

theorem requestNiNotify_served {notify : GnssNiNotification} {data : Payload} {state : LocInEmergency} {accept : Bool}
    (accepts : accept = (notify.type == .emergencySupl))
    (left : notify.type ≠ .emergencySupl → undecided conf notify state) :
    Served s conf (.reportNiNotify notify data state) ((requestNiNotify notify data accept).next s)
      ((requestNiNotify notify data accept).emitted s) := by
  rw [requestNiNotify, Emit.next_get_bind, Emit.emitted_get_bind]
  cases told : s.gnssNiCb with
  | none =>
    by_cases es : notify.type = .emergencySupl
    · have both : (notify.type == .emergencySupl && accept) = true := by simp [accepts, es]
      simp only [both, ↓reduceIte]
      exact .decided rfl (.inr rfl) (if_neg (by simp [undecided, es]))
    · have neither : (notify.type == .emergencySupl && accept) = false := by simp [es]
      simp only [neither, Bool.false_eq_true, ↓reduceIte]
      exact .dropped told (left es)
  | some client =>
    by_cases busy : (s.open? notify.type.kind || s.open? .sessionEs) = true
    · simp only [busy, ↓reduceIte]
      exact .freed client told
    · obtain ⟨free, freeEs⟩ := Bool.or_eq_false_iff.mp (Bool.eq_false_iff.mpr busy)
      simp only [free, freeEs, Bool.or_self, Bool.false_eq_true, ↓reduceIte]
      exact .saved client told free freeEs

/-- A request that is answered at once. -/
theorem served_decided {notify : GnssNiNotification} {data : Payload} {state : LocInEmergency}
    {response : GnssNiResponse} (idle : s.task = .idle) (certain : ¬ undecided conf notify state) :
    Served s conf (.reportNiNotify notify data state) s [.informNiResponse response data] := by
  have same : s = { s with task := s.task } := rfl
  rw [same]
  exact .decided rfl (.inl idle) (if_neg fun both => certain both.2)

theorem reportNiNotify_served {notify : GnssNiNotification} {data : Payload} {state : LocInEmergency}
    (idle : s.task = .idle) :
    Served s conf (.reportNiNotify notify data state) ((reportNiNotify conf notify data state).next s)
      ((reportNiNotify conf notify data state).emitted s) := by
  rw [reportNiNotify]
  split_ifs with deny es accepted cp both
  · exact served_decided idle (by simp [undecided, deny])
  · exact requestNiNotify_served (by simp [es]) fun other => absurd es other
  · exact served_decided idle (by simp [undecided, es])
  · exact served_decided idle (by simp [undecided, cp, both])
  · refine requestNiNotify_served (by simp [cp]) fun _ => ?_
    simp only [Bool.not_eq_true] at deny both
    simp [undecided, deny, cp, both]
  · refine requestNiNotify_served (by simp [es]) fun _ => ?_
    simp only [Bool.not_eq_true] at deny
    simp [undecided, deny, es, cp]

theorem gnssNiResponse_served {client : Client} {id : UInt32} {response : GnssNiResponse} :
    Served s conf (.gnssNiResponse client id response) ((gnssNiResponse client id response).next s)
      ((gnssNiResponse client id response).emitted s) := by
  rw [gnssNiResponse, Emit.next_get_bind, Emit.emitted_get_bind]
  split_ifs with listens es accept plain
  · subst accept
    exact .accepted es
  · exact .found es fun both => accept both.2
  · exact .found plain fun both => NiKind.noConfusion both.1
  · exact .refused
  · exact .refused

end System

/-- The task takes a message. -/
theorem LocMsg.proc_served {s : System Client Payload} {conf : NiConf} (idle : s.task = .idle)
    (msg : LocMsg Client Payload) : Served s conf msg ((msg.proc conf).next s) ((msg.proc conf).emitted s) := by
  cases msg with
  | addClient client callbacks => exact .clients rfl
  | removeClient client => exact .clients rfl
  | reportNiNotify notify data state => exact System.reportNiNotify_served idle
  | gnssNiResponse client id response => exact System.gnssNiResponse_served
  | informNiResponse response payload =>
    have same : s = { s with task := s.task } := rfl
    change Served s conf (.informNiResponse response payload) s [.informNiResponse response payload]
    rw [same]
    exact .decided rfl (.inl idle) rfl

variable [DecidableEq Payload]

/-- What an event can do. -/
inductive Change (s : System Client Payload) :
    Event Client Payload → System Client Payload → List (Output Client Payload) → Prop
  | rest {conf} {created} (idle : s.task = .idle) (empty : s.msgs = []) : Change s (.adapter conf created) s []
  | stay {t} {timedOut} (stays : t ∈ s.threads → ∃ k, t = .waiting k) : Change s (.thread t timedOut) s []
  | posted {e} {msg} (posts : e.posts? = some msg) : Change s e (s.sendMsg msg) []
  | served {conf} {created} {msg} {rest} {s'} {outs} (idle : s.task = .idle) (head : s.msgs = msg :: rest)
      (serves : Served { s with msgs := rest } conf msg s' outs) : Change s (.adapter conf created) s' outs
  | spawned {conf} {created} {k} {client} {notify} (task : s.task = .saved k client notify) :
      Change s (.adapter conf created)
        { s with threads := if created then .starting k :: s.threads else s.threads
                 task := .notifying client (s.sessions k).reqID notify } []
  | notified {conf} {created} {client} {id} {notify} (task : s.task = .notifying client id notify) :
      Change s (.adapter conf created) { s with task := .idle } [.gnssNiCb client id notify]
  | looked {conf} {created} {response} (task : s.task = .acceptedEs response) :
      Change s (.adapter conf created)
        { s with task := if s.open? .session then .ignoring response else .overridden response } []
  | overrode {conf} {created} {response} (task : s.task = .ignoring response) :
      Change s (.adapter conf created) { s.writeResponse .session .ignore with task := .overridden response } []
  | answered {conf} {created} {client} {id} {response} {k} (task : s.task = .answering client id response k) :
      Change s (.adapter conf created) { s.writeResponse k response with task := .idle }
        [.reportResponse client .success id]
  | started {k} {timedOut} (member : .starting k ∈ s.threads) (unanswered : (s.sessions k).respRecvd = false) :
      Change s (.thread (.starting k) timedOut) (s.moveThread (.starting k) (.waiting k)) []
  | closed {t} {timedOut} {k} {resp} (member : t ∈ s.threads) (serves : t.serves k = true)
      (why : timedOut = true ∧ t = .waiting k ∧ resp = .noResponse ∨
        (s.sessions k).respRecvd = true ∧ resp = (s.sessions k).resp) :
      Change s (.thread t timedOut)
        ((s.modifySession k fun session =>
          { session with respRecvd := false, rawRequest := none, resp := resp }).moveThread t
            (.unlocked k (taken resp (s.sessions k).rawRequest)))
        (freed resp (s.sessions k).rawRequest)
  | cleared {k} {send} {timedOut} (member : .unlocked k send ∈ s.threads) :
      Change s (.thread (.unlocked k send) timedOut)
        ((s.modifySession k fun session => { session with reqID := 0 }).moveThread (.unlocked k send) (.cleared send))
        []
  | ended {timedOut} (member : .cleared none ∈ s.threads) :
      Change s (.thread (.cleared none) timedOut) { s with threads := s.threads.erase (.cleared none) } []
  | sent {timedOut} {response} {payload} (member : .cleared (some (response, payload)) ∈ s.threads) :
      Change s (.thread (.cleared (some (response, payload))) timedOut)
        (System.sendMsg { s with threads := s.threads.erase (.cleared (some (response, payload))) }
          (.informNiResponse response payload)) []

namespace System

variable {s : System Client Payload}

/-- What it comes to when a thread takes its request out. -/
theorem close_eq (s : System Client Payload) (t : NiThread Payload) (k : NiKind) (resp : GnssNiResponse) :
    (close t k resp).next s = ((s.modifySession k fun session =>
        { session with respRecvd := false, rawRequest := none, resp := resp }).moveThread t
          (.unlocked k (taken resp (s.sessions k).rawRequest))) ∧
      (close t k resp).emitted s = freed resp (s.sessions k).rawRequest := by
  rw [close, Emit.next_get_bind, Emit.emitted_get_bind, Emit.next_bind, Emit.emitted_bind]
  cases raw : (s.sessions k).rawRequest with
  | none =>
    constructor
    · simp [taken]
    · simp [freed]
  | some payload =>
    by_cases ignored : resp = .ignore
    · subst ignored
      exact ⟨rfl, rfl⟩
    · constructor
      · simp [taken, ignored]
      · simp [freed, ignored]

theorem closed {t : NiThread Payload} {timedOut : Bool} {k : NiKind} {resp : GnssNiResponse}
    (member : t ∈ s.threads) (serves : t.serves k = true)
    (why : timedOut = true ∧ t = .waiting k ∧ resp = .noResponse ∨
      (s.sessions k).respRecvd = true ∧ resp = (s.sessions k).resp) :
    Change s (.thread t timedOut) ((close t k resp).next s) ((close t k resp).emitted s) := by
  rw [(close_eq s t k resp).1, (close_eq s t k resp).2]
  exact .closed member serves why

theorem runTask_change (s : System Client Payload) (conf : NiConf) (created : Bool) :
    Change s (.adapter conf created) ((runTask conf created).next s) ((runTask conf created).emitted s) := by
  rw [runTask, Emit.next_get_bind, Emit.emitted_get_bind]
  cases task : s.task with
  | idle =>
    cases queue : s.msgs with
    | nil => exact .rest task queue
    | cons msg rest => exact .served task queue (LocMsg.proc_served (s := { s with msgs := rest }) task msg)
  | saved k client notify => exact .spawned task
  | notifying client id notify => exact .notified task
  | acceptedEs response => exact .looked task
  | ignoring response => exact .overrode task
  | answering client id response k => exact .answered task

theorem runThread_change {t : NiThread Payload} (member : t ∈ s.threads) (timedOut : Bool) :
    Change s (.thread t timedOut) ((runThread t timedOut).next s) ((runThread t timedOut).emitted s) := by
  rw [runThread, Emit.next_get_bind, Emit.emitted_get_bind]
  cases t with
  | starting k =>
    cases answered : (s.sessions k).respRecvd with
    | false =>
      simp only [answered, Bool.false_eq_true, ↓reduceIte]
      exact .started member answered
    | true =>
      simp only [answered, ↓reduceIte]
      exact closed member (beq_self_eq_true k) (.inr ⟨answered, rfl⟩)
  | waiting k =>
    cases timedOut with
    | true => exact closed member (beq_self_eq_true k) (.inl ⟨rfl, rfl, rfl⟩)
    | false =>
      cases answered : (s.sessions k).respRecvd with
      | false =>
        simp only [answered, Bool.false_eq_true, ↓reduceIte]
        exact .stay fun _ => ⟨k, rfl⟩
      | true =>
        simp only [answered, Bool.false_eq_true, ↓reduceIte]
        exact closed member (beq_self_eq_true k) (.inr ⟨answered, rfl⟩)
  | unlocked k send => exact .cleared member
  | cleared send =>
    cases send with
    | none => exact .ended member
    | some sent => exact .sent member

end System

/-- Every event does one of these. -/
theorem step_change (s : System Client Payload) (e : Event Client Payload) :
    Change s e (s.step e) (e.happen.emitted s) := by
  cases e with
  | addClient client callbacks => exact .posted rfl
  | removeClient client => exact .posted rfl
  | requestNiNotifyEvent notify data state => exact .posted rfl
  | gnssNiResponseCommand client id response => exact .posted rfl
  | adapter conf created => exact System.runTask_change s conf created
  | thread t timedOut =>
    rw [System.step, Event.happen, Emit.next_get_bind, Emit.emitted_get_bind]
    by_cases member : t ∈ s.threads
    · simp only [member, ↓reduceIte]
      exact System.runThread_change member timedOut
    · simp only [member, ↓reduceIte]
      exact .stay fun here => absurd here member

end Cypfr.GnssNi
