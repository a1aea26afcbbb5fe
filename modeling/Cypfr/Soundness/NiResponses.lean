import Cypfr.Soundness.NiPayloads

/-! # Responses reach the requests that they are for

The task looks at a session and writes a response to it later, and in between the thread of the session may have taken
the request out. The response then waits for the next request. In the same way a thread gives up the identifier of its
session when the next request may have been saved there.
-/

namespace Cypfr.GnssNi

open Machine

variable {Client Payload : Type}

/-- The session that the task is about to write to, and the response. -/
def AdapterTask.writes? : AdapterTask Client → Option (NiKind × GnssNiResponse)
  | .ignoring _ => some (.session, .ignore)
  | .answering _ _ response k => some (k, response)
  | _ => none

@[simp] theorem AdapterTask.writes?_eq_none_of_idle {task : AdapterTask Client}
    (next : task = .idle ∨ task = .acceptedEs none) : task.writes? = none := by
  rcases next with rfl | rfl <;> rfl

/-- The identifier that a client was told last for a session. -/
def told (k : NiKind) (outs : List (Output Client Payload)) : Option UInt32 :=
  (outs.filterMap fun out =>
    match out with
    | .gnssNiCb _ id notify => if notify.type.kind = k then some id else none
    | _ => none).getLast?

/-- An identifier is what a client was told for a session, or is about to be told. -/
def AdapterTask.Announces (task : AdapterTask Client) (told : Option UInt32) (k : NiKind) (id : UInt32) : Prop :=
  match task with
  | .saved j _ _ => j = k ∨ told = some id
  | .notifying _ id' notify => if notify.type.kind = k then id' = id else told = some id
  | _ => told = some id

variable [LinearOrder Client]

namespace System

variable (s : System Client Payload) (k : NiKind) (e : Event Client Payload)

/-- A response is written to a session. -/
def Writes (response : GnssNiResponse) : Prop :=
  ∃ conf created, e = .adapter conf created ∧ s.task.writes? = some (k, response)

/-- A response is written only while the session has its request. -/
def Timely : Prop := ∀ k response, s.Writes k e response → s.open? k = true

/-- A session without a request has no response. -/
def Clean : Prop := ∀ k, s.open? k = false → (s.sessions k).respRecvd = false

/-- A thread takes a request out of its session because there is a response. -/
def ClosesWith (payload : Payload) (response : GnssNiResponse) : Prop :=
  ∃ t timedOut, e = .thread t timedOut ∧ t ∈ s.threads ∧ t.serves k = true ∧ ¬ (timedOut = true ∧ t = .waiting k) ∧
    (s.sessions k).respRecvd = true ∧ (s.sessions k).rawRequest = some payload ∧ (s.sessions k).resp = response

/-- A thread gives the identifier of its session up. -/
def Clears : Prop := ∃ send timedOut, e = .thread (.unlocked k send) timedOut ∧ .unlocked k send ∈ s.threads

end System

variable [DecidableEq Payload] {s s' : System Client Payload} {e : Event Client Payload} {k : NiKind}
  {outs : List (Output Client Payload)}

/-- What an event does to a session. -/
inductive Touch (s s' : System Client Payload) (k : NiKind) (e : Event Client Payload) : Prop
  | kept (same : s'.sessions k = s.sessions k) (silent : ∀ response, ¬ s.Writes k e response)
  | saved (data : Payload) (free : s.open? k = false) (session : s'.sessions k =
      { s.sessions k with rawRequest := some data, reqID := s.reqIDCounter + 1 })
      (silent : ∀ response, ¬ s.Writes k e response)
  | written (response : GnssNiResponse) (writes : s.Writes k e response)
      (session : s'.sessions k = { s.sessions k with resp := response, respRecvd := true })
  | closed (resp : GnssNiResponse) (session : s'.sessions k =
      { s.sessions k with respRecvd := false, rawRequest := none, resp := resp })
      (silent : ∀ response, ¬ s.Writes k e response)
  | cleared (clears : s.Clears k e) (session : s'.sessions k = { s.sessions k with reqID := 0 })
      (silent : ∀ response, ¬ s.Writes k e response)

omit [DecidableEq Payload] in
theorem not_writes (none : s.task.writes? = none) (response : GnssNiResponse) : ¬ s.Writes k e response := by
  rintro ⟨conf, created, -, writes⟩
  cases none.symm.trans writes

omit [DecidableEq Payload] in
theorem not_writes_thread {t : NiThread Payload} {timedOut : Bool} (response : GnssNiResponse) :
    ¬ s.Writes k (.thread t timedOut) response := by
  rintro ⟨conf, created, same, -⟩
  cases same

theorem Change.touch (change : Change s e s' outs) (k : NiKind) : Touch s s' k e := by
  cases change with
  | rest idle empty => exact .kept rfl (not_writes (by rw [idle]; rfl))
  | stay stays => exact .kept rfl not_writes_thread
  | posted posts =>
    refine .kept rfl ?_
    rintro response ⟨conf, created, rfl, -⟩
    cases posts
  | @served conf created msg rest s' outs idle head serves =>
    have silent (response : GnssNiResponse) : ¬ s.Writes k (.adapter conf created) response :=
      not_writes (by rw [idle]; rfl) response
    cases serves with
    | @saved notify data state client told free freeEs =>
      rcases eq_or_ne notify.type.kind k with rfl | other
      · exact .saved data free (by simp) silent
      · exact .kept (by simp [other.symm]) silent
    | _ => exact .kept rfl silent
  | spawned task => exact .kept rfl (not_writes (by rw [task]; rfl))
  | notified task => exact .kept rfl (not_writes (by rw [task]; rfl))
  | looked task => exact .kept rfl (not_writes (by rw [task]; rfl))
  | @overrode conf created response task =>
    have writes : s.task.writes? = some (.session, .ignore) := by rw [task]; rfl
    cases k with
    | session => exact .written .ignore ⟨conf, created, rfl, writes⟩ (by simp [System.writeResponse])
    | sessionEs =>
      refine .kept (by simp [System.writeResponse]) ?_
      rintro response ⟨_, _, -, other⟩
      cases writes.symm.trans other
  | @answered conf created client id response j task =>
    have writes : s.task.writes? = some (j, response) := by rw [task]; rfl
    rcases eq_or_ne j k with rfl | other
    · exact .written response ⟨conf, created, rfl, writes⟩ (by simp [System.writeResponse])
    · refine .kept (by simp [System.writeResponse, other.symm]) ?_
      rintro response' ⟨_, _, -, own⟩
      cases writes.symm.trans own
      exact other rfl
  | started member unanswered => exact .kept rfl not_writes_thread
  | @closed t timedOut j resp member serves why =>
    rcases eq_or_ne j k with rfl | other
    · exact .closed resp (by simp) not_writes_thread
    · exact .kept (by simp [other.symm]) not_writes_thread
  | @cleared j send timedOut member =>
    rcases eq_or_ne j k with rfl | other
    · exact .cleared ⟨send, timedOut, rfl, member⟩ (by simp) not_writes_thread
    · exact .kept (by simp [other.symm]) not_writes_thread
  | ended member => exact .kept rfl not_writes_thread
  | sent member => exact .kept rfl not_writes_thread

namespace System

/-- The state after a run. -/
abbrev run (events : List (Event Client Payload)) : System Client Payload := events.foldl step (initial Client Payload)

variable {events done : List (Event Client Payload)}

/-- The response that a session has was written to the request that it has. -/
def Own (k : NiKind) (done : List (Event Client Payload)) (payload : Payload) (response : GnssNiResponse) : Prop :=
  ∃ before w, before ++ [w] <+: done ∧ (run before).Writes k w response ∧
    ∀ middle, before <+: middle → middle <+: done → ((run middle).sessions k).rawRequest = some payload

theorem run_append_singleton : run (done ++ [e]) = (run done).step e := by
  rw [run, List.foldl_append]
  rfl

/-- It still is after a step that leaves the request there. -/
theorem Own.append {payload : Payload} {response : GnssNiResponse} (own : Own k done payload response)
    (request : ((run (done ++ [e])).sessions k).rawRequest = some payload) : Own k (done ++ [e]) payload response := by
  obtain ⟨before, w, reached, writes, through⟩ := own
  refine ⟨before, w, reached.trans (List.prefix_append done [e]), writes, fun middle later earlier => ?_⟩
  rcases List.prefix_concat_iff.mp earlier with rfl | within
  · exact request
  · exact through middle later within

theorem Own.request {payload : Payload} {response : GnssNiResponse} (own : Own k done payload response) :
    ((run done).sessions k).rawRequest = some payload := by
  obtain ⟨before, w, reached, -, through⟩ := own
  exact through done ((List.prefix_append before [w]).trans reached) List.prefix_rfl

/-- Where no response comes too late, a session has the responses of its own request only. -/
theorem own_of_timely (timely : EachStep step Timely (initial Client Payload) events) (k : NiKind)
    (answered : ((run events).sessions k).respRecvd = true) :
    ∃ payload, Own k events payload ((run events).sessions k).resp := by
  induction events using List.reverseRecOn with
  | nil => cases answered
  | append_singleton done e ih =>
    obtain ⟨earlier, last⟩ := eachStep_append_singleton.mp timely
    have before := ih earlier
    rw [run_append_singleton] at answered ⊢
    cases (step_change (run done) e).touch k with
    | kept same silent =>
      rw [same] at answered ⊢
      obtain ⟨payload, own⟩ := before answered
      exact ⟨payload, own.append (by rw [run_append_singleton, same, own.request])⟩
    | saved data free session silent =>
      rw [session] at answered
      obtain ⟨payload, own⟩ := before answered
      have busy : (run done).open? k = true := by rw [open?, own.request]; rfl
      exact absurd free (by rw [busy]; decide)
    | written response writes session =>
      have busy := last k response writes
      obtain ⟨payload, request⟩ := Option.isSome_iff_exists.mp busy
      refine ⟨payload, done, e, List.prefix_rfl, by rwa [session], fun middle later earlier => ?_⟩
      rcases List.prefix_concat_iff.mp earlier with rfl | within
      · rw [run_append_singleton, session]
        exact request
      · obtain rfl := later.eq_of_length_le within.length_le
        exact request
    | closed resp session silent =>
      rw [session] at answered
      cases answered
    | cleared clears session silent =>
      rw [session] at answered ⊢
      obtain ⟨payload, own⟩ := before answered
      exact ⟨payload, own.append (by rw [run_append_singleton, session]; exact own.request)⟩

/-- A step keeps a session without a request without a response, or writes one too late. -/
theorem clean_step_iff {s : System Client Payload} (clean : s.Clean) (e : Event Client Payload) :
    (s.step e).Clean ↔ s.Timely e := by
  constructor
  · intro after k response writes
    cases (step_change s e).touch k with
    | written response' writes' session =>
      by_contra closed
      have free : (s.step e).open? k = false := by
        rw [open?, session]
        exact Bool.eq_false_iff.mpr closed
      have unanswered := after k free
      rw [session] at unanswered
      cases unanswered
    | kept same silent => exact absurd writes (silent response)
    | saved data free session silent => exact absurd writes (silent response)
    | closed resp session silent => exact absurd writes (silent response)
    | cleared clears session silent => exact absurd writes (silent response)
  · intro timely k free
    cases (step_change s e).touch k with
    | kept same silent =>
      rw [open?, same] at free
      rw [same]
      exact clean k free
    | saved data before session silent =>
      rw [open?, session] at free
      cases free
    | written response writes session =>
      rw [open?, session] at free
      exact absurd (timely k response writes) (by rw [open?, free]; decide)
    | closed resp session silent => rw [session]
    | cleared clears session silent =>
      rw [open?, session] at free
      rw [session]
      exact clean k free

/-- The sessions without a request have no response throughout a run exactly when every response is written to a session
that still has a request. In such a run a request that is taken out because there is a response has been in its session
since that response was written. -/
theorem clean_iff_and_own (events : List (Event Client Payload)) :
    (Throughout step Clean (initial Client Payload) events ↔ EachStep step Timely (initial Client Payload) events) ∧
      (EachStep step Timely (initial Client Payload) events →
        ∀ done e, done ++ [e] <+: events → ∀ k payload response,
          (run done).ClosesWith k e payload response → Own k done payload response) := by
  constructor
  · exact throughout_iff_eachStep (I := fun _ => True) trivial (fun _ _ _ => trivial) (fun k _ => rfl)
      fun s e _ clean => clean_step_iff clean e
  · rintro timely done e reached k payload response ⟨t, timedOut, -, -, -, -, answered, request, rfl⟩
    have earlier : done <+: events := (List.prefix_append done [e]).trans reached
    have within : EachStep step Timely (initial Client Payload) done :=
      fun first e' reached' => timely first e' (reached'.trans earlier)
    obtain ⟨own, known⟩ := own_of_timely within k answered
    cases known.request.symm.trans request
    exact known

/-- A response that was for one request is given to the next. -/
example : .informNiResponse .accept 200 ∈ (initial ℕ ℕ).outputs
    (let task : Event ℕ ℕ := .adapter leaves true
    [.addClient 5 listens, task,
      .requestNiNotifyEvent { type := .supl, options := 0 } 100 .notSet, task, task, task,
      .thread (.starting .session) false, .gnssNiResponseCommand 5 1 .accept, task, .thread (.waiting .session) true,
      task,
      .requestNiNotifyEvent { type := .supl, options := 0 } 200 .notSet, task, task, task,
      .thread (.starting .session) false, .thread (.unlocked .session (some (.accept, 200))) false,
      .thread (.cleared (some (.accept, 200))) false, task]) := by
  decide

end System

section Identifiers

/-- A session with a request answers to the identifier that a client was told or is about to be told. -/
def System.Named (s : System Client Payload) (told : Option UInt32) (k : NiKind) : Prop :=
  s.open? k = true → s.task.Announces told k (s.sessions k).reqID

/-- A thread gives the identifier of its session up when there is no other request in the session, or when that is only
about to get its identifier told. -/
def System.Releases (s : System Client Payload) (e : Event Client Payload) (k : NiKind) : Prop :=
  s.Clears k e → s.open? k = true → (s.sessions k).reqID = 0 ∨ ∃ client notify, s.task = .saved k client notify

/-- A request is saved in the session that is for its type. -/
def System.Placed (s : System Client Payload) : Prop :=
  ∀ k client notify, s.task = .saved k client notify → notify.type.kind = k

omit [DecidableEq Payload] in
theorem System.Named.of_kept {last last' : Option UInt32} (named : s.Named last k) (requests : s'.open? k = s.open? k)
    (same : (s'.sessions k).reqID = (s.sessions k).reqID)
    (task : s.task.Announces last k (s.sessions k).reqID → s'.task.Announces last' k (s.sessions k).reqID) :
    s'.Named last' k := by
  intro busy
  rw [same]
  exact task (named (requests ▸ busy))

omit [DecidableEq Payload] [LinearOrder Client] in
theorem announces_overridden {response : Option (Client × UInt32)} {last : Option UInt32} {id : UInt32} :
    (AdapterTask.overridden response).Announces last k id ↔ last = some id := by
  cases response <;> rfl

omit [DecidableEq Payload] in
theorem releases_adapter {conf : NiConf} {created : Bool} : s.Releases (.adapter conf created) k := by
  rintro ⟨send, timedOut, same, -⟩
  cases same

omit [DecidableEq Payload] in
theorem reqID_writeResponse {j : NiKind} {response : GnssNiResponse} (k : NiKind) :
    ((s.writeResponse j response).sessions k).reqID = (s.sessions k).reqID := by
  rw [System.writeResponse, sessions_modifySession]
  rcases eq_or_ne k j with rfl | other
  · rw [Function.update_self]
  · rw [Function.update_of_ne other]

omit [DecidableEq Payload] in
theorem Served.named {conf : NiConf} {msg : LocMsg Client Payload} {rest : List (LocMsg Client Payload)}
    (idle : s.task = .idle) (serves : Served { s with msgs := rest } conf msg s' outs) {last : Option UInt32}
    (named : s.Named last k) : s'.Named ((told k outs).or last) k := by
  have before : s.open? k = true → last = some (s.sessions k).reqID := by
    rw [System.Named, idle] at named
    exact named
  cases serves with
  | clients bare => exact named
  | @decided msg payload response task carried next kept =>
    intro busy
    rcases next with rfl | rfl <;> exact before busy
  | freed client told => exact named
  | dropped nobody left => exact named
  | @saved notify data state client told free freeEs =>
    intro busy
    rcases eq_or_ne notify.type.kind k with rfl | other
    · exact .inl rfl
    · refine .inr ?_
      have session : (System.save notify.type.kind client notify data { s with msgs := rest }).sessions k =
          s.sessions k := by simp [other.symm]
      rw [System.open?, session] at busy
      rw [session]
      exact before busy
  | refused => exact named
  | found answers notAccepted => exact before
  | accepted answers => exact before

omit [DecidableEq Payload] [LinearOrder Client] in
theorem told_freed (resp : GnssNiResponse) (raw : Option Payload) :
    told k (freed resp raw : List (Output Client Payload)) = none := by
  by_cases ignored : resp = .ignore
  · cases raw <;> simp [freed, ignored, told]
  · simp [freed, ignored, told]

omit [LinearOrder Client] in
theorem announces_zero_iff {task : AdapterTask Client} {last : Option UInt32} {id : UInt32}
    (announced : task.Announces last k id) :
    task.Announces last k 0 ↔ id = 0 ∨ ∃ client notify, task = .saved k client notify := by
  cases task with
  | saved j client notify =>
    rcases eq_or_ne j k with rfl | other
    · exact iff_of_true (.inl rfl) (.inr ⟨client, notify, rfl⟩)
    · have known : last = some id := announced.resolve_left other
      simp [AdapterTask.Announces, other, known]
  | notifying client id' notify =>
    by_cases own : notify.type.kind = k
    · have known : id' = id := (if_pos own).mp announced
      simp [AdapterTask.Announces, own, known]
    · have known : last = some id := (if_neg own).mp announced
      simp [AdapterTask.Announces, own, known]
  | idle | acceptedEs | ignoring | answering =>
    have known : last = some id := announced
    simp [AdapterTask.Announces, known]

theorem Change.stays_named_iff (change : Change s e s' outs) (placed : s.Placed) {last : Option UInt32}
    (named : s.Named last k) : s'.Named ((told k outs).or last) k ↔ s.Releases e k := by
  cases change with
  | rest idle empty => exact iff_of_true named releases_adapter
  | stay stays =>
    refine iff_of_true named ?_
    rintro ⟨send, timedOut, same, member⟩
    cases same
    obtain ⟨j, other⟩ := stays member
    cases other
  | posted posts =>
    refine iff_of_true named ?_
    rintro ⟨send, timedOut, rfl, -⟩
    cases posts
  | served idle head serves => exact iff_of_true (serves.named idle named) releases_adapter
  | @spawned conf created j client notify task =>
    refine iff_of_true (named.of_kept rfl rfl fun announced => ?_) releases_adapter
    rw [task] at announced
    rw [AdapterTask.Announces]
    rcases announced with rfl | known
    · rw [if_pos (placed j client notify task)]
    · split_ifs with own
      · obtain rfl : j = k := (placed j client notify task).symm.trans own
        rfl
      · exact known
  | @notified conf created client id notify task =>
    refine iff_of_true (named.of_kept rfl rfl fun announced => ?_) releases_adapter
    rw [task] at announced
    change (told k [.gnssNiCb client id notify]).or last = some (s.sessions k).reqID
    by_cases own : notify.type.kind = k
    · obtain rfl := (if_pos own).mp announced
      simp [told, own]
    · simpa [told, own] using (if_neg own).mp announced
  | looked task =>
    refine iff_of_true (named.of_kept rfl rfl fun announced => ?_) releases_adapter
    rw [task] at announced
    split_ifs
    · exact announced
    · exact announces_overridden.mpr announced
  | overrode task =>
    refine iff_of_true (named.of_kept (open?_congr (rawRequest_writeResponse k)) ?_ fun announced => ?_)
      releases_adapter
    · exact reqID_writeResponse k
    · rw [task] at announced
      exact announces_overridden.mpr announced
  | answered task =>
    refine iff_of_true (named.of_kept (open?_congr (rawRequest_writeResponse k)) ?_ fun announced => ?_)
      releases_adapter
    · exact reqID_writeResponse k
    · rw [task] at announced
      exact announced
  | started member unanswered =>
    refine iff_of_true named ?_
    rintro ⟨send, timedOut, same, -⟩
    cases same
  | @closed t timedOut j resp member serves why =>
    refine iff_of_true ?_ ?_
    · rcases eq_or_ne j k with rfl | other
      · intro busy
        simp [System.open?] at busy
      · refine named.of_kept (open?_congr (by simp [other.symm])) (by simp [other.symm]) fun announced => ?_
        rw [told_freed]
        exact announced
    · rintro ⟨send, timedOut, same, -⟩
      cases same
      cases serves
  | @cleared j send timedOut member =>
    rcases eq_or_ne j k with rfl | other
    · have clears : s.Clears j (.thread (.unlocked j send) timedOut) := ⟨send, timedOut, rfl, member⟩
      have requests : ((s.modifySession j fun session => { session with reqID := 0 }).moveThread (.unlocked j send)
          (.cleared send)).open? j = s.open? j := open?_congr (by simp)
      have same : (((s.modifySession j fun session => { session with reqID := 0 }).moveThread (.unlocked j send)
          (.cleared send)).sessions j).reqID = 0 := by simp
      rw [System.Named, requests, same]
      constructor
      · exact fun after _ busy => (announces_zero_iff (named busy)).mp (after busy)
      · exact fun releases busy => (announces_zero_iff (named busy)).mpr (releases clears busy)
    · refine iff_of_true (named.of_kept (open?_congr (by simp [other.symm])) (by simp [other.symm]) ?_) ?_
      · exact fun announced => announced
      · rintro ⟨send', timedOut', same, -⟩
        cases same
        exact absurd rfl other
  | ended member =>
    refine iff_of_true named ?_
    rintro ⟨send, timedOut, same, -⟩
    cases same
  | sent member =>
    refine iff_of_true named ?_
    rintro ⟨send, timedOut, same, -⟩
    cases same

omit [DecidableEq Payload] in
theorem placed_of_opens (none : ∀ k, s.task.opens k = 0) : s.Placed := by
  intro k client notify saved
  have own := none k
  rw [saved] at own
  simp [AdapterTask.opens] at own

theorem Change.placed (change : Change s e s' outs) (placed : s.Placed) : s'.Placed := by
  cases change with
  | rest | stay | posted | started | closed | cleared | ended | sent => exact placed
  | spawned | notified | answered => exact placed_of_opens fun _ => rfl
  | looked task =>
    refine placed_of_opens fun k => ?_
    dsimp only
    split_ifs
    · rfl
    · exact opens_overridden _ k
  | overrode task => exact placed_of_opens fun k => opens_overridden _ k
  | served idle head serves =>
    have none (k : NiKind) : s.task.opens k = 0 := by rw [idle]; rfl
    cases serves with
    | clients | freed | dropped | refused => exact placed_of_opens none
    | found | accepted => exact placed_of_opens fun _ => rfl
    | decided carried next kept =>
      refine placed_of_opens fun k => ?_
      rcases next with rfl | rfl <;> rfl
    | saved client told free freeEs =>
      intro k client' notify' saved
      cases saved
      rfl

/-- A session with a request answers at every point of a run to the identifier that a client was told for it, or is
about to be told, exactly when no thread gives up an identifier in a session that has another request. -/
theorem System.named_iff (events : List (Event Client Payload)) :
    (∀ done, done <+: events → ∀ k, (run done).Named (told k ((initial Client Payload).outputs done)) k) ↔
      EachStep step (fun s e => ∀ k, s.Releases e k) (initial Client Payload) events := by
  apply forall_prefix_iff_eachStep (I := Placed) (by intro k client notify saved; cases saved)
    (fun s e placed => (step_change s e).placed placed) (by intro k busy; cases busy)
  intro done e placed named
  refine forall_congr' fun k => ?_
  have outs : told k ((initial Client Payload).outputs (done ++ [e])) =
      (told k (e.happen.emitted (run done))).or (told k ((initial Client Payload).outputs done)) := by
    rw [outputs, gathered_append_singleton, told, List.filterMap_append, List.getLast?_append]
    rfl
  rw [outs, run_append_singleton]
  exact (step_change (run done) e).stays_named_iff placed (named k)

end Identifiers

end Cypfr.GnssNi
