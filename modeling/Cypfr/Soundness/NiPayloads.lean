import Cypfr.Proofs.GnssNi

/-! # Every request is answered or freed once

The payload of a request is in the queue, in a session or with a thread until it is handed to the modem's interface or
freed. It is lost when there is no client to tell, and stays in its session when no thread could be created.
-/

namespace Cypfr.GnssNi

open Machine

variable {Client Payload : Type}

/-- The payload that the modem hands in. -/
def Event.handed? (e : Event Client Payload) : Option Payload := e.posts?.bind LocMsg.payload?

/-- The payload that is answered or freed. -/
def Output.disposed? : Output Client Payload → Option Payload
  | .informNiResponse _ payload => some payload
  | .free payload => some payload
  | _ => none

/-- Whether the task is about to create a thread for a session. -/
def AdapterTask.opens (k : NiKind) : AdapterTask Client → ℕ
  | .saved j _ _ => if j = k then 1 else 0
  | _ => 0

variable [LinearOrder Client]

namespace System

/-- The payloads that are somewhere in the system. -/
def holding (s : System Client Payload) : List Payload :=
  s.msgs.filterMap LocMsg.payload? ++ ((s.sessions .session).rawRequest.toList ++
    ((s.sessions .sessionEs).rawRequest.toList ++ s.threads.filterMap NiThread.payload?))

/-- The task has nothing to do and there are no threads. -/
def Quiet (s : System Client Payload) : Prop := s.msgs = [] ∧ s.task = .idle ∧ s.threads = []

/-- The task does not get the thread for a session. -/
def Strands (s : System Client Payload) (k : NiKind) (e : Event Client Payload) : Prop :=
  ∃ conf client notify, e = .adapter conf false ∧ s.task = .saved k client notify

/-- The threads that are to take the request out of a session. -/
def serving (s : System Client Payload) (k : NiKind) : ℕ := s.threads.countP (NiThread.serves k)

/-- A session without a request has no thread, and one with a request at most one. -/
def Served (s : System Client Payload) : Prop := ∀ k, s.serving k + s.task.opens k ≤ if s.open? k then 1 else 0

/-- A session with a request has a thread. -/
def Attended (s : System Client Payload) : Prop := ∀ k, (if s.open? k then 1 else 0) ≤ s.serving k + s.task.opens k

end System

section Lists

variable {α β : Type} [DecidableEq α] {a : α} {list : List α}

omit [DecidableEq α] in
theorem count_filterMap_cons [DecidableEq β] (f : α → Option β) (a : α) (list : List α) (x : β) :
    ((a :: list).filterMap f).count x = (f a).toList.count x + (list.filterMap f).count x := by
  cases known : f a with
  | none => simp [known]
  | some b => simp [known, List.count_cons, Nat.add_comm]

theorem count_filterMap_erase [DecidableEq β] (f : α → Option β) (member : a ∈ list) (x : β) :
    ((list.erase a).filterMap f).count x + (f a).toList.count x = (list.filterMap f).count x := by
  rw [((List.perm_cons_erase member).filterMap f).count_eq x, count_filterMap_cons, Nat.add_comm]

theorem countP_erase_add (p : α → Bool) (member : a ∈ list) :
    (list.erase a).countP p + (if p a then 1 else 0) = list.countP p := by
  rw [(List.perm_cons_erase member).countP_eq p, List.countP_cons]

end Lists

section Ledger

variable [DecidableEq Payload] {s s' : System Client Payload} {e : Event Client Payload}
  {outs : List (Output Client Payload)}

theorem count_holding (s : System Client Payload) (x : Payload) :
    s.holding.count x = (s.msgs.filterMap LocMsg.payload?).count x +
      ((s.sessions .session).rawRequest.toList.count x + ((s.sessions .sessionEs).rawRequest.toList.count x +
        (s.threads.filterMap NiThread.payload?).count x)) := by
  rw [System.holding, List.count_append, List.count_append, List.count_append]

omit [LinearOrder Client] in
theorem count_taken (Client : Type) (resp : GnssNiResponse) (raw : Option Payload) (k : NiKind) (x : Payload) :
    (NiThread.payload? (.unlocked k (taken resp raw))).toList.count x +
      ((freed resp raw : List (Output Client Payload)).filterMap Output.disposed?).count x = raw.toList.count x := by
  by_cases ignored : resp = .ignore
  · cases raw <;> simp [taken, freed, ignored, NiThread.payload?, Output.disposed?]
  · cases raw <;> simp [taken, freed, ignored, NiThread.payload?]

/-- What the task takes up is held, disposed of or lost. -/
theorem Served.ledger {conf : NiConf} {msg : LocMsg Client Payload} (created : Bool)
    {rest : List (LocMsg Client Payload)} (idle : s.task = .idle) (head : s.msgs = msg :: rest) (serves : Served { s with msgs := rest } conf msg s' outs)
    (x : Payload) : s.holding.count x =
      s'.holding.count x + ((outs.filterMap Output.disposed?).count x +
        (s.dropped? (.adapter conf created)).toList.count x) := by
  have before : (s.msgs.filterMap LocMsg.payload?).count x =
      msg.payload?.toList.count x + (rest.filterMap LocMsg.payload?).count x := by
    rw [head, count_filterMap_cons]
  have lost : s.dropped? (.adapter conf created) = s.loses? conf msg := by
    rw [System.dropped?, if_pos idle, head]
    rfl
  rw [count_holding, count_holding, before, lost]
  cases serves with
  | clients bare =>
    cases msg with
    | reportNiNotify | informNiResponse => cases bare
    | addClient | removeClient | gnssNiResponse => simp [LocMsg.payload?, System.loses?]
  | decided carried next kept =>
    have keeps : s.loses? conf msg = none := kept
    rw [carried, keeps, count_filterMap_cons]
    simp [Output.disposed?]
    omega
  | freed client told =>
    have heard : s.gnssNiCb ≠ none := Option.ne_none_iff_exists'.mpr ⟨client, told⟩
    rw [count_filterMap_cons]
    simp [Output.disposed?, LocMsg.payload?, System.loses?, heard]
    omega
  | dropped nobody left =>
    have unheard : s.gnssNiCb = none := nobody
    simp [LocMsg.payload?, System.loses?, unheard, left]
    omega
  | @saved notify data state client told free freeEs =>
    have heard : s.gnssNiCb ≠ none := Option.ne_none_iff_exists'.mpr ⟨client, told⟩
    have empty : (s.sessions notify.type.kind).rawRequest = none := by simpa [System.open?] using free
    have sessions : ∀ k, (((System.save notify.type.kind client notify data { s with msgs := rest }).sessions
        k).rawRequest.toList.count x) = (s.sessions k).rawRequest.toList.count x +
          if k = notify.type.kind then [data].count x else 0 := by
      intro k
      rcases eq_or_ne k notify.type.kind with rfl | other
      · simp [empty]
      · simp [other]
    rw [sessions, sessions]
    cases notify.type.kind
    all_goals
      simp [LocMsg.payload?, System.loses?, heard]
      omega
  | refused =>
    rw [count_filterMap_cons]
    simp [LocMsg.payload?, System.loses?, Output.disposed?]
  | found answers notAccepted => simp [LocMsg.payload?, System.loses?]
  | accepted answers => simp [LocMsg.payload?, System.loses?]

theorem Change.ledger (change : Change s e s' outs) :
    (e.handed?.toList ++ s.holding).Perm
      (s'.holding ++ (outs.filterMap Output.disposed? ++ (s.dropped? e).toList)) := by
  rw [List.perm_iff_count]
  intro x
  rw [List.count_append, List.count_append, List.count_append]
  cases change with
  | rest idle empty => simp [Event.handed?, Event.posts?, System.dropped?, idle, empty]
  | stay stays => simp [Event.handed?, Event.posts?, System.dropped?]
  | @posted e msg posts =>
    have none : s.dropped? e = none := by
      cases e with
      | adapter => cases posts
      | _ => rfl
    rw [none, Event.handed?, posts, count_holding, count_holding]
    simp only [Option.bind_some, msgs_sendMsg, sessions_sendMsg, threads_sendMsg, List.filterMap_append,
      List.count_append, count_filterMap_cons]
    simp
    omega
  | served idle head serves =>
    rw [← serves.ledger _ idle head]
    simp [Event.handed?, Event.posts?]
  | @spawned conf created k client notify task =>
    rw [dropped?_of_busy (by simp [task])]
    cases created with
    | false => simp [Event.handed?, Event.posts?, count_holding]
    | true =>
      simp only [count_holding, ↓reduceIte, count_filterMap_cons]
      simp [Event.handed?, Event.posts?, NiThread.payload?]
  | notified task =>
    rw [dropped?_of_busy (by simp [task]), count_filterMap_cons]
    simp [Event.handed?, Event.posts?, count_holding, Output.disposed?]
  | looked task =>
    rw [dropped?_of_busy (by simp [task])]
    simp [Event.handed?, Event.posts?, count_holding]
  | overrode task =>
    rw [dropped?_of_busy (by simp [task])]
    simp [Event.handed?, Event.posts?, count_holding]
  | answered task =>
    rw [dropped?_of_busy (by simp [task]), count_filterMap_cons]
    simp [Event.handed?, Event.posts?, count_holding, Output.disposed?]
  | @started k timedOut member unanswered =>
    have moved := count_filterMap_erase NiThread.payload? member x
    simp only [count_holding, threads_moveThread, count_filterMap_cons]
    simp [Event.handed?, Event.posts?, System.dropped?, NiThread.payload?] at moved ⊢
    omega
  | @closed t timedOut k resp member serves why =>
    have moved := count_filterMap_erase NiThread.payload? member x
    have empty : t.payload? = none := by
      cases t with
      | starting | waiting => rfl
      | unlocked | cleared => cases serves
    have out := count_taken Client resp (s.sessions k).rawRequest k x
    simp only [count_holding, threads_moveThread, count_filterMap_cons]
    cases k
    all_goals
      simp [Event.handed?, Event.posts?, System.dropped?, empty] at moved out ⊢
      omega
  | @cleared k send timedOut member =>
    have moved := count_filterMap_erase NiThread.payload? member x
    have same : NiThread.payload? (.cleared send) = NiThread.payload? (.unlocked k send) := by
      cases send <;> rfl
    simp only [count_holding, threads_moveThread, count_filterMap_cons, sessions_moveThread,
      rawRequest_modifySession (f := fun session => { session with reqID := 0 }) (fun _ => rfl), same]
    simp [Event.handed?, Event.posts?, System.dropped?] at moved ⊢
    omega
  | ended member =>
    have moved := count_filterMap_erase NiThread.payload? member x
    simp [Event.handed?, Event.posts?, System.dropped?, count_holding, NiThread.payload?] at moved ⊢
    omega
  | @sent timedOut response payload member =>
    have moved := count_filterMap_erase NiThread.payload? member x
    simp only [count_holding, msgs_sendMsg, sessions_sendMsg, threads_sendMsg, List.filterMap_append, List.count_append,
      count_filterMap_cons]
    simp [Event.handed?, Event.posts?, System.dropped?, NiThread.payload?, LocMsg.payload?] at moved ⊢
    omega

end Ledger

section Threads

variable [DecidableEq Payload] {s s' : System Client Payload} {e : Event Client Payload}
  {outs : List (Output Client Payload)}

/-- What an event does to the thread of a session. -/
inductive Turn (s s' : System Client Payload) (k : NiKind) (e : Event Client Payload) : Prop
  | same (kept : ¬ s.Strands k e) (threads : s'.serving k + s'.task.opens k = s.serving k + s.task.opens k)
      (requests : s'.open? k = s.open? k)
  | opened (kept : ¬ s.Strands k e) (threads : s'.serving k + s'.task.opens k = s.serving k + s.task.opens k + 1)
      (before : s.open? k = false) (after : s'.open? k = true)
  | closed (kept : ¬ s.Strands k e) (threads : s'.serving k + s'.task.opens k + 1 = s.serving k + s.task.opens k)
      (before : 0 < s.serving k) (after : s'.open? k = false)
  | stranded (strands : s.Strands k e) (threads : s'.serving k + s'.task.opens k + 1 = s.serving k + s.task.opens k)
      (requests : s'.open? k = s.open? k)

omit [DecidableEq Payload] in
theorem not_strands {k : NiKind} (other : s.task.opens k = 0) : ¬ s.Strands k e := by
  rintro ⟨conf, client, notify, -, task⟩
  simp [task, AdapterTask.opens] at other

omit [DecidableEq Payload] in
theorem open?_congr {k : NiKind} (same : (s'.sessions k).rawRequest = (s.sessions k).rawRequest) :
    s'.open? k = s.open? k := by
  rw [System.open?, System.open?, same]

omit [LinearOrder Client] in
@[simp] theorem opens_overridden (response : Option (Client × UInt32)) (k : NiKind) :
    (AdapterTask.overridden response).opens k = 0 := by
  cases response <;> rfl

theorem Change.turn (change : Change s e s' outs) (k : NiKind) : Turn s s' k e := by
  cases change with
  | rest idle empty => exact .same (not_strands (by simp [idle, AdapterTask.opens])) rfl rfl
  | stay stays => exact .same (by rintro ⟨_, _, _, same, -⟩; cases same) rfl rfl
  | @posted e msg posts =>
    refine .same ?_ rfl rfl
    rintro ⟨conf, client, notify, rfl, -⟩
    cases posts
  | @served conf created msg rest s' outs idle head serves =>
    have closed : s.task.opens k = 0 := by rw [idle]; rfl
    have kept : ¬ s.Strands k (.adapter conf created) := not_strands closed
    cases serves with
    | clients bare => exact .same kept rfl rfl
    | @decided msg payload response task carried next certain =>
      have none : task.opens k = 0 := by rcases next with rfl | rfl <;> rfl
      exact .same kept (by rw [closed, none]; rfl) rfl
    | freed client told => exact .same kept rfl rfl
    | dropped nobody left => exact .same kept rfl rfl
    | @saved notify data state client told free freeEs =>
      rcases eq_or_ne notify.type.kind k with rfl | other
      · refine .opened kept ?_ free (by simp [System.open?])
        rw [closed]
        simp [AdapterTask.opens, System.serving]
      · refine .same kept ?_ (open?_congr (by simp [other.symm]))
        rw [closed]
        simp [AdapterTask.opens, System.serving, other]
    | refused => exact .same kept rfl rfl
    | found answers notAccepted => exact .same kept (by rw [closed]; rfl) rfl
    | accepted answers => exact .same kept (by rw [closed]; rfl) rfl
  | @spawned conf created j client notify task =>
    by_cases own : j = k
    · subst own
      cases created with
      | false =>
        refine .stranded ⟨conf, client, notify, rfl, task⟩ ?_ rfl
        simp [task, AdapterTask.opens, System.serving]
      | true =>
        refine .same (by rintro ⟨_, _, _, same, -⟩; cases same) ?_ rfl
        simp [task, AdapterTask.opens, System.serving, NiThread.serves]
    · have kept : ¬ s.Strands k (.adapter conf created) := not_strands (by simp [task, AdapterTask.opens, own])
      refine .same kept ?_ rfl
      cases created <;> simp [task, AdapterTask.opens, System.serving, NiThread.serves, own]
  | notified task =>
    have closed : s.task.opens k = 0 := by rw [task]; rfl
    exact .same (not_strands closed) (by rw [closed]; rfl) rfl
  | looked task =>
    have closed : s.task.opens k = 0 := by rw [task]; rfl
    refine .same (not_strands closed) ?_ rfl
    rw [closed]
    split_ifs with busy
    · rfl
    · rw [opens_overridden]
      rfl
  | overrode task =>
    have closed : s.task.opens k = 0 := by rw [task]; rfl
    refine .same (not_strands closed) ?_ (open?_congr (rawRequest_writeResponse k))
    rw [closed, opens_overridden]
    rfl
  | answered task =>
    have closed : s.task.opens k = 0 := by rw [task]; rfl
    exact .same (not_strands closed) (by rw [closed]; rfl) (open?_congr (rawRequest_writeResponse k))
  | @started j timedOut member unanswered =>
    have moved := countP_erase_add (NiThread.serves k) member
    refine .same (by rintro ⟨_, _, _, same, -⟩; cases same) ?_ rfl
    simp [System.serving, List.countP_cons, NiThread.serves] at moved ⊢
    omega
  | @closed t timedOut j resp member serves why =>
    have moved := countP_erase_add (NiThread.serves k) member
    have kept : ¬ s.Strands k (.thread t timedOut) := by rintro ⟨_, _, _, same, -⟩; cases same
    have own : t.serves k = (j == k) := by
      cases t with
      | starting i | waiting i =>
        obtain rfl : i = j := beq_iff_eq.mp serves
        rfl
      | unlocked | cleared => cases serves
    rw [own] at moved
    rcases eq_or_ne j k with rfl | other
    · simp only [beq_self_eq_true, ↓reduceIte] at moved
      refine .closed kept ?_ ?_ (by simp [System.open?])
      · simp [System.serving, NiThread.serves]
        omega
      · rw [System.serving]
        omega
    · refine .same kept ?_ (open?_congr (by simp [other.symm]))
      simp [System.serving, NiThread.serves, other] at moved ⊢
      omega
  | @cleared j send timedOut member =>
    have moved := countP_erase_add (NiThread.serves k) member
    refine .same (by rintro ⟨_, _, _, same, -⟩; cases same) ?_ (open?_congr ?_)
    · simp [System.serving, NiThread.serves] at moved ⊢
      omega
    · exact rawRequest_modifySession (f := fun session => { session with reqID := 0 }) (fun _ => rfl) k
  | ended member =>
    have moved := countP_erase_add (NiThread.serves k) member
    refine .same (by rintro ⟨_, _, _, same, -⟩; cases same) ?_ rfl
    simp [System.serving, NiThread.serves] at moved ⊢
    omega
  | sent member =>
    have moved := countP_erase_add (NiThread.serves k) member
    refine .same (by rintro ⟨_, _, _, same, -⟩; cases same) ?_ rfl
    simp [System.serving, NiThread.serves] at moved ⊢
    omega

omit [DecidableEq Payload] in
theorem Turn.served {k : NiKind} (turn : Turn s s' k e)
    (served : s.serving k + s.task.opens k ≤ if s.open? k then 1 else 0) :
    s'.serving k + s'.task.opens k ≤ if s'.open? k then 1 else 0 := by
  cases turn with
  | same kept threads requests => rwa [threads, requests]
  | opened kept threads before after =>
    simp only [before, Bool.false_eq_true, ↓reduceIte] at served
    simp only [after, ↓reduceIte]
    omega
  | closed kept threads before after =>
    split_ifs at served <;> omega
  | stranded strands threads requests =>
    rw [requests]
    omega

omit [DecidableEq Payload] in
/-- A session has its thread unless the task has just failed to get it. -/
theorem Turn.attended_iff {k : NiKind} (turn : Turn s s' k e)
    (served : s.serving k + s.task.opens k ≤ if s.open? k then 1 else 0) :
    ((if s'.open? k then 1 else 0) ≤ s'.serving k + s'.task.opens k) ↔
      ((if s.open? k then 1 else 0) ≤ s.serving k + s.task.opens k) ∧ ¬ s.Strands k e := by
  cases turn with
  | same kept threads requests => rw [threads, requests, and_iff_left kept]
  | opened kept threads before after =>
    rw [and_iff_left kept, before, after, threads]
    simp
  | closed kept threads before after =>
    rw [and_iff_left kept, after]
    refine iff_of_true (Nat.zero_le _) ?_
    split_ifs at served ⊢ <;> omega
  | stranded strands threads requests =>
    refine iff_of_false ?_ fun both => both.2 strands
    rw [requests]
    split_ifs at served ⊢ <;> omega

end Threads

namespace System

theorem served_initial : (initial Client Payload).Served := fun _ => Nat.le_refl _

theorem attended_initial : (initial Client Payload).Attended := fun _ => Nat.le_refl _

variable [DecidableEq Payload] {events : List (Event Client Payload)}

theorem Served.step {s : System Client Payload} (served : s.Served) (e : Event Client Payload) : (s.step e).Served :=
  fun k => ((step_change s e).turn k).served (served k)

/-- Every session has its thread in the end exactly when the task always got the thread that it was to create. -/
theorem attended_iff :
    (events.foldl step (initial Client Payload)).Attended ↔
      EachStep step (fun s e => ∀ k, ¬ s.Strands k e) (initial Client Payload) events := by
  apply final_iff_eachStep_of (D := fun _ _ => True) (fun _ _ _ => trivial) served_initial
    (fun s e served _ => served.step e) attended_initial
  intro s e served _
  exact (forall_congr' fun k => ((step_change s e).turn k).attended_iff (served k)).trans forall_and

/-- What the modem handed in during a run. -/
def handedIn (events : List (Event Client Payload)) : List Payload := events.filterMap Event.handed?

/-- The payloads that are answered or freed in a run. -/
def disposed (events : List (Event Client Payload)) : List Payload :=
  ((initial Client Payload).outputs events).filterMap Output.disposed?

/-- The payloads that are lost in a run. -/
def lost (events : List (Event Client Payload)) : List Payload :=
  gathered step (fun s e => (s.dropped? e).toList) (initial Client Payload) events

omit [LinearOrder Client] [DecidableEq Payload] in
theorem handedIn_eq {σ : Type} (step : σ → Event Client Payload → σ) (s : σ) :
    handedIn events = gathered step (fun _ e => e.handed?.toList) s events := by
  induction events generalizing s with
  | nil => rfl
  | cons e rest ih =>
    rw [gathered, ← ih, handedIn, handedIn]
    cases known : e.handed? <;> simp [known]

/-- What was handed in is still held, or was disposed of or lost. -/
theorem handedIn_perm (events : List (Event Client Payload)) : (handedIn events).Perm
    ((events.foldl step (initial Client Payload)).holding ++ (disposed events ++ lost events)) := by
  have accounts := gathered_perm holding (fun _ e => e.handed?.toList)
    (fun s e => (e.happen.emitted s).filterMap Output.disposed?) (fun s e => (s.dropped? e).toList)
    (fun s e => (step_change s e).ledger) (initial Client Payload) events
  rw [← handedIn_eq, ← filterMap_gathered] at accounts
  exact (List.append_nil (handedIn events) ▸ accounts : _)

theorem lost_eq_nil_iff :
    lost events = [] ↔ EachStep step (fun s e => s.dropped? e = none) (initial Client Payload) events := by
  rw [lost, gathered_eq_nil_iff]
  simp

omit [DecidableEq Payload] in
theorem Quiet.holding_eq_nil_iff {s : System Client Payload} (quiet : s.Quiet) : s.holding = [] ↔ s.Attended := by
  obtain ⟨msgs, task, threads⟩ := quiet
  constructor
  · intro nothing k
    simp [holding] at nothing
    cases k <;> simp [open?, nothing]
  · intro attended
    have free (k : NiKind) : (s.sessions k).rawRequest = none := by
      have none := attended k
      rw [task, serving, threads] at none
      by_contra busy
      simp [open?, Option.isSome_iff_ne_none.mpr busy, AdapterTask.opens] at none
    simp [holding, msgs, threads, free]

/-- The payloads that are answered or freed in a run are among those handed in, each at most as often. When nothing is
left to do these are all exactly when there was always a client to tell, or an emergency that accepted the request, and
the task always got the thread that it was to create. -/
theorem disposed_perm_iff (events : List (Event Client Payload)) :
    (disposed events).Subperm (handedIn events) ∧
      ((events.foldl step (initial Client Payload)).Quiet →
        ((disposed events).Perm (handedIn events) ↔
          EachStep step (fun s e => s.dropped? e = none ∧ ∀ k, ¬ s.Strands k e) (initial Client Payload) events)) := by
  have accounts := handedIn_perm events
  constructor
  · refine List.Subperm.trans ?_ accounts.symm.subperm
    exact ((List.sublist_append_left _ _).trans (List.sublist_append_right _ _)).subperm
  · intro quiet
    have conditions : EachStep step (fun s e => s.dropped? e = none ∧ ∀ k, ¬ s.Strands k e) (initial Client Payload)
        events ↔ lost events = [] ∧ (events.foldl step (initial Client Payload)).holding = [] := by
      rw [quiet.holding_eq_nil_iff, lost_eq_nil_iff, attended_iff]
      exact ⟨fun each => ⟨fun done e reached => (each done e reached).1, fun done e reached => (each done e reached).2⟩,
        fun both done e reached => ⟨both.1 done e reached, both.2 done e reached⟩⟩
    rw [conditions]
    constructor
    · intro all
      have lengths := (all.trans accounts).length_eq
      simp only [List.length_append] at lengths
      exact ⟨List.eq_nil_of_length_eq_zero (by omega), List.eq_nil_of_length_eq_zero (by omega)⟩
    · rintro ⟨none, nothing⟩
      rw [none, nothing, List.append_nil] at accounts
      exact accounts.symm

/-- The settings of a device that leaves every request to its clients. -/
def leaves : NiConf :=
  { mSupportNfwControl := true, afwControlId := 0, e911State := false, gpsLock := 0, niSuplDenyOnNfwLocked := 1,
    suplEs := 0, cpMtlrEs := 0 }

/-- The callbacks of a client that is told. -/
def listens : LocationApi.LocationCallbacks :=
  { capabilitiesCb := true, responseCb := true, collectiveResponseCb := true, trackingCb := false,
    gnssLocationInfoCb := false, engineLocationsInfoCb := false, gnssNiCb := true, gnssSvCb := false,
    gnssNmeaCb := false, gnssDataCb := false, gnssMeasurementsCb := false, locationSystemInfoCb := false,
    batchingCb := false, geofenceBreachCb := false, geofenceStatusCb := false }

/-- A client accepts an emergency request, which overrides another request. -/
def acceptedRun : List (Event ℕ ℕ) :=
  let task : Event ℕ ℕ := .adapter leaves true
  [.addClient 5 listens, task,
    .requestNiNotifyEvent { type := .supl, options := 0 } 100 .notSet, task, task, task,
    .requestNiNotifyEvent { type := .emergencySupl, options := 0 } 200 .notSet, task, task, task,
    .thread (.starting .session) false, .thread (.starting .sessionEs) false,
    .gnssNiResponseCommand 5 2 .accept, task, task, task, task,
    .thread (.waiting .session) false, .thread (.waiting .sessionEs) false,
    .thread (.unlocked .session none) false, .thread (.cleared none) false,
    .thread (.unlocked .sessionEs (some (.accept, 200))) false, .thread (.cleared (some (.accept, 200))) false, task]

theorem disposed_perm_iff_accepted :
    EachStep step (fun s e => s.dropped? e = none ∧ ∀ k, ¬ s.Strands k e) (initial ℕ ℕ) acceptedRun :=
  ((disposed_perm_iff acceptedRun).2 ⟨by decide, by decide, by decide⟩).mp (by decide)

end System

end Cypfr.GnssNi
