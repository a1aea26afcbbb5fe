import Cypfr.Model.Tracking

/-! # Tracking beside its modem

The modem gets the requests in the order in which they are made and answers each when it likes, with success or
an error. Commands, restarts of the modem and answers come in any order; what is kept of a run is what the modem
was asked and answered, which answers are outstanding, and what the clients were told on behalf of which command.
Commands that wait are sent again when the capabilities of the engine become known, and come as commands.
-/

namespace Cypfr.Tracking

/-- A request that the modem has not answered: its number, the command that it was made for, and what is done
when it is answered. -/
structure Outstanding (Client : Type) where
  number : ℕ
  origin : Option (Command Client)
  response : LocApiResponse Client
deriving DecidableEq

/-- A response to a client, on behalf of a command. -/
structure Report (Client : Type) where
  origin : Option (Command Client)
  key : LocationSessionKey Client
  err : LocationError
deriving DecidableEq

inductive Event (Client : Type) where
  | command (command : Command Client)
  | restartSessions
  | setEngineCapabilitiesKnown
  | answer (index : ℕ) (err : LocationError)

structure Session (Client : Type) [LinearOrder Client] where
  adapter : GnssAdapter Client
  log : List (LocApiRequest × Option LocationError)
  outstanding : List (Outstanding Client)
  reports : List (Report Client)

namespace Session

variable {Client : Type} [LinearOrder Client]

/-- A run begins with nothing asked. -/
def start (adapter : GnssAdapter Client) : Session Client := ⟨adapter, [], [], []⟩

/-- A modem with all capabilities and clients that get positions. -/
def sample : Session ℕ := start (.initial (fun _ => some trackingCallbacks) true true false)

/-- The adapter is left in a state. -/
def become (s : Session Client) (adapter : GnssAdapter Client) : Session Client := { s with adapter }

/-- What an output adds to the run. -/
def record (origin : Option (Command Client)) (s : Session Client) : Output Client → Session Client
  | .request request response =>
    { s with
      log := s.log ++ [(request, none)]
      outstanding := s.outstanding ++ (response.map fun response => ⟨s.log.length, origin, response⟩).toList }
  | .reportResponse key err => { s with reports := s.reports ++ [⟨origin, key, err⟩] }

/-- What a program of the adapter does. -/
def after (s : Session Client) (origin : Option (Command Client)) (p : AdapterM Client Unit) : Session Client :=
  (p.emitted s.adapter).foldl (record origin) (s.become (p.next s.adapter))

/-- The modem answers one of the requests. -/
def answered (s : Session Client) (index : ℕ) (number : ℕ) (err : LocationError) : Session Client :=
  { s with
    log := s.log.modify number fun entry => (entry.1, some err)
    outstanding := s.outstanding.eraseIdx index }

def step (s : Session Client) : Event Client → Session Client
  | .command command => s.after (some command) command.proc
  | .restartSessions => s.after none restartSessions
  | .setEngineCapabilitiesKnown => s.become { s.adapter with engineCapabilitiesKnown := true, pendingMsgs := [] }
  | .answer index err =>
    match s.outstanding[index]? with
    | none => s
    | some waiting => (s.answered index waiting.number err).after waiting.origin (waiting.response.proc err)

end Session

end Cypfr.Tracking
