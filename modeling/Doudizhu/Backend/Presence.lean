import Doudizhu.Backend.Deployment
import Doudizhu.Gateway.Session

/-! # Who is online

The backend keeps a key for every player who is online.  A login sets it, in the call that a
thread of the gateway makes; the session registers with the notifier later, when the answer
has come back.  A session that closes unregisters at once, and has the key deleted by a job.

The gateway and the backend take steps in any order.  The first jobs are running: the
backend handles the call of a running job at some time, and some time later the thread is
done with it.  The keys do not expire.
-/

namespace Doudizhu.Backend

open Gateway Game

/-! ## The keys -/

/-- What `OnlinePlayerService` has in its store. -/
structure OnlinePlayers where
  keys : Finset String := ∅
deriving DecidableEq

namespace OnlinePlayers

def key (playerId : String) : String := "online:player:" ++ playerId

def markOnline (players : OnlinePlayers) (playerId : String) : OnlinePlayers :=
  ⟨insert (key playerId) players.keys⟩

def isOnline (players : OnlinePlayers) (playerId : String) : Bool := key playerId ∈ players.keys

def markOffline (players : OnlinePlayers) (playerId : String) : OnlinePlayers :=
  ⟨players.keys.erase (key playerId)⟩

theorem key_injective {first second : String} (same : key first = key second) : first = second := by
  have texts := congrArg String.toList same
  simp only [key, String.toList_append] at texts
  exact String.toList_inj.mp (List.append_cancel_left texts)

theorem isOnline_markOnline {players : OnlinePlayers} {player other : String} :
    (players.markOnline player).isOnline other ↔ other = player ∨ players.isOnline other := by
  simp only [isOnline, markOnline, decide_eq_true_eq, Finset.mem_insert]
  exact or_congr_left ⟨key_injective, congrArg key⟩

theorem isOnline_markOffline {players : OnlinePlayers} {player other : String} :
    (players.markOffline player).isOnline other ↔ other ≠ player ∧ players.isOnline other := by
  simp only [isOnline, markOffline, decide_eq_true_eq, Finset.mem_erase]
  exact and_congr_left' (not_congr ⟨key_injective, congrArg key⟩)

end OnlinePlayers

/-! ## The backend -/

structure BackendServer where
  ledger : Ledger := {}
  online : OnlinePlayers := {}

namespace BackendServer

/-- `AuthController.login` -/
def login (server : BackendServer) (playerId : String) :
    Except Refusal (LoginResponse × BackendServer) := do
  let (response, ledger) ← server.ledger.login playerId
  .ok (response, { ledger, online := server.online.markOnline response.playerId })

/-- The call of a job: what `BackendClient` returns for it, and the backend after it.  Nothing
    is done with the result of the other calls. -/
def handle (server : BackendServer) : Job → LoginResult × BackendServer
  | .login _ requested =>
    match server.login requested with
    | .ok (response, next) =>
      ({ success := true, playerId := response.playerId, coins := response.coins, message := "" }, next)
    | .error _ =>
      ({ success := false, playerId := "", coins := 0, message := "backend login failed" }, server)
  | .markOffline player =>
    ({ success := true, playerId := player, coins := 0, message := "" },
      { server with online := server.online.markOffline player })
  | .settle entry =>
    ({ success := true, playerId := entry.playerId, coins := 0, message := "" },
      { server with ledger := server.ledger.afterSettle entry.request })

/-- The player whom the call of a job sets online. -/
def accepts (server : BackendServer) : Job → Option PlayerId
  | .login _ requested =>
    match server.login requested with
    | .ok (response, _) => some response.playerId
    | .error _ => none
  | .markOffline _ | .settle _ => none

end BackendServer

/-! ## The gateway with its backend -/

structure Presence (ρ : Type) where
  gateway : GatewayProcess ρ
  server : BackendServer := {}
  /-- What the backend has answered to the running jobs, by their place in the queue. -/
  answers : Nat → Option LoginResult := fun _ => none

inductive PresenceEvent where
  /-- `jobDone` returns what the backend has answered. -/
  | gateway (event : Event)
  /-- The backend handles the call of a running job. -/
  | handled (index : Nat)
deriving DecidableEq

/-- The answers, when the job at this place has left the queue. -/
def without (answers : Nat → Option LoginResult) (index other : Nat) : Option LoginResult :=
  if other < index then answers other else answers (other + 1)

namespace Presence

variable {ρ : Type} (shuffler : Shuffler ρ) (protobuf : Protobuf)

def step (system : Presence ρ) (event : PresenceEvent) (moment : Moment) :
    Except Fault (List Note × Presence ρ) :=
  match event with
  | .handled index =>
    match system.gateway.jobs[index]?, system.answers index with
    | some job, none =>
      if index < backendThreads then
        let (result, server) := system.server.handle job
        .ok ([], { system with
          server
          answers := Function.update system.answers index (some result) })
      else .ok ([], system)
    | _, _ => .ok ([], system)
  | .gateway (.jobDone index _) =>
    match system.gateway.agenda, system.answers index with
    | [], some result => do
      let (notes, gateway) ← system.gateway.step shuffler protobuf (.jobDone index result) moment
      .ok (notes, { system with gateway, answers := without system.answers index })
    | _, _ => .ok ([], system)
  | .gateway event => do
    let (notes, gateway) ← system.gateway.step shuffler protobuf event moment
    .ok (notes, { system with gateway })

/-! ### What the claims of a state are about -/

/-- The notifier holds an entry for the player. -/
def Registered (system : Presence ρ) (player : PlayerId) : Prop :=
  system.gateway.notifier.senders.lookup player ≠ none

def isOnline (system : Presence ρ) (player : PlayerId) : Bool := system.server.online.isOnline player

/-- A job in the queue, and what the backend has answered to it. -/
def slot (system : Presence ρ) (index : Nat) : Option (Job × Option LoginResult) :=
  system.gateway.jobs[index]?.map (·, system.answers index)

/-- The backend has still to handle a call that marks the player offline. -/
def Leaving (system : Presence ρ) (player : PlayerId) : Prop :=
  ∃ index, system.slot index = some (.markOffline player, none)

/-- The backend has accepted a login of the player that has not come back to its session. -/
def Returning (system : Presence ρ) (player : PlayerId) : Prop :=
  ∃ result : LoginResult, result.success ∧ result.playerId = player ∧
    ((∃ index session requested, system.slot index = some (.login session requested, some result)) ∨
      ∃ completion ∈ system.gateway.completions, completion.result = result)

/-- The player of whom the backend accepts a login, when it handles the call of a job. -/
def accepts (system : Presence ρ) : PresenceEvent → Option PlayerId
  | .handled index =>
    match system.slot index with
    | some (job, none) => if index < backendThreads then system.server.accepts job else none
    | _ => none
  | .gateway _ => none

/-- The player of the session whose `close` ends with the step, to post the job that marks
    the player offline. -/
def finishes (system : Presence ρ) : PresenceEvent → Option PlayerId
  | .gateway .next =>
    match system.gateway.agenda.head? with
    | some (.finishClose id) => system.gateway.sessions[id]?.map Session.playerId
    | _ => none
  | _ => none

end Presence

/-! ## Runs -/

/-- A step that was taken. -/
structure PresenceTaken (ρ : Type) where
  before : Presence ρ
  event : PresenceEvent
  moment : Moment
  notes : List Note
  after : Presence ρ

/-- The steps, one after another. -/
def Presence.run {ρ : Type} (shuffler : Shuffler ρ) (protobuf : Protobuf) (system : Presence ρ) :
    List (PresenceEvent × Moment) → Except Fault (List (PresenceTaken ρ) × Presence ρ)
  | [] => .ok ([], system)
  | (event, moment) :: inputs => do
    let (notes, next) ← system.step shuffler protobuf event moment
    let (trace, finish) ← next.run shuffler protobuf inputs
    .ok (⟨system, event, moment, notes, next⟩ :: trace, finish)

/-- A login of the player has succeeded. -/
def HasLoggedIn {ρ : Type} (trace : List (PresenceTaken ρ)) (player : PlayerId) : Prop :=
  ∃ taken ∈ trace, ∃ id, .loggedIn id player ∈ taken.notes

/-- No session closes that is registered for a player of whom a login that was accepted is
    on its way back, and no login is accepted of a player whose last session has closed
    while the call that marks the player offline has not been handled. -/
structure PresenceTaken.InOrder {ρ : Type} (taken : PresenceTaken ρ) : Prop where
  closes : ∀ player, taken.before.finishes taken.event = some player →
    ¬ taken.before.Returning player
  accepts : ∀ player, taken.before.accepts taken.event = some player → ¬ taken.before.Leaving player

end Doudizhu.Backend
