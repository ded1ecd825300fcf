import Doudizhu.Web.Reconnection

/-! # Moves of the system

What can happen to the page and the gateway, label by label, and the events that the gateway
takes in a run of both.
-/

namespace Doudizhu.Web

open Game Gateway Script

variable {ρ : Type} {shuffler : Shuffler ρ}

/-! ## Moves -/

/-- An event, and the rest of its handler. -/
def handling (event : Event) (moment : Moment) (later : List Moment) : List (Event × Moment) :=
  (event, moment) :: later.map fun moment => (.next, moment)

/-- The gateway takes an event, and the handler ends. -/
def Takes (shuffler : Shuffler ρ) (gateway : GatewayProcess ρ) (inputs : List (Event × Moment))
    (next : GatewayProcess ρ) : Prop :=
  ∃ trace, gateway.run shuffler WireFormat.generated inputs = .ok (trace, next) ∧ next.agenda = []

inductive WorldMove (shuffler : Shuffler ρ) (before : World ρ) : Label → World ρ → Prop where
  | typed {text : String} : WorldMove shuffler before (.typed text) { before with page.playerId := text }
  | clicked {button : Button} :
    WorldMove shuffler before (.clicked button) { before with page := before.page.click button }
  | selected {code : Int} : code ∈ before.page.browser.handCodes →
    WorldMove shuffler before (.selected code) { before with page := before.page.select code }
  | heartbeatDue : before.page.heartbeatTimer →
    WorldMove shuffler before .heartbeatDue { before with page := before.page.send false 3 [] }
  | reconnectDue : before.page.reconnectTimer →
    WorldMove shuffler before .reconnectDue
      { before with page := { before.page with reconnectTimer := false }.connect }
  | accepted {index : Nat} {moment : Moment} {socket : Socket} {gateway : GatewayProcess ρ} :
    before.page.sockets[index]? = some socket → socket.session = none →
    Takes shuffler before.gateway (handling (.accepted .webSocket) moment []) gateway →
    WorldMove shuffler before (.accepted index moment)
      { gateway
        page := before.page.update index fun socket =>
          { socket with session := some before.gateway.sessions.length } }
  | opened {index : Nat} {socket : Socket} : before.page.sockets[index]? = some socket →
    socket.readyState = .connecting → socket.session ≠ none →
    WorldMove shuffler before (.opened index) { before with page := before.page.onopen index }
  | closed {index : Nat} {socket : Socket} : before.page.sockets[index]? = some socket →
    socket.readyState ≠ .closed →
    WorldMove shuffler before (.closed index) { before with page := before.page.onclose index }
  | read {index : Nat} {moment : Moment} {later : List Moment} {socket : Socket} {id : SessionId}
      {sent : Sent} {rest : List Sent} {session : Session} {gateway : GatewayProcess ρ} :
    before.page.sockets[index]? = some socket → socket.session = some id → socket.upstream = sent :: rest →
    before.gateway.sessions[id]? = some session → session.pendingRead = some .frame →
    Takes shuffler before.gateway (handling (.frameRead id (some sent.frame)) moment later) gateway →
    WorldMove shuffler before (.read index moment later)
      { gateway, page := before.page.update index fun socket => { socket with upstream := rest } }
  | written {index : Nat} {moment : Moment} {later : List Moment} {socket : Socket} {id : SessionId}
      {session : Session} {packet : Bytes} {queue : List Bytes} {gateway : GatewayProcess ρ} :
    before.page.sockets[index]? = some socket → socket.session = some id →
    before.gateway.sessions[id]? = some session → session.writing → session.writeQueue = packet :: queue →
    Takes shuffler before.gateway (handling (.written id true) moment later) gateway →
    WorldMove shuffler before (.written index moment later)
      { gateway
        page := before.page.update index fun socket =>
          { socket with downstream := socket.downstream ++ [packet] } }
  | received {index : Nat} {now : Int} {socket : Socket} {bytes : Bytes} {rest : List Bytes} :
    before.page.sockets[index]? = some socket → socket.readyState = .opened →
    socket.downstream = bytes :: rest →
    WorldMove shuffler before (.received index now)
      { before with
        page := (before.page.update index fun socket => { socket with downstream := rest }).onmessage now bytes }
  | event {event : Event} {moment : Moment} {later : List Moment} {gateway : GatewayProcess ρ} :
    (∀ id, carries event = some id → ∀ socket ∈ before.page.sockets, socket.session ≠ some id) →
    Takes shuffler before.gateway (handling event moment later) gateway →
    WorldMove shuffler before (.event event moment later) { before with gateway }

section Steps

variable {before after : World ρ} {event : Event} {moment : Moment} {later : List Moment} {page : Page}

theorem handle_takes (handled : before.handle shuffler event moment later page = .ok (some after)) :
    ∃ gateway, Takes shuffler before.gateway (handling event moment later) gateway ∧
      after = { gateway, page } := by
  obtain ⟨trace, ran, through, rfl⟩ := handle_spec handled
  exact ⟨after.gateway, ⟨trace, ran, through⟩, rfl⟩

theorem taken_if {may : Prop} [Decidable may] {next : World ρ}
    (done : (.ok (if may then some next else none) : Except Fault (Option (World ρ))) = .ok (some after)) :
    may ∧ next = after := by
  split at done
  · next holds =>
    cases done
    exact ⟨holds, rfl⟩
  · cases done

theorem world_cases {label : Label} (done : before.step shuffler label = .ok (some after)) :
    WorldMove shuffler before label after := by
  cases label with
  | typed text =>
    cases done
    exact .typed
  | clicked button =>
    cases done
    exact .clicked
  | selected code =>
    obtain ⟨held, rfl⟩ := taken_if done
    exact .selected held
  | heartbeatDue =>
    obtain ⟨runs, rfl⟩ := taken_if done
    exact .heartbeatDue runs
  | reconnectDue =>
    obtain ⟨runs, rfl⟩ := taken_if done
    exact .reconnectDue runs
  | accepted index moment =>
    rw [World.step] at done
    split at done
    · cases done
    next socket found =>
    split at done
    · cases done
    · next fresh =>
      obtain ⟨gateway, takes, rfl⟩ := handle_takes done
      exact .accepted found (not_not.mp fresh) takes
  | opened index =>
    rw [World.step] at done
    split at done
    · cases done
    · next socket found =>
      obtain ⟨⟨connecting, accepted⟩, rfl⟩ := taken_if done
      exact .opened found connecting accepted
  | closed index =>
    rw [World.step] at done
    split at done
    · cases done
    · next socket found =>
      obtain ⟨stays, rfl⟩ := taken_if done
      exact .closed found stays
  | read index moment later =>
    rw [World.step] at done
    split at done
    · cases done
    next socket found =>
    split at done
    · next id sent rest accepted upstream =>
      split at done
      · next waits =>
        obtain ⟨session, placed, waits⟩ := (Option.any_eq_true _ _).mp waits
        obtain ⟨gateway, takes, rfl⟩ := handle_takes done
        exact .read found accepted upstream placed (of_decide_eq_true waits) takes
      · cases done
    · cases done
  | written index moment later =>
    rw [World.step] at done
    split at done
    · cases done
    next socket found =>
    split at done
    · cases done
    next id accepted =>
    split at done
    · cases done
    next session placed =>
    split at done
    · next packet queue writing waiting =>
      obtain ⟨gateway, takes, rfl⟩ := handle_takes done
      exact .written found accepted placed writing waiting takes
    · cases done
  | received index now =>
    rw [World.step] at done
    split at done
    · cases done
    next socket found =>
    split at done
    · next bytes rest opened downstream =>
      cases done
      exact .received found opened downstream
    · cases done
  | event event moment later =>
    rw [World.step] at done
    split at done
    · next none =>
      obtain ⟨gateway, takes, rfl⟩ := handle_takes done
      refine .event (fun id carried => ?_) takes
      rw [none] at carried
      cases carried
    next id carried =>
    split at done
    · cases done
    · next apart =>
      obtain ⟨gateway, takes, rfl⟩ := handle_takes done
      refine .event (fun other same socket member own => apart ?_) takes
      rw [carried] at same
      cases same
      exact List.any_eq_true.mpr ⟨socket, member, decide_eq_true own⟩

end Steps

end Doudizhu.Web
