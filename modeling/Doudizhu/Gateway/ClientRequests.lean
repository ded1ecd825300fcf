import Doudizhu.Gateway.Session

/-! # Requests of clients

A packet is a request if its message id is one of seven and its body parses as that message.
A session serves the request, unless another session has been registered for its player
since; then it only lets a login pass.
-/

namespace Doudizhu.Gateway

open Game

variable {ρ : Type} (shuffler : Shuffler ρ) (protobuf : Protobuf)

inductive ClientRequest where
  | login (playerId : PlayerId)
  | heartbeat
  | quickMatch
  | callLandlord (call : Bool)
  /-- The codes of the cards, as they were sent. -/
  | playCards (encoded : List Nat)
  | pass
  | reconnect
deriving DecidableEq

def ClientRequest.isLogin : ClientRequest → Bool
  | .login _ => true
  | _ => false

/-- The request in a packet, if it is one. -/
def Protobuf.request (messageId : Nat) (body : Bytes) : Option ClientRequest :=
  if messageId = MessageId.c2sLogin.number then (protobuf.parseLogin body).map .login
  else if messageId = MessageId.c2sHeartbeat.number then
    if protobuf.parseHeartBeat body then some .heartbeat else none
  else if messageId = MessageId.c2sQuickMatch.number then
    if protobuf.parseQuickMatch body then some .quickMatch else none
  else if messageId = MessageId.c2sCallLandlord.number then
    (protobuf.parseCallLandlord body).map .callLandlord
  else if messageId = MessageId.c2sPlayCards.number then (protobuf.parsePlayCards body).map .playCards
  else if messageId = MessageId.c2sPass.number then if protobuf.parsePass body then some .pass else none
  else if messageId = MessageId.c2sReconnect.number then
    if protobuf.parseReconnect body then some .reconnect else none
  else none

/-- What the session is when it looks at the packet. -/
def Session.counted (session : Session) (now : Time) : Session :=
  ({ session with pendingRead := none, readInProgress := false } : Session).refreshHeartbeat.countMessage now

/-- What a session does that serves the request. -/
def ClientRequest.perform (gateway : GatewayProcess ρ) (moment : Moment) (id : SessionId) (player : PlayerId) :
    ClientRequest → Except Fault (Outcome ρ)
  | .login playerId => .ok ([], gateway.post (.login id playerId))
  | .heartbeat => gateway.calls [.sendPacket id (.heartBeatRet moment.systemTime)]
  | .quickMatch => gateway.handleQuickMatch shuffler moment id player
  | .callLandlord call => gateway.handleCallLandlord shuffler moment id player call
  | .playCards encoded => gateway.handlePlayCards shuffler moment id player encoded
  | .pass => gateway.handlePass shuffler moment id player
  | .reconnect => gateway.handleReconnect id player

/-- What a session does with a packet that it lets in. -/
def GatewayProcess.serve (gateway : GatewayProcess ρ) (moment : Moment) (id : SessionId) (session : Session) :
    Option ClientRequest → Except Fault (Outcome ρ)
  | none => gateway.calls [.close id]
  | some request =>
    if !request.isLogin && session.displaced gateway.notifier then gateway.calls [.close id]
    else request.perform shuffler gateway moment id session.playerId

section Dispatch

variable {gateway : GatewayProcess ρ} {moment : Moment} {id : SessionId} {session : Session}

theorem serve_displaced {request : Option ClientRequest} (displaced : session.displaced gateway.notifier)
    (other : ∀ asked ∈ request, asked.isLogin = false) :
    gateway.serve shuffler moment id session request = gateway.calls [.close id] := by
  cases request with
  | none => rfl
  | some asked => exact if_pos (by simp [other asked rfl, displaced])

theorem serve_current (current : session.displaced gateway.notifier = false) (request : ClientRequest) :
    gateway.serve shuffler moment id session (some request) =
      request.perform shuffler gateway moment id session.playerId :=
  if_neg (by simp [current])

theorem request_isLogin {messageId : Nat} {body : Bytes} (other : messageId ≠ MessageId.c2sLogin.number) :
    ∀ asked ∈ protobuf.request messageId body, asked.isLogin = false := by
  intro asked member
  cases asked with
  | login playerId =>
    -- only the message id of a login makes one
    rw [Protobuf.request, if_neg other, Option.mem_def] at member
    split_ifs at member <;> simp at member
  | _ => rfl

/-- `dispatch` serves the request in the packet. -/
theorem dispatch_eq (messageId : Nat) (body : Bytes) :
    gateway.dispatch shuffler protobuf moment id session messageId body =
      gateway.serve shuffler moment id session (protobuf.request messageId body) := by
  by_cases login : messageId = MessageId.c2sLogin.number
  · rw [GatewayProcess.dispatch, Protobuf.request, if_neg (fun other => other.1 login), if_pos login, if_pos login]
    cases protobuf.parseLogin body <;> rfl
  by_cases displaced : session.displaced gateway.notifier
  · rw [GatewayProcess.dispatch, if_pos ⟨login, displaced⟩]
    exact (serve_displaced shuffler displaced (request_isLogin protobuf login)).symm
  have serves := @serve_current _ shuffler gateway moment id session (Bool.eq_false_iff.mpr displaced)
  rw [GatewayProcess.dispatch, if_neg (fun both => displaced both.2), if_neg login, Protobuf.request, if_neg login]
  by_cases heartbeat : messageId = MessageId.c2sHeartbeat.number
  · rw [if_pos heartbeat, if_pos heartbeat]
    cases protobuf.parseHeartBeat body
    · rfl
    · exact (serves .heartbeat).symm
  rw [if_neg heartbeat, if_neg heartbeat]
  by_cases quickMatch : messageId = MessageId.c2sQuickMatch.number
  · rw [if_pos quickMatch, if_pos quickMatch]
    cases protobuf.parseQuickMatch body
    · rfl
    · exact (serves .quickMatch).symm
  rw [if_neg quickMatch, if_neg quickMatch]
  by_cases calls : messageId = MessageId.c2sCallLandlord.number
  · rw [if_pos calls, if_pos calls]
    cases protobuf.parseCallLandlord body with
    | none => rfl
    | some call => exact (serves (.callLandlord call)).symm
  rw [if_neg calls, if_neg calls]
  by_cases plays : messageId = MessageId.c2sPlayCards.number
  · rw [if_pos plays, if_pos plays]
    cases protobuf.parsePlayCards body with
    | none => rfl
    | some encoded => exact (serves (.playCards encoded)).symm
  rw [if_neg plays, if_neg plays]
  by_cases pass : messageId = MessageId.c2sPass.number
  · rw [if_pos pass, if_pos pass]
    cases protobuf.parsePass body
    · rfl
    · exact (serves .pass).symm
  rw [if_neg pass, if_neg pass]
  by_cases reconnect : messageId = MessageId.c2sReconnect.number
  · rw [if_pos reconnect, if_pos reconnect]
    cases protobuf.parseReconnect body
    · rfl
    · exact (serves .reconnect).symm
  · rw [if_neg reconnect, if_neg reconnect]
    rfl

end Dispatch

end Doudizhu.Gateway
