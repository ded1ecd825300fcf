import Doudizhu.Gateway.Protocol
import Doudizhu.Gateway.PlayerNotifier

/-! # Sessions

The gateway process: `TcpSession` and `WebSocketSession` over the room manager and the
notifier, the cleanup timer, and the two threads that call the backend.

One thread runs all handlers, each to its end.  `agenda` is what the handler that is
running has still to do, the next call first; a call that a session makes on another
session goes in front.  So `step` either takes an event, when the agenda is empty, or does
the next task.  What the running code reads from its surroundings comes with each step as
a `Moment`.

A read or write that was started may end in success or failure, also after the socket was
closed: it may have ended before.  Sessions are never forgotten.  One whose last handler
has run, when `weak_session.lock()` fails, is closed, and nothing handed to it leaves.
-/

namespace Doudizhu.Gateway

open Game

/-! ## Sessions -/

inductive Transport where
  | tcp | webSocket
deriving DecidableEq

/-- The asynchronous read that is outstanding. -/
inductive PendingRead where
  | handshake
  | header
  | body (header : PacketHeader)
  | frame
deriving DecidableEq

structure Session where
  transport : Transport
  playerId : PlayerId := ""
  notifierToken : Option Token := none
  closed : Bool := false
  readInProgress : Bool := false
  pendingRead : Option PendingRead := none
  heartbeatArmed : Bool := false
  messageWindowStarted : Time
  messageCount : Nat := 0
  writeQueue : List Bytes := []
  /-- The write of the first packet of the queue is outstanding. -/
  writing : Bool := false
deriving DecidableEq

def maxMessagesPerSecond : Nat := 30

/-- An asynchronous operation that a session starts. -/
inductive Operation where
  | read (pending : PendingRead)
  | write (packet : Bytes)
deriving DecidableEq

namespace Session

/-! ### Reads and writes

Each of these functions also reports the operations that it starts.
-/

/-- `TcpSession::read_header`, `WebSocketSession::read_next`. -/
def readNext (session : Session) : List Operation × Session :=
  if session.readInProgress then ([], session)
  else
    let read := if session.transport = .tcp then .header else .frame
    ([.read read], { session with readInProgress := true, pendingRead := some read })

/-- `write_next`: the first packet of the queue is written. -/
def writeNext (session : Session) : List Operation × Session :=
  (session.writeQueue.head?.toList.map .write, { session with writing := true })

/-- A packet joins the queue, and is written at once if it is the first. -/
def pushPacket (session : Session) (packet : Bytes) : List Operation × Session :=
  let startWrite := session.writeQueue.isEmpty
  let session := { session with writeQueue := session.writeQueue ++ [packet] }
  if startWrite then session.writeNext else ([], session)

/-- The first packet of the queue has been written. -/
def finishWrite (session : Session) : List Operation × Session :=
  let session := { session with writeQueue := session.writeQueue.tail, writing := false }
  if session.writeQueue ≠ [] then session.writeNext else session.readNext

def startRead (session : Session) : Session := session.readNext.2

def enqueue (session : Session) (packet : Bytes) : Session := (session.pushPacket packet).2

def written (session : Session) : Session := session.finishWrite.2

def refreshHeartbeat (session : Session) : Session := { session with heartbeatArmed := true }

/-- One more message in the current second. -/
def countMessage (session : Session) (now : Time) : Session :=
  if now - session.messageWindowStarted ≥ seconds 1 then
    { session with messageWindowStarted := now, messageCount := 1 }
  else { session with messageCount := session.messageCount + 1 }

def overLimit (session : Session) : Bool := session.messageCount > maxMessagesPerSecond

/-- The player is known, and registered by this session last. -/
def current (session : Session) (notifier : PlayerNotifier) : Bool :=
  session.playerId != "" &&
    match session.notifierToken with
    | none => false
    | some token => notifier.isCurrent session.playerId token

/-- The player is known, and has been registered by another session since. -/
def displaced (session : Session) (notifier : PlayerNotifier) : Bool :=
  session.playerId != "" &&
    match session.notifierToken with
    | none => false
    | some token => !notifier.isCurrent session.playerId token

/-! ### What they leave -/

theorem startRead_eq (session : Session) : session.startRead =
    if session.readInProgress then session
    else
      { session with
        readInProgress := true
        pendingRead := some (if session.transport = .tcp then .header else .frame) } := by
  unfold startRead readNext
  split <;> rfl

theorem enqueue_eq (session : Session) (packet : Bytes) : session.enqueue packet =
    { session with
      writeQueue := session.writeQueue ++ [packet]
      writing := session.writing || session.writeQueue.isEmpty } := by
  unfold enqueue pushPacket writeNext
  cases session.writeQueue <;> simp

theorem written_eq (session : Session) : session.written =
    if session.writeQueue.tail ≠ [] then
      { session with writeQueue := session.writeQueue.tail, writing := true }
    else { session with writeQueue := session.writeQueue.tail, writing := false }.startRead := by
  unfold written finishWrite
  split
  · next more => rw [if_pos more, writeNext]
  · next last => rw [if_neg last, startRead]

end Session

/-! ## The backend threads -/

/-- What `BackendClient::login` returns. -/
structure LoginResult where
  success : Bool
  playerId : PlayerId
  coins : Int
  message : String
deriving DecidableEq

/-- A call of the backend that was posted to the thread pool. -/
inductive Job where
  | login (session : SessionId) (requested : PlayerId)
  | markOffline (player : PlayerId)
  | settle (entry : SettlementEntry)
deriving DecidableEq

/-- The threads of `backend_pool`. -/
def backendThreads : Nat := 2

/-- A login that the backend has answered, on its way back to the session. -/
structure LoginCompletion where
  session : SessionId
  requested : PlayerId
  result : LoginResult
deriving DecidableEq

/-! ## The process -/

/-- A call that the running handler has still to make. -/
inductive Task where
  | sendPacket (session : SessionId) (message : ServerMessage)
  | close (session : SessionId)
  /-- What `close` does after it has sent the room state. -/
  | finishClose (session : SessionId)
  | notify (player : PlayerId) (message : ServerMessage)
  /-- Read the room state of the player, and send it to the player. -/
  | notifyRoomState (player : PlayerId)
  | postSettle (entry : SettlementEntry)
  | cleanupIdle (now : Time)
  | cleanupExpired (now : Time)
deriving DecidableEq

structure GatewayProcess (ρ : Type) where
  manager : RoomManager ρ
  notifier : PlayerNotifier := {}
  sessions : List Session := []
  /-- The first `backendThreads` jobs are running. -/
  jobs : List Job := []
  completions : List LoginCompletion := []
  agenda : List Task := []

/-- Readings of the clocks, in the order of the calls, and the orders that hash maps are
    visited in. -/
structure Moment where
  packetAt : Time
  startedAt : Time
  now : Time
  endedAt : Time
  systemTime : Int
  rooms : VisitOrder RoomId
  players : VisitOrder PlayerId
  roomStartedAt : RoomId → Time

inductive Event where
  | accepted (transport : Transport)
  | handshaken (session : SessionId) (success : Bool)
  | headerRead (session : SessionId) (bytes : Option (Vector UInt8 6))
  | bodyRead (session : SessionId) (body : Option Bytes)
  | frameRead (session : SessionId) (frame : Option Bytes)
  | written (session : SessionId) (success : Bool)
  | heartbeatExpired (session : SessionId)
  | jobDone (index : Nat) (result : LoginResult)
  | loginCompleted (index : Nat)
  | cleanup
  /-- The running handler goes on. -/
  | next
deriving DecidableEq

/-- What a step lets out. -/
inductive Note where
  | loggedIn (session : SessionId) (player : PlayerId)
  /-- A packet made the session call the room manager for the player; `answered` if the
      player was found to be in a game. -/
  | acted (session : SessionId) (player : PlayerId) (answered : Bool)
  /-- `PlayerNotifier::send` was called, and handed the message to this session. -/
  | handed (player : PlayerId) (message : ServerMessage) (receiver : Option SessionId)
deriving DecidableEq

abbrev Outcome (ρ : Type) : Type := List Note × GatewayProcess ρ

namespace GatewayProcess

variable {ρ : Type} (shuffler : Shuffler ρ) (protobuf : Protobuf)

def update (gateway : GatewayProcess ρ) (id : SessionId) (change : Session → Session) : GatewayProcess ρ :=
  { gateway with sessions := gateway.sessions.modify id change }

/-- Calls to make next. -/
def push (gateway : GatewayProcess ρ) (tasks : List Task) : GatewayProcess ρ :=
  { gateway with agenda := tasks ++ gateway.agenda }

def post (gateway : GatewayProcess ρ) (job : Job) : GatewayProcess ρ :=
  { gateway with jobs := gateway.jobs ++ [job] }

/-- Calls to make next, and nothing to tell. -/
def calls (gateway : GatewayProcess ρ) (tasks : List Task) :
    Except Fault (Outcome ρ) := .ok ([], gateway.push tasks)

/-- `PlayerNotifier::send` -/
def send (gateway : GatewayProcess ρ) (player : PlayerId) (message : ServerMessage) :
    Except Fault (Outcome ρ) :=
  match gateway.notifier.senders.lookup player with
  | none => .ok ([.handed player message none], gateway)
  | some entry =>
    .ok ([.handed player message (some entry.session)],
      gateway.push [.sendPacket entry.session message])

/-! ## Writing -/

def packetOf (message : ServerMessage) : Bytes :=
  let body := protobuf.serialize message
  let header := PacketCodec.encodeHeader
    { packetSize := PacketCodec.headerSize + body.length, messageId := message.id.number }
  header.toList ++ body

def sendPacket (gateway : GatewayProcess ρ) (id : SessionId) (message : ServerMessage) :
    Except Fault (Outcome ρ) :=
  if PacketCodec.headerSize + (protobuf.serialize message).length > maxPacketSize then
    gateway.calls [.close id]
  else .ok ([], gateway.update id fun session => session.enqueue (packetOf protobuf message))

/-! ## Closing -/

/-- `close`, up to the room state that it sends. -/
def close (gateway : GatewayProcess ρ) (moment : Moment) (id : SessionId) :
    Except Fault (Outcome ρ) :=
  match gateway.sessions[id]? with
  | none => .ok ([], gateway)
  | some session =>
    if session.closed then .ok ([], gateway)
    else
      let gateway := gateway.update id fun session =>
        { session with closed := true, heartbeatArmed := false }
      if session.current gateway.notifier then do
        let gateway := { gateway with
          manager := gateway.manager.markOffline session.playerId moment.now }
        match ← gateway.manager.roomState moment.endedAt session.playerId with
        | none => gateway.calls [.finishClose id]
        | some state =>
          -- the snapshot of the player who leaves, for all three
          let snapshot := encodeRoomState state
          gateway.calls ((state.players.map fun player =>
            .notify player.playerId (.roomState snapshot)) ++ [.finishClose id])
      else .ok ([], gateway)

def finishClose (gateway : GatewayProcess ρ) (id : SessionId) : Except Fault (Outcome ρ) :=
  match gateway.sessions[id]? with
  | none => .ok ([], gateway)
  | some session =>
    let gateway := gateway.post (.markOffline session.playerId)
    match session.notifierToken with
    | none => .ok ([], gateway)
    | some token =>
      .ok ([], { gateway with
        notifier := gateway.notifier.unregisterPlayer session.playerId token })

/-! ## Packets -/

/-- The settlement goes to its player and to the backend. -/
def settleTasks (entry : SettlementEntry) : List Task :=
  [.notify entry.playerId (.settleResult (entry.result == "WIN") entry.coinChange), .postSettle entry]

/-- A message to each of the players, with the room state of each. -/
def tellAll (players : List PlayerId) (message : ServerMessage) : List Task :=
  players.flatMap fun player => [.notify player message, .notifyRoomState player]

def startTasks (start : GameStartInfo) : List Task :=
  start.playerIds.zipIdx.flatMap fun (player, seat) =>
    [.notify player
        (.dealCards ((start.hands (seatAt seat)).map CardCodec.encode) seat start.currentSeat),
      .notifyRoomState player]

def handleQuickMatch (gateway : GatewayProcess ρ) (moment : Moment) (id : SessionId) (player : PlayerId) :
    Except Fault (Outcome ρ) :=
  if player = "" then
    gateway.calls [.sendPacket id (.matchRet false 0 "login required" 0 false)]
  else do
    let (result, manager) ← gateway.manager.matchPlayer shuffler moment.rooms moment.now player
    let message := if result.gameStarted then "game ready" else "waiting for players"
    let response := ServerMessage.matchRet true result.roomId message result.seat result.gameStarted
    let tasks := match result.gameStart with
      | none => []
      | some start => startTasks start
    .ok ([.acted id player true],
      { gateway with manager }.push (.sendPacket id response :: tasks))

def handleCallLandlord (gateway : GatewayProcess ρ) (moment : Moment) (id : SessionId) (player : PlayerId)
    (call : Bool) : Except Fault (Outcome ρ) := do
  let (result, manager) ← gateway.manager.callLandlord shuffler moment.startedAt moment.now player call
  let gateway := { gateway with manager }
  match result with
  | none => .ok ([.acted id player false], gateway.push [.close id])
  | some result =>
    let response := ServerMessage.callLandlordRet result.accepted result.currentSeat
      result.gameStarted (result.landlordSeat.getD 0) result.actorSeat result.called
    .ok ([.acted id player true], gateway.push
      (if result.accepted then tellAll result.playerIds response else [.sendPacket id response]))

def handlePlayCards (gateway : GatewayProcess ρ) (moment : Moment) (id : SessionId) (player : PlayerId)
    (encoded : List Nat) : Except Fault (Outcome ρ) :=
  match encoded.mapM CardCodec.decode with
  | none => gateway.calls [.close id]
  | some cards => do
    let (result, manager) ← gateway.manager.playCards shuffler moment.now moment.endedAt player cards
    let gateway := { gateway with manager }
    match result with
    | none => .ok ([.acted id player false], gateway.push [.close id])
    | some result =>
      let response := ServerMessage.playCardsRet result.accepted result.currentSeat result.gameOver
      let broadcast := ServerMessage.playBroadcast result.actorSeat (cards.map CardCodec.encode) false
        result.currentSeat
      .ok ([.acted id player true], gateway.push (.sendPacket id response ::
        (if result.accepted then tellAll result.playerIds broadcast else []) ++
        (if result.gameOver then result.settlements.flatMap settleTasks else [])))

def handlePass (gateway : GatewayProcess ρ) (moment : Moment) (id : SessionId) (player : PlayerId) :
    Except Fault (Outcome ρ) := do
  let (result, manager) ← gateway.manager.pass shuffler moment.now player
  let gateway := { gateway with manager }
  match result with
  | none => .ok ([.acted id player false], gateway.push [.close id])
  | some result =>
    let response := ServerMessage.passRet result.accepted result.currentSeat result.gameOver
    let broadcast := ServerMessage.playBroadcast result.actorSeat [] true result.currentSeat
    .ok ([.acted id player true], gateway.push (.sendPacket id response ::
      if result.accepted then tellAll result.playerIds broadcast else []))

def handleReconnect (gateway : GatewayProcess ρ) (id : SessionId) (player : PlayerId) :
    Except Fault (Outcome ρ) := do
  match ← gateway.manager.reconnectInfo player with
  | none => .ok ([.acted id player false], gateway.push [.close id])
  | some info =>
    .ok ([.acted id player true], gateway.push [.sendPacket id
      (.reconnectSync info.roomId info.seat info.phase.value info.currentSeat
        (info.landlordSeat.getD 0) (info.hand.map CardCodec.encode))])

/-- The guard against displaced sessions, and the switch over the message ids. -/
def dispatch (gateway : GatewayProcess ρ) (moment : Moment) (id : SessionId) (session : Session)
    (messageId : Nat) (body : Bytes) : Except Fault (Outcome ρ) :=
  if messageId ≠ MessageId.c2sLogin.number ∧ session.displaced gateway.notifier then
    gateway.calls [.close id]
  else if messageId = MessageId.c2sLogin.number then
    match protobuf.parseLogin body with
    | none => gateway.calls [.close id]
    | some requested => .ok ([], gateway.post (.login id requested))
  else if messageId = MessageId.c2sHeartbeat.number then
    if protobuf.parseHeartBeat body then
      gateway.calls [.sendPacket id (.heartBeatRet moment.systemTime)]
    else gateway.calls [.close id]
  else if messageId = MessageId.c2sQuickMatch.number then
    if protobuf.parseQuickMatch body then
      gateway.handleQuickMatch shuffler moment id session.playerId
    else gateway.calls [.close id]
  else if messageId = MessageId.c2sCallLandlord.number then
    match protobuf.parseCallLandlord body with
    | none => gateway.calls [.close id]
    | some call => gateway.handleCallLandlord shuffler moment id session.playerId call
  else if messageId = MessageId.c2sPlayCards.number then
    match protobuf.parsePlayCards body with
    | none => gateway.calls [.close id]
    | some encoded => gateway.handlePlayCards shuffler moment id session.playerId encoded
  else if messageId = MessageId.c2sPass.number then
    if protobuf.parsePass body then gateway.handlePass shuffler moment id session.playerId
    else gateway.calls [.close id]
  else if messageId = MessageId.c2sReconnect.number then
    if protobuf.parseReconnect body then gateway.handleReconnect id session.playerId
    else gateway.calls [.close id]
  else gateway.calls [.close id]

/-- `TcpSession::handle_packet`: the rate limit comes before the heartbeat. -/
def handleTcpPacket (gateway : GatewayProcess ρ) (moment : Moment) (id : SessionId) (session : Session)
    (header : PacketHeader) (body : Bytes) : Except Fault (Outcome ρ) :=
  let session := session.countMessage moment.packetAt
  if session.overLimit then (gateway.update id fun _ => session).calls [.close id]
  else
    let session := session.refreshHeartbeat
    (gateway.update id fun _ => session).dispatch shuffler protobuf moment id session
      header.messageId body

/-- `WebSocketSession::handle_packet`: the heartbeat comes before the rate limit. -/
def handleWebSocketPacket (gateway : GatewayProcess ρ) (moment : Moment) (id : SessionId)
    (session : Session) (packet : Bytes) : Except Fault (Outcome ρ) :=
  match (PacketCodec.headerBytes packet).bind PacketCodec.decodeHeader with
  | none => gateway.calls [.close id]
  | some header =>
    if header.packetSize ≠ packet.length ∨ header.packetSize > maxPacketSize then
      gateway.calls [.close id]
    else
      let session := session.refreshHeartbeat.countMessage moment.packetAt
      if session.overLimit then (gateway.update id fun _ => session).calls [.close id]
      else
        (gateway.update id fun _ => session).dispatch shuffler protobuf moment id session
          header.messageId (packet.drop PacketCodec.headerSize)

/-! ## Reading -/

/-- The handler of `read_header`. -/
def headerRead (gateway : GatewayProcess ρ) (moment : Moment) (id : SessionId) (session : Session)
    (bytes : Option (Vector UInt8 6)) : Except Fault (Outcome ρ) :=
  let session := { session with pendingRead := none }
  let gateway := gateway.update id fun _ => session
  match bytes with
  | none => gateway.calls [.close id]
  | some bytes =>
    match PacketCodec.decodeHeader bytes with
    | none => gateway.calls [.close id]
    | some header =>
      if header.packetSize > maxPacketSize then gateway.calls [.close id]
      else if header.packetSize = PacketCodec.headerSize then
        let session := { session with readInProgress := false }
        (gateway.update id fun _ => session).handleTcpPacket shuffler protobuf moment id session header []
      else
        .ok ([], gateway.update id fun session => { session with pendingRead := some (.body header) })

/-- The handler of `read_body`. -/
def bodyRead (gateway : GatewayProcess ρ) (moment : Moment) (id : SessionId) (session : Session)
    (header : PacketHeader) (body : Option Bytes) : Except Fault (Outcome ρ) :=
  let session := { session with pendingRead := none }
  match body with
  | none => (gateway.update id fun _ => session).calls [.close id]
  | some body =>
    let session := { session with readInProgress := false }
    (gateway.update id fun _ => session).handleTcpPacket shuffler protobuf moment id session header body

/-- The handler of `read_next`; `none` for an error or a frame that is not binary. -/
def frameRead (gateway : GatewayProcess ρ) (moment : Moment) (id : SessionId) (session : Session)
    (frame : Option Bytes) : Except Fault (Outcome ρ) :=
  let session := { session with pendingRead := none }
  match frame with
  | none => (gateway.update id fun _ => session).calls [.close id]
  | some packet =>
    let session := { session with readInProgress := false }
    (gateway.update id fun _ => session).handleWebSocketPacket shuffler protobuf moment id session packet

/-! ## Logins -/

/-- The continuation of a login on the thread of the gateway. -/
def completeLogin (gateway : GatewayProcess ρ) (moment : Moment) (completion : LoginCompletion) :
    Except Fault (Outcome ρ) :=
  let id := completion.session
  let result := completion.result
  let response := ServerMessage.loginRet result.success
    (if result.success then result.playerId else completion.requested) result.coins
    (if result.success then "login accepted" else result.message)
  if result.success then do
    let manager := gateway.manager.markOnline result.playerId
    let (token, notifier) := gateway.notifier.registerPlayer result.playerId id
    let gateway := { gateway with manager, notifier }.update id fun session =>
      { session with playerId := result.playerId, notifierToken := some token }
    let tasks := match ← gateway.manager.roomState moment.now result.playerId with
      | none => []
      | some state => state.players.map fun player => .notifyRoomState player.playerId
    .ok ([.loggedIn id result.playerId], gateway.push (tasks ++ [.sendPacket id response]))
  else gateway.calls [.sendPacket id response]

/-! ## The cleanup timer -/

def timeoutTasks (action : TimeoutAction) : List Task :=
  tellAll action.playerIds
    (.timeoutAction action.actorSeat action.phase.value action.currentSeat) ++
  action.settlements.flatMap settleTasks

/-- The handler of `schedule_cleanup`. -/
def cleanup (gateway : GatewayProcess ρ) (moment : Moment) : Except Fault (Outcome ρ) := do
  let (actions, manager) ←
    gateway.manager.timeoutExpired shuffler moment.rooms moment.now moment.roomStartedAt
  { gateway with manager }.calls
    (actions.flatMap timeoutTasks ++
      [Task.cleanupIdle moment.now, Task.cleanupExpired moment.now])

/-! ## Steps -/

def perform (gateway : GatewayProcess ρ) (moment : Moment) : Task → Except Fault (Outcome ρ)
  | .sendPacket id message => gateway.sendPacket protobuf id message
  | .close id => gateway.close moment id
  | .finishClose id => gateway.finishClose id
  | .notify player message => gateway.send player message
  | .notifyRoomState player => do
    match ← gateway.manager.roomState moment.now player with
    | none => .ok ([], gateway)
    | some state => gateway.send player (.roomState (encodeRoomState state))
  | .postSettle entry => .ok ([], gateway.post (.settle entry))
  | .cleanupIdle now =>
    .ok ([], { gateway with manager := gateway.manager.cleanupIdle moment.rooms now })
  | .cleanupExpired now =>
    let (rooms, manager) := gateway.manager.cleanupExpired moment.players now
    { gateway with manager }.calls (rooms.flatten.flatMap settleTasks)

def handle (gateway : GatewayProcess ρ) (moment : Moment) : Event → Except Fault (Outcome ρ)
  | .accepted transport =>
    let session : Session := { transport, messageWindowStarted := moment.packetAt }
    let session := match transport with
      | .tcp => session.refreshHeartbeat.startRead
      | .webSocket => { session with pendingRead := some .handshake }
    .ok ([], { gateway with sessions := gateway.sessions ++ [session] })
  | .handshaken id success =>
    match gateway.sessions[id]? with
    | none => .ok ([], gateway)
    | some session =>
      if session.pendingRead ≠ some .handshake then .ok ([], gateway)
      else
        let session := { session with pendingRead := none }
        if success then .ok ([], gateway.update id fun _ => session.refreshHeartbeat.startRead)
        else (gateway.update id fun _ => session).calls [.close id]
  | .headerRead id bytes =>
    match gateway.sessions[id]? with
    | none => .ok ([], gateway)
    | some session =>
      if session.pendingRead ≠ some .header then .ok ([], gateway)
      else gateway.headerRead shuffler protobuf moment id session bytes
  | .bodyRead id body =>
    match gateway.sessions[id]? with
    | none => .ok ([], gateway)
    | some session =>
      match session.pendingRead with
      | some (.body header) =>
        -- `async_read` fills its buffer
        if body.all fun body => body.length + PacketCodec.headerSize == header.packetSize then
          gateway.bodyRead shuffler protobuf moment id session header body
        else .ok ([], gateway)
      | _ => .ok ([], gateway)
  | .frameRead id frame =>
    match gateway.sessions[id]? with
    | none => .ok ([], gateway)
    | some session =>
      if session.pendingRead ≠ some .frame then .ok ([], gateway)
      else gateway.frameRead shuffler protobuf moment id session frame
  | .written id success =>
    match gateway.sessions[id]? with
    | none => .ok ([], gateway)
    | some session =>
      if !session.writing then .ok ([], gateway)
      else if success then .ok ([], gateway.update id Session.written)
      else (gateway.update id fun session => { session with writing := false }).calls [.close id]
  | .heartbeatExpired id =>
    match gateway.sessions[id]? with
    | none => .ok ([], gateway)
    | some session =>
      if session.heartbeatArmed then
        (gateway.update id fun session => { session with heartbeatArmed := false }).calls [.close id]
      else .ok ([], gateway)
  | .jobDone index result =>
    if index < backendThreads then
      match gateway.jobs[index]? with
      | none => .ok ([], gateway)
      | some job =>
        let gateway := { gateway with jobs := gateway.jobs.eraseIdx index }
        match job with
        | .login session requested =>
          .ok ([], { gateway with
            completions := gateway.completions ++ [{ session, requested, result }] })
        | .markOffline _ | .settle _ => .ok ([], gateway)
    else .ok ([], gateway)
  | .loginCompleted index =>
    match gateway.completions[index]? with
    | none => .ok ([], gateway)
    | some completion =>
      { gateway with completions := gateway.completions.eraseIdx index }.completeLogin moment completion
  | .cleanup => gateway.cleanup shuffler moment
  | .next => .ok ([], gateway)

def step (gateway : GatewayProcess ρ) (event : Event) (moment : Moment) :
    Except Fault (Outcome ρ) :=
  match gateway.agenda with
  | [] => gateway.handle shuffler protobuf moment event
  | task :: rest =>
    match event with
    | .next => { gateway with agenda := rest }.perform protobuf moment task
    | _ => .ok ([], gateway)

end GatewayProcess

/-! ## Runs -/

/-- A step that was taken. -/
structure Taken (ρ : Type) where
  before : GatewayProcess ρ
  event : Event
  moment : Moment
  notes : List Note
  after : GatewayProcess ρ

/-- The steps, one after another. -/
def GatewayProcess.run {ρ : Type} (shuffler : Shuffler ρ) (protobuf : Protobuf) (gateway : GatewayProcess ρ) :
    List (Event × Moment) → Except Fault (List (Taken ρ) × GatewayProcess ρ)
  | [] => .ok ([], gateway)
  | (event, moment) :: inputs => do
    let (notes, next) ← gateway.step shuffler protobuf event moment
    let (trace, finish) ← next.run shuffler protobuf inputs
    .ok (⟨gateway, event, moment, notes, next⟩ :: trace, finish)

end Doudizhu.Gateway
