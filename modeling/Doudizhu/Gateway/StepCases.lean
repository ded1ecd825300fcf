import Doudizhu.Gateway.SessionMoves

/-! # Steps by cases

What the next call of the running handler comes to, what the handler of a packet leaves, and
what an event sets off when none is running, by the branches of the source.
-/

namespace Doudizhu.Gateway

open Game

variable {ρ : Type} {shuffler : Shuffler ρ} {protobuf : Protobuf}

/-! ## Calls -/

/-- What a call leaves. -/
inductive Performed (protobuf : Protobuf) (before : GatewayProcess ρ) (moment : Moment) :
    Task → GatewayProcess ρ → Prop where
  /-- The session is not there, or has closed already, or there is nobody to tell. -/
  | nothing {task : Task} : (∀ id message, task ≠ .sendPacket id message) →
      Performed protobuf before moment task before
  | oversized {id : SessionId} {message : ServerMessage} :
      PacketCodec.headerSize + (protobuf.serialize message).length > maxPacketSize →
      Performed protobuf before moment (.sendPacket id message) (before.push [.close id])
  | enqueued {id : SessionId} {message : ServerMessage} :
      PacketCodec.headerSize + (protobuf.serialize message).length ≤ maxPacketSize →
      Performed protobuf before moment (.sendPacket id message)
        (before.update id fun session => session.enqueue (GatewayProcess.packetOf protobuf message))
  | closed {id : SessionId} {session : Session} :
      before.sessions[id]? = some session → session.closed = false →
      Performed protobuf before moment (.close id)
        (before.update id fun session => { session with closed := true, heartbeatArmed := false })
  /-- The session is the one that its player is registered at. -/
  | closing {id : SessionId} {session : Session} {tasks : List Task} :
      before.sessions[id]? = some session → session.closed = false →
      (∀ task ∈ tasks, ∃ player state, task = .notify player (.roomState state)) →
      Performed protobuf before moment (.close id)
        (({ before.update id (fun session => { session with closed := true, heartbeatArmed := false }) with
          manager := before.manager.markOffline session.playerId moment.now } : GatewayProcess ρ).push
          (tasks ++ [.finishClose id]))
  | finished {id : SessionId} {session : Session} :
      before.sessions[id]? = some session →
      Performed protobuf before moment (.finishClose id)
        { before.post (.markOffline session.playerId) with
          notifier := released before.notifier (some session.face) }
  | handed {task : Task} {player : PlayerId} {message : ServerMessage} {entry : NotifierEntry} :
      task = .notify player message ∨ task = .notifyRoomState player →
      before.notifier.senders.lookup player = some entry →
      Performed protobuf before moment task (before.push [.sendPacket entry.session message])
  | posted {entry : SettlementEntry} :
      Performed protobuf before moment (.postSettle entry) (before.post (.settle entry))
  | cleanedIdle {now : Time} :
      Performed protobuf before moment (.cleanupIdle now)
        { before with manager := before.manager.cleanupIdle moment.rooms now }
  | cleanedExpired {now : Time} {entries : List SettlementEntry} {manager : RoomManager ρ} :
      Performed protobuf before moment (.cleanupExpired now)
        (({ before with manager } : GatewayProcess ρ).push (entries.flatMap GatewayProcess.settleTasks))

section Calls

variable {before after : GatewayProcess ρ} {moment : Moment} {notes : List Note}

theorem send_cases {task : Task} {player : PlayerId} {message : ServerMessage}
    (kind : task = .notify player message ∨ task = .notifyRoomState player)
    (done : before.send player message = .ok (notes, after)) :
    Performed protobuf before moment task after := by
  unfold GatewayProcess.send at done
  split at done
  · cases done
    refine .nothing ?_
    rintro id message rfl
    simp at kind
  · next entry found =>
    cases done
    exact .handed kind found

theorem perform_cases {task : Task} (done : before.perform protobuf moment task = .ok (notes, after)) :
    Performed protobuf before moment task after := by
  cases task with
  | sendPacket id message =>
    simp only [GatewayProcess.perform, GatewayProcess.sendPacket] at done
    split at done
    · next large =>
      cases done
      exact .oversized large
    · next fits =>
      cases done
      exact .enqueued (not_lt.mp fits)
  | close id =>
    simp only [GatewayProcess.perform, GatewayProcess.close] at done
    split at done
    · cases done
      exact .nothing (by simp)
    next session found =>
    split at done
    · cases done
      exact .nothing (by simp)
    next opened =>
    have opened : session.closed = false := Bool.eq_false_iff.mpr opened
    split at done
    · obtain ⟨state, _, done⟩ := ExceptLoop.bind_ok.mp done
      cases state with
      | none =>
        cases done
        exact @Performed.closing _ _ _ _ _ _ [] found opened (by simp)
      | some state =>
        cases done
        refine .closing found opened ?_
        intro task member
        obtain ⟨player, _, rfl⟩ := List.mem_map.mp member
        exact ⟨_, _, rfl⟩
    · cases done
      exact .closed found opened
  | finishClose id =>
    simp only [GatewayProcess.perform, GatewayProcess.finishClose] at done
    split at done
    · cases done
      exact .nothing (by simp)
    next session found =>
    have finished := @Performed.finished _ protobuf before moment id session found
    split at done
    · next untold =>
      cases done
      rw [Session.face, untold] at finished
      exact finished
    · next token told =>
      cases done
      rw [Session.face, told] at finished
      exact finished
  | notify player message => exact send_cases (.inl rfl) done
  | notifyRoomState player =>
    obtain ⟨state, _, done⟩ := ExceptLoop.bind_ok.mp done
    cases state with
    | none =>
      cases done
      exact .nothing (by simp)
    | some state => exact send_cases (.inr rfl) done
  | postSettle entry =>
    cases done
    exact .posted
  | cleanupIdle now =>
    cases done
    exact .cleanedIdle
  | cleanupExpired now =>
    cases done
    exact .cleanedExpired

end Calls

/-! ## Logins -/

/-- What a login that has come back leaves. -/
inductive Completed (before : GatewayProcess ρ) (completion : LoginCompletion) : GatewayProcess ρ → Prop where
  | refused {message : ServerMessage} :
      completion.result.success = false →
      Completed before completion (before.push [.sendPacket completion.session message])
  | accepted {players : List PlayerId} {message : ServerMessage} :
      completion.result.success →
      Completed before completion
        ((({ before with
          manager := before.manager.markOnline completion.result.playerId
          notifier := (before.notifier.registerPlayer completion.result.playerId completion.session).2 } :
            GatewayProcess ρ).update completion.session fun session =>
          { session with
            playerId := completion.result.playerId
            notifierToken := some before.notifier.nextToken }).push
          (players.map Task.notifyRoomState ++ [.sendPacket completion.session message]))

theorem completeLogin_cases {before after : GatewayProcess ρ} {moment : Moment} {notes : List Note}
    {completion : LoginCompletion} (done : before.completeLogin moment completion = .ok (notes, after)) :
    Completed before completion after := by
  simp only [GatewayProcess.completeLogin] at done
  split at done
  · next success =>
    obtain ⟨state, _, done⟩ := ExceptLoop.bind_ok.mp done
    cases state with
    | none =>
      cases done
      exact @Completed.accepted _ before completion [] _ success
    | some state =>
      cases done
      have accepted := @Completed.accepted _ before completion (state.players.map fun player => player.playerId)
      simp only [List.map_map] at accepted
      exact accepted success
  · next failure =>
    cases done
    exact .refused (Bool.eq_false_iff.mpr failure)

/-! ## Handlers -/

/-- What a packet of the player may ask of the rooms, with the clocks of the step. -/
inductive RoomOp.AskedBy (player : PlayerId) (moment : Moment) : RoomOp → Prop where
  | matchPlayer : RoomOp.AskedBy player moment (.matchPlayer moment.rooms moment.now player)
  | callLandlord (call : Bool) :
      RoomOp.AskedBy player moment (.callLandlord moment.startedAt moment.now player call)
  | playCards (cards : List Card) :
      RoomOp.AskedBy player moment (.playCards moment.now moment.endedAt player cards)
  | pass : RoomOp.AskedBy player moment (.pass moment.now player)

/-- What may follow an answer of the rooms: the session gets a packet, players are told, and
    what the answer settles goes to the backend. -/
def Task.Follows (id : SessionId) (answer : RoomAnswer) : Task → Prop
  | .sendPacket receiver _ => receiver = id
  | .notify _ _ | .notifyRoomState _ => True
  | .postSettle entry => ∃ batch ∈ answer.batches, entry ∈ batch
  | _ => False

/-- The session is answered first, or as one of the players of its room. -/
def AnswersFirst (id : SessionId) (answer : RoomAnswer) (tasks : List Task) : Prop :=
  (∃ message rest, tasks = .sendPacket id message :: rest) ∨
    ∃ result message, answer = .called (some result) ∧
      tasks = GatewayProcess.tellAll result.playerIds message

/-- What the handler of a packet leaves. -/
inductive Served (shuffler : Shuffler ρ) (base : GatewayProcess ρ) (moment : Moment) (id : SessionId)
    (session : Session) : GatewayProcess ρ → Prop where
  | closed : Served shuffler base moment id session (base.push [.close id])
  | login (requested : PlayerId) :
      Served shuffler base moment id session (base.post (.login id requested))
  /-- Without asking the rooms, or after looking at them. -/
  | answered (message : ServerMessage) :
      Served shuffler base moment id session (base.push [.sendPacket id message])
  /-- The player is in no game. -/
  | refused {op : RoomOp} {answer : RoomAnswer} {manager : RoomManager ρ} :
      op.AskedBy session.playerId moment → op.exec shuffler base.manager = .ok (answer, manager) →
      answer ∈ [.called none, .played none, .passed none] →
      Served shuffler base moment id session (({ base with manager } : GatewayProcess ρ).push [.close id])
  | asked {op : RoomOp} {answer : RoomAnswer} {manager : RoomManager ρ} {tasks : List Task} :
      session.face.displaced base.notifier = false → op.AskedBy session.playerId moment →
      op.exec shuffler base.manager = .ok (answer, manager) →
      (∀ task ∈ tasks, task.Follows id answer) → AnswersFirst id answer tasks →
      Served shuffler base moment id session (({ base with manager } : GatewayProcess ρ).push tasks)

section Served

variable {base after : GatewayProcess ρ} {moment : Moment} {id : SessionId} {session : Session}
  {answer : RoomAnswer} {notes : List Note}

theorem follows_tellAll (players : List PlayerId) (message : ServerMessage) :
    ∀ task ∈ GatewayProcess.tellAll players message, task.Follows id answer := by
  intro task member
  obtain ⟨player, _, told⟩ := List.mem_flatMap.mp member
  obtain rfl | rfl : _ ∨ _ := by simpa using told
  · trivial
  · trivial

theorem follows_startTasks (start : GameStartInfo) :
    ∀ task ∈ GatewayProcess.startTasks start, task.Follows id answer := by
  intro task member
  obtain ⟨_, _, told⟩ := List.mem_flatMap.mp member
  obtain rfl | rfl : _ ∨ _ := by simpa using told
  · trivial
  · trivial

theorem follows_settlements {entries : List SettlementEntry} (batch : entries ∈ answer.batches) :
    ∀ task ∈ entries.flatMap GatewayProcess.settleTasks, task.Follows id answer := by
  intro task member
  obtain ⟨entry, among, settles⟩ := List.mem_flatMap.mp member
  obtain rfl | rfl : _ ∨ _ := by simpa [GatewayProcess.settleTasks] using settles
  · trivial
  · exact ⟨entries, batch, among⟩

theorem quickMatch_served (placed : session.face.displaced base.notifier = false)
    (done : base.handleQuickMatch shuffler moment id session.playerId = .ok (notes, after)) :
    Served shuffler base moment id session after := by
  unfold GatewayProcess.handleQuickMatch at done
  split at done
  · cases done
    exact .answered _
  · obtain ⟨⟨result, manager⟩, matched, done⟩ := ExceptLoop.bind_ok.mp done
    cases done
    refine .asked placed .matchPlayer (ExceptLoop.bind_ok.mpr ⟨_, matched, rfl⟩) ?_ (.inl ⟨_, _, rfl⟩)
    rw [List.forall_mem_cons]
    refine ⟨rfl, ?_⟩
    split
    · simp
    · exact follows_startTasks _

theorem callLandlord_served {call : Bool} (placed : session.face.displaced base.notifier = false)
    (done : base.handleCallLandlord shuffler moment id session.playerId call = .ok (notes, after)) :
    Served shuffler base moment id session after := by
  obtain ⟨⟨result, manager⟩, called, done⟩ := ExceptLoop.bind_ok.mp done
  have asked : (RoomOp.callLandlord moment.startedAt moment.now session.playerId call).exec shuffler
      base.manager = .ok (.called result, manager) := ExceptLoop.bind_ok.mpr ⟨_, called, rfl⟩
  cases result with
  | none =>
    cases done
    exact .refused (.callLandlord call) asked (by simp)
  | some result =>
    cases done
    apply Served.asked placed (.callLandlord call) asked
    · split
      · exact follows_tellAll _ _
      · simp [Task.Follows]
    · split
      · exact .inr ⟨_, _, rfl, rfl⟩
      · exact .inl ⟨_, _, rfl⟩

theorem playCards_served {encoded : List Nat} (placed : session.face.displaced base.notifier = false)
    (done : base.handlePlayCards shuffler moment id session.playerId encoded = .ok (notes, after)) :
    Served shuffler base moment id session after := by
  unfold GatewayProcess.handlePlayCards at done
  split at done
  · cases done
    exact .closed
  · next cards _ =>
    obtain ⟨⟨result, manager⟩, played, done⟩ := ExceptLoop.bind_ok.mp done
    have asked : (RoomOp.playCards moment.now moment.endedAt session.playerId cards).exec shuffler
        base.manager = .ok (.played result, manager) := ExceptLoop.bind_ok.mpr ⟨_, played, rfl⟩
    cases result with
    | none =>
      cases done
      exact .refused (.playCards cards) asked (by simp)
    | some result =>
      cases done
      refine .asked placed (.playCards cards) asked ?_ (.inl ⟨_, _, rfl⟩)
      rw [List.cons_append, List.forall_mem_cons, List.forall_mem_append]
      refine ⟨rfl, ?_, ?_⟩
      · split
        · exact follows_tellAll _ _
        · simp
      · split
        · intro task member
          -- there is something to settle
          have some : result.settlements ≠ [] := by
            rintro none
            simp [none] at member
          exact follows_settlements (by simp [RoomAnswer.batches, some]) task member
        · simp

theorem pass_served (placed : session.face.displaced base.notifier = false)
    (done : base.handlePass shuffler moment id session.playerId = .ok (notes, after)) :
    Served shuffler base moment id session after := by
  obtain ⟨⟨result, manager⟩, passed, done⟩ := ExceptLoop.bind_ok.mp done
  have asked : (RoomOp.pass moment.now session.playerId).exec shuffler base.manager =
      .ok (.passed result, manager) := ExceptLoop.bind_ok.mpr ⟨_, passed, rfl⟩
  cases result with
  | none =>
    cases done
    exact .refused .pass asked (by simp)
  | some result =>
    cases done
    refine .asked placed .pass asked ?_ (.inl ⟨_, _, rfl⟩)
    rw [List.forall_mem_cons]
    refine ⟨rfl, ?_⟩
    split
    · exact follows_tellAll _ _
    · simp

theorem reconnect_served (done : base.handleReconnect id session.playerId = .ok (notes, after)) :
    Served shuffler base moment id session after := by
  obtain ⟨info, _, done⟩ := ExceptLoop.bind_ok.mp done
  cases info with
  | none =>
    cases done
    exact .closed
  | some info =>
    cases done
    exact .answered _

theorem Dispatched.served
    (dispatched : Dispatched shuffler base moment id session (.ok (notes, after))) :
    Served shuffler base moment id session after := by
  generalize done : Except.ok (notes, after) = outcome at dispatched
  cases dispatched with
  | closed =>
    cases done
    exact .closed
  | login requested =>
    cases done
    exact .login requested
  | heartbeat placed =>
    cases done
    exact .answered _
  | quickMatch placed => exact quickMatch_served placed done.symm
  | callLandlord placed call => exact callLandlord_served placed done.symm
  | playCards placed encoded => exact playCards_served placed done.symm
  | pass placed => exact pass_served placed done.symm
  | reconnect placed => exact reconnect_served done.symm

end Served

/-! ## Reads -/

/-- What a relation has to meet to hold of every read of the session: it does not see the
    session's own changes, and holds of what a handler leaves. -/
structure ReadRule (shuffler : Shuffler ρ) (moment : Moment) (id : SessionId)
    (Relates : GatewayProcess ρ → GatewayProcess ρ → Prop) : Prop where
  update : ∀ {base after : GatewayProcess ρ} {change : Session → Session},
    Relates (base.update id change) after → Relates base after
  still : ∀ base, Relates base base
  served : ∀ {base after : GatewayProcess ρ} {session : Session},
    Served shuffler base moment id session after → Relates base after

section Reads

variable {moment : Moment} {id : SessionId} {Relates : GatewayProcess ρ → GatewayProcess ρ → Prop}
  {base after : GatewayProcess ρ} {session : Session} {notes : List Note}

theorem ReadRule.calls (rule : ReadRule shuffler moment id Relates) (session : Session)
    (done : base.calls [.close id] = .ok (notes, after)) : Relates base after := by
  cases done
  exact rule.served (@Served.closed _ shuffler base moment id session)

theorem ReadRule.dispatched (rule : ReadRule shuffler moment id Relates) {messageId : Nat} {body : Bytes}
    (done : base.dispatch shuffler protobuf moment id session messageId body = .ok (notes, after)) :
    Relates base after := by
  have dispatched := dispatch_cases shuffler protobuf base moment id session messageId body
  rw [done] at dispatched
  exact rule.served dispatched.served

theorem ReadRule.tcpPacket (rule : ReadRule shuffler moment id Relates)
    {header : PacketHeader} {body : Bytes}
    (done : base.handleTcpPacket shuffler protobuf moment id session header body = .ok (notes, after)) :
    Relates base after := by
  simp only [GatewayProcess.handleTcpPacket] at done
  split at done
  · exact rule.update (rule.calls session done)
  · exact rule.update (rule.dispatched done)

theorem ReadRule.webSocketPacket (rule : ReadRule shuffler moment id Relates) {packet : Bytes}
    (done : base.handleWebSocketPacket shuffler protobuf moment id session packet = .ok (notes, after)) :
    Relates base after := by
  simp only [GatewayProcess.handleWebSocketPacket] at done
  split at done
  · exact rule.calls session done
  split at done
  · exact rule.calls session done
  split at done
  · exact rule.update (rule.calls session done)
  · exact rule.update (rule.dispatched done)

theorem ReadRule.headerRead (rule : ReadRule shuffler moment id Relates)
    {bytes : Option (Vector UInt8 6)}
    (done : base.headerRead shuffler protobuf moment id session bytes = .ok (notes, after)) :
    Relates base after := by
  simp only [GatewayProcess.headerRead] at done
  split at done
  · exact rule.update (rule.calls session done)
  split at done
  · exact rule.update (rule.calls session done)
  split at done
  · exact rule.update (rule.calls session done)
  split at done
  · exact rule.update (rule.update (rule.tcpPacket done))
  · cases done
    exact rule.update (rule.update (rule.still _))

theorem ReadRule.bodyRead (rule : ReadRule shuffler moment id Relates) {header : PacketHeader}
    {body : Option Bytes}
    (done : base.bodyRead shuffler protobuf moment id session header body = .ok (notes, after)) :
    Relates base after := by
  simp only [GatewayProcess.bodyRead] at done
  split at done
  · exact rule.update (rule.calls session done)
  · exact rule.update (rule.tcpPacket done)

theorem ReadRule.frameRead (rule : ReadRule shuffler moment id Relates) {frame : Option Bytes}
    (done : base.frameRead shuffler protobuf moment id session frame = .ok (notes, after)) :
    Relates base after := by
  simp only [GatewayProcess.frameRead] at done
  split at done
  · exact rule.update (rule.calls session done)
  · exact rule.update (rule.webSocketPacket done)

end Reads

/-! ## Events -/

/-- The read or write of the session that is outstanding ends as the event says. -/
def Session.Takes (session : Session) (id : SessionId) : Event → Prop
  | .handshaken reader _ => reader = id ∧ session.pendingRead = some .handshake
  | .headerRead reader _ => reader = id ∧ session.pendingRead = some .header
  | .bodyRead reader body => reader = id ∧ ∃ header, session.pendingRead = some (.body header) ∧
      body.all fun body => body.length + PacketCodec.headerSize == header.packetSize
  | .frameRead reader _ => reader = id ∧ session.pendingRead = some .frame
  | .written writer _ => writer = id ∧ session.writing
  | _ => False

/-- What an event sets off. -/
inductive Happened (shuffler : Shuffler ρ) (protobuf : Protobuf) (before : GatewayProcess ρ)
    (moment : Moment) : Event → Except Fault (Outcome ρ) → Prop where
  | nothing {event : Event} :
      (∀ id (session : Session), before.sessions[id]? = some session → ¬ session.Takes id event) →
      Happened shuffler protobuf before moment event (.ok ([], before))
  | accepted {transport : Transport} :
      Happened shuffler protobuf before moment (.accepted transport)
        (.ok ([], { before with sessions := before.sessions ++ [
          match transport with
          | .tcp => ({ transport, messageWindowStarted := moment.packetAt } :
              Session).refreshHeartbeat.startRead
          | .webSocket =>
            { transport, messageWindowStarted := moment.packetAt, pendingRead := some .handshake }] }))
  | shaken {id : SessionId} {session : Session} :
      before.sessions[id]? = some session → session.pendingRead = some .handshake →
      Happened shuffler protobuf before moment (.handshaken id true)
        (.ok ([], before.update id fun _ =>
          ({ session with pendingRead := none } : Session).refreshHeartbeat.startRead))
  | unshaken {id : SessionId} {session : Session} :
      before.sessions[id]? = some session → session.pendingRead = some .handshake →
      Happened shuffler protobuf before moment (.handshaken id false)
        ((before.update id fun _ => { session with pendingRead := none }).calls [.close id])
  | headerRead {id : SessionId} {session : Session} {bytes : Option (Vector UInt8 6)} :
      before.sessions[id]? = some session → session.pendingRead = some .header →
      Happened shuffler protobuf before moment (.headerRead id bytes)
        (before.headerRead shuffler protobuf moment id session bytes)
  | bodyRead {id : SessionId} {session : Session} {header : PacketHeader} {body : Option Bytes} :
      before.sessions[id]? = some session → session.pendingRead = some (.body header) →
      (body.all fun body => body.length + PacketCodec.headerSize == header.packetSize) →
      Happened shuffler protobuf before moment (.bodyRead id body)
        (before.bodyRead shuffler protobuf moment id session header body)
  | frameRead {id : SessionId} {session : Session} {frame : Option Bytes} :
      before.sessions[id]? = some session → session.pendingRead = some .frame →
      Happened shuffler protobuf before moment (.frameRead id frame)
        (before.frameRead shuffler protobuf moment id session frame)
  | written {id : SessionId} {session : Session} :
      before.sessions[id]? = some session → session.writing →
      Happened shuffler protobuf before moment (.written id true) (.ok ([], before.update id Session.written))
  | unwritten {id : SessionId} {session : Session} :
      before.sessions[id]? = some session → session.writing →
      Happened shuffler protobuf before moment (.written id false)
        ((before.update id fun session => { session with writing := false }).calls [.close id])
  | expired {id : SessionId} :
      Happened shuffler protobuf before moment (.heartbeatExpired id)
        ((before.update id fun session => { session with heartbeatArmed := false }).calls [.close id])
  | returned {index : Nat} {job : Job} {result : LoginResult} :
      index < backendThreads → before.jobs[index]? = some job →
      Happened shuffler protobuf before moment (.jobDone index result)
        (.ok ([], { before with
          jobs := before.jobs.eraseIdx index
          completions := before.completions ++
            match job with
            | .login session requested => [{ session, requested, result }]
            | .markOffline _ | .settle _ => [] }))
  | loginCompleted {index : Nat} {completion : LoginCompletion} :
      before.completions[index]? = some completion →
      Happened shuffler protobuf before moment (.loginCompleted index)
        (({ before with completions := before.completions.eraseIdx index } :
          GatewayProcess ρ).completeLogin moment completion)
  | cleanup : Happened shuffler protobuf before moment .cleanup (before.cleanup shuffler moment)

section Events

variable (shuffler) (protobuf) (before : GatewayProcess ρ) (moment : Moment)

/-- Nothing happens to a session that is not there, or waits for something else. -/
theorem happened_nothing {event : Event} {reader : SessionId}
    (takes : ∀ id (session : Session), session.Takes id event → id = reader)
    (waits : ∀ session, before.sessions[reader]? = some session → ¬ session.Takes reader event) :
    Happened shuffler protobuf before moment event (.ok ([], before)) := by
  refine .nothing ?_
  intro id session found taken
  obtain rfl := takes id session taken
  exact waits session found taken

theorem handle_cases (event : Event) : Happened shuffler protobuf before moment event
    (before.handle shuffler protobuf moment event) := by
  -- a session that is not there
  have absent : ∀ {event : Event} {reader : SessionId}, before.sessions[reader]? = none →
      (∀ id (session : Session), session.Takes id event → id = reader) →
      Happened shuffler protobuf before moment event (.ok ([], before)) := by
    intro event reader gone takes
    refine happened_nothing shuffler protobuf before moment takes ?_
    intro session found
    rw [gone] at found
    cases found
  -- one that waits for something else
  have otherwise : ∀ {event : Event} {reader : SessionId} {session : Session},
      before.sessions[reader]? = some session →
      (∀ id (session : Session), session.Takes id event → id = reader) → ¬ session.Takes reader event →
      Happened shuffler protobuf before moment event (.ok ([], before)) := by
    intro event reader session found takes waits
    refine happened_nothing shuffler protobuf before moment takes ?_
    intro other same
    rw [found] at same
    cases same
    exact waits
  cases event with
  | accepted transport => exact .accepted
  | handshaken reader success =>
    simp only [GatewayProcess.handle]
    split
    · next gone => exact absent gone fun _ _ taken => taken.1.symm
    next session found =>
    split
    · next other => exact otherwise found (fun _ _ taken => taken.1.symm) fun taken => other taken.2
    next pending =>
    rw [not_not] at pending
    cases success with
    | true => exact .shaken found pending
    | false => exact .unshaken found pending
  | headerRead reader bytes =>
    simp only [GatewayProcess.handle]
    split
    · next gone => exact absent gone fun _ _ taken => taken.1.symm
    next session found =>
    split
    · next other => exact otherwise found (fun _ _ taken => taken.1.symm) fun taken => other taken.2
    · next pending => exact .headerRead found (not_not.mp pending)
  | bodyRead reader body =>
    simp only [GatewayProcess.handle]
    split
    · next gone => exact absent gone fun _ _ taken => taken.1.symm
    next session found =>
    split
    · next header pending =>
      split
      · next filled => exact .bodyRead found pending filled
      · next short =>
        refine otherwise found (fun _ _ taken => taken.1.symm) ?_
        rintro ⟨_, other, same, filled⟩
        rw [pending] at same
        cases same
        exact short filled
    · next other =>
      refine otherwise found (fun _ _ taken => taken.1.symm) ?_
      rintro ⟨_, header, pending, _⟩
      exact other header pending
  | frameRead reader frame =>
    simp only [GatewayProcess.handle]
    split
    · next gone => exact absent gone fun _ _ taken => taken.1.symm
    next session found =>
    split
    · next other => exact otherwise found (fun _ _ taken => taken.1.symm) fun taken => other taken.2
    · next pending => exact .frameRead found (not_not.mp pending)
  | written writer success =>
    simp only [GatewayProcess.handle]
    split
    · next gone => exact absent gone fun _ _ taken => taken.1.symm
    next session found =>
    split
    · next free =>
      refine otherwise found (fun _ _ taken => taken.1.symm) fun taken => ?_
      rw [taken.2] at free
      cases free
    next busy =>
    have busy : session.writing := by simpa using busy
    cases success with
    | true => exact .written found busy
    | false => exact .unwritten found busy
  | heartbeatExpired id =>
    simp only [GatewayProcess.handle]
    split
    · exact .nothing (by simp [Session.Takes])
    split
    · exact .expired
    · exact .nothing (by simp [Session.Takes])
  | jobDone index result =>
    simp only [GatewayProcess.handle]
    split
    · next running =>
      split
      · exact .nothing (by simp [Session.Takes])
      · next job found =>
        have returned := @Happened.returned _ shuffler protobuf before moment index job result running found
        cases job with
        | login session requested => exact returned
        | markOffline player | settle entry =>
          simp only [List.append_nil] at returned
          exact returned
    · exact .nothing (by simp [Session.Takes])
  | loginCompleted index =>
    simp only [GatewayProcess.handle]
    split
    · exact .nothing (by simp [Session.Takes])
    · next completion found => exact .loginCompleted found
  | cleanup => exact .cleanup
  | next => exact .nothing (by simp [Session.Takes])

end Events

end Doudizhu.Gateway
