import Doudizhu.Gateway.Session
import Doudizhu.Gateway.RoomPlayers
import Doudizhu.Lib.Steps

/-! # What a step of the gateway does

A step returns, and is one of ten moves.  Each move says what the step does to what is
shared: the rooms, the notifier, the player, token and `closed_` of every session, and the
agenda.  What a session keeps for reading and writing is its own affair.
-/

namespace Doudizhu.Gateway

open Game

variable {ρ : Type} {shuffler : Shuffler ρ} {protobuf : Protobuf}

/-! ## Faces -/

/-- What the rest of the process can tell of a session. -/
structure Face where
  playerId : PlayerId
  notifierToken : Option Token
  closed : Bool

def Session.face (session : Session) : Face :=
  ⟨session.playerId, session.notifierToken, session.closed⟩

def Face.current (face : Face) (notifier : PlayerNotifier) : Bool :=
  face.playerId != "" &&
    match face.notifierToken with
    | none => false
    | some token => notifier.isCurrent face.playerId token

def Face.displaced (face : Face) (notifier : PlayerNotifier) : Bool :=
  face.playerId != "" &&
    match face.notifierToken with
    | none => false
    | some token => !notifier.isCurrent face.playerId token

def GatewayProcess.face (gateway : GatewayProcess ρ) (id : SessionId) : Option Face :=
  gateway.sessions[id]?.map Session.face

theorem face_of_session {gateway : GatewayProcess ρ} {id : SessionId} {session : Session}
    (found : gateway.sessions[id]? = some session) : gateway.face id = some session.face := by
  rw [GatewayProcess.face, found, Option.map_some]

@[simp] theorem startRead_face (session : Session) : session.startRead.face = session.face := by
  rw [Session.startRead_eq]
  split <;> rfl

@[simp] theorem refreshHeartbeat_face (session : Session) :
    session.refreshHeartbeat.face = session.face := rfl

@[simp] theorem countMessage_face (session : Session) (now : Time) :
    (session.countMessage now).face = session.face := by
  unfold Session.countMessage
  split <;> rfl

@[simp] theorem enqueue_face (session : Session) (packet : Bytes) :
    (session.enqueue packet).face = session.face := by
  rw [Session.enqueue_eq]
  rfl

@[simp] theorem written_face (session : Session) : session.written.face = session.face := by
  rw [Session.written_eq]
  split
  · rfl
  · exact startRead_face _

theorem face_update (gateway : GatewayProcess ρ) (id other : SessionId) (change : Session → Session) :
    (gateway.update id change).face other =
      if other = id then gateway.sessions[id]?.map fun session => (change session).face
      else gateway.face other := by
  unfold GatewayProcess.face GatewayProcess.update
  rw [List.getElem?_modify]
  by_cases same : id = other
  · subst same
    simp [Function.comp_def]
  · have differ : other ≠ id := fun equal => same equal.symm
    simp [same, differ]

/-- A change of a session that the others do not see. -/
theorem face_update_same {gateway : GatewayProcess ρ} {id : SessionId} {change : Session → Session}
    (same : ∀ session, gateway.sessions[id]? = some session → (change session).face = session.face)
    (other : SessionId) : (gateway.update id change).face other = gateway.face other := by
  rw [face_update]
  split
  · next own =>
    subst own
    cases found : gateway.sessions[other]? with
    | none => simp [GatewayProcess.face, found]
    | some session => simp [GatewayProcess.face, found, same session found]
  · rfl

/-! ## Moves -/

/-- Nothing that is shared changes. -/
structure Keeps (before after : GatewayProcess ρ) : Prop where
  manager : after.manager = before.manager
  notifier : after.notifier = before.notifier
  face : ∀ id, after.face id = before.face id

theorem Keeps.trans {first second third : GatewayProcess ρ} (left : Keeps first second)
    (right : Keeps second third) : Keeps first third :=
  ⟨right.manager.trans left.manager, right.notifier.trans left.notifier,
    fun id => (right.face id).trans (left.face id)⟩

theorem keeps_update {gateway : GatewayProcess ρ} {id : SessionId} {change : Session → Session}
    (same : ∀ session, gateway.sessions[id]? = some session → (change session).face = session.face) :
    Keeps gateway (gateway.update id change) :=
  ⟨rfl, rfl, face_update_same same⟩

/-- A call that neither hands out a room state that was read before, nor ends a `close`. -/
def Task.plain : Task → Bool
  | .notify _ (.roomState _) => false
  | .finishClose _ => false
  | _ => true

/-- The session whose read an event ends. -/
def Event.reader : Event → Option SessionId
  | .headerRead id _ | .bodyRead id _ | .frameRead id _ => some id
  | _ => none

/-- What a call for the player does to the players of the rooms. -/
def CallEffect (player : PlayerId) (answered : Bool) (before after : RoomManager ρ) : Prop :=
  (Shrinks before after ∧ (answered → before.playerRooms.lookup player ≠ none)) ∨
    (player ≠ "" ∧ after.offlineSince = before.offlineSince ∧
      ∀ other, other ≠ player → after.playerRooms.lookup other = before.playerRooms.lookup other)

/-- The notifier after a session has unregistered. -/
def released (notifier : PlayerNotifier) : Option Face → PlayerNotifier
  | some ⟨player, some token, _⟩ => notifier.unregisterPlayer player token
  | _ => notifier

/-- A room state is handed out as it was read before, or as it is now. -/
def Handing (before : GatewayProcess ρ) (player : PlayerId) (message : ServerMessage) : Prop :=
  before.agenda.head? = some (.notify player message) ∨
    (before.agenda.head? = some (.notifyRoomState player) ∧
      ∃ now state, before.manager.roomState now player = .ok (some state) ∧
        message = .roomState (encodeRoomState state))

inductive GatewayMove (before : GatewayProcess ρ) (event : Event) :
    List Note → GatewayProcess ρ → Prop where
  | stalled : GatewayMove before event [] before
  | other {after : GatewayProcess ρ} (tasks : List Task) :
      Keeps before after → after.agenda = tasks ++ before.agenda.tail →
      (∀ task ∈ tasks, task.plain) → (∀ id, before.agenda.head? ≠ some (.finishClose id)) →
      (∀ id face, before.agenda.head? = some (.close id) → before.face id = some face →
        face.closed) →
      GatewayMove before event [] after
  | opened {after : GatewayProcess ρ} :
      before.agenda = [] → event.reader = none → after.manager = before.manager →
      after.notifier = before.notifier →
      (∀ id, after.face id = before.face id ∨
        (before.face id = none ∧ after.face id = some ⟨"", none, false⟩)) →
      after.agenda = [] →
      GatewayMove before event [] after
  | handed {after : GatewayProcess ρ} {player : PlayerId} {message : ServerMessage}
      {receiver : Option SessionId} :
      Handing before player message → Keeps before after →
      receiver = (before.notifier.senders.lookup player).map NotifierEntry.session →
      after.agenda = (receiver.toList.map fun id => .sendPacket id message) ++ before.agenda.tail →
      GatewayMove before event [.handed player message receiver] after
  | acted {after : GatewayProcess ρ} {id : SessionId} {face : Face} {answered : Bool}
      {tasks : List Task} :
      before.agenda = [] → event.reader = some id → before.face id = some face →
      face.displaced before.notifier = false →
      CallEffect face.playerId answered before.manager after.manager →
      after.notifier = before.notifier → (∀ other, after.face other = before.face other) →
      after.agenda = tasks ++ before.agenda.tail → (∀ task ∈ tasks, task.plain) →
      GatewayMove before event [.acted id face.playerId answered] after
  | loggedIn {after : GatewayProcess ρ} {index : Nat} {completion : LoginCompletion}
      {tasks : List Task} :
      before.agenda = [] → event = .loginCompleted index →
      before.completions[index]? = some completion → completion.result.success →
      after.manager = before.manager.markOnline completion.result.playerId →
      after.notifier =
        (before.notifier.registerPlayer completion.result.playerId completion.session).2 →
      (∀ id, after.face id = if id = completion.session then (before.face id).map fun face =>
        ⟨completion.result.playerId, some before.notifier.nextToken, face.closed⟩
        else before.face id) →
      after.agenda = tasks ++ before.agenda.tail → (∀ task ∈ tasks, task.plain) →
      GatewayMove before event [.loggedIn completion.session completion.result.playerId] after
  | closed {after : GatewayProcess ρ} {id : SessionId} {face : Face} :
      event = .next →
      before.agenda.head? = some (.close id) → before.face id = some face → face.closed = false →
      face.current before.notifier = false → after.manager = before.manager →
      after.notifier = before.notifier →
      (∀ other, after.face other = if other = id then some { face with closed := true }
        else before.face other) →
      after.agenda = before.agenda.tail →
      GatewayMove before event [] after
  | closing {after : GatewayProcess ρ} {id : SessionId} {face : Face} {now : Time} (tasks : List Task) :
      event = .next →
      before.agenda.head? = some (.close id) → before.face id = some face → face.closed = false →
      face.current before.notifier →
      after.manager = before.manager.markOffline face.playerId now →
      after.notifier = before.notifier →
      (∀ other, after.face other = if other = id then some { face with closed := true }
        else before.face other) →
      after.agenda = tasks ++ .finishClose id :: before.agenda.tail →
      (∀ task ∈ tasks, ∃ player state, task = .notify player (.roomState state)) →
      (before.manager.seatedRound face.playerId = none → tasks = []) →
      GatewayMove before event [] after
  | finished {after : GatewayProcess ρ} {id : SessionId} :
      event = .next →
      before.agenda.head? = some (.finishClose id) → after.manager = before.manager →
      after.notifier = released before.notifier (before.face id) →
      (∀ other, after.face other = before.face other) → after.agenda = before.agenda.tail →
      GatewayMove before event [] after
  | cleaned {after : GatewayProcess ρ} (tasks : List Task) :
      Shrinks before.manager after.manager → event.reader = none →
      (∀ id, before.agenda.head? ≠ some (.finishClose id)) →
      (∀ id, before.agenda.head? ≠ some (.close id)) →
      after.notifier = before.notifier → (∀ id, after.face id = before.face id) →
      after.agenda = tasks ++ before.agenda.tail → (∀ task ∈ tasks, task.plain) →
      GatewayMove before event [] after

/-! ## Specifications -/

/-- The computation returns, leaves the rooms sound, and comes to this. -/
def Returns (computation : Except Fault (Outcome ρ))
    (Holds : List Note → GatewayProcess ρ → Prop) : Prop :=
  ∃ notes after, computation = .ok (notes, after) ∧ ManagerInv after.manager ∧ Holds notes after

theorem Returns.mono {computation : Except Fault (Outcome ρ)}
    {First Second : List Note → GatewayProcess ρ → Prop} (returns : Returns computation First)
    (weaker : ∀ notes after, First notes after → Second notes after) : Returns computation Second := by
  obtain ⟨notes, after, done, sound, holds⟩ := returns
  exact ⟨notes, after, done, sound, weaker notes after holds⟩

/-- What handling a packet of session `id` comes to. -/
inductive Replies (base : GatewayProcess ρ) (id : SessionId) (face : Face) :
    List Note → GatewayProcess ρ → Prop where
  | quiet {after : GatewayProcess ρ} {tasks : List Task} :
      Keeps base after → after.agenda = tasks ++ base.agenda → (∀ task ∈ tasks, task.plain) →
      Replies base id face [] after
  | acted {after : GatewayProcess ρ} {answered : Bool} {tasks : List Task} :
      face.displaced base.notifier = false →
      CallEffect face.playerId answered base.manager after.manager →
      after.notifier = base.notifier → (∀ other, after.face other = base.face other) →
      after.agenda = tasks ++ base.agenda → (∀ task ∈ tasks, task.plain) →
      Replies base id face [.acted id face.playerId answered] after

theorem replies_calls {base : GatewayProcess ρ} (sound : ManagerInv base.manager) (id : SessionId)
    (face : Face) {tasks : List Task} (plain : ∀ task ∈ tasks, task.plain) :
    Returns (base.calls tasks) (Replies base id face) :=
  ⟨[], base.push tasks, rfl, sound, .quiet ⟨rfl, rfl, fun _ => rfl⟩ rfl plain⟩

theorem replies_close {base : GatewayProcess ρ} (sound : ManagerInv base.manager) (id : SessionId)
    (face : Face) : Returns (base.calls [.close id]) (Replies base id face) :=
  replies_calls sound id face (by simp [Task.plain])

theorem plain_settleTasks (entry : SettlementEntry) :
    ∀ task ∈ GatewayProcess.settleTasks entry, task.plain := by
  simp [GatewayProcess.settleTasks, Task.plain]

theorem plain_tellAll (players : List PlayerId) {message : ServerMessage}
    (other : ∀ state, message ≠ .roomState state) :
    ∀ task ∈ GatewayProcess.tellAll players message, task.plain := by
  intro task member
  obtain ⟨player, _, member⟩ := List.mem_flatMap.mp member
  simp only [List.mem_cons, List.not_mem_nil, or_false] at member
  obtain rfl | rfl := member
  · cases message with
    | roomState state => exact absurd rfl (other state)
    | _ => rfl
  · rfl

theorem plain_startTasks (start : GameStartInfo) :
    ∀ task ∈ GatewayProcess.startTasks start, task.plain := by
  intro task member
  obtain ⟨⟨player, seat⟩, _, member⟩ := List.mem_flatMap.mp member
  simp only [List.mem_cons, List.not_mem_nil, or_false] at member
  obtain rfl | rfl := member <;> rfl

/-- The settlements of all batches. -/
theorem plain_settlements (entries : List SettlementEntry) :
    ∀ task ∈ entries.flatMap GatewayProcess.settleTasks, task.plain := by
  intro task member
  obtain ⟨entry, _, member⟩ := List.mem_flatMap.mp member
  exact plain_settleTasks entry task member

theorem plain_timeoutTasks (actions : List TimeoutAction) :
    ∀ task ∈ actions.flatMap GatewayProcess.timeoutTasks, task.plain := by
  intro task member
  obtain ⟨action, _, member⟩ := List.mem_flatMap.mp member
  obtain told | settled := List.mem_append.mp member
  · exact plain_tellAll _ (by simp) task told
  · exact plain_settlements _ task settled

/-! ## Packets -/

section Packets

variable (shuffler) {base : GatewayProcess ρ} (sound : ManagerInv base.manager) (moment : Moment)
  (id : SessionId) {face : Face} (placed : face.displaced base.notifier = false)

include sound placed

theorem handleQuickMatch_replies :
    Returns (base.handleQuickMatch shuffler moment id face.playerId) (Replies base id face) := by
  unfold GatewayProcess.handleQuickMatch
  split
  · exact replies_calls sound id face (by simp [Task.plain])
  · next named =>
    obtain ⟨result, manager, done, inv, offline, others⟩ :=
      matchPlayer_players shuffler sound face.playerId moment.rooms moment.now
    simp only [done, bind, Except.bind]
    refine ⟨_, _, rfl, inv, .acted placed (.inr ⟨named, offline, others⟩) rfl (fun _ => rfl) rfl ?_⟩
    intro task member
    obtain rfl | member := List.mem_cons.mp member
    · rfl
    · split at member
      · cases member
      · exact plain_startTasks _ task member

section Acted

omit sound

variable {manager : RoomManager ρ} (inv : ManagerInv manager) (shrinks : Shrinks base.manager manager)

include inv shrinks

/-- The room manager did not find the player in a game. -/
theorem replies_refused :
    Returns (.ok ([.acted id face.playerId false], ({ base with manager } : GatewayProcess ρ).push [.close id]))
      (Replies base id face) :=
  ⟨_, _, rfl, inv, .acted placed (.inl ⟨shrinks, nofun⟩) rfl (fun _ => rfl) rfl (by simp [Task.plain])⟩

theorem replies_answered {tasks : List Task} (seated : base.manager.playerRooms.lookup face.playerId ≠ none)
    (plain : ∀ task ∈ tasks, task.plain) :
    Returns (.ok ([.acted id face.playerId true], ({ base with manager } : GatewayProcess ρ).push tasks))
      (Replies base id face) :=
  ⟨_, _, rfl, inv, .acted placed (.inl ⟨shrinks, fun _ => seated⟩) rfl (fun _ => rfl) rfl plain⟩

end Acted

theorem handleCallLandlord_replies (call : Bool) :
    Returns (base.handleCallLandlord shuffler moment id face.playerId call) (Replies base id face) := by
  unfold GatewayProcess.handleCallLandlord
  obtain ⟨result, manager, done, inv, shrinks, seated⟩ :=
    callLandlord_players shuffler sound face.playerId moment.startedAt moment.now call
  simp only [done, bind, Except.bind]
  cases result with
  | none => exact replies_refused id placed inv shrinks
  | some result =>
    apply replies_answered id placed inv shrinks (seated (by simp))
    split
    · exact plain_tellAll _ (by simp)
    · simp [Task.plain]

theorem handlePlayCards_replies (encoded : List Nat) :
    Returns (base.handlePlayCards shuffler moment id face.playerId encoded) (Replies base id face) := by
  unfold GatewayProcess.handlePlayCards
  split
  · exact replies_close sound id face
  · next cards _ =>
    obtain ⟨result, manager, done, inv, shrinks, seated⟩ :=
      playCards_players shuffler sound face.playerId moment.now moment.endedAt cards
    simp only [done, bind, Except.bind]
    cases result with
    | none => exact replies_refused id placed inv shrinks
    | some result =>
      apply replies_answered id placed inv shrinks (seated (by simp))
      intro task member
      obtain rfl | member := List.mem_cons.mp member
      · rfl
      · obtain told | settled := List.mem_append.mp member
        · split at told
          · exact plain_tellAll _ (by simp) task told
          · cases told
        · split at settled
          · exact plain_settlements _ task settled
          · cases settled

theorem handlePass_replies :
    Returns (base.handlePass shuffler moment id face.playerId) (Replies base id face) := by
  unfold GatewayProcess.handlePass
  obtain ⟨result, manager, done, inv, shrinks, seated⟩ :=
    pass_players shuffler sound face.playerId moment.now
  simp only [done, bind, Except.bind]
  cases result with
  | none => exact replies_refused id placed inv shrinks
  | some result =>
    apply replies_answered id placed inv shrinks (seated (by simp))
    intro task member
    obtain rfl | member := List.mem_cons.mp member
    · rfl
    · split at member
      · exact plain_tellAll _ (by simp) task member
      · cases member

theorem handleReconnect_replies :
    Returns (base.handleReconnect id face.playerId) (Replies base id face) := by
  unfold GatewayProcess.handleReconnect
  obtain ⟨info, done, seated⟩ := reconnectInfo_players sound face.playerId
  simp only [done, bind, Except.bind]
  have same : Shrinks base.manager base.manager := .refl _
  cases info with
  | none => exact replies_refused id placed sound same
  | some info => exact replies_answered id placed sound same (seated (by simp)) (by simp [Task.plain])

end Packets

/-- What a packet comes to: it closes the session, or the handler of its id takes it.  A
    displaced session gets no further than a login. -/
inductive Dispatched (shuffler : Shuffler ρ) (base : GatewayProcess ρ) (moment : Moment)
    (id : SessionId) (session : Session) : Except Fault (Outcome ρ) → Prop where
  | closed : Dispatched shuffler base moment id session (base.calls [.close id])
  | login (requested : PlayerId) :
    Dispatched shuffler base moment id session (.ok ([], base.post (.login id requested)))
  | heartbeat (placed : session.face.displaced base.notifier = false) :
    Dispatched shuffler base moment id session
      (base.calls [.sendPacket id (.heartBeatRet moment.systemTime)])
  | quickMatch (placed : session.face.displaced base.notifier = false) :
    Dispatched shuffler base moment id session
      (base.handleQuickMatch shuffler moment id session.playerId)
  | callLandlord (placed : session.face.displaced base.notifier = false) (call : Bool) :
    Dispatched shuffler base moment id session
      (base.handleCallLandlord shuffler moment id session.playerId call)
  | playCards (placed : session.face.displaced base.notifier = false) (encoded : List Nat) :
    Dispatched shuffler base moment id session
      (base.handlePlayCards shuffler moment id session.playerId encoded)
  | pass (placed : session.face.displaced base.notifier = false) :
    Dispatched shuffler base moment id session (base.handlePass shuffler moment id session.playerId)
  | reconnect (placed : session.face.displaced base.notifier = false) :
    Dispatched shuffler base moment id session (base.handleReconnect id session.playerId)

theorem dispatch_cases (shuffler : Shuffler ρ) (protobuf : Protobuf) (base : GatewayProcess ρ)
    (moment : Moment) (id : SessionId) (session : Session) (messageId : Nat) (body : Bytes) :
    Dispatched shuffler base moment id session
      (base.dispatch shuffler protobuf moment id session messageId body) := by
  unfold GatewayProcess.dispatch
  split
  · exact .closed
  · next allowed =>
    split
    · split
      · exact .closed
      · exact .login _
    · next notLogin =>
      have placed : session.face.displaced base.notifier = false := by
        rw [Bool.eq_false_iff]
        exact fun displaced => allowed ⟨notLogin, displaced⟩
      -- the ids in the order of the source; a body that does not parse closes the session
      split
      · split
        · exact .heartbeat placed
        · exact .closed
      split
      · split
        · exact .quickMatch placed
        · exact .closed
      split
      · split
        · exact .closed
        · exact .callLandlord placed _
      split
      · split
        · exact .closed
        · exact .playCards placed _
      split
      · split
        · exact .pass placed
        · exact .closed
      split
      · split
        · exact .reconnect placed
        · exact .closed
      · exact .closed

theorem dispatch_replies (shuffler : Shuffler ρ) (protobuf : Protobuf) {base : GatewayProcess ρ}
    (sound : ManagerInv base.manager) (moment : Moment) (id : SessionId) (session : Session)
    (messageId : Nat) (body : Bytes) :
    Returns (base.dispatch shuffler protobuf moment id session messageId body)
      (Replies base id session.face) := by
  have dispatched := dispatch_cases shuffler protobuf base moment id session messageId body
  generalize base.dispatch shuffler protobuf moment id session messageId body = outcome at dispatched ⊢
  cases dispatched with
  | closed => exact replies_close sound id session.face
  | login requested =>
    exact ⟨_, _, rfl, sound, .quiet ⟨rfl, rfl, fun _ => rfl⟩ (List.nil_append _).symm nofun⟩
  | heartbeat placed => exact replies_calls sound id session.face (by simp [Task.plain])
  | quickMatch placed => exact handleQuickMatch_replies shuffler sound moment id placed
  | callLandlord placed call => exact handleCallLandlord_replies shuffler sound moment id placed call
  | playCards placed encoded => exact handlePlayCards_replies shuffler sound moment id placed encoded
  | pass placed => exact handlePass_replies shuffler sound moment id placed
  | reconnect placed => exact handleReconnect_replies sound id placed

theorem keeps_replace {gateway : GatewayProcess ρ} {id : SessionId} {session : Session}
    (own : gateway.face id = some session.face) :
    Keeps gateway (gateway.update id fun _ => session) := by
  apply keeps_update
  intro other found
  rw [GatewayProcess.face, found, Option.map_some, Option.some.injEq] at own
  exact own.symm

/-- What the session changes for itself before it replies does not count. -/
theorem Replies.after_keeps {first second after : GatewayProcess ρ} {id : SessionId} {face : Face}
    {notes : List Note} (keeps : Keeps first second) (agenda : second.agenda = first.agenda)
    (replies : Replies second id face notes after) : Replies first id face notes after := by
  cases replies with
  | quiet later tasks plain => exact .quiet (keeps.trans later) (agenda ▸ tasks) plain
  | acted placed effect notifier faces tasks plain =>
    exact .acted (keeps.notifier ▸ placed) (keeps.manager ▸ effect)
      (notifier.trans keeps.notifier) (fun other => (faces other).trans (keeps.face other))
      (agenda ▸ tasks) plain

theorem sound_update {gateway : GatewayProcess ρ} {id : SessionId} {change : Session → Session}
    (sound : ManagerInv gateway.manager) : ManagerInv (gateway.update id change).manager := sound

section Reading

variable (shuffler) (protobuf) {gateway : GatewayProcess ρ} (sound : ManagerInv gateway.manager)
  (moment : Moment) {id : SessionId} {session changed : Session}
  (own : gateway.face id = some session.face)

include own

theorem own_after (same : changed.face = session.face) :
    (gateway.update id fun _ => changed).face id = some changed.face := by
  rw [(keeps_replace (same ▸ own)).face, own, same]

/-- A change that only the session sees, and then the reply. -/
theorem replies_after (same : changed.face = session.face) {reply : Except Fault (Outcome ρ)}
    (replies : Returns reply (Replies (gateway.update id fun _ => changed) id changed.face)) :
    Returns reply (Replies gateway id session.face) := by
  rw [← same] at own ⊢
  exact replies.mono fun _ _ => Replies.after_keeps (keeps_replace own) rfl

include sound

theorem handleTcpPacket_replies (header : PacketHeader) (body : Bytes) :
    Returns (gateway.handleTcpPacket shuffler protobuf moment id session header body)
      (Replies gateway id session.face) := by
  have counted := countMessage_face session moment.packetAt
  simp only [GatewayProcess.handleTcpPacket]
  split
  · exact replies_after own counted (replies_close (sound_update sound) id _)
  · exact replies_after own ((refreshHeartbeat_face _).trans counted)
      (dispatch_replies shuffler protobuf (sound_update sound) moment id _ header.messageId body)

theorem handleWebSocketPacket_replies (packet : Bytes) :
    Returns (gateway.handleWebSocketPacket shuffler protobuf moment id session packet)
      (Replies gateway id session.face) := by
  have counted := countMessage_face session.refreshHeartbeat moment.packetAt
  unfold GatewayProcess.handleWebSocketPacket
  split
  · exact replies_close sound id session.face
  · next header _ =>
    split
    · exact replies_close sound id session.face
    · simp only
      split
      · exact replies_after own counted (replies_close (sound_update sound) id _)
      · exact replies_after own counted
          (dispatch_replies shuffler protobuf (sound_update sound) moment id _ header.messageId _)

theorem headerRead_replies (bytes : Option (Vector UInt8 6)) :
    Returns (gateway.headerRead shuffler protobuf moment id session bytes)
      (Replies gateway id session.face) := by
  unfold GatewayProcess.headerRead
  have face : ({ session with pendingRead := none } : Session).face = session.face := rfl
  apply replies_after own face
  split
  · exact replies_close (sound_update sound) id _
  · split
    · exact replies_close (sound_update sound) id _
    · split
      · exact replies_close (sound_update sound) id _
      · split
        · have idle : ({ session with pendingRead := none, readInProgress := false } : Session).face =
            session.face := rfl
          apply replies_after (own_after own face) idle
          apply handleTcpPacket_replies shuffler protobuf (sound_update (sound_update sound)) moment
          exact own_after (own_after own face) idle
        · exact ⟨_, _, rfl, sound, .quiet (keeps_update fun _ _ => rfl) (List.nil_append _).symm nofun⟩

theorem bodyRead_replies (header : PacketHeader) (body : Option Bytes) :
    Returns (gateway.bodyRead shuffler protobuf moment id session header body)
      (Replies gateway id session.face) := by
  unfold GatewayProcess.bodyRead
  split
  · have face : ({ session with pendingRead := none } : Session).face = session.face := rfl
    exact replies_after own face (replies_close (sound_update sound) id _)
  · have face : ({ session with pendingRead := none, readInProgress := false } : Session).face =
      session.face := rfl
    apply replies_after own face
    exact handleTcpPacket_replies shuffler protobuf (sound_update sound) moment (own_after own face) header _

theorem frameRead_replies (frame : Option Bytes) :
    Returns (gateway.frameRead shuffler protobuf moment id session frame)
      (Replies gateway id session.face) := by
  unfold GatewayProcess.frameRead
  split
  · have face : ({ session with pendingRead := none } : Session).face = session.face := rfl
    exact replies_after own face (replies_close (sound_update sound) id _)
  · have face : ({ session with pendingRead := none, readInProgress := false } : Session).face =
      session.face := rfl
    apply replies_after own face
    exact handleWebSocketPacket_replies shuffler protobuf (sound_update sound) moment (own_after own face) _

end Reading

/-! ## Tasks -/

@[simp] theorem markOffline_rooms (manager : RoomManager ρ) (player : PlayerId) (now : Time) :
    (manager.markOffline player now).rooms = manager.rooms := by
  unfold RoomManager.markOffline
  split <;> rfl

@[simp] theorem markOffline_playerRooms (manager : RoomManager ρ) (player : PlayerId) (now : Time) :
    (manager.markOffline player now).playerRooms = manager.playerRooms := by
  unfold RoomManager.markOffline
  split <;> rfl

theorem seatedRound_markOffline (manager : RoomManager ρ) (player other : PlayerId) (now : Time) :
    (manager.markOffline player now).seatedRound other = manager.seatedRound other := by
  simp [RoomManager.seatedRound]

theorem roomState_none {manager : RoomManager ρ} {player : PlayerId}
    (unseated : manager.seatedRound player = none) (now : Time) :
    manager.roomState now player = .ok none := by
  simp [RoomManager.roomState, unseated]

section Tasks

variable (shuffler) (protobuf) {before : GatewayProcess ρ} (sound : ManagerInv before.manager)
  (moment : Moment) {rest : List Task}

include sound

/-- `PlayerNotifier::send` hands the message to the session of the entry. -/
theorem send_moves {task : Task} (agenda : before.agenda = task :: rest) {player : PlayerId}
    {message : ServerMessage} (handing : Handing before player message) :
    Returns (({ before with agenda := rest } : GatewayProcess ρ).send player message)
      (GatewayMove before .next) := by
  have tail : before.agenda.tail = rest := by rw [agenda, List.tail_cons]
  unfold GatewayProcess.send
  cases found : before.notifier.senders.lookup player with
  | none =>
    exact ⟨_, _, rfl, sound, .handed handing ⟨rfl, rfl, fun _ => rfl⟩ (by rw [found]; rfl)
      (by simp [tail])⟩
  | some entry =>
    exact ⟨_, _, rfl, sound, .handed handing ⟨rfl, rfl, fun _ => rfl⟩ (by rw [found]; rfl)
      (by simp [tail, GatewayProcess.push])⟩

theorem close_moves {id : SessionId} (agenda : before.agenda = .close id :: rest) :
    Returns (({ before with agenda := rest } : GatewayProcess ρ).close moment id)
      (GatewayMove before .next) := by
  have tail : before.agenda.tail = rest := by rw [agenda, List.tail_cons]
  have head : before.agenda.head? = some (.close id) := by rw [agenda, List.head?_cons]
  unfold GatewayProcess.close
  cases found : before.sessions[id]? with
  | none =>
    refine ⟨_, _, rfl, sound, .other [] ⟨rfl, rfl, fun _ => rfl⟩ tail.symm nofun ?_ ?_⟩
    · simp [head]
    · intro other face same present
      rw [head] at same
      cases same
      rw [GatewayProcess.face, found] at present
      cases present
  | some session =>
    have present := face_of_session found
    have faces : ∀ other, (({ before with agenda := rest } : GatewayProcess ρ).update id fun session =>
        { session with closed := true, heartbeatArmed := false }).face other =
          if other = id then some { session.face with closed := true } else before.face other := by
      intro other
      rw [face_update, found]
      rfl
    simp only
    split
    · next closed =>
      refine ⟨_, _, rfl, sound, .other [] ⟨rfl, rfl, fun _ => rfl⟩ tail.symm nofun ?_ ?_⟩
      · simp [head]
      · intro other face same here
        rw [head] at same
        cases same
        rw [present] at here
        cases here
        exact closed
    · next opened =>
      have opened : session.face.closed = false := Bool.eq_false_iff.mpr opened
      split
      · next current =>
        have offline := sound.markOffline session.playerId moment.now
        obtain ⟨state, read⟩ := roomState_ok offline moment.endedAt session.playerId
        -- out of a game there is no state to hand out
        have unseated : before.manager.seatedRound session.playerId = none → state = none := by
          intro unseated
          rw [← seatedRound_markOffline before.manager session.playerId _ moment.now] at unseated
          exact Except.ok.inj (read.symm.trans (roomState_none unseated moment.endedAt))
        simp only [GatewayProcess.update, read, bind, Except.bind]
        cases state with
        | none =>
          exact ⟨_, _, rfl, offline, .closing [] rfl head present opened current rfl rfl faces
            (by simp [GatewayProcess.push, tail]) nofun fun _ => rfl⟩
        | some state =>
          refine ⟨_, _, rfl, offline, .closing _ rfl head present opened current rfl rfl faces
            (by simp [GatewayProcess.push, tail]; rfl) ?_ fun alone => nomatch unseated alone⟩
          intro task member
          obtain ⟨player, _, rfl⟩ := List.mem_map.mp member
          exact ⟨_, _, rfl⟩
      -- a session that is not current leaves the notifier and the rooms alone
      · next stale =>
        exact ⟨_, _, rfl, sound, .closed rfl head present opened (Bool.eq_false_iff.mpr stale) rfl rfl faces
          tail.symm⟩

theorem finishClose_moves {id : SessionId} (agenda : before.agenda = .finishClose id :: rest) :
    Returns (({ before with agenda := rest } : GatewayProcess ρ).finishClose id)
      (GatewayMove before .next) := by
  have tail : rest = before.agenda.tail := by rw [agenda, List.tail_cons]
  have head : before.agenda.head? = some (.finishClose id) := by rw [agenda, List.head?_cons]
  unfold GatewayProcess.finishClose
  cases found : before.sessions[id]? with
  | none =>
    exact ⟨_, _, rfl, sound, .finished rfl head rfl (by simp [GatewayProcess.face, found, released])
      (fun _ => rfl) tail⟩
  | some session =>
    simp only
    split
    · next untold =>
      exact ⟨_, _, rfl, sound, .finished rfl head rfl
        (by simp [GatewayProcess.face, found, released, Session.face, untold]; rfl) (fun _ => rfl) tail⟩
    · next token told =>
      exact ⟨_, _, rfl, sound, .finished rfl head rfl
        (by simp [GatewayProcess.face, found, released, Session.face, told]; rfl) (fun _ => rfl) tail⟩

include shuffler in
/-- The next task of the running handler. -/
theorem perform_moves {task : Task} (agenda : before.agenda = task :: rest) :
    Returns (({ before with agenda := rest } : GatewayProcess ρ).perform protobuf moment task)
      (GatewayMove before .next) := by
  have tail : rest = before.agenda.tail := by rw [agenda, List.tail_cons]
  have head : before.agenda.head? = some task := by rw [agenda, List.head?_cons]
  cases task with
  | sendPacket id message =>
    simp only [GatewayProcess.perform, GatewayProcess.sendPacket]
    split
    · exact ⟨_, _, rfl, sound, .other [.close id] ⟨rfl, rfl, fun _ => rfl⟩
        (by rw [← tail]; rfl) (by simp [Task.plain]) (by simp [head]) (by simp [head])⟩
    · refine ⟨_, _, rfl, sound, .other [] ?_ tail nofun (by simp [head]) (by simp [head])⟩
      exact ⟨rfl, rfl, face_update_same fun _ _ => enqueue_face ..⟩
  | close id => exact close_moves sound moment agenda
  | finishClose id => exact finishClose_moves sound agenda
  | notify player message => exact send_moves sound agenda (.inl head)
  | notifyRoomState player =>
    obtain ⟨state, read⟩ := roomState_ok sound moment.now player
    simp only [GatewayProcess.perform, read, bind, Except.bind]
    cases state with
    | none =>
      exact ⟨_, _, rfl, sound, .other [] ⟨rfl, rfl, fun _ => rfl⟩ tail nofun
        (by simp [head]) (by simp [head])⟩
    | some state => exact send_moves sound agenda (.inr ⟨head, moment.now, state, read, rfl⟩)
  | postSettle entry =>
    exact ⟨_, _, rfl, sound, .other [] ⟨rfl, rfl, fun _ => rfl⟩ tail nofun
      (by simp [head]) (by simp [head])⟩
  | cleanupIdle now =>
    obtain ⟨inv, shrinks⟩ := cleanupIdle_players shuffler sound moment.rooms now
    exact ⟨_, _, rfl, inv, .cleaned [] shrinks rfl (by simp [head]) (by simp [head]) rfl
      (fun _ => rfl) tail nofun⟩
  | cleanupExpired now =>
    obtain ⟨inv, shrinks⟩ := cleanupExpired_players shuffler sound moment.players now
    exact ⟨_, _, rfl, inv, .cleaned _ shrinks rfl (by simp [head]) (by simp [head]) rfl
      (fun _ => rfl) (by rw [← tail]; rfl) (plain_settlements _)⟩

end Tasks

/-! ## Events -/

/-- Between handlers the new calls are the whole agenda. -/
theorem agenda_idle {before : GatewayProcess ρ} (idle : before.agenda = []) (tasks : List Task) :
    tasks ++ before.agenda = tasks ++ before.agenda.tail := by
  rw [idle, List.tail_nil]

/-- The reply to a packet is a move. -/
theorem replied {before : GatewayProcess ρ} (idle : before.agenda = []) {event : Event}
    {id : SessionId} {session : Session} (reader : event.reader = some id)
    (found : before.sessions[id]? = some session) {reply : Except Fault (Outcome ρ)}
    (replies : Returns reply (Replies before id session.face)) :
    Returns reply (GatewayMove before event) := by
  refine replies.mono ?_
  intro notes after replies
  cases replies with
  | quiet keeps agenda plain =>
    rw [agenda_idle idle] at agenda
    exact .other _ keeps agenda plain (by simp [idle]) (by simp [idle])
  | acted placed effect notifier faces agenda plain =>
    rw [agenda_idle idle] at agenda
    exact .acted idle reader (face_of_session found) placed effect notifier faces agenda plain

section Events

variable (shuffler) (protobuf) {before : GatewayProcess ρ} (sound : ManagerInv before.manager)
  (moment : Moment) (idle : before.agenda = [])

include sound idle

/-- An event that only its session sees, and that may close it. -/
theorem quiet_event {event : Event} {after : GatewayProcess ρ} (tasks : List Task)
    (keeps : Keeps before after) (agenda : after.agenda = tasks ++ before.agenda)
    (plain : ∀ task ∈ tasks, task.plain) :
    Returns (.ok ([], after)) (GatewayMove before event) := by
  rw [agenda_idle idle] at agenda
  exact ⟨_, _, rfl, keeps.manager ▸ sound, .other _ keeps agenda plain (by simp [idle]) (by simp [idle])⟩

/-- An event after which the session closes. -/
theorem closing_event {event : Event} {base : GatewayProcess ρ} {id : SessionId}
    (keeps : Keeps before base) (agenda : base.agenda = before.agenda) :
    Returns (base.calls [.close id]) (GatewayMove before event) :=
  quiet_event sound idle _ (keeps.trans ⟨rfl, rfl, fun _ => rfl⟩)
    (congrArg ([Task.close id] ++ ·) agenda) (by simp [Task.plain])

theorem accepted_moves (transport : Transport) :
    Returns (before.handle shuffler protobuf moment (.accepted transport))
      (GatewayMove before (.accepted transport)) := by
  refine ⟨_, _, rfl, sound, .opened idle rfl rfl rfl ?_ idle⟩
  intro id
  simp only [GatewayProcess.face, List.getElem?_append]
  split
  · exact .inl rfl
  · next outside =>
    rw [List.getElem?_eq_none (not_lt.mp outside)]
    cases place : id - before.sessions.length with
    | zero =>
      right
      cases transport <;> exact ⟨rfl, rfl⟩
    | succ number => exact .inl (by simp)

theorem completeLogin_moves {index : Nat} {completion : LoginCompletion}
    (found : before.completions[index]? = some completion) :
    Returns (({ before with completions := before.completions.eraseIdx index } :
        GatewayProcess ρ).completeLogin moment completion)
      (GatewayMove before (.loginCompleted index)) := by
  simp only [GatewayProcess.completeLogin]
  split
  · next success =>
    obtain ⟨state, read⟩ := roomState_ok (sound.markOnline completion.result.playerId) moment.now
      completion.result.playerId
    simp only [GatewayProcess.update, PlayerNotifier.registerPlayer, read, bind, Except.bind]
    refine ⟨_, _, rfl, sound.markOnline _, .loggedIn idle rfl found success rfl rfl ?_
      (agenda_idle idle _) ?_⟩
    · intro id
      -- the session takes the player and the new token, the others stay
      have faces := face_update before completion.session id fun session =>
        { session with
          playerId := completion.result.playerId
          notifierToken := some before.notifier.nextToken }
      refine faces.trans ?_
      split
      · next own =>
        rw [own, GatewayProcess.face, Option.map_map]
        rfl
      · rfl
    · intro task member
      obtain told | response := List.mem_append.mp member
      · cases state with
        | none => cases told
        | some state =>
          obtain ⟨player, _, rfl⟩ := List.mem_map.mp told
          rfl
      · rw [List.mem_singleton.mp response]
        rfl
  · exact quiet_event sound idle _ ⟨rfl, rfl, fun _ => rfl⟩ rfl (by simp [Task.plain])

theorem cleanup_moves :
    Returns (before.cleanup shuffler moment) (GatewayMove before .cleanup) := by
  obtain ⟨actions, manager, done, inv, shrinks⟩ :=
    timeoutExpired_players shuffler sound moment.rooms moment.now moment.roomStartedAt
  simp only [GatewayProcess.cleanup, done, bind, Except.bind]
  refine ⟨_, _, rfl, inv, .cleaned _ shrinks rfl (by simp [idle]) (by simp [idle]) rfl (fun _ => rfl)
    (agenda_idle idle _) ?_⟩
  intro task member
  obtain timeout | clean := List.mem_append.mp member
  · exact plain_timeoutTasks actions task timeout
  · simp only [List.mem_cons, List.not_mem_nil, or_false] at clean
    obtain rfl | rfl := clean <;> rfl

theorem handle_moves (event : Event) :
    Returns (before.handle shuffler protobuf moment event) (GatewayMove before event) := by
  have nothing : ∀ event, Returns (.ok ([], before)) (GatewayMove before event) :=
    fun _ => ⟨_, _, rfl, sound, .stalled⟩
  cases event with
  | accepted transport => exact accepted_moves shuffler protobuf sound moment idle transport
  | handshaken id success =>
    simp only [GatewayProcess.handle]
    split
    · exact nothing _
    · next session found =>
      split
      · exact nothing _
      · have own := face_of_session found
        split
        · refine quiet_event sound idle [] (keeps_replace ?_) rfl nofun
          rw [own, startRead_face]
          rfl
        · exact closing_event sound idle (keeps_replace own) rfl
  -- the three reads handle a packet, and so do what its replies do
  | headerRead id bytes =>
    simp only [GatewayProcess.handle]
    split
    · exact nothing _
    · next session found =>
      split
      · exact nothing _
      · exact replied idle rfl found
          (headerRead_replies shuffler protobuf sound moment (face_of_session found) bytes)
  | bodyRead id body =>
    simp only [GatewayProcess.handle]
    split
    · exact nothing _
    · next session found =>
      split
      · next header _ =>
        split
        · exact replied idle rfl found
            (bodyRead_replies shuffler protobuf sound moment (face_of_session found) header body)
        · exact nothing _
      · exact nothing _
  | frameRead id frame =>
    simp only [GatewayProcess.handle]
    split
    · exact nothing _
    · next session found =>
      split
      · exact nothing _
      · exact replied idle rfl found
          (frameRead_replies shuffler protobuf sound moment (face_of_session found) frame)
  | written id success =>
    simp only [GatewayProcess.handle]
    split
    · exact nothing _
    · split
      · exact nothing _
      · split
        · exact quiet_event sound idle [] (keeps_update fun _ _ => written_face _) rfl nofun
        · exact closing_event sound idle (keeps_update fun _ _ => rfl) rfl
  -- the timer closes the session if it is armed
  | heartbeatExpired id =>
    simp only [GatewayProcess.handle]
    split
    · exact nothing _
    · split
      · exact closing_event sound idle (keeps_update fun _ _ => rfl) rfl
      · exact nothing _
  | jobDone index result =>
    simp only [GatewayProcess.handle]
    split
    · split
      · exact nothing _
      · split <;> exact quiet_event sound idle [] ⟨rfl, rfl, fun _ => rfl⟩ rfl nofun
    · exact nothing _
  | loginCompleted index =>
    simp only [GatewayProcess.handle]
    split
    · exact nothing _
    · next completion found => exact completeLogin_moves sound moment idle found
  | cleanup => exact cleanup_moves shuffler sound moment idle
  | next => exact nothing _

end Events

/-- The specification of a step: it returns, keeps the rooms sound, and is a move. -/
theorem step_moves (shuffler : Shuffler ρ) (protobuf : Protobuf) {before : GatewayProcess ρ}
    (sound : ManagerInv before.manager) (event : Event) (moment : Moment) :
    Returns (before.step shuffler protobuf event moment) (GatewayMove before event) := by
  unfold GatewayProcess.step
  split
  · next idle => exact handle_moves shuffler protobuf sound moment idle event
  · next task rest agenda =>
    split
    · exact perform_moves shuffler protobuf sound moment agenda
    · exact ⟨_, _, rfl, sound, .stalled⟩

end Doudizhu.Gateway
