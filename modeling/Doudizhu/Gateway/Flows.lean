import Doudizhu.Gateway.ReadMoves
import Doudizhu.Lib.Outbox

/-! # Flows

What one step does to the reading and writing of a session, over either transport: the
reads that it ends and starts, what it does to the queue of packets, and the calls that it
leaves for the session.
-/

namespace Doudizhu.Gateway

open Game Transfer

variable {ρ : Type} {shuffler : Shuffler ρ} {protobuf : Protobuf}

/-! ## What the loops of a session depend on -/

structure Flow where
  transport : Transport
  closed : Bool
  readInProgress : Bool
  pendingRead : Option PendingRead
  writeQueue : List Bytes
  writing : Bool
deriving DecidableEq

def Session.flow (session : Session) : Flow :=
  ⟨session.transport, session.closed, session.readInProgress, session.pendingRead, session.writeQueue,
    session.writing⟩

@[simp] theorem countMessage_flow (session : Session) (now : Time) :
    (session.countMessage now).flow = session.flow := by
  unfold Session.countMessage
  split <;> rfl

theorem startRead_flow (session : Session) : session.startRead.flow =
    if session.readInProgress then session.flow
    else { session.flow with
      readInProgress := true
      pendingRead := some (if session.transport = .tcp then .header else .frame) } := by
  rw [Session.startRead_eq]
  split <;> rfl

theorem enqueue_flow (session : Session) (packet : Bytes) : (session.enqueue packet).flow =
    { session.flow with
      writeQueue := session.writeQueue ++ [packet]
      writing := session.writing || session.writeQueue.isEmpty } := by
  rw [Session.enqueue_eq]
  rfl

section Update

variable {gateway : GatewayProcess ρ} {id other : SessionId} {change : Session → Session} {old new : Session}

theorem update_own (was : gateway.sessions[id]? = some old) :
    (gateway.update id change).sessions[id]? = some (change old) := by
  simp [GatewayProcess.update, was]

theorem update_other (differ : other ≠ id) :
    (gateway.update other change).sessions[id]? = gateway.sessions[id]? := by
  simp [GatewayProcess.update, differ]

/-- What a change of a session leaves of the flow of each. -/
theorem update_flow (was : gateway.sessions[id]? = some old)
    (now : (gateway.update other change).sessions[id]? = some new)
    (same : other = id → (change old).flow = old.flow) : new.flow = old.flow := by
  by_cases own : other = id
  · rw [own, update_own was] at now
    rw [← Option.some.inj now]
    exact same own
  · rw [update_other own, was] at now
    rw [Option.some.inj now]

end Update

/-! ## What a step starts and ends -/

/-- The read that follows a header: that of the body, if the packet has one. -/
def announced (bytes : Vector UInt8 6) : List Operation :=
  match PacketCodec.decodeHeader bytes with
  | none => []
  | some header =>
    if header.packetSize ≤ maxPacketSize ∧ header.packetSize ≠ PacketCodec.headerSize then
      [.read (.body header)]
    else []

def Operation.isRead : Operation → Bool
  | .read _ => true
  | .write _ => false

/-- What the operation does to the outbox. -/
def Operation.action : Operation → Option (Action Bytes)
  | .read _ => none
  | .write packet => some (.start packet)

structure Traffic where
  /-- What is done to the queue of packets. -/
  change : Option (Action Bytes) := none
  /-- How many reads end. -/
  readsEnded : Nat := 0
  /-- What is started after that. -/
  started : List Operation := []
deriving DecidableEq

namespace Traffic

def write (traffic : Traffic) : List (Action Bytes) :=
  traffic.change.toList ++ traffic.started.filterMap Operation.action

def readsStarted (traffic : Traffic) : Nat := traffic.started.countP Operation.isRead

@[simp] theorem readsStarted_none (change : Option (Action Bytes)) (ended : Nat) :
    readsStarted ⟨change, ended, []⟩ = 0 := rfl

@[simp] theorem readsStarted_read (change : Option (Action Bytes)) (ended : Nat) (read : PendingRead) :
    readsStarted ⟨change, ended, [.read read]⟩ = 1 := rfl

/-- A write that is started adds nothing to the queue. -/
theorem write_pushed (traffic : Traffic) :
    traffic.write.flatMap Action.pushed = traffic.change.toList.flatMap Action.pushed := by
  have starts : (traffic.started.filterMap Operation.action).flatMap Action.pushed = [] := by
    rw [List.flatMap_eq_nil_iff]
    intro action member
    obtain ⟨operation, _, acts⟩ := List.mem_filterMap.mp member
    cases operation <;> cases acts
    rfl
  rw [write, List.flatMap_append, starts, List.append_nil]

/-- It leaves what waits. -/
theorem write_fifo (traffic : Traffic) (box : Fifo Bytes) :
    traffic.write.foldl Fifo.act box = traffic.change.toList.foldl Fifo.act box := by
  have starts : ∀ (started : List Operation) (box : Fifo Bytes),
      (started.filterMap Operation.action).foldl Fifo.act box = box := by
    intro started
    induction started with
    | nil => exact fun _ => rfl
    | cons operation started inductionHypothesis => cases operation <;> exact inductionHypothesis
  rw [write, List.foldl_append, starts]

end Traffic

/-- The traffic of a session that is there: what its functions report. -/
def Session.traffic (session : Session) (protobuf : Protobuf) (id : SessionId) :
    List Task → Event → Traffic
  | .sendPacket receiver message :: _, .next =>
    if receiver = id ∧ PacketCodec.headerSize + (protobuf.serialize message).length ≤ maxPacketSize then
      { change := some (.push (GatewayProcess.packetOf protobuf message))
        started := (session.pushPacket (GatewayProcess.packetOf protobuf message)).1 }
    else {}
  | [], .handshaken reader success =>
    if reader = id ∧ session.pendingRead = some .handshake then
      { readsEnded := 1
        started := if success then { session with pendingRead := none }.refreshHeartbeat.readNext.1 else [] }
    else {}
  | [], .headerRead reader bytes =>
    if reader = id ∧ session.pendingRead = some .header then
      { readsEnded := 1, started := bytes.elim [] announced }
    else {}
  | [], .bodyRead reader body =>
    match session.pendingRead with
    | some (.body header) =>
      if reader = id ∧ body.all fun body => body.length + PacketCodec.headerSize == header.packetSize then
        { readsEnded := 1 }
      else {}
    | _ => {}
  | [], .frameRead reader _ =>
    if reader = id ∧ session.pendingRead = some .frame then { readsEnded := 1 } else {}
  | [], .written writer success =>
    if writer = id ∧ session.writing then
      if success then { change := some .ended, started := session.finishWrite.1 }
      else { change := some .failed }
    else {}
  | _, _ => {}

/-- The first read of a session. -/
def Transport.firstRead : Transport → PendingRead
  | .tcp => .header
  | .webSocket => .handshake

/-- That of any session: one that is accepted starts with a read. -/
def GatewayProcess.traffic (gateway : GatewayProcess ρ) (protobuf : Protobuf) (event : Event)
    (id : SessionId) : Traffic :=
  match gateway.sessions[id]? with
  | some session => session.traffic protobuf id gateway.agenda event
  | none =>
    match gateway.agenda, event with
    | [], .accepted transport =>
      if id = gateway.sessions.length then { started := [.read transport.firstRead] } else {}
    | _, _ => {}

/-! ### What the functions report -/

/-- A session that does not read starts to. -/
theorem readNext_reads (session : Session) (ended : Nat) :
    Traffic.readsStarted { readsEnded := ended, started := session.readNext.1 } =
      if session.readInProgress then 0 else 1 := by
  unfold Session.readNext
  split <;> rfl

theorem readNext_writes (session : Session) (ended : Nat) :
    Traffic.write { readsEnded := ended, started := session.readNext.1 } = [] := by
  unfold Session.readNext
  split <;> rfl

theorem pushPacket_reads (session : Session) (packet : Bytes) :
    Traffic.readsStarted { change := some (.push packet), started := (session.pushPacket packet).1 } = 0 := by
  unfold Session.pushPacket Session.writeNext
  cases session.writeQueue <;> rfl

/-- A packet that comes is treated as by an outbox, -/
theorem pushPacket_writes (session : Session) (packet : Bytes) :
    Traffic.write { change := some (.push packet), started := (session.pushPacket packet).1 } =
      Outbox.pushing session.writeQueue packet := by
  unfold Session.pushPacket Session.writeNext Outbox.pushing
  cases session.writeQueue <;> rfl

theorem finishWrite_reads (session : Session) :
    Traffic.readsStarted { change := some .ended, started := session.finishWrite.1 } =
      if session.writeQueue.tail.isEmpty && !session.readInProgress then 1 else 0 := by
  unfold Session.finishWrite
  cases rest : session.writeQueue.tail with
  | nil =>
    rw [if_neg (by simp)]
    refine (readNext_reads _ 0).trans ?_
    cases session.readInProgress <;> rfl
  | cons packet packets => rfl

/-- and so is the end of a write. -/
theorem finishWrite_writes (session : Session) :
    Traffic.write { change := some .ended, started := session.finishWrite.1 } =
      Outbox.ending session.writeQueue := by
  unfold Session.finishWrite Outbox.ending
  cases rest : session.writeQueue.tail with
  | nil =>
    rw [if_neg (by simp)]
    exact congrArg (Action.ended :: ·) (readNext_writes _ 0)
  | cons packet packets => rfl

/-! ## Moves -/

/-- A packet of the session is dispatched, or the session is closed for it. -/
def Handled (shuffler : Shuffler ρ) (before : GatewayProcess ρ) (id : SessionId) (old : Session)
    (notes : List Note) (after : GatewayProcess ρ) : Prop :=
  ∃ (base : GatewayProcess ρ) (moment : Moment) (session : Session),
    base.manager = before.manager ∧ base.notifier = before.notifier ∧ base.jobs = before.jobs ∧
      base.agenda = [] ∧ session.face = old.face ∧
      Dispatched shuffler base moment id session (.ok (notes, after))

/-- What a step does to the session `id`, which was `old`. -/
inductive FlowMove (shuffler : Shuffler ρ) (protobuf : Protobuf) (before : GatewayProcess ρ) (event : Event)
    (id : SessionId) (notes : List Note) (after : GatewayProcess ρ) (old : Session) :
    Traffic → Flow → Prop where
  | still : FlowMove shuffler protobuf before event id notes after old {} old.flow
  | enqueued {message : ServerMessage} {rest : List Task} :
      event = .next → before.agenda = .sendPacket id message :: rest → after.agenda = rest →
      FlowMove shuffler protobuf before event id notes after old
        { change := some (.push (GatewayProcess.packetOf protobuf message))
          started := (old.pushPacket (GatewayProcess.packetOf protobuf message)).1 }
        (old.enqueue (GatewayProcess.packetOf protobuf message)).flow
  | oversized {rest : List Task} :
      event = .next → after.agenda = .close id :: rest →
      FlowMove shuffler protobuf before event id notes after old {} old.flow
  | closed {rest : List Task} :
      event = .next → before.agenda = .close id :: rest →
      FlowMove shuffler protobuf before event id notes after old {} { old.flow with closed := true }
  | written :
      before.agenda = [] → after.agenda = [] → old.writing →
      FlowMove shuffler protobuf before event id notes after old
        { change := some .ended, started := old.finishWrite.1 } old.written.flow
  | broken :
      before.agenda = [] → after.agenda = [.close id] → old.writing →
      FlowMove shuffler protobuf before event id notes after old { change := some .failed }
        { old.flow with writing := false }
  | shaken :
      before.agenda = [] → after.agenda = [] → old.pendingRead = some .handshake →
      FlowMove shuffler protobuf before event id notes after old
        { readsEnded := 1, started := { old with pendingRead := none }.refreshHeartbeat.readNext.1 }
        { old with pendingRead := none }.startRead.flow
  | failed {pending : PendingRead} :
      before.agenda = [] → after.agenda = [.close id] → old.pendingRead = some pending →
      FlowMove shuffler protobuf before event id notes after old { readsEnded := 1 }
        { old.flow with pendingRead := none }
  | announced {header : PacketHeader} :
      before.agenda = [] → after.agenda = [] → old.pendingRead = some .header →
      FlowMove shuffler protobuf before event id notes after old
        { readsEnded := 1, started := [.read (.body header)] }
        { old.flow with pendingRead := some (.body header) }
  | handled {pending : PendingRead} :
      before.agenda = [] → old.pendingRead = some pending → pending ≠ .handshake →
      Handled shuffler before id old notes after →
      FlowMove shuffler protobuf before event id notes after old { readsEnded := 1 }
        { old.flow with readInProgress := false, pendingRead := none }

section Steps

variable {before after : GatewayProcess ρ} {event : Event} {moment : Moment} {notes : List Note}
  {id : SessionId} {old new : Session}

/-- A step without traffic that leaves the flow. -/
theorem flow_still {traffic : Traffic} (quiet : traffic = {}) (same : new.flow = old.flow) :
    FlowMove shuffler protobuf before event id notes after old traffic new.flow := by
  rw [quiet, same]
  exact .still

theorem flow_of_sessions (was : before.sessions[id]? = some old)
    (now : after.sessions[id]? = some new) (same : after.sessions = before.sessions) :
    new.flow = old.flow := by
  rw [same, was] at now
  rw [Option.some.inj now]

theorem perform_flow {task : Task} {rest : List Task} (agenda : before.agenda = task :: rest)
    (done : ({ before with agenda := rest } : GatewayProcess ρ).perform protobuf moment task =
      .ok (notes, after))
    (was : before.sessions[id]? = some old) (now : after.sessions[id]? = some new) :
    FlowMove shuffler protobuf before .next id notes after old
      (old.traffic protobuf id before.agenda .next) new.flow := by
  rw [agenda]
  cases perform_cases done with
  | nothing other =>
    refine flow_still ?_ (flow_of_sessions was now rfl)
    cases task with
    | sendPacket receiver message => exact absurd rfl (other receiver message)
    | _ => rfl
  | @oversized receiver message large =>
    have quiet : old.traffic protobuf id (.sendPacket receiver message :: rest) .next = {} :=
      if_neg fun fits => absurd fits.2 (not_le.mpr large)
    have same := flow_of_sessions was now rfl
    by_cases own : receiver = id
    · subst own
      rw [quiet, same]
      exact .oversized rfl rfl
    · exact flow_still quiet same
  | @enqueued receiver message fits =>
    by_cases own : receiver = id
    · subst own
      have placed := (update_own was).symm.trans now
      rw [← Option.some.inj placed, Session.traffic, if_pos ⟨rfl, fits⟩]
      exact .enqueued rfl agenda rfl
    · have quiet : old.traffic protobuf id (.sendPacket receiver message :: rest) .next = {} :=
        if_neg fun both => own both.1
      exact flow_still quiet (update_flow was now fun same => absurd same own)
  -- the session is closed, whatever else is done
  | @closed closer | @closing closer =>
    by_cases own : closer = id
    · subst own
      have placed := (update_own was).symm.trans now
      rw [← Option.some.inj placed]
      exact .closed rfl agenda
    · exact flow_still rfl (update_flow was now fun same => absurd same own)
  | finished | posted | cleanedIdle | cleanedExpired => exact flow_still rfl (flow_of_sessions was now rfl)
  | handed kind =>
    obtain rfl | rfl := kind <;> exact flow_still rfl (flow_of_sessions was now rfl)

/-! ## Packets -/

/-- What a handler of a packet starts from: a state that differs from `before` in sessions only. -/
structure Starts (before base : GatewayProcess ρ) : Prop where
  manager : base.manager = before.manager
  notifier : base.notifier = before.notifier
  jobs : base.jobs = before.jobs
  agenda : base.agenda = []

theorem Starts.update {base : GatewayProcess ρ} (starts : Starts before base) (id : SessionId)
    (change : Session → Session) : Starts before (base.update id change) :=
  ⟨starts.manager, starts.notifier, starts.jobs, starts.agenda⟩

theorem handled_of {base : GatewayProcess ρ} {session : Session} (starts : Starts before base)
    (face : session.face = old.face)
    (dispatched : Dispatched shuffler base moment id session (.ok (notes, after))) :
    Handled shuffler before id old notes after :=
  ⟨base, moment, session, starts.manager, starts.notifier, starts.jobs, starts.agenda, face, dispatched⟩

theorem handleTcpPacket_flow {base : GatewayProcess ρ} {session : Session} {header : PacketHeader} {body : Bytes}
    (starts : Starts before base) (face : session.face = old.face)
    (done : base.handleTcpPacket shuffler protobuf moment id session header body = .ok (notes, after)) :
    Handled shuffler before id old notes after ∧ ∃ counted : Session, counted.flow = session.flow ∧
      after.sessions = (base.update id fun _ => counted).sessions := by
  have counts : (session.countMessage moment.packetAt).face = old.face := (countMessage_face ..).trans face
  simp only [GatewayProcess.handleTcpPacket] at done
  split at done
  · have dispatched : Dispatched shuffler (base.update id fun _ => session.countMessage moment.packetAt) moment
        id (session.countMessage moment.packetAt) (.ok (notes, after)) := by
      rw [← done]
      exact .closed
    exact ⟨handled_of (starts.update id _) counts dispatched, session.countMessage moment.packetAt,
      countMessage_flow .., (calls_aside done).sessions⟩
  · have dispatched := dispatch_cases shuffler protobuf
      (base.update id fun _ => (session.countMessage moment.packetAt).refreshHeartbeat) moment id
      (session.countMessage moment.packetAt).refreshHeartbeat header.messageId body
    rw [done] at dispatched
    have refreshed : (session.countMessage moment.packetAt).refreshHeartbeat.face = old.face := counts
    exact ⟨handled_of (starts.update id _) refreshed dispatched,
      (session.countMessage moment.packetAt).refreshHeartbeat, countMessage_flow ..,
      (dispatch_aside done).sessions⟩

theorem handleWebSocketPacket_flow {base : GatewayProcess ρ} {session : Session} {packet : Bytes}
    (starts : Starts before base) (face : session.face = old.face)
    (placed : base.sessions = (before.update id fun _ => session).sessions)
    (done : base.handleWebSocketPacket shuffler protobuf moment id session packet = .ok (notes, after)) :
    Handled shuffler before id old notes after ∧ ∃ counted : Session, counted.flow = session.flow ∧
      after.sessions = (before.update id fun _ => counted).sessions := by
  have again : ∀ counted : Session, (base.update id fun _ => counted).sessions =
      (before.update id fun _ => counted).sessions := by
    intro counted
    simp only [GatewayProcess.update] at placed ⊢
    rw [placed, List.modify_modify_eq]
    rfl
  have counts : (session.refreshHeartbeat.countMessage moment.packetAt).face = old.face :=
    (countMessage_face ..).trans face
  -- a packet whose header is refused closes the session before it is counted
  have refused : base.calls [.close id] = .ok (notes, after) →
      Handled shuffler before id old notes after ∧ ∃ counted : Session, counted.flow = session.flow ∧
        after.sessions = (before.update id fun _ => counted).sessions := by
    intro closed
    have dispatched : Dispatched shuffler base moment id session (.ok (notes, after)) := by
      rw [← closed]
      exact .closed
    exact ⟨handled_of starts face dispatched, session, rfl, (calls_aside closed).sessions.trans placed⟩
  simp only [GatewayProcess.handleWebSocketPacket] at done
  split at done
  · exact refused done
  next header _ =>
  split at done
  · exact refused done
  split at done
  · have dispatched : Dispatched shuffler
        (base.update id fun _ => session.refreshHeartbeat.countMessage moment.packetAt) moment id
        (session.refreshHeartbeat.countMessage moment.packetAt) (.ok (notes, after)) := by
      rw [← done]
      exact .closed
    exact ⟨handled_of (starts.update id _) counts dispatched,
      session.refreshHeartbeat.countMessage moment.packetAt, countMessage_flow ..,
      (calls_aside done).sessions.trans (again _)⟩
  · have dispatched := dispatch_cases shuffler protobuf
      (base.update id fun _ => session.refreshHeartbeat.countMessage moment.packetAt) moment id
      (session.refreshHeartbeat.countMessage moment.packetAt) header.messageId
      (packet.drop PacketCodec.headerSize)
    rw [done] at dispatched
    exact ⟨handled_of (starts.update id _) counts dispatched,
      session.refreshHeartbeat.countMessage moment.packetAt, countMessage_flow ..,
      (dispatch_aside done).sessions.trans (again _)⟩

/-! ## Events -/

/-- An event of a session that is put in place as another. -/
theorem flow_placed {placed : Session} (was : before.sessions[id]? = some old)
    (now : after.sessions[id]? = some new)
    (sessions : after.sessions = (before.update id fun _ => placed).sessions) : new.flow = placed.flow := by
  rw [sessions, update_own was] at now
  rw [Option.some.inj now]

theorem headerRead_flow {bytes : Option (Vector UInt8 6)} (idle : before.agenda = [])
    (pending : old.pendingRead = some .header)
    (done : before.headerRead shuffler protobuf moment id old bytes = .ok (notes, after))
    (was : before.sessions[id]? = some old) (now : after.sessions[id]? = some new) :
    FlowMove shuffler protobuf before (.headerRead id bytes) id notes after old
      (old.traffic protobuf id [] (.headerRead id bytes)) new.flow := by
  rw [Session.traffic, if_pos ⟨rfl, pending⟩]
  simp only [GatewayProcess.headerRead] at done
  -- wherever the session is closed, no other read is started
  have closes : (before.update id fun _ => { old with pendingRead := none }).calls [.close id] =
      .ok (notes, after) →
      FlowMove shuffler protobuf before (.headerRead id bytes) id notes after old { readsEnded := 1 } new.flow := by
    intro closed
    have same := flow_placed was now (calls_aside closed).sessions
    cases closed
    rw [same]
    refine .failed idle ?_ pending
    rw [GatewayProcess.push]
    exact congrArg ([Task.close id] ++ ·) idle
  cases bytes with
  | none => exact closes done
  | some bytes =>
    dsimp only at done
    cases decoded : PacketCodec.decodeHeader bytes with
    | none =>
      rw [decoded] at done
      have refused : (some bytes).elim [] announced = [] := by simp [announced, decoded]
      simp only [refused]
      exact closes done
    | some header =>
      rw [decoded] at done
      dsimp only at done
      split at done
      · next large =>
        have refused : (some bytes).elim [] announced = [] := by simp [announced, decoded, large]
        simp only [refused]
        exact closes done
      · next small =>
        split at done
        · next none =>
          -- the header is the whole packet
          have whole : (some bytes).elim [] announced = [] := by simp [announced, decoded, none]
          simp only [whole]
          have starts : Starts before (before.update id fun _ => { old with pendingRead := Option.none }) :=
            ⟨rfl, rfl, rfl, idle⟩
          obtain ⟨handled, counted, flow, placed⟩ := handleTcpPacket_flow (starts.update id _) rfl done
          rw [update_update, update_update] at placed
          rw [flow_placed was now placed, flow]
          exact .handled idle pending (by simp) handled
        · next more =>
          have follows : (some bytes).elim [] announced = [.read (.body header)] := by
            simp [announced, decoded, more, not_lt.mp small]
          simp only [follows]
          cases done
          rw [flow_placed was now (update_update ..)]
          exact .announced idle idle pending

theorem bodyRead_flow {header : PacketHeader} {body : Option Bytes} (idle : before.agenda = [])
    (pending : old.pendingRead = some (.body header))
    (filled : body.all fun body => body.length + PacketCodec.headerSize == header.packetSize)
    (done : before.bodyRead shuffler protobuf moment id old header body = .ok (notes, after))
    (was : before.sessions[id]? = some old) (now : after.sessions[id]? = some new) :
    FlowMove shuffler protobuf before (.bodyRead id body) id notes after old
      (old.traffic protobuf id [] (.bodyRead id body)) new.flow := by
  simp only [Session.traffic, pending, filled, and_self, if_true]
  simp only [GatewayProcess.bodyRead] at done
  cases body with
  | none =>
    have same := flow_placed was now (calls_aside done).sessions
    cases done
    rw [same]
    refine .failed idle ?_ pending
    exact congrArg ([Task.close id] ++ ·) idle
  | some body =>
    have starts : Starts before (before.update id fun _ =>
        { old with pendingRead := none, readInProgress := false }) := ⟨rfl, rfl, rfl, idle⟩
    obtain ⟨handled, counted, flow, placed⟩ := handleTcpPacket_flow starts rfl done
    rw [update_update] at placed
    rw [flow_placed was now placed, flow]
    exact .handled idle pending (by simp) handled

theorem frameRead_flow {frame : Option Bytes} (idle : before.agenda = [])
    (pending : old.pendingRead = some .frame)
    (done : before.frameRead shuffler protobuf moment id old frame = .ok (notes, after))
    (was : before.sessions[id]? = some old) (now : after.sessions[id]? = some new) :
    FlowMove shuffler protobuf before (.frameRead id frame) id notes after old
      (old.traffic protobuf id [] (.frameRead id frame)) new.flow := by
  rw [Session.traffic, if_pos ⟨rfl, pending⟩]
  simp only [GatewayProcess.frameRead] at done
  cases frame with
  | none =>
    have same := flow_placed was now (calls_aside done).sessions
    cases done
    rw [same]
    refine .failed idle ?_ pending
    exact congrArg ([Task.close id] ++ ·) idle
  | some packet =>
    have starts : Starts before (before.update id fun _ =>
        { old with pendingRead := none, readInProgress := false }) := ⟨rfl, rfl, rfl, idle⟩
    obtain ⟨handled, counted, flow, placed⟩ := handleWebSocketPacket_flow starts rfl rfl done
    rw [flow_placed was now placed, flow]
    exact .handled idle pending (by simp) handled

/-- What the session does not wait for. -/
theorem traffic_untaken {event : Event} {session : Session} (untaken : ¬ session.Takes id event) :
    session.traffic protobuf id [] event = {} := by
  cases event with
  | handshaken | headerRead | frameRead | written => exact if_neg untaken
  | bodyRead reader body =>
    rw [Session.traffic]
    split
    · next header pending => exact if_neg fun both => untaken ⟨both.1, header, pending, both.2⟩
    · rfl
  | _ => rfl

/-- What the other sessions keep of the event of one. -/
theorem flow_apart {reader : SessionId} {placed : Session} (differ : reader ≠ id)
    (was : before.sessions[id]? = some old) (now : after.sessions[id]? = some new)
    (sessions : after.sessions = (before.update reader fun _ => placed).sessions) : new.flow = old.flow := by
  rw [sessions, update_other differ, was] at now
  rw [Option.some.inj now]

theorem handle_flow (idle : before.agenda = [])
    (done : before.handle shuffler protobuf moment event = .ok (notes, after))
    (was : before.sessions[id]? = some old) (now : after.sessions[id]? = some new) :
    FlowMove shuffler protobuf before event id notes after old (old.traffic protobuf id [] event) new.flow := by
  -- the event of another session
  have apart : ∀ {reader : SessionId} {placed : Session}, reader ≠ id → ¬ old.Takes id event →
      after.sessions = (before.update reader fun _ => placed).sessions →
      FlowMove shuffler protobuf before event id notes after old (old.traffic protobuf id [] event) new.flow :=
    fun differ untaken sessions => flow_still (traffic_untaken untaken) (flow_apart differ was now sessions)
  have happened := handle_cases shuffler protobuf before moment event
  generalize before.handle shuffler protobuf moment event = outcome at done happened
  cases happened with
  | nothing untaken =>
    cases done
    exact flow_still (traffic_untaken (untaken id old was)) (flow_of_sessions was now rfl)
  | accepted =>
    cases done
    rw [List.getElem?_append_left (List.getElem?_eq_some_iff.mp was).1, was] at now
    exact flow_still rfl (by rw [Option.some.inj now])
  | @shaken reader session found pending =>
    by_cases own : reader = id
    · subst own
      rw [was] at found
      cases found
      cases done
      rw [Session.traffic, if_pos ⟨rfl, pending⟩, if_pos rfl]
      have same : new.flow = { old with pendingRead := none }.startRead.flow := by
        rw [flow_placed was now rfl, startRead_flow, startRead_flow]
        rfl
      rw [same]
      exact .shaken idle idle pending
    · cases done
      exact apart own (fun taken => own taken.1) rfl
  | @unshaken reader session found pending =>
    by_cases own : reader = id
    · subst own
      rw [was] at found
      cases found
      rw [Session.traffic, if_pos ⟨rfl, pending⟩, if_neg (by simp)]
      have same := flow_placed was now (calls_aside done).sessions
      cases done
      rw [same]
      refine .failed idle ?_ pending
      exact congrArg ([Task.close reader] ++ ·) idle
    · exact apart own (fun taken => own taken.1) (calls_aside done).sessions
  | @headerRead reader session bytes found pending =>
    by_cases own : reader = id
    · subst own
      rw [was] at found
      cases found
      exact headerRead_flow idle pending done was now
    · obtain ⟨placed, _, sessions⟩ := headerRead_sessions done
      exact apart own (fun taken => own taken.1) sessions
  | @bodyRead reader session header body found pending filled =>
    by_cases own : reader = id
    · subst own
      rw [was] at found
      cases found
      exact bodyRead_flow idle pending filled done was now
    · obtain ⟨placed, _, sessions⟩ := bodyRead_sessions done
      exact apart own (fun taken => own taken.1) sessions
  | @frameRead reader session frame found pending =>
    by_cases own : reader = id
    · subst own
      rw [was] at found
      cases found
      exact frameRead_flow idle pending done was now
    · obtain ⟨placed, _, sessions⟩ := frameRead_sessions done
      exact apart own (fun taken => own taken.1) sessions
  | @written writer session found busy =>
    cases done
    by_cases own : writer = id
    · subst own
      rw [was] at found
      cases found
      have placed := (update_own was).symm.trans now
      rw [← Option.some.inj placed, Session.traffic, if_pos ⟨rfl, busy⟩]
      exact .written idle idle busy
    · exact flow_still (traffic_untaken fun taken => own taken.1)
        (update_flow was now fun same => absurd same own)
  | @unwritten writer session found busy =>
    rw [(calls_aside done).sessions] at now
    by_cases own : writer = id
    · subst own
      rw [was] at found
      cases found
      have placed := (update_own was).symm.trans now
      rw [← Option.some.inj placed, Session.traffic, if_pos ⟨rfl, busy⟩]
      cases done
      refine .broken idle ?_ busy
      exact congrArg ([Task.close writer] ++ ·) idle
    · exact flow_still (traffic_untaken fun taken => own taken.1)
        (update_flow was now fun same => absurd same own)
  | expired =>
    rw [(calls_aside done).sessions] at now
    exact flow_still rfl (update_flow was now fun _ => rfl)
  | returned =>
    cases done
    exact flow_still rfl (flow_of_sessions was now rfl)
  | loginCompleted =>
    cases completeLogin_cases done with
    | refused => exact flow_still rfl (flow_of_sessions was now rfl)
    | accepted => exact flow_still rfl (update_flow was now fun _ => rfl)
  | cleanup =>
    obtain ⟨⟨actions, manager⟩, _, done⟩ := ExceptLoop.bind_ok.mp done
    cases done
    exact flow_still rfl (flow_of_sessions was now rfl)

end Steps

theorem traffic_of_session {gateway : GatewayProcess ρ} {id : SessionId} {session : Session}
    (found : gateway.sessions[id]? = some session) (event : Event) :
    gateway.traffic protobuf event id = session.traffic protobuf id gateway.agenda event := by
  unfold GatewayProcess.traffic
  rw [found]

theorem step_flow {before after : GatewayProcess ρ} {event : Event} {moment : Moment} {notes : List Note}
    {id : SessionId} {old new : Session}
    (done : before.step shuffler protobuf event moment = .ok (notes, after))
    (was : before.sessions[id]? = some old) (now : after.sessions[id]? = some new) :
    FlowMove shuffler protobuf before event id notes after old (before.traffic protobuf event id) new.flow := by
  rw [traffic_of_session was]
  cases agenda : before.agenda with
  | nil =>
    simp only [GatewayProcess.step, agenda] at done
    exact handle_flow agenda done was now
  | cons task rest =>
    simp only [GatewayProcess.step, agenda] at done
    by_cases kind : event = .next
    · subst kind
      rw [← agenda]
      exact perform_flow agenda done was now
    -- no event is taken while a handler runs
    · have quiet : old.traffic protobuf id (task :: rest) event = {} := by
        cases event with
        | next => exact absurd rfl kind
        | _ => cases task <;> rfl
      split at done
      · exact absurd rfl kind
      · cases done
        exact flow_still quiet (flow_of_sessions was now rfl)

/-! ## Sessions that are accepted -/

section Accepted

variable {before after : GatewayProcess ρ} {event : Event} {moment : Moment} {notes : List Note}
  {id : SessionId} {new : Session}

theorem length_update (gateway : GatewayProcess ρ) (id : SessionId) (change : Session → Session) :
    (gateway.update id change).sessions.length = gateway.sessions.length :=
  List.length_modify ..

theorem perform_length {task : Task}
    (done : before.perform protobuf moment task = .ok (notes, after)) :
    after.sessions.length = before.sessions.length := by
  cases perform_cases done with
  | nothing | oversized | finished | handed | posted | cleanedIdle | cleanedExpired => rfl
  | enqueued | closed | closing => exact length_update ..

theorem handle_length (other : ∀ transport, event ≠ .accepted transport)
    (done : before.handle shuffler protobuf moment event = .ok (notes, after)) :
    after.sessions.length = before.sessions.length := by
  have placed : ∀ {reader : SessionId} {change : Session → Session},
      after.sessions = (before.update reader change).sessions →
        after.sessions.length = before.sessions.length :=
    fun sessions => (congrArg List.length sessions).trans (length_update ..)
  have happened := handle_cases shuffler protobuf before moment event
  generalize before.handle shuffler protobuf moment event = outcome at done happened
  cases happened with
  | @accepted transport => exact absurd rfl (other transport)
  | nothing | returned =>
    cases done
    rfl
  | shaken | written =>
    cases done
    exact length_update ..
  | unshaken | unwritten | expired => exact placed (calls_aside done).sessions
  | headerRead =>
    obtain ⟨_, _, sessions⟩ := headerRead_sessions done
    exact placed sessions
  | bodyRead =>
    obtain ⟨_, _, sessions⟩ := bodyRead_sessions done
    exact placed sessions
  | frameRead =>
    obtain ⟨_, _, sessions⟩ := frameRead_sessions done
    exact placed sessions
  | loginCompleted =>
    cases completeLogin_cases done with
    | refused => rfl
    | accepted => exact length_update ..
  | cleanup =>
    obtain ⟨⟨actions, manager⟩, _, done⟩ := ExceptLoop.bind_ok.mp done
    cases done
    rfl

/-- A session that was not there starts with a read, or with the handshake. -/
theorem step_opened (done : before.step shuffler protobuf event moment = .ok (notes, after))
    (absent : before.sessions[id]? = none) (now : after.sessions[id]? = some new) :
    before.agenda = [] ∧ after.agenda = [] ∧
      ∃ read, before.traffic protobuf event id = { started := [.read read] } ∧
      (new.flow = ⟨.tcp, false, true, some .header, [], false⟩ ∨
        new.flow = ⟨.webSocket, false, false, some .handshake, [], false⟩) := by
  have outside := List.getElem?_eq_none_iff.mp absent
  obtain ⟨inside, _⟩ := List.getElem?_eq_some_iff.mp now
  have grown : after.sessions.length ≠ before.sessions.length := by omega
  cases agenda : before.agenda with
  | cons task rest =>
    simp only [GatewayProcess.step, agenda] at done
    split at done
    · exact absurd (perform_length done) grown
    · cases done
      exact absurd rfl grown
  | nil =>
    simp only [GatewayProcess.step, agenda] at done
    by_cases kind : ∃ transport, event = .accepted transport
    · obtain ⟨transport, rfl⟩ := kind
      cases done
      have bound : id < before.sessions.length + 1 := by simpa using inside
      have last : id = before.sessions.length := Nat.le_antisymm (Nat.lt_succ_iff.mp bound) outside
      subst last
      refine ⟨rfl, agenda, transport.firstRead, by simp [GatewayProcess.traffic, agenda], ?_⟩
      rw [List.getElem?_concat_length] at now
      rw [← Option.some.inj now]
      cases transport with
      | tcp => exact .inl rfl
      | webSocket => exact .inr rfl
    · exact absurd (handle_length (fun transport same => kind ⟨transport, same⟩) done) grown

end Accepted

end Doudizhu.Gateway
