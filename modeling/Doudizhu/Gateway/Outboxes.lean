import Doudizhu.Gateway.Flows
import Doudizhu.Gateway.SessionReading

/-! # Outboxes of sessions

The queue of packets of a session, with the writes that are outstanding, is an outbox: what
was passed to `send_packet` is written in that order, each packet once, and until the session
closes one write is outstanding whenever a packet waits.
-/

namespace Doudizhu.Gateway

open Game Transfer

variable {ρ : Type} {shuffler : Shuffler ρ} {protobuf : Protobuf}

/-! ## What is passed and written -/

/-- The packet that a step passes to `send_packet` of session `id`. -/
def GatewayProcess.passed (gateway : GatewayProcess ρ) (protobuf : Protobuf) (event : Event)
    (id : SessionId) : List Bytes :=
  match gateway.agenda, event with
  | .sendPacket receiver message :: _, .next =>
    if receiver = id ∧ gateway.sessions[id]? ≠ none then [GatewayProcess.packetOf protobuf message] else []
  | _, _ => []

def passedTo (protobuf : Protobuf) (id : SessionId) (trace : List (Taken ρ)) : List Bytes :=
  trace.flatMap fun taken => taken.before.passed protobuf taken.event id

/-- What was done to the queue of session `id`, and the writes that its functions started. -/
def writesOf (protobuf : Protobuf) (id : SessionId) (trace : List (Taken ρ)) : List (Action Bytes) :=
  trace.flatMap fun taken => (taken.before.traffic protobuf taken.event id).write

/-- The outbox of session `id`: its queue, the writes outstanding, and those that have
    completed. -/
def outbox (protobuf : Protobuf) (id : SessionId) (trace : List (Taken ρ)) : Outbox Bytes :=
  (writesOf protobuf id trace).foldl Outbox.act {}

def fits (packet : Bytes) : Bool := packet.length ≤ maxPacketSize

theorem packetOf_length (message : ServerMessage) : (GatewayProcess.packetOf protobuf message).length =
    PacketCodec.headerSize + (protobuf.serialize message).length := by
  simp [GatewayProcess.packetOf, PacketCodec.headerSize]

/-- What is pushed is what is passed, unless it is too large. -/
theorem traffic_pushed {gateway : GatewayProcess ρ} {id : SessionId} {session : Session}
    (found : gateway.sessions[id]? = some session) (event : Event) :
    (gateway.traffic protobuf event id).write.flatMap Action.pushed =
      (gateway.passed protobuf event id).filter fits := by
  rw [Traffic.write_pushed, traffic_of_session found]
  unfold GatewayProcess.passed
  cases agenda : gateway.agenda with
  | nil =>
    cases event with
    | written writer success =>
      simp only [Session.traffic]
      split
      · cases success <;> rfl
      · rfl
    | bodyRead reader body =>
      simp only [Session.traffic]
      split
      · split <;> rfl
      · rfl
    | handshaken | headerRead | frameRead =>
      simp only [Session.traffic]
      split <;> rfl
    | _ => rfl
  | cons task rest =>
    cases event with
    | next =>
      cases task with
      | sendPacket receiver message =>
        simp only [Session.traffic, ← @packetOf_length protobuf message]
        by_cases own : receiver = id
        · by_cases small : (GatewayProcess.packetOf protobuf message).length ≤ maxPacketSize <;>
            simp [own, small, found, Action.pushed, fits]
        · simp [own]
      | _ => rfl
    | _ => cases task <;> rfl

/-- A packet that is too large closes the session. -/
theorem passed_large {before after : GatewayProcess ρ} {event : Event} {moment : Moment}
    {notes : List Note} {id : SessionId} {packet : Bytes}
    (done : before.step shuffler protobuf event moment = .ok (notes, after))
    (passed : packet ∈ before.passed protobuf event id) (large : fits packet = false) :
    .close id ∈ after.agenda := by
  unfold GatewayProcess.passed at passed
  split at passed
  · next receiver message rest agenda =>
    split at passed
    · next own =>
      rw [List.mem_singleton] at passed
      subst passed
      have oversized : PacketCodec.headerSize + (protobuf.serialize message).length > maxPacketSize := by
        rw [← packetOf_length]
        simpa [fits] using large
      simp only [GatewayProcess.step, agenda, GatewayProcess.perform, GatewayProcess.sendPacket,
        if_pos oversized] at done
      cases done
      simp [GatewayProcess.push, own.1]
    · cases passed
  · cases passed

/-! ## Closing -/

/-- The session is closed, or will be before the running handler ends. -/
def GatewayProcess.Closing (gateway : GatewayProcess ρ) (id : SessionId) : Prop :=
  (∃ session, gateway.sessions[id]? = some session ∧ session.closed) ∨ .close id ∈ gateway.agenda

theorem head_or_tail {agenda : List Task} {task : Task} (member : task ∈ agenda) :
    agenda.head? = some task ∨ task ∈ agenda.tail := by
  cases agenda with
  | nil => cases member
  | cons head rest =>
    obtain rfl | member := List.mem_cons.mp member
    · exact .inl rfl
    · exact .inr member

section Closing

variable {before after : GatewayProcess ρ} {event : Event} {notes : List Note} {id : SessionId}

/-- A call behind the one that is made stays. -/
theorem agenda_behind {task : Task} (move : GatewayMove before event notes after)
    (member : task ∈ before.agenda.tail) : task ∈ after.agenda := by
  have kept : ∀ {tasks : List Task}, after.agenda = tasks ++ before.agenda.tail → task ∈ after.agenda := by
    intro tasks agenda
    rw [agenda]
    exact List.mem_append_right _ member
  cases move with
  | stalled => exact List.mem_of_mem_tail member
  | other tasks keeps agenda => exact kept agenda
  | opened idle =>
    rw [idle] at member
    cases member
  | handed handing keeps receiver agenda => exact kept agenda
  | acted idle _ _ _ _ _ _ agenda | loggedIn idle _ _ _ _ _ _ agenda => exact kept agenda
  | closed kind head present opened stale manager notifier faces agenda =>
    rw [agenda]
    exact member
  | closing tasks kind head present opened current manager notifier faces agenda =>
    rw [agenda]
    exact List.mem_append_right _ (List.mem_cons_of_mem _ member)
  | finished kind head manager notifier faces agenda =>
    rw [agenda]
    exact member
  | cleaned tasks shrinks reader unfinished unclosed notifier faces agenda => exact kept agenda

theorem stays_closed {old : Face} (move : GatewayMove before event notes after)
    (present : before.face id = some old) (closed : old.closed) :
    ∃ new, after.face id = some new ∧ new.closed := by
  have unmoved : after.face id = before.face id → ∃ new, after.face id = some new ∧ new.closed :=
    fun same => ⟨old, same.trans present, closed⟩
  have shut : ∀ {closer : SessionId} {own : Face}, after.face id =
      (if id = closer then some { own with closed := true } else before.face id) →
      ∃ new, after.face id = some new ∧ new.closed := by
    intro closer own faces
    split at faces
    · exact ⟨_, faces, rfl⟩
    · exact unmoved faces
  cases move with
  | stalled => exact ⟨old, present, closed⟩
  | other tasks keeps => exact unmoved (keeps.face id)
  | handed handing keeps => exact unmoved (keeps.face id)
  | opened idle reader manager notifier faces =>
    obtain same | ⟨absent, _⟩ := faces id
    · exact unmoved same
    · rw [present] at absent
      cases absent
  | acted _ _ _ _ _ _ faces | finished _ _ _ _ faces | cleaned _ _ _ _ _ _ faces =>
    exact unmoved (faces id)
  | loggedIn idle kind came success manager notifier faces =>
    have face := faces id
    split at face
    · rw [present] at face
      exact ⟨_, face, closed⟩
    · exact unmoved face
  | closed _ _ _ _ _ _ _ faces => exact shut (faces id)
  | closing _ _ _ _ _ _ _ _ faces => exact shut (faces id)

/-- The session whose `close` is called next is closed then, or the call is still to be made. -/
theorem close_called {old : Face} (move : GatewayMove before event notes after)
    (present : before.face id = some old) (head : before.agenda.head? = some (.close id)) :
    (∃ new, after.face id = some new ∧ new.closed) ∨ .close id ∈ after.agenda := by
  have busy : before.agenda ≠ [] := by
    intro idle
    simp [idle] at head
  cases move with
  | stalled => exact .inr (List.mem_of_mem_head? head)
  | other tasks keeps agenda plain unfinished shut =>
    exact .inl ⟨old, (keeps.face id).trans present, shut id old head present⟩
  | opened idle | acted idle | loggedIn idle => exact absurd idle busy
  | handed handing =>
    obtain notified | ⟨read, _⟩ := handing
    · cases notified.symm.trans head
    · cases read.symm.trans head
  | closed kind own found opened stale manager notifier faces
  | closing tasks kind own found opened current manager notifier faces =>
    cases own.symm.trans head
    exact .inl ⟨_, (faces id).trans (if_pos rfl), rfl⟩
  | finished kind own => cases own.symm.trans head
  | cleaned tasks shrinks reader unfinished unclosed => exact absurd head (unclosed id)

theorem closing_move {old new : Session} (was : before.sessions[id]? = some old)
    (now : after.sessions[id]? = some new) (closing : before.Closing id)
    (move : GatewayMove before event notes after) : after.Closing id := by
  have present := face_of_session was
  have already : (∃ face, after.face id = some face ∧ face.closed) → after.Closing id := by
    rintro ⟨face, found, closed⟩
    rw [face_of_session now] at found
    cases found
    exact .inl ⟨new, now, closed⟩
  obtain ⟨session, found, closed⟩ | member := closing
  · rw [was] at found
    cases found
    exact already (stays_closed move present closed)
  · obtain head | member := head_or_tail member
    · exact (close_called move present head).elim already .inr
    · exact .inr (agenda_behind move member)

end Closing

/-! ## The outbox of a session -/

/-- The outbox has the queue, and a write outstanding if `writing` says so. -/
structure Matches (box : Outbox Bytes) (flow : Flow) : Prop where
  sound : box.Sound
  queue : box.queue = flow.writeQueue
  writing : box.underway ≠ [] ↔ flow.writing

theorem Matches.same {box : Outbox Bytes} {old new : Flow} (matched : Matches box old)
    (queue : new.writeQueue = old.writeQueue) (writing : new.writing = old.writing) : Matches box new :=
  ⟨matched.sound, queue ▸ matched.queue, writing ▸ matched.writing⟩

section Moves

variable {before after : GatewayProcess ρ} {event : Event} {notes : List Note} {id : SessionId}
  {box : Outbox Bytes} {old : Session} {traffic : Traffic} {flow : Flow}

theorem written_flow (session : Session) :
    session.written.flow.writeQueue = session.writeQueue.tail ∧
      (session.written.flow.writing ↔ session.writeQueue.tail ≠ []) := by
  rw [Session.written_eq]
  split
  · next more => exact ⟨rfl, by simpa [Session.flow] using more⟩
  · next last =>
    rw [startRead_flow]
    have empty : session.writeQueue.tail = [] := not_not.mp last
    split <;> simp [Session.flow, empty]

/-- The writes that the functions of a session report are those that an outbox asks for. -/
theorem turn_move (matched : Matches box old.flow)
    (move : FlowMove shuffler protobuf before event id notes after old traffic flow) :
    Outbox.Turn box traffic.write := by
  have queue : box.queue = old.writeQueue := matched.queue
  cases move with
  | still | oversized | closed | failed | announced | handled => exact .none
  | shaken =>
    rw [readNext_writes]
    exact .none
  | @enqueued message =>
    rw [pushPacket_writes, ← queue]
    exact .pushed (GatewayProcess.packetOf protobuf message)
  | written idle quiet writing =>
    rw [finishWrite_writes, ← queue]
    exact .ended (matched.writing.mpr writing)
  | broken idle closes writing => exact .failed (matched.writing.mpr writing)

/-- What the traffic of a step does to the outbox, its step does to the session. -/
theorem matches_move (matched : Matches box old.flow)
    (move : FlowMove shuffler protobuf before event id notes after old traffic flow) :
    Matches (traffic.write.foldl Outbox.act box) flow := by
  have sound := matched.sound.turn (turn_move matched move)
  have queue : box.queue = old.writeQueue := matched.queue
  cases move with
  | still | oversized | closed | failed | announced | handled => exact matched.same rfl rfl
  | shaken =>
    rw [readNext_writes, startRead_flow]
    split <;> exact matched.same rfl rfl
  | @enqueued message =>
    rw [pushPacket_writes, ← queue] at sound ⊢
    rw [enqueue_flow]
    refine ⟨sound, ?_, ?_⟩
    · rw [Outbox.pushing_acts, queue]
    · refine (Outbox.pushing_underway _).trans ?_
      rw [matched.writing, queue]
      simp [Session.flow]
  | written idle quiet writing =>
    rw [finishWrite_writes, ← queue] at sound ⊢
    obtain ⟨rest, last⟩ := written_flow old
    refine ⟨sound, ?_, ?_⟩
    · rw [Outbox.ending_acts, rest, queue]
    · refine (Outbox.ending_underway matched.sound).trans ?_
      rw [queue]
      exact last.symm
  -- the packet stays in the queue, and the session is closed
  | broken => exact ⟨sound, matched.queue, by simp [Traffic.write, Outbox.act, matched.sound.ended]⟩

/-- The session is closed when a write has failed. -/
theorem failed_move (move : FlowMove shuffler protobuf before event id notes after old traffic flow)
    (fails : traffic.write = [.failed]) : .close id ∈ after.agenda := by
  cases move with
  | broken idle closes => simp [closes]
  | still | oversized | closed | failed | announced | handled | enqueued | written => cases fails
  | shaken =>
    rw [readNext_writes] at fails
    cases fails

end Moves

/-! ## Queues -/

/-- What waits to be written are the packets of messages, none of them too large. -/
def GatewayProcess.Queues (protobuf : Protobuf) (gateway : GatewayProcess ρ) : Prop :=
  ∀ (id : SessionId) (session : Session), gateway.sessions[id]? = some session →
    ∀ packet ∈ session.writeQueue, fits packet ∧ ∃ message, packet = GatewayProcess.packetOf protobuf message

theorem queues_step {before after : GatewayProcess ρ} {event : Event} {moment : Moment}
    {notes : List Note} (queues : before.Queues protobuf)
    (done : before.step shuffler protobuf event moment = .ok (notes, after)) : after.Queues protobuf := by
  intro id new now packet member
  change packet ∈ new.flow.writeQueue at member
  cases was : before.sessions[id]? with
  | none =>
    obtain ⟨_, _, _, _, tcp | webSocket⟩ := step_opened done was now
    · rw [tcp] at member
      cases member
    · rw [webSocket] at member
      cases member
  | some old =>
    have kept := queues id old was packet
    have pushed := @traffic_pushed _ protobuf _ _ _ was event
    have move := step_flow done was now
    generalize before.traffic protobuf event id = traffic at move pushed
    generalize new.flow = flow at move member
    cases move with
    | still | oversized | closed | broken | failed | announced | handled => exact kept member
    | shaken =>
      rw [startRead_flow] at member
      split at member <;> exact kept member
    | written =>
      rw [(written_flow old).1] at member
      exact kept (List.mem_of_mem_tail member)
    | @enqueued message =>
      rw [enqueue_flow] at member
      obtain waiting | new := List.mem_append.mp member
      · exact kept waiting
      · rw [List.mem_singleton] at new
        subst new
        -- only what fits is pushed
        have passed : GatewayProcess.packetOf protobuf message ∈
            (before.passed protobuf event id).filter fits := by
          rw [← pushed, Traffic.write_pushed]
          exact List.mem_singleton_self _
        exact ⟨(List.mem_filter.mp passed).2, message, rfl⟩

/-! ## Runs -/

structure OutboxInv (protobuf : Protobuf) (id : SessionId) (trace : List (Taken ρ))
    (gateway : GatewayProcess ρ) : Prop where
  absent : gateway.sessions[id]? = none →
    writesOf protobuf id trace = [] ∧ passedTo protobuf id trace = []
  matched : ∀ session, gateway.sessions[id]? = some session →
    Matches (outbox protobuf id trace) session.flow
  fifo : (outbox protobuf id trace).fifo = (writesOf protobuf id trace).foldl Fifo.act {}
  pushed : (writesOf protobuf id trace).flatMap Action.pushed = (passedTo protobuf id trace).filter fits
  whole : ((outbox protobuf id trace).Intact ∧ ∀ packet ∈ passedTo protobuf id trace, fits packet) ∨
    gateway.Closing id

section Runs

variable {trace : List (Taken ρ)} {taken : Taken ρ} {id : SessionId}

theorem writesOf_snoc : writesOf protobuf id (trace ++ [taken]) =
    writesOf protobuf id trace ++ (taken.before.traffic protobuf taken.event id).write := by
  rw [writesOf, List.flatMap_append, List.flatMap_singleton, ← writesOf]

theorem outbox_snoc : outbox protobuf id (trace ++ [taken]) =
    (taken.before.traffic protobuf taken.event id).write.foldl Outbox.act
      (outbox protobuf id trace) := by
  rw [outbox, writesOf_snoc, List.foldl_append, ← outbox]

theorem passedTo_snoc : passedTo protobuf id (trace ++ [taken]) =
    passedTo protobuf id trace ++ taken.before.passed protobuf taken.event id := by
  rw [passedTo, List.flatMap_append, List.flatMap_singleton, ← passedTo]

/-- Nothing is passed to a session that is not there. -/
theorem traffic_absent {gateway : GatewayProcess ρ} (absent : gateway.sessions[id]? = none)
    (event : Event) :
    (gateway.traffic protobuf event id).write = [] ∧ gateway.passed protobuf event id = [] := by
  constructor
  · unfold GatewayProcess.traffic
    rw [absent]
    dsimp only
    split
    · split <;> rfl
    · rfl
  · unfold GatewayProcess.passed
    split
    · rw [if_neg fun own => own.2 absent]
    · rfl

theorem outboxInv_step (inv : OutboxInv protobuf id trace taken.before)
    (done : taken.before.step shuffler protobuf taken.event taken.moment = .ok (taken.notes, taken.after))
    (move : GatewayMove taken.before taken.event taken.notes taken.after) :
    OutboxInv protobuf id (trace ++ [taken]) taken.after := by
  cases was : taken.before.sessions[id]? with
  | none =>
    obtain ⟨write, passed⟩ := traffic_absent was taken.event
    obtain ⟨unwritten, nothing⟩ := inv.absent was
    have none : writesOf protobuf id (trace ++ [taken]) = [] := by
      rw [writesOf_snoc, unwritten, write]
      rfl
    have given : passedTo protobuf id (trace ++ [taken]) = [] := by
      rw [passedTo_snoc, passed, nothing]
      rfl
    have empty : outbox protobuf id (trace ++ [taken]) = {} := by
      rw [outbox, none]
      rfl
    refine ⟨fun _ => ⟨none, given⟩, ?_, by rw [empty, none]; rfl, by rw [none, given]; rfl, .inl ⟨?_, ?_⟩⟩
    · intro new now
      rw [empty]
      obtain ⟨_, _, _, _, tcp | webSocket⟩ := step_opened done was now
      · rw [tcp]
        exact ⟨Outbox.sound_empty, rfl, by simp⟩
      · rw [webSocket]
        exact ⟨Outbox.sound_empty, rfl, by simp⟩
    · rw [empty]
      rfl
    · rw [given]
      nofun
  | some old =>
    obtain ⟨new, now⟩ := session_persists move was
    have flow := step_flow done was now
    have turn := turn_move (inv.matched old was) flow
    have matched := matches_move (inv.matched old was) flow
    have fifo := turn.fifo (inv.matched old was).sound
    rw [← outbox_snoc] at matched fifo
    refine ⟨fun absent => ?_, ?_, ?_, ?_, ?_⟩
    · rw [now] at absent
      cases absent
    · intro session found
      rw [now] at found
      cases found
      exact matched
    · rw [fifo, writesOf_snoc, List.foldl_append, inv.fifo]
    · rw [writesOf_snoc, passedTo_snoc, List.flatMap_append, List.filter_append, inv.pushed,
        traffic_pushed was]
    · obtain ⟨intact, small⟩ | closing := inv.whole
      · obtain intact | fails := intact.turn turn
        · rw [← outbox_snoc] at intact
          by_cases fit : ∀ packet ∈ taken.before.passed protobuf taken.event id, fits packet
          · refine .inl ⟨intact, ?_⟩
            intro packet member
            rw [passedTo_snoc] at member
            exact (List.mem_append.mp member).elim (small packet) (fit packet)
          · push Not at fit
            obtain ⟨packet, passed, large⟩ := fit
            exact .inr (.inr (passed_large done passed (Bool.eq_false_iff.mpr large)))
        · exact .inr (.inr (failed_move flow fails))
      · exact .inr (closing_move was now closing move)

theorem outbox_run {random : ρ} {finish : GatewayProcess ρ}
    (run : Transition.Steps (GatewayStep shuffler protobuf) { manager := { random } } trace finish)
    (id : SessionId) : OutboxInv protobuf id trace finish := by
  refine (run.history (fun trace (gateway : GatewayProcess ρ) => ManagerInv gateway.manager ∧
    OutboxInv protobuf id trace gateway) ⟨managerInv_empty random, ?_⟩ ?_).2
  · refine ⟨fun _ => ⟨rfl, rfl⟩, ?_, rfl, rfl, .inl ⟨rfl, nofun⟩⟩
    simp
  · intro trace before taken after _ ⟨sound, inv⟩ step
    obtain ⟨kept, move⟩ := step.moves sound
    obtain ⟨rfl, rfl, done⟩ := step
    exact ⟨kept, outboxInv_step inv done move⟩

end Runs

/-- Whatever comes in, and in whatever order: of every session at most one write is
    outstanding, that of the front of its queue; and the packets that were written, and then
    those in the queue, are the packets that were passed to `send_packet`, in their order.
    Too large ones are left out, which close the session; until it closes there are none, and
    a write is outstanding exactly if the queue is not empty. -/
theorem packets_in_order (shuffler : Shuffler ρ) (protobuf : Protobuf) (random : ρ)
    (inputs : List (Event × Moment)) :
    ∃ trace finish, ({ manager := { random } } : GatewayProcess ρ).run shuffler protobuf inputs =
        .ok (trace, finish) ∧
      ∀ id session, finish.sessions[id]? = some session →
        ((outbox protobuf id trace).underway.length ≤ 1 ∧
          ((outbox protobuf id trace).underway ≠ [] ↔ session.writing) ∧
          ∀ packet ∈ (outbox protobuf id trace).underway, session.writeQueue.head? = some packet) ∧
        (outbox protobuf id trace).delivered ++ session.writeQueue =
          (passedTo protobuf id trace).filter fits ∧
        (¬ finish.Closing id →
          ((outbox protobuf id trace).underway ≠ [] ↔ session.writeQueue ≠ []) ∧
          (outbox protobuf id trace).delivered ++ session.writeQueue = passedTo protobuf id trace) := by
  obtain ⟨trace, finish, ran, run⟩ := gateway_runs shuffler protobuf random inputs
  refine ⟨trace, finish, ran, ?_⟩
  intro id session found
  have inv := outbox_run run id
  have matched := inv.matched session found
  have queue : (outbox protobuf id trace).queue = session.writeQueue := matched.queue
  have order : (outbox protobuf id trace).delivered ++ session.writeQueue =
      (passedTo protobuf id trace).filter fits := by
    have kept := Fifo.run_order ({} : Fifo Bytes) (writesOf protobuf id trace)
    rw [← inv.fifo, inv.pushed, Outbox.fifo, queue] at kept
    exact kept
  refine ⟨⟨matched.sound.single, matched.writing, ?_⟩, order, ?_⟩
  · intro packet member
    rw [← queue]
    exact matched.sound.front member
  · intro stays
    obtain ⟨intact, small⟩ := inv.whole.resolve_right stays
    rw [order, ← queue]
    exact ⟨intact.underway_iff, List.filter_eq_self.mpr small⟩

end Doudizhu.Gateway
