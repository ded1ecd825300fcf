import Doudizhu.Gateway.Agendas
import Doudizhu.Gateway.Handshakes

/-! # Progress

A session never stalls: between handlers it reads, or writes, or waits for the backend,
unless it has closed.  The next read starts when the queue has been written, so this rests
on the answer that every packet gets.
-/

namespace Doudizhu.Gateway

open Game Transfer

variable {ρ : Type} {shuffler : Shuffler ρ} {protobuf : Protobuf}

/-! ## Reads and packets -/

def readsStarted (protobuf : Protobuf) (id : SessionId) (trace : List (Taken ρ)) : Nat :=
  (trace.map fun taken => (taken.before.traffic protobuf taken.event id).readsStarted).sum

def readsEnded (protobuf : Protobuf) (id : SessionId) (trace : List (Taken ρ)) : Nat :=
  (trace.map fun taken => (taken.before.traffic protobuf taken.event id).readsEnded).sum

/-- How many reads of the session are outstanding, as the session has it. -/
def Flow.outstanding (flow : Flow) : Nat := flow.pendingRead.toList.length

def GatewayProcess.outstanding (gateway : GatewayProcess ρ) (id : SessionId) : Nat :=
  match gateway.sessions[id]? with
  | none => 0
  | some session => session.flow.outstanding

def GatewayProcess.Reading (gateway : GatewayProcess ρ) (id : SessionId) : Prop :=
  ∃ session, gateway.sessions[id]? = some session ∧ session.readInProgress ∧ session.pendingRead ≠ none

def GatewayProcess.Queued (gateway : GatewayProcess ρ) (id : SessionId) : Prop :=
  ∃ session, gateway.sessions[id]? = some session ∧ session.writeQueue ≠ []

/-- The event makes the session call `handle_packet`. -/
def GatewayProcess.HandlesPacket (gateway : GatewayProcess ρ) (event : Event) (id : SessionId) : Prop :=
  gateway.agenda = [] ∧ ∃ session, gateway.sessions[id]? = some session ∧
    match session.pendingRead, event with
    | some .header, .headerRead reader (some bytes) => reader = id ∧
      ∃ header, PacketCodec.decodeHeader bytes = some header ∧ header.packetSize = PacketCodec.headerSize
    | some (.body header), .bodyRead reader (some body) => reader = id ∧
      body.length + PacketCodec.headerSize = header.packetSize
    | some .frame, .frameRead reader (some _) => reader = id
    | _, _ => False

section Packets

variable {before after : GatewayProcess ρ} {moment : Moment} {event : Event} {notes : List Note}
  {id : SessionId} {old : Session}

theorem handles_handled (done : before.step shuffler protobuf event moment = .ok (notes, after))
    (was : before.sessions[id]? = some old) (handles : before.HandlesPacket event id) :
    Handled shuffler before id old notes after := by
  obtain ⟨idle, session, found, reads⟩ := handles
  rw [was] at found
  cases found
  simp only [GatewayProcess.step, idle] at done
  have starts : Starts before (before.update id fun _ =>
      { old with pendingRead := none, readInProgress := false }) := ⟨rfl, rfl, rfl, idle⟩
  split at reads
  · next reader bytes pending =>
    obtain ⟨rfl, header, decoded, none⟩ := reads
    simp only [GatewayProcess.handle, was, pending, ne_eq, not_true_eq_false, if_false,
      GatewayProcess.headerRead, decoded, none, if_true] at done
    have reading : Starts before (before.update reader fun _ => { old with pendingRead := Option.none }) :=
      ⟨rfl, rfl, rfl, idle⟩
    exact (handleTcpPacket_flow (reading.update reader _) rfl done).1
  · next header reader body pending =>
    obtain ⟨rfl, filled⟩ := reads
    simp only [GatewayProcess.handle, was, pending, Option.all_some, filled, beq_self_eq_true, if_true,
      GatewayProcess.bodyRead] at done
    exact (handleTcpPacket_flow starts rfl done).1
  · next reader frame pending =>
    subst reads
    simp only [GatewayProcess.handle, was, pending, ne_eq, not_true_eq_false, if_false,
      GatewayProcess.frameRead] at done
    exact (handleWebSocketPacket_flow starts rfl rfl done).1
  · exact reads.elim

end Packets

/-! ## What keeps a session going -/

structure Lively (gateway : GatewayProcess ρ) (id : SessionId) (flow : Flow) : Prop where
  /-- Nothing is read or written before the handshake has ended. -/
  quiet : flow.pendingRead = some .handshake → flow.readInProgress = false ∧ flow.writing = false
  reads : flow.pendingRead ≠ none → flow.pendingRead ≠ some .handshake → flow.readInProgress
  /-- A read that has failed is not started again. -/
  failed : flow.readInProgress → flow.pendingRead = none → gateway.Closing id
  queued : flow.writeQueue ≠ [] → flow.writing ∨ gateway.Closing id
  alive : gateway.Closing id ∨ flow.pendingRead ≠ none ∨ flow.writing ∨ gateway.Owes id ∨
    gateway.LoginPending id

section Moves

variable {trace : List (Taken ρ)} {before after : GatewayProcess ρ} {moment : Moment} {event : Event}
  {notes : List Note} {id : SessionId} {old new : Session}

/-- A session that has not failed to read does so, or has no read outstanding. -/
theorem Lively.unread (lively : Lively before id old.flow) (free : old.readInProgress = false)
    (shaken : old.pendingRead ≠ some .handshake) : old.pendingRead = none := by
  by_contra pending
  have reading := lively.reads pending shaken
  rw [Session.flow, free] at reading
  cases reading

/-- What keeps it going does so after the step, if the flow is the same. -/
theorem Lively.still (lively : Lively before id old.flow)
    (closes : before.Closing id → after.Closing id)
    (owes : before.Owes id → after.Closing id ∨ after.Owes id)
    (logs : before.LoginPending id → after.LoginPending id ∨ after.Owes id) :
    Lively after id old.flow where
  quiet := lively.quiet
  reads := lively.reads
  failed reading none := closes (lively.failed reading none)
  queued waiting := (lively.queued waiting).imp_right closes
  alive := by
    obtain closing | pending | writing | owed | login := lively.alive
    · exact .inl (closes closing)
    · exact .inr (.inl pending)
    · exact .inr (.inr (.inl writing))
    · exact (owes owed).imp_right fun owed => .inr (.inr (.inl owed))
    · exact .inr (.inr (.inr ((logs login).symm)))

/-- A session that closes needs nothing else. -/
theorem Lively.closing {flow : Flow} (closing : after.Closing id)
    (quiet : flow.pendingRead = some .handshake → flow.readInProgress = false ∧ flow.writing = false)
    (reads : flow.pendingRead ≠ none → flow.pendingRead ≠ some .handshake → flow.readInProgress) :
    Lively after id flow :=
  ⟨quiet, reads, fun _ _ => closing, fun _ => .inr closing, .inl closing⟩

/-- A write has ended: the next one goes on, or a read does, or starts. -/
theorem lively_written (lively : Lively before id old.flow) (closes : before.Closing id → after.Closing id)
    (writing : old.writing) :
    Lively after id old.written.flow ∧
      old.written.flow.outstanding = old.flow.outstanding +
        Traffic.readsStarted { change := some .ended, started := old.finishWrite.1 } := by
  have shaken : old.pendingRead ≠ some .handshake := by
    intro pending
    have silent : old.writing = false := (lively.quiet pending).2
    rw [writing] at silent
    cases silent
  have failed : old.readInProgress → old.pendingRead = none → after.Closing id :=
    fun reading none => closes (lively.failed reading none)
  rw [Session.written_eq, finishWrite_reads]
  split
  · next more =>
    refine ⟨⟨fun pending => absurd pending shaken, lively.reads, failed, fun _ => .inl rfl,
      .inr (.inr (.inl rfl))⟩, ?_⟩
    simp [more, Flow.outstanding, Session.flow]
  · next last =>
    have empty : old.writeQueue.tail = [] := not_not.mp last
    rw [startRead_flow]
    by_cases reading : old.readInProgress
    · -- the read goes on, or the session closes because it has failed
      rw [if_pos reading]
      refine ⟨⟨fun pending => absurd pending shaken, lively.reads, failed, fun waiting => absurd empty waiting,
        ?_⟩, ?_⟩
      · by_cases none : old.pendingRead = none
        · exact .inl (failed reading none)
        · exact .inr (.inl none)
      · simp [reading, Flow.outstanding, Session.flow]
    · have free : old.readInProgress = false := Bool.eq_false_iff.mpr reading
      have none := lively.unread free shaken
      rw [if_neg reading]
      refine ⟨⟨?_, fun _ _ => rfl, fun _ pending => absurd pending (by simp),
        fun waiting => absurd empty waiting, .inr (.inl (by simp))⟩, ?_⟩
      · dsimp only
        split <;> simp
      · simp [empty, free, Flow.outstanding, Session.flow, none]

/-- What one step does to a session keeps it going, and accounts for the reads. -/
theorem lively_move {traffic : Traffic} {flow : Flow} (lively : Lively before id old.flow)
    (closes : before.Closing id → after.Closing id)
    (owes : before.Owes id →
      (after.Closing id ∨ after.Owes id) ∨ ∃ packet, traffic.change = some (.push packet))
    (logs : before.LoginPending id → after.LoginPending id ∨ after.Owes id)
    (answers : Handled shuffler before id old notes after → after.Owes id ∨ after.LoginPending id)
    (unnamed : old.pendingRead = some .handshake → ∀ message, .sendPacket id message ∉ before.agenda)
    (ends : flow.closed → after.Closing id)
    (move : FlowMove shuffler protobuf before event id notes after old traffic flow) :
    Lively after id flow ∧
      traffic.readsEnded + flow.outstanding = old.flow.outstanding + traffic.readsStarted := by
  have waits : old.flow.writeQueue ≠ [] → old.flow.writing ∨ after.Closing id :=
    fun waiting => (lively.queued waiting).imp_right closes
  cases move with
  | still =>
    refine ⟨lively.still closes ?_ logs, Nat.add_comm ..⟩
    intro owed
    obtain kept | ⟨packet, sent⟩ := owes owed
    · exact kept
    · cases sent
  | @enqueued message rest kind agenda =>
    have shaken : old.pendingRead ≠ some .handshake := by
      intro pending
      exact unnamed pending message (by rw [agenda]; exact List.mem_cons_self)
    -- the packet is written at once, or the one before it is being written
    have writes : (old.enqueue (GatewayProcess.packetOf protobuf message)).flow.writing ∨
        after.Closing id := by
      by_cases empty : old.writeQueue = []
      · exact .inl (by simp [enqueue_flow, empty])
      · refine (waits empty).imp_left ?_
        intro writing
        rw [enqueue_flow]
        exact Bool.or_eq_true_iff.mpr (.inl writing)
    rw [pushPacket_reads]
    rw [enqueue_flow] at writes ⊢
    refine ⟨⟨fun pending => absurd pending shaken, lively.reads, ?_, fun _ => writes, ?_⟩, Nat.add_comm ..⟩
    · exact fun reading none => closes (lively.failed reading none)
    · exact writes.symm.imp_right fun writing => .inr (.inl writing)
  | oversized kind agenda =>
    have closing : after.Closing id := .inr (by rw [agenda]; exact List.mem_cons_self)
    exact ⟨.closing closing lively.quiet lively.reads, Nat.add_comm ..⟩
  | closed => exact ⟨.closing (ends rfl) lively.quiet lively.reads, Nat.add_comm ..⟩
  | written idle quiet writing =>
    obtain ⟨kept, counted⟩ := lively_written lively closes writing
    exact ⟨kept, (Nat.zero_add _).trans counted⟩
  | broken idle agenda writing =>
    have closing : after.Closing id := .inr (by rw [agenda]; exact List.mem_cons_self)
    refine ⟨.closing closing ?_ lively.reads, Nat.add_comm ..⟩
    exact fun pending => ⟨(lively.quiet pending).1, rfl⟩
  | shaken idle quiet pending =>
    have free : old.readInProgress = false := (lively.quiet pending).1
    have reading : ¬ { old with pendingRead := none }.readInProgress := by simp [free]
    rw [startRead_flow, if_neg reading]
    refine ⟨⟨?_, fun _ _ => rfl, fun _ none => absurd none (by simp), waits, .inr (.inl (by simp))⟩, ?_⟩
    · dsimp only
      split <;> simp
    · rw [readNext_reads]
      simp [free, Session.refreshHeartbeat, Flow.outstanding, Session.flow, pending]
  | failed idle agenda pending =>
    have closing : after.Closing id := .inr (by rw [agenda]; exact List.mem_cons_self)
    exact ⟨.closing closing (by simp) (fun some => absurd rfl some),
      by simp [Flow.outstanding, Session.flow, pending]⟩
  | announced idle quiet pending =>
    have reading : old.flow.readInProgress := lively.reads (by simp [Session.flow, pending])
      (by simp [Session.flow, pending])
    exact ⟨⟨by simp, fun _ _ => reading, by simp, waits, .inr (.inl (by simp))⟩,
      by simp [Flow.outstanding, Session.flow, pending]⟩
  | handled idle pending shaken handled =>
    exact ⟨⟨by simp, fun some => absurd rfl some, by simp, waits, .inr (.inr (.inr (answers handled)))⟩,
      by simp [Flow.outstanding, Session.flow, pending]⟩

/-- A packet that is sent waits. -/
theorem sent_move {traffic : Traffic} {flow : Flow} {packet : Bytes}
    (sent : traffic.change = some (.push packet))
    (move : FlowMove shuffler protobuf before event id notes after old traffic flow) :
    flow.writeQueue ≠ [] := by
  cases move with
  | enqueued =>
    rw [enqueue_flow]
    exact List.append_ne_nil_of_right_ne_nil _ nofun
  | _ => cases sent

/-- When the last packet that waits has been written, the session reads. -/
theorem queued_move {traffic : Traffic} {flow : Flow} (lively : Lively before id old.flow)
    (closes : before.Closing id → after.Closing id) (waiting : old.writeQueue ≠ [])
    (move : FlowMove shuffler protobuf before event id notes after old traffic flow) :
    flow.writeQueue ≠ [] ∨ after.Closing id ∨ (flow.readInProgress ∧ flow.pendingRead ≠ none) := by
  cases move with
  | still | oversized | closed | broken | failed | announced | handled => exact .inl waiting
  | enqueued =>
    rw [enqueue_flow]
    exact .inl (List.append_ne_nil_of_right_ne_nil _ nofun)
  | shaken =>
    rw [startRead_flow]
    split <;> exact .inl waiting
  | written =>
    rw [Session.written_eq]
    split
    · next more => exact .inl more
    · right
      rw [startRead_flow]
      split
      · next reading =>
        by_cases none : old.pendingRead = none
        · exact .inl (closes (lively.failed reading none))
        · exact .inr ⟨reading, none⟩
      · exact .inr ⟨rfl, by simp⟩

end Moves

/-! ## Runs -/

structure ProgressInv (protobuf : Protobuf) (trace : List (Taken ρ)) (gateway : GatewayProcess ρ) : Prop where
  sound : ManagerInv gateway.manager
  tokens : TokenInv trace gateway
  closing : ClosingInv gateway
  entries : EntryInv gateway
  shakes : HandshakeInv gateway
  lively : ∀ id session, gateway.sessions[id]? = some session → Lively gateway id session.flow
  counted : ∀ id, readsStarted protobuf id trace = readsEnded protobuf id trace + gateway.outstanding id

section Runs

variable {trace : List (Taken ρ)} {taken : Taken ρ} {id : SessionId}

theorem readsStarted_snoc : readsStarted protobuf id (trace ++ [taken]) =
    readsStarted protobuf id trace + (taken.before.traffic protobuf taken.event id).readsStarted := by
  simp [readsStarted]

theorem readsEnded_snoc : readsEnded protobuf id (trace ++ [taken]) =
    readsEnded protobuf id trace + (taken.before.traffic protobuf taken.event id).readsEnded := by
  simp [readsEnded]

theorem outstanding_session {gateway : GatewayProcess ρ} {session : Session}
    (found : gateway.sessions[id]? = some session) : gateway.outstanding id = session.flow.outstanding := by
  simp only [GatewayProcess.outstanding, found]

theorem outstanding_absent {gateway : GatewayProcess ρ} (absent : gateway.sessions[id]? = none) :
    gateway.outstanding id = 0 := by
  simp only [GatewayProcess.outstanding, absent]

/-- A session that is not accepted by the step has no traffic. -/
theorem traffic_unopened {before after : GatewayProcess ρ} {moment : Moment} {event : Event}
    {notes : List Note} (done : before.step shuffler protobuf event moment = .ok (notes, after))
    (was : before.sessions[id]? = none) (now : after.sessions[id]? = none) :
    before.traffic protobuf event id = {} := by
  unfold GatewayProcess.traffic
  rw [was]
  dsimp only
  split
  · next transport idle =>
    refine if_neg ?_
    rintro rfl
    rw [GatewayProcess.step, idle] at done
    cases done
    simp at now
  · rfl

/-- A session that is there is kept going. -/
theorem lively_step {old new : Session} (inv : ProgressInv protobuf trace taken.before)
    (was : taken.before.sessions[id]? = some old) (now : taken.after.sessions[id]? = some new)
    (done : taken.before.step shuffler protobuf taken.event taken.moment = .ok (taken.notes, taken.after))
    (move : GatewayMove taken.before taken.event taken.notes taken.after) :
    Lively taken.after id new.flow ∧
      (taken.before.traffic protobuf taken.event id).readsEnded + new.flow.outstanding =
        old.flow.outstanding + (taken.before.traffic protobuf taken.event id).readsStarted := by
  apply lively_move (inv.lively id old was) (fun closing => closing_move was now closing move) ?_
    (loginPending_move done) ?_ ?_ (fun closed => .inl ⟨new, now, closed⟩) (step_flow done was now)
  · intro owed
    obtain closed | owed | sends := owes_move inv.closing inv.entries was now done move owed
    · exact .inl (.inl (.inl closed))
    · exact .inl (.inr owed)
    · exact .inr sends
  · intro handled
    obtain owed | ⟨requested, posted⟩ := handled_owes inv.sound inv.tokens inv.entries was handled
    · exact .inl owed
    · exact .inr (.inl ⟨requested, posted ▸ List.mem_append_right _ List.mem_cons_self⟩)
  · intro pending message sent
    obtain ⟨session, found, shaken⟩ := inv.shakes id (.inl ⟨message, sent⟩)
    rw [was] at found
    cases found
    exact shaken pending

/-- A session that is accepted starts with a read. -/
theorem lively_opened {before after : GatewayProcess ρ} {moment : Moment} {event : Event}
    {notes : List Note} {new : Session}
    (done : before.step shuffler protobuf event moment = .ok (notes, after))
    (was : before.sessions[id]? = none) (now : after.sessions[id]? = some new) :
    Lively after id new.flow ∧ (before.traffic protobuf event id).readsEnded + new.flow.outstanding =
      (before.traffic protobuf event id).readsStarted := by
  obtain ⟨_, _, _, traffic, tcp | webSocket⟩ := step_opened done was now
  · rw [traffic, tcp]
    exact ⟨⟨nofun, fun _ _ => rfl, nofun, nofun, .inr (.inl nofun)⟩, rfl⟩
  · rw [traffic, webSocket]
    exact ⟨⟨fun _ => ⟨rfl, rfl⟩, fun _ shaken => absurd rfl shaken, nofun, nofun, .inr (.inl nofun)⟩, rfl⟩

/-- A step keeps every session going. -/
theorem progressInv_step (inv : ProgressInv protobuf trace taken.before)
    (done : taken.before.step shuffler protobuf taken.event taken.moment = .ok (taken.notes, taken.after))
    (sound : ManagerInv taken.after.manager)
    (move : GatewayMove taken.before taken.event taken.notes taken.after) :
    ProgressInv protobuf (trace ++ [taken]) taken.after := by
  refine ⟨sound, tokenInv_move inv.tokens move, closingInv_move inv.tokens inv.closing move,
    entryInv_move inv.tokens inv.entries move, handshakeInv_step inv.shakes done move, ?_, ?_⟩
  · intro id new now
    cases was : taken.before.sessions[id]? with
    | some old => exact (lively_step inv was now done move).1
    | none => exact (lively_opened done was now).1
  · intro id
    have earlier := inv.counted id
    rw [readsStarted_snoc, readsEnded_snoc]
    cases was : taken.before.sessions[id]? with
    | some old =>
      obtain ⟨new, now⟩ := session_persists move was
      have step := (lively_step inv was now done move).2
      rw [outstanding_session was] at earlier
      rw [outstanding_session now]
      omega
    | none =>
      rw [outstanding_absent was] at earlier
      cases now : taken.after.sessions[id]? with
      | some new =>
        have step := (lively_opened done was now).2
        rw [outstanding_session now]
        omega
      | none =>
        rw [outstanding_absent now, traffic_unopened done was now, earlier]
        simp

theorem progress_run {random : ρ} {finish : GatewayProcess ρ}
    (run : Transition.Steps (GatewayStep shuffler protobuf) { manager := { random } } trace finish) :
    ProgressInv protobuf trace finish := by
  refine run.history (ProgressInv protobuf) ?_ ?_
  · exact ⟨managerInv_empty random, tokenInv_start random, closingInv_start random, entryInv_start random,
      handshakeInv_start random, by simp, fun _ => rfl⟩
  · intro trace before taken after _ inv step
    obtain ⟨kept, move⟩ := step.moves inv.sound
    obtain ⟨rfl, rfl, done⟩ := step
    exact progressInv_step inv done kept move

/-- One of the steps sends a packet to the session.  The packet waits, or a read was
    outstanding after one of the steps that follow. -/
def Replied (protobuf : Protobuf) (id : SessionId) (later : List (Taken ρ)) (gateway : GatewayProcess ρ) :
    Prop :=
  ∃ middle reply rest, later = middle ++ reply :: rest ∧ reply.before.Sends protobuf reply.event id ∧
    (gateway.Queued id ∨ ∃ resumed ∈ rest, resumed.after.Reading id)

/-- What a packet has come to, some steps after it was handled. -/
def DealtWith (protobuf : Protobuf) (id : SessionId) (login : Prop) (later : List (Taken ρ))
    (gateway : GatewayProcess ρ) : Prop :=
  (gateway.Closed id ∨ gateway.Owes id) ∨ (login ∧ gateway.LoginPending id) ∨
    Replied protobuf id later gateway

theorem dealtWith_step {later : List (Taken ρ)} {login : Prop} (inv : ProgressInv protobuf trace taken.before)
    {old : Session} (was : taken.before.sessions[id]? = some old)
    (done : taken.before.step shuffler protobuf taken.event taken.moment = .ok (taken.notes, taken.after))
    (move : GatewayMove taken.before taken.event taken.notes taken.after)
    (dealt : DealtWith protobuf id login later taken.before) :
    DealtWith protobuf id login (later ++ [taken]) taken.after := by
  obtain ⟨new, now⟩ := session_persists move was
  have flow := step_flow done was now
  have closes : taken.before.Closing id → taken.after.Closing id :=
    fun closing => closing_move was now closing move
  obtain (closed | owed) | ⟨posted, pending⟩ | ⟨middle, reply, rest, rfl, sent, resumed⟩ := dealt
  · exact .inl (closed_of_closing (closes (.inl closed)))
  · obtain closed | owed | ⟨packet, sent⟩ := owes_move inv.closing inv.entries was now done move owed
    · exact .inl (.inl closed)
    · exact .inl (.inr owed)
    · exact .inr (.inr ⟨later, taken, [], rfl, ⟨packet, sent⟩, .inl ⟨new, now, sent_move sent flow⟩⟩)
  · obtain pending | owed := loginPending_move done pending
    · exact .inr (.inl ⟨posted, pending⟩)
    · exact .inl (.inr owed)
  · have answered : taken.after.Queued id ∨ (∃ between ∈ rest ++ [taken], between.after.Reading id) →
        DealtWith protobuf id login ((middle ++ reply :: rest) ++ [taken]) taken.after :=
      fun resumed => .inr (.inr ⟨middle, reply, rest ++ [taken], by simp, sent, resumed⟩)
    obtain ⟨session, found, waiting⟩ | ⟨between, member, reading⟩ := resumed
    · rw [was] at found
      cases found
      obtain waits | closing | reads := queued_move (inv.lively id old was) closes waiting flow
      · exact answered (.inl ⟨new, now, waits⟩)
      · exact .inl (closed_of_closing closing)
      · exact answered (.inr ⟨taken, by simp, new, now, reads⟩)
    · exact answered (.inr ⟨between, List.mem_append_left _ member, reading⟩)

theorem dealtWith_run {start finish : GatewayProcess ρ} {later : List (Taken ρ)} {login : Prop} {old : Session}
    (inv : ProgressInv protobuf trace start) (was : start.sessions[id]? = some old)
    (dealt : DealtWith protobuf id login [] start)
    (run : Transition.Steps (GatewayStep shuffler protobuf) start later finish) :
    DealtWith protobuf id login later finish := by
  suffices ProgressInv protobuf (trace ++ later) finish ∧ (∃ session, finish.sessions[id]? = some session) ∧
      DealtWith protobuf id login later finish from this.2.2
  refine run.history (fun later gateway => ProgressInv protobuf (trace ++ later) gateway ∧
    (∃ session, gateway.sessions[id]? = some session) ∧ DealtWith protobuf id login later gateway)
    ⟨by rwa [List.append_nil], ⟨old, was⟩, dealt⟩ ?_
  intro later before taken after _ ⟨inv, ⟨session, found⟩, dealt⟩ step
  obtain ⟨kept, move⟩ := step.moves inv.sound
  obtain ⟨rfl, rfl, done⟩ := step
  rw [← List.append_assoc]
  exact ⟨progressInv_step inv done kept move, session_persists move found,
    dealtWith_step inv found done move dealt⟩

/-! ## Between handlers -/

section Idle

variable {random : ρ} {finish : GatewayProcess ρ} {session : Session}

theorem not_closing (idle : finish.agenda = []) (found : finish.sessions[id]? = some session)
    (unclosed : session.closed = false) : ¬ finish.Closing id := by
  rintro (⟨other, same, closed⟩ | member)
  · rw [found] at same
    cases same
    rw [unclosed] at closed
    cases closed
  · rw [idle] at member
    cases member

/-- What a session does between handlers. -/
theorem idle_alive
    (run : Transition.Steps (GatewayStep shuffler protobuf) { manager := { random } } trace finish)
    (idle : finish.agenda = []) (found : finish.sessions[id]? = some session)
    (remains : ¬ finish.Closing id) (shaken : session.pendingRead ≠ some .handshake) :
    (session.readInProgress ∧ readsStarted protobuf id trace = readsEnded protobuf id trace + 1) ∨
      (session.writeQueue ≠ [] ∧ (outbox protobuf id trace).underway.length = 1) ∨
      finish.LoginPending id := by
  have inv := progress_run run
  have lively := inv.lively id session found
  obtain closing | pending | writing | owed | login := lively.alive
  · exact absurd closing remains
  · refine .inl ⟨lively.reads pending shaken, ?_⟩
    obtain ⟨read, some⟩ := Option.ne_none_iff_exists'.mp pending
    rw [inv.counted id, outstanding_session found, Flow.outstanding, some]
    rfl
  · have box := outbox_run run id
    have matched := box.matched session found
    have underway : (outbox protobuf id trace).underway ≠ [] := matched.writing.mpr writing
    have single := matched.sound.single
    have some := List.length_pos_iff.mpr underway
    have waits := (box.whole.resolve_right remains).1.underway_iff.mp underway
    rw [matched.queue] at waits
    exact .inr (.inl ⟨waits, by omega⟩)
  · exact absurd owed (not_owes_idle idle id)
  · exact .inr (.inr login)

/-- What a packet has come to between handlers. -/
theorem idle_answered {earlier later : List (Taken ρ)}
    (run : Transition.Steps (GatewayStep shuffler protobuf) { manager := { random } }
      (earlier ++ taken :: later) finish)
    (handles : taken.before.HandlesPacket taken.event id) (idle : finish.agenda = [])
    (remains : ¬ finish.Closing id) :
    ((∃ requested, taken.after.jobs = taken.before.jobs ++ [.login id requested]) ∧
      finish.LoginPending id) ∨ Replied protobuf id later finish := by
  obtain ⟨before, after, start, step, rest⟩ := run.split_cons
  have inv := progress_run start
  obtain ⟨kept, move⟩ := step.moves inv.sound
  obtain ⟨rfl, rfl, done⟩ := step
  obtain ⟨old, was, _⟩ := handles.2
  obtain ⟨new, now⟩ := session_persists move was
  have begun : DealtWith protobuf id (∃ requested, taken.after.jobs = taken.before.jobs ++ [.login id requested])
      [] taken.after := by
    obtain owed | ⟨requested, posted⟩ :=
      handled_owes inv.sound inv.tokens inv.entries was (handles_handled done was handles)
    · exact .inl (.inr owed)
    · exact .inr (.inl ⟨⟨requested, posted⟩,
        .inl ⟨requested, posted ▸ List.mem_append_right _ List.mem_cons_self⟩⟩)
  obtain (closed | owed) | login | replied :=
    dealtWith_run (progressInv_step inv done kept move) now begun rest
  · exact absurd (.inl closed) remains
  · exact absurd owed (not_owes_idle idle id)
  · exact .inl login
  · exact .inr replied

end Idle

end Runs

/-- Whatever comes in, and in whatever order.  The running handler ends.  A session never
    has more than one read outstanding.  Between handlers a session that is not closed, and
    whose handshake has ended, reads, or has packets in its queue and one write outstanding,
    or a login that it requested has not come back.  And a packet that was handled has been
    answered by then, and after the answer has been written the session reads again; or it
    was a login, and one is pending. -/
theorem never_stalls (shuffler : Shuffler ρ) (protobuf : Protobuf) (random : ρ)
    (inputs : List (Event × Moment)) :
    ∃ trace finish, ({ manager := { random } } : GatewayProcess ρ).run shuffler protobuf inputs =
        .ok (trace, finish) ∧
      (∀ moments : Nat → Moment, ∃ count rest idle, finish.run shuffler protobuf
          ((List.range count).map fun index => (.next, moments index)) = .ok (rest, idle) ∧
        idle.agenda = []) ∧
      ∀ id session, finish.sessions[id]? = some session →
        readsStarted protobuf id trace ≤ readsEnded protobuf id trace + 1 ∧
        (finish.agenda = [] → session.closed = false → session.pendingRead ≠ some .handshake →
          (session.readInProgress ∧ readsStarted protobuf id trace = readsEnded protobuf id trace + 1) ∨
          (session.writeQueue ≠ [] ∧ (outbox protobuf id trace).underway.length = 1) ∨
          finish.LoginPending id) ∧
        ∀ earlier taken later, trace = earlier ++ taken :: later →
          taken.before.HandlesPacket taken.event id → finish.agenda = [] → session.closed = false →
          ((∃ requested, taken.after.jobs = taken.before.jobs ++ [.login id requested]) ∧
            finish.LoginPending id) ∨
          Replied protobuf id later finish := by
  obtain ⟨trace, finish, ran, run⟩ := gateway_runs shuffler protobuf random inputs
  have inv := progress_run run
  refine ⟨trace, finish, ran, handler_ends shuffler protobuf inv.sound, ?_⟩
  intro id session found
  refine ⟨?_, ?_, ?_⟩
  · have single : session.flow.outstanding ≤ 1 := by
      rw [Flow.outstanding]
      cases session.flow.pendingRead <;> simp
    have counted := inv.counted id
    rw [outstanding_session found] at counted
    omega
  · exact fun idle unclosed => idle_alive run idle found (not_closing idle found unclosed)
  · rintro earlier taken later rfl handles idle unclosed
    exact idle_answered run handles idle (not_closing idle found unclosed)

end Doudizhu.Gateway
