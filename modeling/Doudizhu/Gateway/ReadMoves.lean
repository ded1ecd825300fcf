import Doudizhu.Gateway.Framing
import Doudizhu.Gateway.Handlers

/-! # Read moves

What one step does to the reading of a session: the bytes that it brings, the packet that
`handle_packet` gets for them, and the read that is outstanding after it.
-/

namespace Doudizhu.Gateway

open Game

variable {ρ : Type} {shuffler : Shuffler ρ} {protobuf : Protobuf}

/-! ## What reading depends on -/

structure ReadState where
  transport : Transport
  readInProgress : Bool
  pendingRead : Option PendingRead
deriving DecidableEq

def Session.readState (session : Session) : ReadState :=
  ⟨session.transport, session.readInProgress, session.pendingRead⟩

def GatewayProcess.readState (gateway : GatewayProcess ρ) (id : SessionId) : Option ReadState :=
  gateway.sessions[id]?.map Session.readState

/-- No session reads, or stops reading. -/
def SameReads (before after : GatewayProcess ρ) : Prop := ∀ id, after.readState id = before.readState id

theorem SameReads.refl (gateway : GatewayProcess ρ) : SameReads gateway gateway := fun _ => rfl

theorem SameReads.trans {first second third : GatewayProcess ρ} (left : SameReads first second)
    (right : SameReads second third) : SameReads first third :=
  fun id => (right id).trans (left id)

theorem sameReads_of_sessions {before after : GatewayProcess ρ} (same : after.sessions = before.sessions) :
    SameReads before after := by
  intro id
  simp only [GatewayProcess.readState, same]

@[simp] theorem countMessage_readState (session : Session) (now : Time) :
    (session.countMessage now).readState = session.readState := by
  unfold Session.countMessage
  split <;> rfl

@[simp] theorem refreshHeartbeat_readState (session : Session) :
    session.refreshHeartbeat.readState = session.readState := rfl

@[simp] theorem enqueue_readState (session : Session) (packet : Bytes) :
    (session.enqueue packet).readState = session.readState := by
  rw [Session.enqueue_eq]
  rfl

theorem readState_update (gateway : GatewayProcess ρ) (id other : SessionId) (change : Session → Session) :
    (gateway.update id change).readState other =
      if other = id then gateway.sessions[id]?.map fun session => (change session).readState
      else gateway.readState other := by
  unfold GatewayProcess.readState GatewayProcess.update
  rw [List.getElem?_modify]
  by_cases same : id = other
  · subst same
    simp [Function.comp_def]
  · have differ : other ≠ id := fun equal => same equal.symm
    simp [same, differ]

theorem sameReads_update {gateway : GatewayProcess ρ} {id : SessionId} {change : Session → Session}
    (same : ∀ session, gateway.sessions[id]? = some session →
      (change session).readState = session.readState) :
    SameReads gateway (gateway.update id change) := by
  intro other
  rw [readState_update]
  split
  · next own =>
    subst own
    cases found : gateway.sessions[other]? with
    | none => simp [GatewayProcess.readState, found]
    | some session => simp [GatewayProcess.readState, found, same session found]
  · rfl

/-! ## Handlers that do not read -/

section Handlers

variable {base after : GatewayProcess ρ} {moment : Moment} {id : SessionId} {player : PlayerId}
  {notes : List Note}

/-- `handle_packet` counts the message, and leaves the reading alone. -/
theorem handleTcpPacket_sessions {session : Session} {header : PacketHeader} {body : Bytes}
    (done : base.handleTcpPacket shuffler protobuf moment id session header body = .ok (notes, after)) :
    ∃ counted : Session, counted.readState = session.readState ∧
      after.sessions = (base.update id fun _ => counted).sessions := by
  simp only [GatewayProcess.handleTcpPacket] at done
  split at done
  · exact ⟨session.countMessage moment.packetAt, by simp, (calls_aside done).sessions⟩
  · exact ⟨(session.countMessage moment.packetAt).refreshHeartbeat, by simp, (dispatch_aside done).sessions⟩

theorem handleWebSocketPacket_sessions {session : Session} {packet : Bytes}
    (done : base.handleWebSocketPacket shuffler protobuf moment id session packet = .ok (notes, after)) :
    after.sessions = base.sessions ∨ ∃ counted : Session, counted.readState = session.readState ∧
      after.sessions = (base.update id fun _ => counted).sessions := by
  simp only [GatewayProcess.handleWebSocketPacket] at done
  split at done
  · exact .inl (calls_aside done).sessions
  split at done
  · exact .inl (calls_aside done).sessions
  split at done
  · exact .inr ⟨session.refreshHeartbeat.countMessage moment.packetAt, by simp,
      (calls_aside done).sessions⟩
  · exact .inr ⟨session.refreshHeartbeat.countMessage moment.packetAt, by simp,
      (dispatch_aside done).sessions⟩

theorem completeLogin_reads {completion : LoginCompletion}
    (done : base.completeLogin moment completion = .ok (notes, after)) : SameReads base after := by
  cases completeLogin_cases done with
  | refused => exact .refl base
  | accepted => exact sameReads_update fun _ _ => rfl

theorem cleanup_reads (done : base.cleanup shuffler moment = .ok (notes, after)) :
    SameReads base after := by
  obtain ⟨⟨actions, manager⟩, _, done⟩ := ExceptLoop.bind_ok.mp done
  cases done
  exact .refl base

theorem perform_reads {task : Task}
    (done : base.perform protobuf moment task = .ok (notes, after)) : SameReads base after := by
  cases perform_cases done with
  | nothing | oversized | finished | handed | posted | cleanedIdle | cleanedExpired => exact .refl base
  -- closing changes neither the read that is outstanding nor the flag
  | enqueued => exact sameReads_update fun session _ => enqueue_readState session _
  | closed | closing => exact sameReads_update fun _ _ => rfl

end Handlers

/-! ## Steps -/

/-- The bytes that an event brings to session `id`. -/
def GatewayProcess.arrived (gateway : GatewayProcess ρ) (event : Event) (id : SessionId) : Bytes :=
  match gateway.agenda, event with
  | [], .headerRead reader (some bytes) =>
    if reader = id ∧ (gateway.sessions[id]?.bind Session.pendingRead) = some .header then bytes.toList
    else []
  | [], .bodyRead reader (some body) =>
    match gateway.sessions[id]?.bind Session.pendingRead with
    | some (.body header) =>
      if reader = id ∧ body.length + PacketCodec.headerSize = header.packetSize then body else []
    | _ => []
  | _, _ => []

/-- What `handle_packet` of session `id` gets from an event. -/
def GatewayProcess.handedOn (gateway : GatewayProcess ρ) (event : Event) (id : SessionId) :
    List (Nat × Bytes) :=
  match gateway.agenda, event with
  | [], .headerRead reader (some bytes) =>
    if reader = id ∧ (gateway.sessions[id]?.bind Session.pendingRead) = some .header then
      match PacketCodec.decodeHeader bytes with
      | some header =>
        if header.packetSize = PacketCodec.headerSize then [(header.messageId, [])] else []
      | none => []
    else []
  | [], .bodyRead reader (some body) =>
    match gateway.sessions[id]?.bind Session.pendingRead with
    | some (.body header) =>
      if reader = id ∧ body.length + PacketCodec.headerSize = header.packetSize then
        [(header.messageId, body)]
      else []
    | _ => []
  | _, _ => []

/-- What a step does to the reading of a session over TCP, with the bytes that arrived and
    the packets that were handed on. -/
inductive ReadMove (before : Option ReadState) : Bytes → List (Nat × Bytes) → ReadState → Prop where
  | accepted : before = none → ReadMove before [] [] ⟨.tcp, true, some .header⟩
  | still {state : ReadState} : before = some state → ReadMove before [] [] state
  | restarted {pending : Option PendingRead} :
      before = some ⟨.tcp, false, pending⟩ → ReadMove before [] [] ⟨.tcp, true, some .header⟩
  | failed {busy : Bool} {pending : PendingRead} :
      before = some ⟨.tcp, busy, some pending⟩ → ReadMove before [] [] ⟨.tcp, busy, none⟩
  | refused {busy : Bool} {bytes : Vector UInt8 6} :
      before = some ⟨.tcp, busy, some .header⟩ → BadHeader bytes.toList →
      ReadMove before bytes.toList [] ⟨.tcp, busy, none⟩
  | announced {busy : Bool} {bytes : Vector UInt8 6} {header : PacketHeader} :
      before = some ⟨.tcp, busy, some .header⟩ → PacketCodec.decodeHeader bytes = some header →
      header.packetSize ≤ maxPacketSize → header.packetSize ≠ PacketCodec.headerSize →
      ReadMove before bytes.toList [] ⟨.tcp, busy, some (.body header)⟩
  | empty {busy : Bool} {bytes : Vector UInt8 6} {header : PacketHeader} :
      before = some ⟨.tcp, busy, some .header⟩ → PacketCodec.decodeHeader bytes = some header →
      header.packetSize = PacketCodec.headerSize →
      ReadMove before bytes.toList [(header.messageId, [])] ⟨.tcp, false, none⟩
  | body {busy : Bool} {header : PacketHeader} {body : Bytes} :
      before = some ⟨.tcp, busy, some (.body header)⟩ →
      body.length + PacketCodec.headerSize = header.packetSize →
      ReadMove before body [(header.messageId, body)] ⟨.tcp, false, none⟩
  /-- Of a read that is not one of TCP. -/
  | foreign {busy : Bool} {pending : PendingRead} {state : ReadState} :
      before = some ⟨.tcp, busy, some pending⟩ → pending = .handshake ∨ pending = .frame →
      ReadMove before [] [] state

theorem headerBytes_toList (bytes : Vector UInt8 6) :
    PacketCodec.headerBytes bytes.toList = some bytes := by
  have length : bytes.toList.length = 6 := bytes.length_toList
  cases read : PacketCodec.headerBytes bytes.toList with
  | none =>
    have short := PacketCodec.headerBytes_none.mp read
    simp [length, PacketCodec.headerSize] at short
  | some other =>
    have split := PacketCodec.headerBytes_split read
    rw [List.drop_eq_nil_of_le (length.trans_le (by decide)), List.append_nil] at split
    rw [Vector.toList_inj.mp split]

/-- The header is out of range, as the source compares it. -/
theorem badHeader_of_decode {bytes : Vector UInt8 6}
    (refused : ∀ header, PacketCodec.decodeHeader bytes = some header →
      header.packetSize > maxPacketSize) : BadHeader bytes.toList := by
  refine ⟨bytes, headerBytes_toList bytes, ?_⟩
  have wire := PacketCodec.decodeHeader_wire bytes
  split at wire
  · next small => exact .inl small
  · exact .inr (refused _ wire)

section Steps

variable {before after : GatewayProcess ρ} {moment : Moment} {notes : List Note} {id : SessionId}
  {state : ReadState}

/-- A step that leaves all reads as they are, and brings nothing. -/
theorem move_still (same : SameReads before after) (now : after.readState id = some state) :
    ReadMove (before.readState id) [] [] state :=
  .still (same id ▸ now)

/-- The reads of the others. -/
theorem readState_other {reader : SessionId} {session : Session} (differ : reader ≠ id)
    (placed : after.sessions = (before.update reader fun _ => session).sessions) :
    after.readState id = before.readState id := by
  have same := sameReads_of_sessions placed id
  rw [same, readState_update, if_neg (Ne.symm differ)]

theorem readState_own {session old : Session} (found : before.sessions[id]? = some old)
    (placed : after.sessions = (before.update id fun _ => session).sessions) :
    after.readState id = some session.readState := by
  have same := sameReads_of_sessions placed id
  rw [same, readState_update, if_pos rfl, found, Option.map_some]

theorem update_update (gateway : GatewayProcess ρ) (id : SessionId) (session : Session)
    (change : Session → Session) :
    ((gateway.update id fun _ => session).update id change).sessions =
      (gateway.update id fun _ => change session).sessions := by
  simp only [GatewayProcess.update, List.modify_modify_eq, Function.comp_def]

theorem headerRead_move {session : Session} {bytes : Option (Vector UInt8 6)}
    (idle : before.agenda = []) (found : before.sessions[id]? = some session)
    (pending : session.pendingRead = some .header) (tcp : session.transport = .tcp)
    (done : before.headerRead shuffler protobuf moment id session bytes = .ok (notes, after))
    (now : after.readState id = some state) :
    ReadMove (before.readState id) (before.arrived (.headerRead id bytes) id)
      (before.handedOn (.headerRead id bytes) id) state := by
  have was : before.readState id = some ⟨.tcp, session.readInProgress, some .header⟩ := by
    rw [GatewayProcess.readState, found, Option.map_some, Session.readState, tcp, pending]
  have reads : before.sessions[id]?.bind Session.pendingRead = some .header := by
    rw [found, Option.bind_some, pending]
  simp only [GatewayProcess.headerRead] at done
  cases bytes with
  | none =>
    simp only [GatewayProcess.arrived, GatewayProcess.handedOn, idle]
    have own := readState_own found (calls_aside done).sessions
    rw [now] at own
    obtain rfl := Option.some.inj own
    simp only [Session.readState, tcp]
    exact .failed was
  | some bytes =>
    simp only [GatewayProcess.arrived, GatewayProcess.handedOn, idle, reads, and_self, if_true]
    -- wherever the session is closed, its read has ended and no other will start
    have closes : ∀ tasks, ((before.update id fun _ => { session with pendingRead := none }).calls
        tasks = .ok (notes, after)) → state = ⟨.tcp, session.readInProgress, none⟩ := by
      intro tasks closed
      have own := readState_own found ((calls_aside closed).sessions)
      rw [now] at own
      rw [Option.some.inj own, Session.readState, tcp]
    dsimp only at done
    cases decoded : PacketCodec.decodeHeader bytes with
    | none =>
      rw [decoded] at done
      rw [closes _ done]
      exact .refused was (badHeader_of_decode (by simp [decoded]))
    | some header =>
      rw [decoded] at done
      dsimp only at done ⊢
      split at done
      · next large =>
        have differ : header.packetSize ≠ PacketCodec.headerSize := by
          have bound : PacketCodec.headerSize < maxPacketSize := by decide
          omega
        rw [closes _ done, if_neg differ]
        refine .refused was (badHeader_of_decode ?_)
        rintro other same
        rw [decoded] at same
        cases same
        exact large
      · next small =>
        split at done
        · next none =>
          obtain ⟨counted, counts, placed⟩ := handleTcpPacket_sessions done
          have own : after.readState id = some counted.readState := by
            apply readState_own found
            rw [placed, update_update, update_update]
          rw [now] at own
          rw [Option.some.inj own, counts, if_pos none]
          simp only [Session.readState, tcp]
          exact .empty was decoded none
        · next more =>
          cases done
          rw [if_neg more]
          rw [readState_update, if_pos rfl] at now
          simp only [GatewayProcess.update, List.getElem?_modify, found] at now
          simp [Session.readState, tcp] at now
          rw [← now]
          exact .announced was decoded (not_lt.mp small) more

theorem bodyRead_move {session : Session} {header : PacketHeader} {body : Option Bytes}
    (idle : before.agenda = []) (found : before.sessions[id]? = some session)
    (pending : session.pendingRead = some (.body header)) (tcp : session.transport = .tcp)
    (filled : body.all fun body => body.length + PacketCodec.headerSize == header.packetSize)
    (done : before.bodyRead shuffler protobuf moment id session header body = .ok (notes, after))
    (now : after.readState id = some state) :
    ReadMove (before.readState id) (before.arrived (.bodyRead id body) id)
      (before.handedOn (.bodyRead id body) id) state := by
  have was : before.readState id = some ⟨.tcp, session.readInProgress, some (.body header)⟩ := by
    rw [GatewayProcess.readState, found, Option.map_some, Session.readState, tcp, pending]
  have reads : before.sessions[id]?.bind Session.pendingRead = some (.body header) := by
    rw [found, Option.bind_some, pending]
  simp only [GatewayProcess.bodyRead] at done
  cases body with
  | none =>
    simp only [GatewayProcess.arrived, GatewayProcess.handedOn, idle]
    have own := readState_own found (calls_aside done).sessions
    rw [now] at own
    rw [Option.some.inj own, Session.readState, tcp]
    exact .failed was
  | some body =>
    -- the length was checked when the read ended
    have length : body.length + PacketCodec.headerSize = header.packetSize := by simpa using filled
    simp only [GatewayProcess.arrived, GatewayProcess.handedOn, idle, reads, length, and_self, if_true]
    obtain ⟨counted, counts, placed⟩ := handleTcpPacket_sessions done
    have own : after.readState id = some counted.readState := by
      apply readState_own found
      rw [placed, update_update]
    rw [now] at own
    rw [Option.some.inj own, counts]
    simp only [Session.readState, tcp]
    exact .body was length

/-- An event that brings nothing to session `id`. -/
theorem arrived_other {event : Event} (other : event.reader ≠ some id) :
    before.arrived event id = [] ∧ before.handedOn event id = [] := by
  cases event with
  | headerRead reader bytes =>
    have differ : reader ≠ id := fun same => other (congrArg some same)
    cases bytes <;> cases agenda : before.agenda <;>
      simp [GatewayProcess.arrived, GatewayProcess.handedOn, agenda, differ]
  | bodyRead reader body =>
    have differ : reader ≠ id := fun same => other (congrArg some same)
    cases body <;> cases agenda : before.agenda <;>
      simp only [GatewayProcess.arrived, GatewayProcess.handedOn, agenda, differ, false_and, if_false,
        and_self]
    split <;> simp
  | _ => cases agenda : before.agenda <;> simp [GatewayProcess.arrived, GatewayProcess.handedOn, agenda]

/-- A read concerns its own session, which stays with its transport. -/
theorem headerRead_sessions {session : Session} {bytes : Option (Vector UInt8 6)}
    (done : before.headerRead shuffler protobuf moment id session bytes = .ok (notes, after)) :
    ∃ placed : Session, placed.transport = session.transport ∧
      after.sessions = (before.update id fun _ => placed).sessions := by
  simp only [GatewayProcess.headerRead] at done
  have ended : ({ session with pendingRead := none } : Session).transport = session.transport := rfl
  split at done
  · exact ⟨_, ended, (calls_aside done).sessions⟩
  split at done
  · exact ⟨_, ended, (calls_aside done).sessions⟩
  split at done
  · exact ⟨_, ended, (calls_aside done).sessions⟩
  split at done
  · obtain ⟨counted, counts, placed⟩ := handleTcpPacket_sessions done
    rw [update_update, update_update] at placed
    exact ⟨_, congrArg ReadState.transport counts, placed⟩
  · cases done
    refine ⟨_, ?_, update_update ..⟩
    rfl

theorem bodyRead_sessions {session : Session} {header : PacketHeader} {body : Option Bytes}
    (done : before.bodyRead shuffler protobuf moment id session header body = .ok (notes, after)) :
    ∃ placed : Session, placed.transport = session.transport ∧
      after.sessions = (before.update id fun _ => placed).sessions := by
  simp only [GatewayProcess.bodyRead] at done
  have ended : ({ session with pendingRead := none } : Session).transport = session.transport := rfl
  split at done
  · exact ⟨_, ended, (calls_aside done).sessions⟩
  · obtain ⟨counted, counts, placed⟩ := handleTcpPacket_sessions done
    rw [update_update] at placed
    exact ⟨_, congrArg ReadState.transport counts, placed⟩

theorem frameRead_sessions {session : Session} {frame : Option Bytes}
    (done : before.frameRead shuffler protobuf moment id session frame = .ok (notes, after)) :
    ∃ placed : Session, placed.transport = session.transport ∧
      after.sessions = (before.update id fun _ => placed).sessions := by
  simp only [GatewayProcess.frameRead] at done
  have ended : ({ session with pendingRead := none } : Session).transport = session.transport := rfl
  split at done
  · exact ⟨_, ended, (calls_aside done).sessions⟩
  · obtain placed | ⟨counted, counts, placed⟩ := handleWebSocketPacket_sessions done
    · refine ⟨_, ?_, placed⟩
      rfl
    · rw [update_update] at placed
      exact ⟨_, congrArg ReadState.transport counts, placed⟩

theorem startRead_transport (session : Session) : session.startRead.transport = session.transport := by
  rw [Session.startRead_eq]
  split <;> rfl

theorem written_readState (session : Session) :
    session.written.readState = session.readState ∨
      (session.readInProgress = false ∧ session.written.readState =
        ⟨session.transport, true, some (if session.transport = .tcp then .header else .frame)⟩) := by
  rw [Session.written_eq]
  split
  · exact .inl rfl
  · rw [Session.startRead_eq]
    split
    · exact .inl rfl
    · next idle => exact .inr ⟨by simpa using idle, rfl⟩

/-- An event that brings nothing to session `id` leaves its reading alone, -/
theorem move_alone {event : Event} (other : event.reader ≠ some id)
    (move : ReadMove (before.readState id) [] [] state) :
    ReadMove (before.readState id) (before.arrived event id) (before.handedOn event id) state := by
  rwa [(arrived_other other).1, (arrived_other other).2]

/-- as when no session reads, -/
theorem move_quiet {event : Event} (other : event.reader ≠ some id) (same : SameReads before after)
    (now : after.readState id = some state) :
    ReadMove (before.readState id) (before.arrived event id) (before.handedOn event id) state :=
  move_alone other (move_still same now)

/-- or when another one does. -/
theorem move_apart {event : Event} (other : event.reader ≠ some id)
    (same : after.readState id = before.readState id) (now : after.readState id = some state) :
    ReadMove (before.readState id) (before.arrived event id) (before.handedOn event id) state :=
  move_alone other (.still (same ▸ now))

/-- What no session waits for brings nothing. -/
theorem arrived_untaken {event : Event} (untaken : ∀ id (session : Session),
      before.sessions[id]? = some session → ¬ session.Takes id event) :
    before.arrived event id = [] ∧ before.handedOn event id = [] := by
  by_cases reads : event.reader = some id
  swap
  · exact arrived_other reads
  cases idle : before.agenda with
  | cons task rest => simp [GatewayProcess.arrived, GatewayProcess.handedOn, idle]
  | nil =>
    cases event with
    | headerRead reader bytes =>
      have waits : ¬ before.sessions[id]?.bind Session.pendingRead = some .header := by
        intro pending
        obtain ⟨session, found, pending⟩ := Option.bind_eq_some_iff.mp pending
        exact untaken id session found ⟨Option.some.inj reads, pending⟩
      cases bytes <;> simp [GatewayProcess.arrived, GatewayProcess.handedOn, idle, waits]
    | bodyRead reader body =>
      cases body with
      | none => simp [GatewayProcess.arrived, GatewayProcess.handedOn, idle]
      | some body =>
        simp only [GatewayProcess.arrived, GatewayProcess.handedOn, idle]
        split
        · next header pending =>
          obtain ⟨session, found, pending⟩ := Option.bind_eq_some_iff.mp pending
          -- a body of another length is no outcome of the read
          have short : ¬ (reader = id ∧ body.length + PacketCodec.headerSize = header.packetSize) := by
            intro filled
            exact untaken id session found ⟨filled.1, header, pending, by simp [filled.2]⟩
          rw [if_neg short, if_neg short]
          exact ⟨rfl, rfl⟩
        · exact ⟨rfl, rfl⟩
    | frameRead reader frame => simp [GatewayProcess.arrived, GatewayProcess.handedOn, idle]
    | _ => cases reads

theorem accepted_move {session : Session} (transport : Transport)
    (opened : session.readState = match transport with
      | .tcp => ⟨.tcp, true, some .header⟩
      | .webSocket => ⟨.webSocket, false, some .handshake⟩)
    (now : ({ before with sessions := before.sessions ++ [session] } : GatewayProcess ρ).readState id =
      some state)
    (tcp : state.transport = .tcp) : ReadMove (before.readState id) [] [] state := by
  simp only [GatewayProcess.readState, List.getElem?_append, List.getElem?_singleton] at now ⊢
  split at now
  · next inside => exact .still now
  · next outside =>
    split at now
    · obtain rfl := Option.some.inj now
      rw [opened] at tcp ⊢
      cases transport with
      | tcp => exact .accepted (by simp [not_lt.mp outside])
      | webSocket => cases tcp
    · cases now

/-- The end of a handshake, or of a frame: a TCP session waits for neither. -/
theorem foreign_move {reader : SessionId} {session placed : Session} {pending : PendingRead}
    (found : before.sessions[reader]? = some session) (waits : session.pendingRead = some pending)
    (foreign : pending = .handshake ∨ pending = .frame) (kept : placed.transport = session.transport)
    (sessions : after.sessions = (before.update reader fun _ => placed).sessions)
    (now : after.readState id = some state) (tcp : state.transport = .tcp) :
    ReadMove (before.readState id) [] [] state := by
  by_cases own : reader = id
  · subst own
    have own := readState_own found sessions
    rw [now] at own
    obtain rfl := Option.some.inj own
    have kind : session.transport = .tcp := kept.symm.trans tcp
    apply ReadMove.foreign _ foreign
    · exact session.readInProgress
    · rw [GatewayProcess.readState, found, Option.map_some, Session.readState, kind, waits]
  · exact .still ((readState_other own sessions).symm.trans now)

theorem written_move {reader : SessionId} {session : Session}
    (found : before.sessions[reader]? = some session)
    (now : (before.update reader Session.written).readState id = some state)
    (tcp : state.transport = .tcp) : ReadMove (before.readState id) [] [] state := by
  by_cases own : reader = id
  · subst own
    rw [readState_update, if_pos rfl, found] at now
    obtain rfl : session.written.readState = state := Option.some.inj now
    have was : before.readState reader = some session.readState := by
      rw [GatewayProcess.readState, found, Option.map_some]
    obtain same | ⟨free, starts⟩ := written_readState session
    · rw [same]
      exact .still was
    · rw [starts] at tcp ⊢
      have tcp : session.transport = .tcp := tcp
      rw [tcp, if_pos rfl]
      rw [Session.readState, tcp, free] at was
      exact .restarted was
  · rw [readState_update, if_neg (Ne.symm own)] at now
    exact .still now

/-- The event of `read_header`. -/
theorem headerRead_event {reader : SessionId} {session : Session} {bytes : Option (Vector UInt8 6)}
    (idle : before.agenda = []) (found : before.sessions[reader]? = some session)
    (pending : session.pendingRead = some .header)
    (done : before.headerRead shuffler protobuf moment reader session bytes = .ok (notes, after))
    (now : after.readState id = some state) (tcp : state.transport = .tcp) :
    ReadMove (before.readState id) (before.arrived (.headerRead reader bytes) id)
      (before.handedOn (.headerRead reader bytes) id) state := by
  -- whatever the handler did, it ends with this session put in place
  obtain ⟨placed, kept, sessions⟩ := headerRead_sessions done
  by_cases own : reader = id
  · subst own
    have own := readState_own found sessions
    rw [now] at own
    obtain rfl := Option.some.inj own
    exact headerRead_move idle found pending (kept.symm.trans tcp) done now
  · exact move_apart (fun same => own (Option.some.inj same)) (readState_other own sessions) now

theorem bodyRead_event {reader : SessionId} {session : Session} {header : PacketHeader}
    {body : Option Bytes} (idle : before.agenda = []) (found : before.sessions[reader]? = some session)
    (pending : session.pendingRead = some (.body header))
    (filled : body.all fun body => body.length + PacketCodec.headerSize == header.packetSize)
    (done : before.bodyRead shuffler protobuf moment reader session header body = .ok (notes, after))
    (now : after.readState id = some state) (tcp : state.transport = .tcp) :
    ReadMove (before.readState id) (before.arrived (.bodyRead reader body) id)
      (before.handedOn (.bodyRead reader body) id) state := by
  obtain ⟨placed, kept, sessions⟩ := bodyRead_sessions done
  by_cases own : reader = id
  · subst own
    have own := readState_own found sessions
    rw [now] at own
    obtain rfl := Option.some.inj own
    exact bodyRead_move idle found pending (kept.symm.trans tcp) filled done now
  · exact move_apart (fun same => own (Option.some.inj same)) (readState_other own sessions) now

theorem handle_move {event : Event} (idle : before.agenda = [])
    (done : before.handle shuffler protobuf moment event = .ok (notes, after))
    (now : after.readState id = some state) (tcp : state.transport = .tcp) :
    ReadMove (before.readState id) (before.arrived event id) (before.handedOn event id) state := by
  have elsewhere : ∀ {event : Event}, event.reader = none → event.reader ≠ some id := by
    intro event unread
    rw [unread]
    simp
  have happened := handle_cases shuffler protobuf before moment event
  generalize before.handle shuffler protobuf moment event = outcome at done happened
  cases happened with
  | nothing untaken =>
    cases done
    obtain ⟨nothing, unhanded⟩ := @arrived_untaken _ before id event untaken
    rw [nothing, unhanded]
    exact .still now
  | @accepted transport =>
    cases done
    refine move_alone (elsewhere rfl) (accepted_move transport ?_ now tcp)
    cases transport <;> rfl
  | shaken found pending =>
    cases done
    refine move_alone (elsewhere rfl) (foreign_move found pending (.inl rfl) ?_ rfl now tcp)
    exact startRead_transport _
  | unshaken found pending =>
    refine move_alone (elsewhere rfl)
      (foreign_move found pending (.inl rfl) ?_ (calls_aside done).sessions now tcp)
    rfl
  | headerRead found pending => exact headerRead_event idle found pending done now tcp
  | bodyRead found pending filled => exact bodyRead_event idle found pending filled done now tcp
  -- the frames of a WebSocket are no part of a stream
  | @frameRead reader session frame found pending =>
    obtain ⟨placed, kept, sessions⟩ := frameRead_sessions done
    have move := foreign_move found pending (.inr rfl) kept sessions now tcp
    simpa only [GatewayProcess.arrived, GatewayProcess.handedOn, idle] using move
  | written found =>
    cases done
    exact move_alone (elsewhere rfl) (written_move found now tcp)
  | unwritten | expired =>
    refine move_quiet (elsewhere rfl) ?_ now
    apply SameReads.trans _ (sameReads_of_sessions (calls_aside done).sessions)
    exact sameReads_update fun _ _ => rfl
  | returned =>
    cases done
    exact move_quiet (elsewhere rfl) (.refl before) now
  | loginCompleted found =>
    have same := completeLogin_reads done
    exact move_quiet (elsewhere rfl) same now
  | cleanup => exact move_quiet (elsewhere rfl) (cleanup_reads done) now

end Steps

theorem step_move {before after : GatewayProcess ρ} {event : Event} {moment : Moment}
    {notes : List Note} {id : SessionId} {state : ReadState}
    (done : before.step shuffler protobuf event moment = .ok (notes, after))
    (now : after.readState id = some state) (tcp : state.transport = .tcp) :
    ReadMove (before.readState id) (before.arrived event id) (before.handedOn event id) state := by
  cases agenda : before.agenda with
  | nil =>
    simp only [GatewayProcess.step, agenda] at done
    exact handle_move agenda done now tcp
  | cons task rest =>
    simp only [GatewayProcess.step, agenda] at done
    -- no event is taken while a handler runs
    have nothing : before.arrived event id = [] ∧ before.handedOn event id = [] := by
      simp [GatewayProcess.arrived, GatewayProcess.handedOn, agenda]
    rw [nothing.1, nothing.2]
    split at done
    · have same := perform_reads done
      exact .still ((same id).symm.trans now)
    · cases done
      exact .still now

end Doudizhu.Gateway
