import Doudizhu.Gateway.ReadMoves

/-! # Reading

What a session has read so far is packets, and at most the beginning of another; those
packets, in their order, are what its `handle_packet` got.
-/

namespace Doudizhu.Gateway

open Game

variable {ρ : Type} {shuffler : Shuffler ρ} {protobuf : Protobuf}

/-! ## Runs -/

/-- The beginning of a packet that a session has read, by what it reads next. -/
def Begun (state : ReadState) (part : Bytes) : Prop :=
  match state.pendingRead with
  | some .header => state.readInProgress ∧ part = []
  | some (.body header) => state.readInProgress ∧ ∃ bytes : Vector UInt8 6, part = bytes.toList ∧
      PacketCodec.decodeHeader bytes = some header ∧ header.packetSize ≤ maxPacketSize ∧
      header.packetSize ≠ PacketCodec.headerSize
  | some .handshake | some .frame => False
  | none => (state.readInProgress = false ∧ part = []) ∨
      (state.readInProgress ∧ (BadHeader part ∨ Incomplete part))

/-- The packet, as `handle_packet` gets it. -/
def Packet.handed (packet : Packet) : Nat × Bytes := (packet.messageId.toNat, packet.body)

/-- What a session over TCP has read is packets, those that were handed on, and the
    beginning of one. -/
def ReadSoFar (arrived : Bytes) (handed : List (Nat × Bytes)) : Option ReadState → Prop
  | none => arrived = [] ∧ handed = []
  | some state => state.transport = .tcp → ∃ (packets : List Packet) (part : Bytes),
      arrived = packets.flatMap Packet.bytes ++ part ∧ handed = packets.map Packet.handed ∧
      Begun state part

/-- A packet of the header and the body that were read. -/
theorem exists_packet {bytes : Vector UInt8 6} {header : PacketHeader} {body : Bytes}
    (decoded : PacketCodec.decodeHeader bytes = some header) (small : header.packetSize ≤ maxPacketSize)
    (length : body.length + PacketCodec.headerSize = header.packetSize) :
    ∃ packet : Packet, packet.bytes = bytes.toList ++ body ∧ packet.handed = (header.messageId, body) := by
  have sum : PacketCodec.headerSize + body.length = header.packetSize := by omega
  have fits : PacketCodec.headerSize + body.length ≤ maxPacketSize := sum.trans_le small
  have same := Packet.header_of_decoded decoded sum fits
  refine ⟨⟨UInt16.ofNat header.messageId, body, fits⟩, ?_, ?_⟩
  · rw [Packet.bytes, same, PacketCodec.encode_decode decoded]
  · exact congrArg (·, body) (congrArg PacketHeader.messageId same)

theorem incomplete_header {bytes : Vector UInt8 6} {header : PacketHeader}
    (decoded : PacketCodec.decodeHeader bytes = some header) (small : header.packetSize ≤ maxPacketSize)
    (more : header.packetSize ≠ PacketCodec.headerSize) : Incomplete bytes.toList := by
  have atLeast := PacketCodec.decodeHeader_atLeast decoded
  have wire := PacketCodec.decodeHeader_wire bytes
  rw [decoded] at wire
  split at wire
  · cases wire
  · injection wire with same
    have size : header.packetSize = (PacketCodec.wireSize bytes).toNat := by rw [same]
    have length : bytes.toList.length = PacketCodec.headerSize := bytes.length_toList
    exact .inr ⟨bytes, headerBytes_toList bytes, by omega, by omega, by omega⟩

theorem incomplete_nil : Incomplete [] := .inl (by decide)

theorem readSoFar_move {before : Option ReadState} {arrived more : Bytes}
    {handed packets : List (Nat × Bytes)} {state : ReadState} (soFar : ReadSoFar arrived handed before)
    (move : ReadMove before more packets state) :
    ReadSoFar (arrived ++ more) (handed ++ packets) (some state) := by
  intro tcp
  cases move with
  | accepted new =>
    subst new
    obtain ⟨rfl, rfl⟩ := soFar
    exact ⟨[], [], rfl, rfl, rfl, rfl⟩
  | still same =>
    subst same
    simpa using soFar tcp
  | @restarted pending was =>
    subst was
    obtain ⟨packets, part, rfl, rfl, begun⟩ := soFar rfl
    -- a session starts a new read only between two packets
    have nothing : part = [] := by
      match pending with
      | none => simpa [Begun] using begun
      | some .header | some (.body _) | some .handshake | some .frame => simp [Begun] at begun
    exact ⟨packets, part, by simp, by simp, rfl, nothing⟩
  | @failed busy pending was =>
    subst was
    obtain ⟨packets, part, rfl, rfl, begun⟩ := soFar rfl
    refine ⟨packets, part, by simp, by simp, .inr ?_⟩
    -- a read that fails leaves what has arrived a beginning
    match pending with
    | .header =>
      obtain ⟨busy, rfl⟩ := begun
      exact ⟨busy, .inr incomplete_nil⟩
    | .body header =>
      obtain ⟨busy, bytes, rfl, decoded, small, more⟩ := begun
      exact ⟨busy, .inr (incomplete_header decoded small more)⟩
    | .handshake | .frame => exact begun.elim
  | @refused busy bytes was bad =>
    subst was
    obtain ⟨packets, part, rfl, rfl, busy, rfl⟩ := soFar rfl
    exact ⟨packets, bytes.toList, by simp, by simp, .inr ⟨busy, .inl bad⟩⟩
  | @announced busy bytes header was decoded small more =>
    subst was
    obtain ⟨packets, part, rfl, rfl, busy, rfl⟩ := soFar rfl
    exact ⟨packets, bytes.toList, by simp, by simp, busy, bytes, rfl, decoded, small, more⟩
  -- the header is the whole packet
  | @empty busy bytes header was decoded none =>
    subst was
    obtain ⟨packets, part, rfl, rfl, busy, rfl⟩ := soFar rfl
    have small : header.packetSize ≤ maxPacketSize := none.trans_le (by decide)
    have length : ([] : Bytes).length + PacketCodec.headerSize = header.packetSize := none.symm
    obtain ⟨packet, split, own⟩ := exists_packet decoded small length
    exact ⟨packets ++ [packet], [], by simp [split], by simp [own], .inl ⟨rfl, rfl⟩⟩
  -- the rest of the packet has come
  | @body busy header body was length =>
    subst was
    obtain ⟨packets, part, rfl, rfl, busy, bytes, rfl, decoded, small, _⟩ := soFar rfl
    obtain ⟨packet, split, own⟩ := exists_packet decoded small length
    exact ⟨packets ++ [packet], [], by simp [split], by simp [own], .inl ⟨rfl, rfl⟩⟩
  | @foreign busy pending state was foreign =>
    subst was
    obtain ⟨packets, part, rfl, rfl, begun⟩ := soFar rfl
    obtain rfl | rfl := foreign <;> exact begun.elim

theorem readState_none {gateway : GatewayProcess ρ} {id : SessionId} :
    gateway.readState id = none ↔ gateway.face id = none := by
  simp [GatewayProcess.readState, GatewayProcess.face]

/-- Sessions stay. -/
theorem readState_persists {before after : GatewayProcess ρ} {event : Event} {notes : List Note}
    (move : GatewayMove before event notes after) {id : SessionId}
    (absent : after.readState id = none) : before.readState id = none := by
  rw [readState_none] at absent ⊢
  cases move with
  | stalled => exact absent
  | other _ keeps => exact keeps.face id ▸ absent
  | opened _ _ _ _ faces =>
    obtain same | ⟨fresh, _⟩ := faces id
    · exact same ▸ absent
    · exact fresh
  | handed _ keeps => exact keeps.face id ▸ absent
  | acted _ _ _ _ _ _ faces | finished _ _ _ _ faces | cleaned _ _ _ _ _ _ faces =>
    exact faces id ▸ absent
  | loggedIn _ _ _ _ _ _ faces =>
    rw [faces id] at absent
    split at absent
    · exact Option.map_eq_none_iff.mp absent
    · exact absent
  | closed _ _ _ _ _ _ _ faces | closing _ _ _ _ _ _ _ _ faces =>
    rw [faces id] at absent
    split at absent
    · cases absent
    · exact absent

theorem session_persists {before after : GatewayProcess ρ} {event : Event} {notes : List Note}
    {id : SessionId} {old : Session} (move : GatewayMove before event notes after)
    (was : before.sessions[id]? = some old) : ∃ new, after.sessions[id]? = some new := by
  rw [← Option.ne_none_iff_exists']
  intro gone
  have absent : before.readState id = none := readState_persists move (Option.map_eq_none_iff.mpr gone)
  rw [GatewayProcess.readState, was] at absent
  cases absent

theorem arrived_absent {gateway : GatewayProcess ρ} {id : SessionId} (event : Event)
    (absent : gateway.readState id = none) :
    gateway.arrived event id = [] ∧ gateway.handedOn event id = [] := by
  have missing : gateway.sessions[id]? = none := Option.map_eq_none_iff.mp absent
  cases event with
  | headerRead reader bytes | bodyRead reader bytes =>
    cases bytes <;> cases agenda : gateway.agenda <;>
      simp [GatewayProcess.arrived, GatewayProcess.handedOn, agenda, missing]
  | _ =>
    cases agenda : gateway.agenda <;> simp [GatewayProcess.arrived, GatewayProcess.handedOn, agenda]

theorem reading_run (shuffler : Shuffler ρ) (protobuf : Protobuf) {random : ρ} {trace : List (Taken ρ)}
    {finish : GatewayProcess ρ}
    (run : Transition.Steps (GatewayStep shuffler protobuf) { manager := { random } } trace finish)
    (id : SessionId) :
    ReadSoFar (trace.flatMap fun taken => taken.before.arrived taken.event id)
      (trace.flatMap fun taken => taken.before.handedOn taken.event id) (finish.readState id) := by
  refine (run.history (fun trace (gateway : GatewayProcess ρ) => ManagerInv gateway.manager ∧
    ReadSoFar (trace.flatMap fun taken => taken.before.arrived taken.event id)
      (trace.flatMap fun taken => taken.before.handedOn taken.event id) (gateway.readState id))
    ⟨managerInv_empty random, rfl, rfl⟩ ?_).2
  intro trace before taken after _ ⟨sound, soFar⟩ step
  obtain ⟨kept, move⟩ := step.moves sound
  obtain ⟨rfl, rfl, done⟩ := step
  refine ⟨kept, ?_⟩
  rw [List.flatMap_append, List.flatMap_append, List.flatMap_singleton, List.flatMap_singleton]
  cases now : taken.after.readState id with
  | none =>
    -- a session that is not there has read nothing
    have absent := readState_persists move now
    rw [absent] at soFar
    obtain ⟨arrived, handed⟩ := soFar
    obtain ⟨none, silent⟩ := arrived_absent taken.event absent
    exact ⟨by rw [arrived, none]; rfl, by rw [handed, silent]; rfl⟩
  | some state =>
    by_cases tcp : state.transport = .tcp
    · exact readSoFar_move soFar (step_move done now tcp)
    · exact fun same => absurd same tcp

/-- What has begun is no packet yet. -/
theorem Begun.rest {state : ReadState} {part : Bytes} (begun : Begun state part) :
    BadHeader part ∨ Incomplete part := by
  unfold Begun at begun
  split at begun
  · rw [begun.2]
    exact .inr incomplete_nil
  · obtain ⟨_, bytes, rfl, decoded, small, more⟩ := begun
    exact .inr (incomplete_header decoded small more)
  · exact begun.elim
  · exact begun.elim
  · obtain ⟨_, rfl⟩ | ⟨_, rest⟩ := begun
    · exact .inr incomplete_nil
    · exact rest

/-- `handle_packet` gets what the loop finds in the bytes that arrived. -/
theorem ReadSoFar.loop {arrived : Bytes} {handed : List (Nat × Bytes)} {state : ReadState}
    (soFar : ReadSoFar arrived handed (some state)) (tcp : state.transport = .tcp) :
    (readLoop arrived).1.map Packet.handed = handed := by
  obtain ⟨packets, part, rfl, rfl, begun⟩ := soFar tcp
  obtain bad | incomplete := begun.rest
  · rw [readLoop_badHeader packets bad]
  · rw [readLoop_incomplete packets incomplete]

/-- What is handed on is handled. -/
theorem handedOn_handled {gateway : GatewayProcess ρ} {event : Event} {id : SessionId}
    {messageId : Nat} {body : Bytes} (handed : gateway.handedOn event id = [(messageId, body)])
    (moment : Moment) :
    ∃ (base : GatewayProcess ρ) (session : Session) (header : PacketHeader),
      header.messageId = messageId ∧ base.manager = gateway.manager ∧
      base.notifier = gateway.notifier ∧
      gateway.step shuffler protobuf event moment =
        base.handleTcpPacket shuffler protobuf moment id session header body := by
  unfold GatewayProcess.handedOn at handed
  split at handed
  · next reader bytes idle =>
    split at handed
    · next own =>
      obtain ⟨rfl, reads⟩ := own
      obtain ⟨session, found, pending⟩ := Option.bind_eq_some_iff.mp reads
      split at handed
      · next header decoded =>
        split at handed
        · next none =>
          cases handed
          -- a packet without a body is handled when its header is read
          let ended : Session := { session with pendingRead := Option.none }
          let idleSession : Session := { ended with readInProgress := false }
          refine ⟨(gateway.update reader fun _ => ended).update reader fun _ => idleSession, idleSession,
            header, rfl, rfl, rfl, ?_⟩
          simp only [GatewayProcess.step, idle, GatewayProcess.handle, found, pending, ne_eq,
            not_true_eq_false, if_false, GatewayProcess.headerRead, decoded, none, if_true]
          rfl
        · cases handed
      · cases handed
    · cases handed
  · next reader bytes idle =>
    split at handed
    · next header reads =>
      split at handed
      · next own =>
        obtain ⟨rfl, length⟩ := own
        cases handed
        obtain ⟨session, found, pending⟩ := Option.bind_eq_some_iff.mp reads
        let idleSession : Session := { session with pendingRead := none, readInProgress := false }
        refine ⟨gateway.update reader fun _ => idleSession, idleSession, header, rfl, rfl, rfl, ?_⟩
        simp only [GatewayProcess.step, idle, GatewayProcess.handle, found, pending, Option.all_some,
          length, beq_self_eq_true, if_true, GatewayProcess.bodyRead]
        rfl
      · cases handed
    · cases handed
  · cases handed

/-- A header that is out of range makes the session close. -/
theorem badHeader_closes {gateway after : GatewayProcess ρ} {id : SessionId} {bytes : Vector UInt8 6}
    {moment : Moment} {notes : List Note} (idle : gateway.agenda = [])
    (reads : gateway.sessions[id]?.bind Session.pendingRead = some .header)
    (bad : BadHeader bytes.toList)
    (done : gateway.step shuffler protobuf (.headerRead id (some bytes)) moment = .ok (notes, after)) :
    after.agenda = [.close id] := by
  obtain ⟨session, found, pending⟩ := Option.bind_eq_some_iff.mp reads
  obtain ⟨other, same, size⟩ := bad
  rw [headerBytes_toList] at same
  obtain rfl : bytes = other := Option.some.inj same
  have wire := PacketCodec.decodeHeader_wire bytes
  simp only [GatewayProcess.step, idle, GatewayProcess.handle, found, pending, ne_eq,
    not_true_eq_false, if_false, GatewayProcess.headerRead] at done
  split at done
  · cases done
    simp [GatewayProcess.push, GatewayProcess.update, idle]
  · next header decoded =>
    rw [decoded] at wire
    split at wire
    · cases wire
    · next atLeast =>
      injection wire with same
      have large : header.packetSize > maxPacketSize := by
        rw [same]
        exact size.resolve_left atLeast
      rw [if_pos large] at done
      cases done
      simp [GatewayProcess.push, GatewayProcess.update, idle]

/-! ## Frames -/

/-- The frame of a packet has the length that its header announces. -/
theorem Packet.length_of_decoded {packet : Packet} {header : PacketHeader}
    (decoded : (PacketCodec.headerBytes packet.bytes).bind PacketCodec.decodeHeader = some header) :
    header.packetSize = packet.bytes.length ∧ header.packetSize ≤ maxPacketSize := by
  have own : PacketCodec.headerBytes packet.bytes = some (PacketCodec.encodeHeader packet.header) := rfl
  rw [own, Option.bind_some, packet.decode_header] at decoded
  obtain rfl := Option.some.inj decoded
  exact ⟨packet.length_bytes.symm, packet.fits⟩

/-- A frame is accepted if it is exactly one packet, which is then the one the loop would find. -/
theorem handleWebSocketPacket_framed (shuffler : Shuffler ρ) (protobuf : Protobuf)
    (gateway : GatewayProcess ρ) (moment : Moment) (id : SessionId) (session : Session) (frame : Bytes) :
    (∃ packet : Packet, frame = packet.bytes ∧ readLoop frame = ([packet], .endOfStream) ∧
      gateway.handleWebSocketPacket shuffler protobuf moment id session frame =
        let counted := session.refreshHeartbeat.countMessage moment.packetAt
        if counted.overLimit then (gateway.update id fun _ => counted).calls [.close id]
        else (gateway.update id fun _ => counted).dispatch shuffler protobuf moment id counted
          packet.messageId.toNat packet.body) ∨
    ((∀ packet : Packet, frame ≠ packet.bytes) ∧
      gateway.handleWebSocketPacket shuffler protobuf moment id session frame =
        gateway.calls [.close id]) := by
  cases decoded : (PacketCodec.headerBytes frame).bind PacketCodec.decodeHeader with
  -- the frame is too short for a header, or its size field is
  | none =>
    apply Or.inr
    constructor
    · intro packet same
      have own : (PacketCodec.headerBytes packet.bytes).bind PacketCodec.decodeHeader =
          some packet.header := packet.decode_header
      rw [same, own] at decoded
      cases decoded
    · simp only [GatewayProcess.handleWebSocketPacket, decoded]
  | some header =>
    by_cases refused : header.packetSize ≠ frame.length ∨ header.packetSize > maxPacketSize
    · apply Or.inr
      constructor
      · intro packet same
        rw [same] at decoded refused
        obtain ⟨length, small⟩ := Packet.length_of_decoded decoded
        exact refused.elim (fun differ => differ length) (fun large => not_lt.mpr small large)
      · simp only [GatewayProcess.handleWebSocketPacket, decoded, refused, if_true]
    · obtain ⟨length, small⟩ := not_or.mp refused
      rw [not_not] at length
      obtain ⟨bytes, read, announced⟩ := Option.bind_eq_some_iff.mp decoded
      have split := PacketCodec.headerBytes_split read
      have atLeast := PacketCodec.decodeHeader_atLeast announced
      -- the size is the length of the frame, so the frame is one packet
      have body : (frame.drop PacketCodec.headerSize).length + PacketCodec.headerSize =
          header.packetSize := by
        rw [List.length_drop]
        omega
      obtain ⟨packet, whole, handed⟩ := exists_packet announced (not_lt.mp small) body
      have same : frame = packet.bytes := by rw [whole, ← split]
      have loop := readLoop_packets [packet]
      rw [List.flatMap_singleton, ← same] at loop
      have messageId : packet.messageId.toNat = header.messageId := congrArg Prod.fst handed
      have rest : packet.body = frame.drop PacketCodec.headerSize := congrArg Prod.snd handed
      refine .inl ⟨packet, same, loop, ?_⟩
      rw [messageId, rest]
      simp only [GatewayProcess.handleWebSocketPacket, decoded, refused, if_false]

/-! ## Streams -/

/-- `send_packet` queues the bytes of a packet. -/
theorem sendPacket_bytes (gateway : GatewayProcess ρ) (id : SessionId) (message : ServerMessage)
    (fits : PacketCodec.headerSize + (protobuf.serialize message).length ≤ maxPacketSize) :
    ∃ packet : Packet, packet.handed = (message.id.number, protobuf.serialize message) ∧
      gateway.sendPacket protobuf id message =
        .ok ([], gateway.update id fun session => session.enqueue packet.bytes) := by
  have number : message.id.number % 2 ^ 16 = message.id.number := by
    cases message <;> rfl
  have messageId : (UInt16.ofNat message.id.number).toNat = message.id.number := by
    rw [UInt16.toNat_ofNat', number]
  refine ⟨⟨UInt16.ofNat message.id.number, protobuf.serialize message, fits⟩, ?_, ?_⟩
  · rw [Packet.handed, messageId]
  · rw [GatewayProcess.sendPacket, if_neg (not_lt.mpr fits)]
    simp only [GatewayProcess.packetOf, Packet.bytes, Packet.header, messageId]

/-- Streams of packets come out of the loop as they went in, and every stream is one, up to a
    header that is out of range or a packet that has yet to arrive; the sessions of either
    transport hand on what the loop finds. -/
theorem framing (shuffler : Shuffler ρ) (protobuf : Protobuf) :
    (∀ (gateway : GatewayProcess ρ) (id : SessionId) (message : ServerMessage),
      PacketCodec.headerSize + (protobuf.serialize message).length ≤ maxPacketSize →
      ∃ packet : Packet, packet.handed = (message.id.number, protobuf.serialize message) ∧
        gateway.sendPacket protobuf id message =
          .ok ([], gateway.update id fun session => session.enqueue packet.bytes)) ∧
    (∀ packets : List Packet, readLoop (packets.flatMap Packet.bytes) = (packets, .endOfStream)) ∧
    (∀ stream : Bytes, ∃ (packets : List Packet) (rest : Bytes),
      stream = packets.flatMap Packet.bytes ++ rest ∧
      ((BadHeader rest ∧ readLoop stream = (packets, .badHeader)) ∨
        (Incomplete rest ∧ readLoop stream = (packets, .endOfStream)))) ∧
    (∀ (gateway : GatewayProcess ρ) (moment : Moment) (id : SessionId) (session : Session)
      (frame : Bytes),
      (∃ packet : Packet, frame = packet.bytes ∧ readLoop frame = ([packet], .endOfStream) ∧
        gateway.handleWebSocketPacket shuffler protobuf moment id session frame =
          let counted := session.refreshHeartbeat.countMessage moment.packetAt
          if counted.overLimit then (gateway.update id fun _ => counted).calls [.close id]
          else (gateway.update id fun _ => counted).dispatch shuffler protobuf moment id counted
            packet.messageId.toNat packet.body) ∨
      ((∀ packet : Packet, frame ≠ packet.bytes) ∧
        gateway.handleWebSocketPacket shuffler protobuf moment id session frame =
          gateway.calls [.close id])) ∧
    ∀ (random : ρ) (inputs : List (Event × Moment)) (trace : List (Taken ρ))
      (finish : GatewayProcess ρ),
      ({ manager := { random } } : GatewayProcess ρ).run shuffler protobuf inputs =
        .ok (trace, finish) →
      (∀ id state, finish.readState id = some state → state.transport = .tcp →
        (readLoop (trace.flatMap fun taken => taken.before.arrived taken.event id)).1.map
            Packet.handed =
          trace.flatMap fun taken => taken.before.handedOn taken.event id) ∧
      ∀ taken ∈ trace, ∀ id : SessionId,
        (∀ messageId body, taken.before.handedOn taken.event id = [(messageId, body)] →
          ∃ (base : GatewayProcess ρ) (session : Session) (header : PacketHeader),
            header.messageId = messageId ∧ base.manager = taken.before.manager ∧
            base.notifier = taken.before.notifier ∧
            base.handleTcpPacket shuffler protobuf taken.moment id session header body =
              .ok (taken.notes, taken.after)) ∧
        ∀ bytes, taken.before.agenda = [] → taken.event = .headerRead id (some bytes) →
          taken.before.sessions[id]?.bind Session.pendingRead = some .header →
          BadHeader bytes.toList → taken.after.agenda = [.close id] := by
  refine ⟨fun gateway id message => sendPacket_bytes gateway id message, readLoop_packets, ?_, ?_, ?_⟩
  · intro stream
    obtain ⟨packets, rest, rfl, bad | incomplete⟩ := exists_packets stream
    · exact ⟨packets, rest, rfl, .inl ⟨bad, readLoop_badHeader packets bad⟩⟩
    · exact ⟨packets, rest, rfl, .inr ⟨incomplete, readLoop_incomplete packets incomplete⟩⟩
  · intro gateway moment id session frame
    exact handleWebSocketPacket_framed shuffler protobuf gateway moment id session frame
  intro random inputs trace finish ran
  have run := GatewayProcess.run_steps ran
  constructor
  · intro id state now tcp
    have soFar := reading_run shuffler protobuf run id
    rw [now] at soFar
    exact soFar.loop tcp
  · intro taken member id
    obtain ⟨earlier, later, rfl⟩ := List.append_of_mem member
    obtain ⟨before, after, _, ⟨rfl, rfl, done⟩, _⟩ := run.split_cons
    constructor
    · intro messageId body handed
      obtain ⟨base, session, header, own, manager, notifier, handles⟩ :=
        handedOn_handled handed taken.moment
      exact ⟨base, session, header, own, manager, notifier, handles ▸ done⟩
    · intro bytes idle event reads bad
      rw [event] at done
      exact badHeader_closes idle reads bad done

end Doudizhu.Gateway
