import Doudizhu.Lib.FixedWindow
import Doudizhu.Gateway.ClientRequests
import Doudizhu.Gateway.ReadMoves
import Doudizhu.Gateway.SessionRuns

/-! # Thirty messages a second

`handle_packet` counts the messages of the current second, and closes the session at the
thirty-first.  A second starts with the first message that comes a second or more after the
last one started, so that a session that keeps to thirty messages in any second is never
closed, and one that is not closed has sent no more than sixty in any second.
-/

namespace Doudizhu.Gateway

open Game FixedWindow

variable {ρ : Type} {shuffler : Shuffler ρ} {protobuf : Protobuf}

/-! ## The current second -/

def Session.window (session : Session) : Window Time := ⟨session.messageWindowStarted, session.messageCount⟩

def GatewayProcess.window (gateway : GatewayProcess ρ) (id : SessionId) : Option (Window Time) :=
  gateway.sessions[id]?.map Session.window

theorem countMessage_window (session : Session) (now : Time) :
    (session.countMessage now).window = session.window.arrive (seconds 1) now := by
  unfold Session.countMessage Window.arrive
  by_cases past : now - session.messageWindowStarted ≥ seconds 1
  · simp only [past, if_true, Session.window]
  · simp only [past, if_false, Session.window]

theorem startRead_window (session : Session) : session.startRead.window = session.window := by
  rw [Session.startRead_eq]
  split <;> rfl

theorem enqueue_window (session : Session) (packet : Bytes) :
    (session.enqueue packet).window = session.window := by
  rw [Session.enqueue_eq]
  rfl

theorem written_window (session : Session) : session.written.window = session.window := by
  rw [Session.written_eq]
  split
  · rfl
  · exact startRead_window _

/-- The packet in a frame that is one packet. -/
def framePacket (frame : Bytes) : Option (Nat × Bytes) :=
  ((PacketCodec.headerBytes frame).bind PacketCodec.decodeHeader).bind fun header =>
    if header.packetSize = frame.length ∧ header.packetSize ≤ maxPacketSize then
      some (header.messageId, frame.drop PacketCodec.headerSize)
    else none

/-- The packet that the session hands to `handle_packet` when its read ends, to be counted. -/
def Session.packet (session : Session) (id : SessionId) : Event → Option (Nat × Bytes)
  | .headerRead reader (some bytes) =>
    if reader = id ∧ session.pendingRead = some .header then
      (PacketCodec.decodeHeader bytes).bind fun header =>
        if header.packetSize = PacketCodec.headerSize then some (header.messageId, []) else none
    else none
  | .bodyRead reader (some body) =>
    match session.pendingRead with
    | some (.body header) =>
      if reader = id ∧ body.length + PacketCodec.headerSize = header.packetSize then
        some (header.messageId, body)
      else none
    | _ => none
  | .frameRead reader (some frame) =>
    if reader = id ∧ session.pendingRead = some .frame then framePacket frame else none
  | _ => none

def GatewayProcess.packet (gateway : GatewayProcess ρ) (event : Event) (id : SessionId) :
    Option (Nat × Bytes) :=
  if gateway.agenda = [] then gateway.sessions[id]?.bind fun session => session.packet id event else none

/-! ## Packets -/

section Packets

variable {before after : GatewayProcess ρ} {moment : Moment} {id : SessionId} {session placed : Session}
  {notes : List Note}

/-- What becomes of a packet that was counted: at one too many the session is closed next and
    nothing else happens, and any other packet is served. -/
def Treated (shuffler : Shuffler ρ) (protobuf : Protobuf) (before : GatewayProcess ρ) (moment : Moment)
    (id : SessionId) (session placed : Session) (packet : Nat × Bytes) (notes : List Note)
    (after : GatewayProcess ρ) : Prop :=
  if placed.overLimit then notes = [] ∧ after = (before.update id fun _ => placed).push [.close id]
  else
    (before.update id fun _ => session.counted moment.packetAt).serve shuffler moment id
      (session.counted moment.packetAt) (protobuf.request packet.1 packet.2) = .ok (notes, after)

/-- The session counts a packet or none. -/
structure Ticks (shuffler : Shuffler ρ) (protobuf : Protobuf) (moment : Moment) (id : SessionId)
    (session : Session) (packet : Option (Nat × Bytes)) (before : GatewayProcess ρ) (notes : List Note)
    (after : GatewayProcess ρ) (placed : Session) : Prop where
  sessions : after.sessions = (before.update id fun _ => placed).sessions
  window : placed.window =
    if packet.isSome then session.window.arrive (seconds 1) moment.packetAt else session.window
  treated : ∀ counted ∈ packet, Treated shuffler protobuf before moment id session placed counted notes after

theorem update_again (gateway : GatewayProcess ρ) (id : SessionId) (change : Session → Session)
    (session : Session) :
    (gateway.update id change).update id (fun _ => session) = gateway.update id fun _ => session := by
  simp only [GatewayProcess.update, List.modify_modify_eq, Function.comp_def]

theorem Ticks.update {packet : Option (Nat × Bytes)} {change : Session → Session}
    (ticks : Ticks shuffler protobuf moment id session packet (before.update id change) notes after placed) :
    Ticks shuffler protobuf moment id session packet before notes after placed := by
  obtain ⟨sessions, window, treated⟩ := ticks
  simp only [Treated, update_again] at sessions treated
  exact ⟨sessions, window, treated⟩

/-- The order of the two clocks does not matter. -/
theorem refresh_count (session : Session) (now : Time) :
    (session.countMessage now).refreshHeartbeat = session.refreshHeartbeat.countMessage now := by
  unfold Session.countMessage
  split <;> split <;> first | rfl | contradiction

/-- What a session is when it has read a packet. -/
abbrev Session.done (session : Session) : Session := { session with pendingRead := none, readInProgress := false }

theorem tcpPacket_ticks {header : PacketHeader} {body : Bytes}
    (done : before.handleTcpPacket shuffler protobuf moment id session.done header body = .ok (notes, after)) :
    ∃ placed, Ticks shuffler protobuf moment id session (some (header.messageId, body)) before notes after
      placed := by
  simp only [GatewayProcess.handleTcpPacket] at done
  have counted : (session.done.countMessage moment.packetAt).window =
      session.window.arrive (seconds 1) moment.packetAt := countMessage_window ..
  split at done
  · next beyond =>
    refine ⟨session.done.countMessage moment.packetAt, (calls_aside done).sessions, counted, ?_⟩
    rintro _ ⟨⟩
    cases done
    rw [Treated, if_pos beyond]
    exact ⟨rfl, rfl⟩
  · next within =>
    have same : (session.done.countMessage moment.packetAt).refreshHeartbeat = session.counted moment.packetAt :=
      refresh_count ..
    refine ⟨session.counted moment.packetAt, ?_, countMessage_window .., ?_⟩
    · rw [← same]
      exact (dispatch_aside done).sessions
    · rintro _ ⟨⟩
      have limit : ¬ (session.counted moment.packetAt).overLimit := by
        rw [← same]
        exact within
      rw [Treated, if_neg limit, ← dispatch_eq, ← same]
      exact done

theorem webSocketPacket_ticks {packet : Bytes}
    (done : before.handleWebSocketPacket shuffler protobuf moment id session.done packet = .ok (notes, after)) :
    (∃ placed, Ticks shuffler protobuf moment id session (framePacket packet) before notes after placed) ∨
      (framePacket packet = none ∧ after.sessions = before.sessions) := by
  simp only [GatewayProcess.handleWebSocketPacket] at done
  split at done
  · next none =>
    exact .inr ⟨by rw [framePacket, none]; rfl, (calls_aside done).sessions⟩
  next header decoded =>
  split at done
  · next other =>
    refine .inr ⟨?_, (calls_aside done).sessions⟩
    rw [framePacket, decoded]
    exact if_neg fun fits => other.elim (fun differ => differ fits.1) fun large => not_lt.mpr fits.2 large
  next fits =>
  rw [not_or, not_not, gt_iff_lt, not_lt] at fits
  have packet : framePacket packet = some (header.messageId, packet.drop PacketCodec.headerSize) := by
    rw [framePacket, decoded]
    exact if_pos fits
  have counted : (session.counted moment.packetAt).window = session.window.arrive (seconds 1) moment.packetAt :=
    countMessage_window ..
  refine .inl ⟨session.counted moment.packetAt, ?_⟩
  rw [packet]
  split at done
  · next beyond =>
    refine ⟨(calls_aside done).sessions, counted, ?_⟩
    rintro _ ⟨⟩
    cases done
    have limit : (session.counted moment.packetAt).overLimit := beyond
    rw [Treated, if_pos limit]
    exact ⟨rfl, rfl⟩
  · next within =>
    refine ⟨(dispatch_aside done).sessions, counted, ?_⟩
    rintro _ ⟨⟩
    have limit : ¬ (session.counted moment.packetAt).overLimit := within
    rw [Treated, if_neg limit, ← dispatch_eq]
    exact done

/-- A read without a packet. -/
theorem Ticks.quiet {packet : Option (Nat × Bytes)} (none : packet = none)
    (sessions : after.sessions = (before.update id fun _ => placed).sessions)
    (window : placed.window = session.window) :
    Ticks shuffler protobuf moment id session packet before notes after placed := by
  subst none
  exact ⟨sessions, window, nofun⟩

theorem headerRead_ticks {bytes : Option (Vector UInt8 6)} (waits : session.pendingRead = some .header)
    (done : before.headerRead shuffler protobuf moment id session bytes = .ok (notes, after)) :
    ∃ placed, Ticks shuffler protobuf moment id session (session.packet id (.headerRead id bytes)) before notes
      after placed := by
  simp only [GatewayProcess.headerRead] at done
  split at done
  · exact ⟨_, .quiet rfl (calls_aside done).sessions rfl⟩
  next bytes =>
  have packet : session.packet id (.headerRead id (some bytes)) =
      (PacketCodec.decodeHeader bytes).bind fun header =>
        if header.packetSize = PacketCodec.headerSize then some (header.messageId, []) else none :=
    if_pos ⟨rfl, waits⟩
  rw [packet]
  split at done
  · next none => exact ⟨_, .quiet (by rw [none]; rfl) (calls_aside done).sessions rfl⟩
  next header decoded =>
  rw [decoded, Option.bind_some]
  split at done
  · next large =>
    refine ⟨_, .quiet (if_neg ?_) (calls_aside done).sessions rfl⟩
    rintro small
    rw [small] at large
    exact absurd large (by simp [PacketCodec.headerSize, maxPacketSize])
  split at done
  · next bare =>
    obtain ⟨placed, ticks⟩ := tcpPacket_ticks done
    rw [if_pos bare]
    exact ⟨placed, ticks.update.update⟩
  · next more =>
    cases done
    exact ⟨_, .quiet (if_neg more) (update_update ..) rfl⟩

theorem bodyRead_ticks {header : PacketHeader} {body : Option Bytes}
    (waits : session.pendingRead = some (.body header))
    (filled : body.all fun body => body.length + PacketCodec.headerSize == header.packetSize)
    (done : before.bodyRead shuffler protobuf moment id session header body = .ok (notes, after)) :
    ∃ placed, Ticks shuffler protobuf moment id session (session.packet id (.bodyRead id body)) before notes
      after placed := by
  simp only [GatewayProcess.bodyRead] at done
  split at done
  · exact ⟨_, .quiet rfl (calls_aside done).sessions rfl⟩
  next body =>
  have packet : session.packet id (.bodyRead id (some body)) = some (header.messageId, body) := by
    simpa [Session.packet, waits] using filled
  obtain ⟨placed, ticks⟩ := tcpPacket_ticks done
  rw [packet]
  exact ⟨placed, ticks.update⟩

theorem frameRead_ticks {frame : Option Bytes} (waits : session.pendingRead = some .frame)
    (done : before.frameRead shuffler protobuf moment id session frame = .ok (notes, after)) :
    ∃ placed, Ticks shuffler protobuf moment id session (session.packet id (.frameRead id frame)) before notes
      after placed := by
  simp only [GatewayProcess.frameRead] at done
  split at done
  · exact ⟨_, .quiet rfl (calls_aside done).sessions rfl⟩
  next packet =>
  have read : session.packet id (.frameRead id (some packet)) = framePacket packet := if_pos ⟨rfl, waits⟩
  rw [read]
  obtain ⟨placed, ticks⟩ | ⟨none, sessions⟩ := webSocketPacket_ticks done
  · exact ⟨placed, ticks.update⟩
  · exact ⟨_, .quiet none sessions rfl⟩

end Packets

/-! ## Steps -/

section Steps

variable {before after : GatewayProcess ρ} {event : Event} {moment : Moment} {id : SessionId}
  {session : Session} {notes : List Note}

/-- The sessions are in the same seconds, and count nothing more. -/
def SameWindows (before after : GatewayProcess ρ) : Prop := ∀ id, after.window id = before.window id

theorem window_update (gateway : GatewayProcess ρ) (id other : SessionId) (change : Session → Session) :
    (gateway.update id change).window other =
      if other = id then gateway.sessions[id]?.map fun session => (change session).window
      else gateway.window other := by
  unfold GatewayProcess.window GatewayProcess.update
  rw [List.getElem?_modify]
  by_cases same : id = other
  · subst same
    simp [Function.comp_def]
  · have differ : other ≠ id := fun equal => same equal.symm
    simp [same, differ]

theorem sameWindows_update {change : Session → Session}
    (same : ∀ session, before.sessions[id]? = some session → (change session).window = session.window) :
    SameWindows before (before.update id change) := by
  intro other
  rw [window_update]
  split
  · next own =>
    subst own
    cases found : before.sessions[other]? with
    | none => simp [GatewayProcess.window, found]
    | some session => simp [GatewayProcess.window, found, same session found]
  · rfl

theorem packet_takes {packet : Nat × Bytes} (read : session.packet id event = some packet) :
    event.reader = some id ∧ session.Takes id event := by
  cases event with
  | headerRead reader bytes =>
    obtain _ | bytes := bytes
    · cases read
    obtain ⟨⟨rfl, waits⟩, _⟩ := Option.ite_none_right_eq_some.mp read
    exact ⟨rfl, rfl, waits⟩
  | bodyRead reader body =>
    obtain _ | body := body
    · cases read
    rw [Session.packet] at read
    split at read
    · next header waits =>
      obtain ⟨⟨rfl, filled⟩, _⟩ := Option.ite_none_right_eq_some.mp read
      exact ⟨rfl, rfl, header, waits, by simpa using filled⟩
    · cases read
  | frameRead reader frame =>
    obtain _ | frame := frame
    · cases read
    obtain ⟨⟨rfl, waits⟩, _⟩ := Option.ite_none_right_eq_some.mp read
    exact ⟨rfl, rfl, waits⟩
  | _ => cases read

theorem packet_reader {packet : Nat × Bytes} (read : before.packet event id = some packet) :
    before.agenda = [] ∧ event.reader = some id ∧ ∃ session, before.sessions[id]? = some session ∧
      session.Takes id event := by
  obtain ⟨idle, read⟩ := Option.ite_none_right_eq_some.mp read
  obtain ⟨session, found, handed⟩ := Option.bind_eq_some_iff.mp read
  obtain ⟨reads, takes⟩ := packet_takes handed
  exact ⟨idle, reads, session, found, takes⟩

theorem packet_none (other : before.agenda ≠ [] ∨ event.reader = none) (id : SessionId) :
    before.packet event id = none := by
  rw [Option.eq_none_iff_forall_ne_some]
  intro packet read
  obtain ⟨idle, reads, _⟩ := packet_reader read
  obtain busy | unread := other
  · exact busy idle
  · rw [unread] at reads
    cases reads

/-- What a step does to the seconds of the sessions: the one that is handed a packet counts it. -/
structure Turns (shuffler : Shuffler ρ) (protobuf : Protobuf) (before : GatewayProcess ρ) (event : Event)
    (moment : Moment) (notes : List Note) (after : GatewayProcess ρ) : Prop where
  known : ∀ id window, before.window id = some window → after.window id =
    some (if (before.packet event id).isSome then window.arrive (seconds 1) moment.packetAt else window)
  new : ∀ id, before.window id = none → after.window id = none ∨ after.window id = some ⟨moment.packetAt, 0⟩
  treated : ∀ id, ∀ packet ∈ before.packet event id, ∃ session placed, before.sessions[id]? = some session ∧
    after.sessions[id]? = some placed ∧ Treated shuffler protobuf before moment id session placed packet notes after

theorem Turns.still (same : SameWindows before after) (quiet : ∀ id, before.packet event id = none) :
    Turns shuffler protobuf before event moment notes after where
  known id window found := by
    rw [same, found, quiet]
    rfl
  new id absent := .inl (by rw [same, absent])
  treated id packet read := by
    rw [quiet] at read
    cases read

/-- The end of a read is about its session. -/
theorem turns_of_ticks {placed : Session} (idle : before.agenda = []) (reads : event.reader = some id)
    (found : before.sessions[id]? = some session)
    (ticks : Ticks shuffler protobuf moment id session (session.packet id event) before notes after placed) :
    Turns shuffler protobuf before event moment notes after := by
  have packet : before.packet event id = session.packet id event := by
    rw [GatewayProcess.packet, if_pos idle, found, Option.bind_some]
  have own : after.sessions[id]? = some placed := by
    rw [ticks.sessions]
    simp [GatewayProcess.update, found]
  have others : ∀ other, other ≠ id → after.window other = before.window other := by
    intro other differ
    have same := window_update before id other fun _ => placed
    rw [if_neg differ] at same
    simpa only [GatewayProcess.window, ticks.sessions] using same
  have apart : ∀ other, other ≠ id → before.packet event other = none := by
    intro other differ
    rw [Option.eq_none_iff_forall_ne_some]
    intro packet read
    have same := (packet_reader read).2.1
    rw [reads] at same
    exact differ (Option.some.inj same).symm
  constructor
  · intro other window known
    by_cases same : other = id
    · subst same
      rw [GatewayProcess.window, found] at known
      cases known
      rw [GatewayProcess.window, own, Option.map_some, ticks.window, packet]
    · rw [others other same, known, apart other same]
      rfl
  · intro other absent
    by_cases same : other = id
    · subst same
      rw [GatewayProcess.window, found] at absent
      cases absent
    · exact .inl (by rw [others other same, absent])
  · intro other counted read
    by_cases same : other = id
    · subst same
      rw [packet] at read
      exact ⟨session, placed, found, own, ticks.treated counted read⟩
    · rw [apart other same] at read
      cases read

/-- A new session comes last. -/
theorem accepted_turns {session : Session} (quiet : ∀ id, before.packet event id = none)
    (opened : session.window = ⟨moment.packetAt, 0⟩) :
    Turns shuffler protobuf before event moment notes { before with sessions := before.sessions ++ [session] } where
  known id window found := by
    rw [quiet, if_neg (by simp)]
    obtain ⟨old, inside, rfl⟩ := Option.map_eq_some_iff.mp found
    rw [GatewayProcess.window, List.getElem?_append_left (List.getElem?_eq_some_iff.mp inside).1, inside]
    rfl
  new id absent := by
    rw [GatewayProcess.window, Option.map_eq_none_iff, List.getElem?_eq_none_iff] at absent
    rw [GatewayProcess.window, List.getElem?_append_right absent, List.getElem?_singleton]
    split
    · exact .inr (congrArg some opened)
    · exact .inl rfl
  treated id packet read := by
    rw [quiet] at read
    cases read

theorem handle_turns (idle : before.agenda = [])
    (done : before.handle shuffler protobuf moment event = .ok (notes, after)) :
    Turns shuffler protobuf before event moment notes after := by
  have quiet : ∀ {event : Event}, event.reader = none → ∀ id, before.packet event id = none :=
    fun unread => packet_none (.inr unread)
  have happened := handle_cases shuffler protobuf before moment event
  rw [done] at happened
  generalize answer : Except.ok (notes, after) = outcome at happened
  cases happened with
  | nothing untaken =>
    cases answer
    refine .still (fun _ => rfl) fun id => ?_
    rw [Option.eq_none_iff_forall_ne_some]
    intro packet read
    obtain ⟨_, _, session, found, takes⟩ := packet_reader read
    exact untaken id session found takes
  | @accepted transport =>
    cases answer
    refine accepted_turns (quiet rfl) ?_
    cases transport <;> rfl
  | shaken found =>
    cases answer
    refine .still (sameWindows_update fun session same => ?_) (quiet rfl)
    rw [startRead_window]
    cases found.symm.trans same
    rfl
  | unshaken found =>
    cases answer
    refine .still (sameWindows_update fun session same => ?_) (quiet rfl)
    cases found.symm.trans same
    rfl
  | headerRead found waits =>
    obtain ⟨placed, ticks⟩ := headerRead_ticks waits answer.symm
    exact turns_of_ticks idle rfl found ticks
  | bodyRead found waits filled =>
    obtain ⟨placed, ticks⟩ := bodyRead_ticks waits filled answer.symm
    exact turns_of_ticks idle rfl found ticks
  | frameRead found waits =>
    obtain ⟨placed, ticks⟩ := frameRead_ticks waits answer.symm
    exact turns_of_ticks idle rfl found ticks
  | written =>
    cases answer
    exact .still (sameWindows_update fun session _ => written_window session) (quiet rfl)
  | unwritten | expired =>
    cases answer
    exact .still (sameWindows_update fun _ _ => rfl) (quiet rfl)
  | returned =>
    cases answer
    exact .still (fun _ => rfl) (quiet rfl)
  | loginCompleted =>
    refine .still ?_ (quiet rfl)
    cases completeLogin_cases answer.symm with
    | refused => exact fun _ => rfl
    | accepted => exact sameWindows_update fun _ _ => rfl
  | cleanup =>
    obtain ⟨⟨actions, manager⟩, _, done⟩ := ExceptLoop.bind_ok.mp answer.symm
    cases done
    exact .still (fun _ => rfl) (quiet rfl)

theorem step_turns (done : before.step shuffler protobuf event moment = .ok (notes, after)) :
    Turns shuffler protobuf before event moment notes after := by
  simp only [GatewayProcess.step] at done
  split at done
  · next idle => exact handle_turns idle done
  next task rest agenda =>
  have quiet : ∀ id, before.packet event id = none := packet_none (.inl (by simp [agenda]))
  split at done
  · refine .still ?_ quiet
    cases perform_cases done with
    | nothing | oversized | finished | handed | posted | cleanedIdle | cleanedExpired => exact fun _ => rfl
    | enqueued => exact sameWindows_update fun session _ => enqueue_window session _
    | closed | closing => exact sameWindows_update fun _ _ => rfl
  · cases done
    exact .still (fun _ => rfl) quiet

end Steps

/-! ## Runs -/

/-- The packet that the step hands to session `id`. -/
def Taken.packet (taken : Taken ρ) (id : SessionId) : Option (Nat × Bytes) := taken.before.packet taken.event id

/-- The packet is not one too many. -/
def Taken.admits (taken : Taken ρ) (id : SessionId) : Bool :=
  (taken.packet id).isSome && taken.after.sessions[id]?.any fun session => !session.overLimit

/-- When the packets of session `id` came. -/
def arrivals (trace : List (Taken ρ)) (id : SessionId) : List Time :=
  (trace.filter fun taken => (taken.packet id).isSome).map fun taken => taken.moment.packetAt

def admitted (trace : List (Taken ρ)) (id : SessionId) : List Time :=
  (trace.filter fun taken => taken.admits id).map fun taken => taken.moment.packetAt

/-- The clock that is read when a packet is counted does not go back. -/
def Forward (trace : List (Taken ρ)) : Prop :=
  trace.Pairwise fun earlier later => earlier.moment.packetAt ≤ later.moment.packetAt

structure Paced (trace : List (Taken ρ)) (gateway : GatewayProcess ρ) (id : SessionId) : Prop where
  absent : gateway.window id = none → arrivals trace id = [] ∧ admitted trace id = []
  started : ∀ window, gateway.window id = some window → ∃ taken ∈ trace, taken.moment.packetAt = window.start
  limited : ∀ window, gateway.window id = some window →
    Limited (seconds 1) maxMessagesPerSecond (arrivals trace id) (admitted trace id) window

section Runs

variable {trace : List (Taken ρ)} {taken : Taken ρ} {id : SessionId} {window : Window Time}

theorem arrivals_quiet (quiet : taken.packet id = none) :
    arrivals (trace ++ [taken]) id = arrivals trace id ∧ admitted (trace ++ [taken]) id = admitted trace id := by
  simp [arrivals, admitted, Taken.admits, List.filter_append, quiet]

theorem arrivals_counted {packet : Nat × Bytes} (read : taken.packet id = some packet)
    (after : taken.after.window id = some window) :
    arrivals (trace ++ [taken]) id = arrivals trace id ++ [taken.moment.packetAt] ∧
      admitted (trace ++ [taken]) id =
        letIn maxMessagesPerSecond (admitted trace id) window taken.moment.packetAt := by
  obtain ⟨session, found, rfl⟩ := Option.map_eq_some_iff.mp after
  have admits : taken.admits id = decide (session.window.count ≤ maxMessagesPerSecond) := by
    rw [Taken.admits, read, found, Option.isSome_some, Bool.true_and, Option.any_some, Session.overLimit,
      Session.window, Bool.eq_iff_iff]
    simp
  refine ⟨by simp [arrivals, List.filter_append, read], ?_⟩
  rw [admitted, List.filter_append, List.map_append, letIn]
  split
  · next within =>
    rw [List.filter_singleton, admits, decide_eq_true within]
    rfl
  · next beyond =>
    rw [List.filter_singleton, admits, decide_eq_false beyond]
    exact List.append_nil _

/-- No packet of the session is older than the one that comes. -/
theorem arrivals_le (forward : Forward (trace ++ [taken])) : ∀ time ∈ arrivals trace id,
    time ≤ taken.moment.packetAt := by
  intro time member
  obtain ⟨earlier, among, rfl⟩ := List.mem_map.mp member
  exact (List.pairwise_append.mp forward).2.2 earlier (List.mem_of_mem_filter among) taken
    (List.mem_singleton_self taken)

theorem Paced.step {gateway : GatewayProcess ρ} (paced : Paced trace gateway id)
    (own : taken.before = gateway) (forward : Forward (trace ++ [taken]))
    (turns : Turns shuffler protobuf gateway taken.event taken.moment taken.notes taken.after) :
    Paced (trace ++ [taken]) taken.after id := by
  subst own
  cases before : taken.before.window id with
  | none =>
    have quiet : taken.packet id = none := by
      rw [Option.eq_none_iff_forall_ne_some]
      intro packet read
      obtain ⟨_, _, session, found, _⟩ := packet_reader read
      simp [GatewayProcess.window, found] at before
    obtain ⟨none, nothing⟩ := paced.absent before
    obtain ⟨sameArrivals, sameAdmitted⟩ := @arrivals_quiet ρ trace taken id quiet
    rw [none] at sameArrivals
    rw [nothing] at sameAdmitted
    have opens : ∀ window, taken.after.window id = some window → window = ⟨taken.moment.packetAt, 0⟩ := by
      intro window after
      obtain absent | opened := turns.new id before
      · rw [absent] at after
        cases after
      · exact Option.some.inj (after.symm.trans opened)
    refine ⟨fun _ => ⟨sameArrivals, sameAdmitted⟩, ?_, ?_⟩
    · intro window after
      rw [opens window after]
      exact ⟨taken, by simp, rfl⟩
    · intro window after
      rw [opens window after, sameArrivals, sameAdmitted]
      exact .start ..
  | some window =>
    have after := turns.known id window before
    obtain ⟨earlier, member, started⟩ := paced.started window before
    have limited := paced.limited window before
    cases read : taken.packet id with
    | none =>
      have same : taken.before.packet taken.event id = none := read
      rw [same, if_neg (by simp)] at after
      obtain ⟨sameArrivals, sameAdmitted⟩ := @arrivals_quiet ρ trace taken id read
      refine ⟨fun absent => ?_, fun later found => ?_, fun later found => ?_⟩
      · rw [after] at absent
        cases absent
      · cases after.symm.trans found
        exact ⟨earlier, List.mem_append_left _ member, started⟩
      · cases after.symm.trans found
        rwa [sameArrivals, sameAdmitted]
    | some packet =>
      have same : taken.before.packet taken.event id = some packet := read
      rw [same, Option.isSome_some, if_pos rfl] at after
      obtain ⟨moreArrivals, moreAdmitted⟩ := @arrivals_counted ρ trace taken id _ packet read after
      have past : window.start ≤ taken.moment.packetAt := by
        rw [← started]
        exact (List.pairwise_append.mp forward).2.2 earlier member taken (List.mem_singleton_self taken)
      refine ⟨fun absent => ?_, fun later found => ?_, fun later found => ?_⟩
      · rw [after] at absent
        cases absent
      · cases after.symm.trans found
        unfold Window.arrive
        split
        · exact ⟨taken, by simp, rfl⟩
        · exact ⟨earlier, List.mem_append_left _ member, started⟩
      · cases after.symm.trans found
        rw [moreArrivals, moreAdmitted]
        exact limited.arrive (by simp [seconds]) (arrivals_le forward) past

theorem paced_run {random : ρ} {finish : GatewayProcess ρ}
    (run : Transition.Steps (GatewayStep shuffler protobuf) { manager := { random } } trace finish)
    (forward : Forward trace) (id : SessionId) : Paced trace finish id := by
  suffices Forward trace → Paced trace finish id from this forward
  refine run.history (fun trace gateway => Forward trace → Paced trace gateway id) (fun _ => ?_) ?_
  · refine ⟨fun _ => ⟨rfl, rfl⟩, ?_, ?_⟩
    · simp [GatewayProcess.window]
    · simp [GatewayProcess.window]
  · intro trace before taken after _ paced step forward
    have turns := step_turns step.2.2
    obtain ⟨own, rfl, _⟩ := step
    exact (paced (List.pairwise_append.mp forward).1).step own forward turns

/-- What the step did with the packet that it handed to session `id`. -/
def Taken.Answers (shuffler : Shuffler ρ) (protobuf : Protobuf) (taken : Taken ρ) (id : SessionId)
    (packet : Nat × Bytes) : Prop :=
  ∃ session, taken.before.sessions[id]? = some session ∧
    if taken.admits id then
      (taken.before.update id fun _ => session.counted taken.moment.packetAt).serve shuffler taken.moment id
        (session.counted taken.moment.packetAt) (protobuf.request packet.1 packet.2) =
          .ok (taken.notes, taken.after)
    else
      taken.notes = [] ∧ ∃ placed, taken.after = (taken.before.update id fun _ => placed).push [.close id]

theorem answers_of_turns {packet : Nat × Bytes} (read : taken.packet id = some packet)
    (turns : Turns shuffler protobuf taken.before taken.event taken.moment taken.notes taken.after) :
    taken.Answers shuffler protobuf id packet := by
  obtain ⟨session, placed, found, placement, treated⟩ := turns.treated id packet read
  have admits : taken.admits id = !placed.overLimit := by
    rw [Taken.admits, read, placement]
    rfl
  refine ⟨session, found, ?_⟩
  rw [admits]
  cases limit : placed.overLimit with
  | false =>
    rw [Treated, if_neg (by simp [limit])] at treated
    exact treated
  | true =>
    rw [Treated, if_pos limit] at treated
    exact ⟨treated.1, placed, treated.2⟩

end Runs

end Doudizhu.Gateway
