import Doudizhu.Lib.Proto3Reading
import Doudizhu.Gateway.ClientRequests
import Doudizhu.Gateway.Framing
import Doudizhu.Web.WorldMoves

/-! # Requests of the page

The page writes the bytes of its requests itself: a header, and for three of the seven kinds
the fields of a message.  What it asks for depends on the button that is pressed, or on what
a timer or a handler does.  The gateway reads the frames of a socket in the order in which
they were asked for, finds in each of them the request that it was sent for, and serves that,
whatever the id of the player and the cards are.
-/

namespace Doudizhu.Web

open Game Gateway Script Proto3

variable {ρ : Type} {shuffler : Shuffler ρ}

/-! ## Requests -/

inductive Request where
  | login (playerId : PlayerId)
  | heartbeat
  | quickMatch
  | callLandlord (call : Bool)
  /-- The codes of the cards that are selected. -/
  | playCards (codes : List Int)
  | pass
  | reconnect

namespace Request

def messageId : Request → MessageId
  | .login _ => .c2sLogin
  | .heartbeat => .c2sHeartbeat
  | .quickMatch => .c2sQuickMatch
  | .callLandlord _ => .c2sCallLandlord
  | .playCards _ => .c2sPlayCards
  | .pass => .c2sPass
  | .reconnect => .c2sReconnect

/-- What the page writes behind the header. -/
def body : Request → Bytes
  | .login playerId =>
    let text := playerId.toUTF8.data.toList
    0x0a :: Page.varint text.length ++ text
  | .callLandlord true => [0x08, 0x01]
  | .callLandlord false => [0x08, 0x00]
  | .playCards codes => codes.flatMap fun card => 0x08 :: Page.varint card
  | .heartbeat | .quickMatch | .pass | .reconnect => []

def frame (request : Request) : Bytes := Page.frame request.messageId.number request.body

/-- The number that the page writes for a code: 32 bits, unsigned. -/
def unsigned (code : Int) : Nat := (code % 2 ^ 32).toNat

/-- The request that the gateway reads. -/
def read : Request → ClientRequest
  | .login playerId => .login playerId
  | .heartbeat => .heartbeat
  | .quickMatch => .quickMatch
  | .callLandlord call => .callLandlord call
  | .playCards codes => .playCards (codes.map unsigned)
  | .pass => .pass
  | .reconnect => .reconnect

/-- What a session that reads a request does.  A request may be too large, and it may be one
    too many. -/
def serve (request : Request) (shuffler : Shuffler ρ) (gateway : GatewayProcess ρ) (moment : Moment)
    (id : SessionId) (session : Session) : Except Fault (Gateway.Outcome ρ) :=
  let read := gateway.update id fun _ => { session with pendingRead := none, readInProgress := false }
  if request.frame.length > maxPacketSize then read.calls [.close id]
  else
    let counted := session.counted moment.packetAt
    let gateway := read.update id fun _ => counted
    if counted.overLimit then gateway.calls [.close id]
    else gateway.serve shuffler moment id counted (some request.read)

/-! ## Bodies -/

/-- The fields of the message. -/
def fields : Request → List (Nat × Content Bytes)
  | .login playerId => [(1, .bytes playerId.toUTF8.data.toList)]
  | .callLandlord call => [(1, .number call.toNat)]
  | .playCards codes => codes.map fun code => (1, .number (unsigned code))
  | .heartbeat | .quickMatch | .pass | .reconnect => []

theorem frame_length (request : Request) : request.frame.length = 6 + request.body.length := by
  simp [frame, Page.frame, uint32, uint16]
  omega

section Bodies

variable {request : Request}

theorem unsigned_lt (code : Int) : unsigned code < 2 ^ 32 := by
  unfold unsigned
  omega

theorem pageVarint_eq {value : Nat} (small : value < 2 ^ 32) : Page.varint value = varint value := by
  have same : ((value : Int) % 2 ^ 32).toNat = value := by omega
  rw [Page.varint, same]

theorem tag_one : tag 1 0 = [0x08] ∧ tag 1 2 = [0x0a] := by decide

/-- What the page writes by hand are the fields of the message, if it fits in a packet. -/
theorem body_fields (fits : request.frame.length ≤ maxPacketSize) :
    request.body = writeFields id request.fields := by
  have most : maxPacketSize < 2 ^ 32 := by decide
  have size := frame_length request
  obtain ⟨number, bytes⟩ := tag_one
  cases request with
  | login playerId =>
    have short : playerId.toUTF8.data.toList.length < 2 ^ 32 := by
      simp only [body, List.cons_append, List.length_cons, List.length_append] at size
      omega
    simp only [body, fields, pageVarint_eq short, writeFields_cons, writeFields_nil, Content.wireType,
      Content.write, Content.payload, bytes, List.append_nil, id]
    rfl
  | callLandlord call =>
    cases call <;> simp [body, fields, Content.wireType, Content.write, number, varint_small]
  | playCards codes =>
    simp only [body, fields, writeFields, List.flatMap_map, Content.wireType, Content.write, number]
    rfl
  | heartbeat | quickMatch | pass | reconnect => rfl

theorem fields_readable (fits : request.frame.length ≤ maxPacketSize) :
    ∀ field ∈ request.fields, Readable id field := by
  have most : maxPacketSize < 2 ^ 32 := by decide
  have size := frame_length request
  cases request with
  | login playerId =>
    have short : playerId.toUTF8.data.toList.length < 2 ^ 64 := by
      simp only [body, List.cons_append, List.length_cons, List.length_append] at size
      omega
    intro field member
    rw [List.mem_singleton.mp member]
    exact ⟨by decide, by decide, short⟩
  | callLandlord call =>
    intro field member
    rw [List.mem_singleton.mp member]
    cases call <;> exact ⟨by decide, by decide, by decide⟩
  | playCards codes =>
    intro field member
    obtain ⟨code, _, rfl⟩ := List.mem_map.mp member
    have small := unsigned_lt code
    exact ⟨by decide, by decide, by omega⟩
  | heartbeat | quickMatch | pass | reconnect =>
    intro field member
    cases member

/-- The gateway reads the fields of the request. -/
theorem read_body (fits : request.frame.length ≤ maxPacketSize) :
    readFields request.body =
      some (request.fields.map fun (number, content) => (number, content.value id)) := by
  rw [body_fields fits, readFields_written (fields_readable fits)]

theorem fromUTF8_toUTF8 (text : String) : String.fromUTF8? ⟨text.toUTF8.data.toList.toArray⟩ = some text :=
  dif_pos text.isValidUTF8

theorem numbersOf_codes (codes : List Int) :
    numbersOf 1 (codes.map fun code => (1, .number (unsigned code))) = some (codes.map unsigned) := by
  have values : codes.mapM (fun code => some [unsigned code]) = some (codes.map fun code => [unsigned code]) :=
    List.mapM_pure
  unfold numbersOf
  rw [List.mapM_map]
  refine (congrArg (fun found => found.bind fun values => some (values.flatten.map (· % 2 ^ 32))) values).trans ?_
  rw [Option.bind_some, ← List.flatMap_def, List.map_flatMap, ← List.flatMap_pure_eq_map unsigned]
  congr 2
  funext code
  rw [List.map_singleton, Nat.mod_eq_of_lt (unsigned_lt code)]
  rfl

end Bodies

/-! ## Packets -/

section Packets

variable {request : Request} {gateway : GatewayProcess ρ} {moment : Moment} {id : SessionId} {session : Session}

/-- The gateway finds the request in the packet. -/
theorem request_read (fits : request.frame.length ≤ maxPacketSize) :
    WireFormat.generated.request request.messageId.number request.body = some request.read := by
  have bytes := read_body fits
  cases request with
  | login playerId =>
    have text : WireFormat.generated.parseLogin (login playerId).body = some playerId := by
      simp only [WireFormat.generated, bytes, Option.bind_some]
      exact congrArg (fun text => text.bind some) (fromUTF8_toUTF8 playerId)
    simp [Protobuf.request, messageId, MessageId.number, text, read]
  | callLandlord call =>
    have parsed : WireFormat.generated.parseCallLandlord (callLandlord call).body = some call := by
      simp only [WireFormat.generated, bytes, Option.map_some]
      cases call <;> rfl
    simp [Protobuf.request, messageId, MessageId.number, parsed, read]
  | playCards codes =>
    have parsed : WireFormat.generated.parsePlayCards (playCards codes).body = some (codes.map unsigned) := by
      simp only [WireFormat.generated, bytes, Option.bind_some, fields, List.map_map]
      exact numbersOf_codes codes
    simp [Protobuf.request, messageId, MessageId.number, parsed, read]
  | heartbeat | quickMatch | pass | reconnect =>
    have parsed : WireFormat.parses [] = true := rfl
    simp [Protobuf.request, messageId, MessageId.number, body, WireFormat.generated, parsed, read]

theorem number_lt (id : MessageId) : id.number < 2 ^ 16 := (Web.number_lt id).trans (by decide)

/-- The header of a request that fits. -/
theorem frame_header (fits : request.frame.length ≤ maxPacketSize) :
    (PacketCodec.headerBytes request.frame).bind PacketCodec.decodeHeader =
      some { packetSize := request.frame.length, messageId := request.messageId.number } := by
  have most : maxPacketSize < 2 ^ 32 := by decide
  have size := frame_length request
  have decoded := @PacketCodec.decode_encode
    { packetSize := 6 + request.body.length, messageId := request.messageId.number }
    (Nat.le_add_right ..) (by dsimp only; omega) (number_lt _)
  rw [size, ← decoded]
  rfl

/-- Nothing is read of one that does not fit: its size is not in the header, or too large. -/
theorem frame_oversized (large : maxPacketSize < request.frame.length) :
    ∀ header ∈ (PacketCodec.headerBytes request.frame).bind PacketCodec.decodeHeader,
      header.packetSize ≠ request.frame.length ∨ header.packetSize > maxPacketSize := by
  intro header _
  omega

theorem serve_eq (found : gateway.sessions[id]? = some session) (waits : session.pendingRead = some .frame) :
    gateway.handle shuffler WireFormat.generated moment (.frameRead id (some request.frame)) =
      request.serve shuffler gateway moment id session := by
  simp only [GatewayProcess.handle, found, waits, ne_eq, not_true_eq_false, if_false,
    GatewayProcess.frameRead, GatewayProcess.handleWebSocketPacket, serve]
  by_cases large : maxPacketSize < request.frame.length
  · rw [if_pos large]
    split
    · rfl
    · next header decoded => rw [if_pos (frame_oversized large header decoded)]
  · have fits := not_lt.mp large
    have small : ¬ (request.frame.length ≠ request.frame.length ∨ request.frame.length > maxPacketSize) := by
      omega
    rw [frame_header fits, if_neg large]
    dsimp only
    rw [if_neg small]
    have rest : request.frame.drop PacketCodec.headerSize = request.body := rfl
    rw [rest, dispatch_eq, request_read fits]
    rfl

end Packets

end Request

/-! ## What the page asks for -/

/-- What the page asks for when something happens. -/
def Page.requests (page : Page) : Label → List Request
  | .clicked .login => [.login page.playerId]
  | .clicked .heartbeat | .heartbeatDue => [.heartbeat]
  | .clicked .quickMatch | .clicked .nextGame => [.quickMatch]
  | .clicked .call => [.callLandlord true]
  | .clicked .decline => [.callLandlord false]
  | .clicked .play => [.playCards page.browser.selectedCards]
  | .clicked .pass => [.pass]
  | .clicked .reconnect => [.reconnect]
  -- a socket that opens, and the answer to a login, after a connection was lost
  | .opened _ => if page.browser.reconnectAfterLogin then [.login page.playerId] else []
  | .received index _ =>
    if page.browser.reconnectAfterLogin ∧ (page.sockets[index]?.bind fun socket =>
        socket.downstream.head?.map messageIdOf) = some 2 then [.reconnect]
    else []
  | _ => []

/-- The page sends to this socket, and it is open. -/
def Page.talks (page : Page) (index : Nat) : Bool :=
  page.socket = some index && page.sockets[index]?.any fun socket => socket.readyState = .opened

/-- What is asked for on a socket. -/
def Act.asks (act : Act ρ) (index : Nat) : List Request :=
  if act.after.page.talks index then act.before.page.requests act.label else []

def Label.reads (label : Label) (index : Nat) : Bool :=
  match label with
  | .read other _ _ => other = index
  | _ => false

/-- The frames that the gateway has yet to read from a socket. -/
def Page.frames (page : Page) (index : Nat) : List Bytes :=
  (page.sockets[index]?.map fun socket => socket.upstream.map Sent.frame).getD []

section Pages

variable {page next : Page} {index other : Nat} {change : Socket → Socket} {automatic : Bool}

theorem frames_update (page : Page) (index other : Nat) (change : Socket → Socket) :
    (page.update index change).frames other =
      if index = other then (page.sockets[other]?.map fun socket => (change socket).upstream.map Sent.frame).getD []
      else page.frames other := by
  rw [Page.frames, socket_update, Option.map_map]
  split
  · next same =>
    subst same
    simp [Function.comp_def]
  · simp [Page.frames, Function.comp_def]

theorem frames_update_same (same : ∀ socket, (change socket).upstream = socket.upstream) :
    (page.update index change).frames other = page.frames other := by
  rw [frames_update]
  split
  · simp only [same]
    rfl
  · rfl

theorem frames_connect (page : Page) (index : Nat) : page.connect.frames index = page.frames index := by
  unfold Page.connect
  split
  · rfl
  · rw [Page.frames, Page.frames, List.getElem?_append]
    split
    · rfl
    · next outside =>
      rw [List.getElem?_eq_none (not_lt.mp outside), List.getElem?_singleton]
      split <;> rfl

theorem send_talks {messageId : Nat} {body : Bytes} :
    (page.send automatic messageId body).talks index = page.talks index := by
  unfold Page.send
  split
  · rfl
  · rw [Page.talks, socket_update, Option.any_map]
    congr 2
    funext socket
    split
    · split <;> rfl
    · rfl

/-- From one page to the next the requests are sent, where the page talks. -/
def Sends (page next : Page) (requests : List Request) : Prop :=
  ∀ index, next.frames index =
    page.frames index ++ (if next.talks index then requests else []).map Request.frame

theorem Sends.nothing (same : ∀ index, next.frames index = page.frames index) : Sends page next [] := by
  intro index
  simp [same]

theorem Sends.after {earlier : Page} {requests : List Request} (sends : Sends page next requests)
    (same : ∀ index, page.frames index = earlier.frames index) : Sends earlier next requests := by
  intro index
  rw [sends, same]

/-- The request goes to the socket that the page talks to, if there is one. -/
theorem sends_send (page : Page) (request : Request) :
    Sends page (page.send automatic request.messageId.number request.body) [request] := by
  intro index
  rw [send_talks]
  unfold Page.send Page.talks
  split
  next none => simp [none]
  next current some =>
    rw [frames_update]
    split
    next same =>
      subst same
      rw [Page.frames]
      cases found : page.sockets[current]? with
      | none => simp
      | some socket =>
        by_cases opened : socket.readyState = .opened
        · simp [opened, some, Request.frame]
        · simp [opened]
    next apart => simp [some, apart]

theorem sends_onopen (page : Page) (index : Nat) :
    Sends page (page.onopen index) (page.requests (.opened index)) := by
  have opened : ∀ other, (page.update index fun socket => { socket with readyState := .opened }).frames other =
      page.frames other := fun other => frames_update_same fun _ => rfl
  unfold Page.onopen Page.requests
  dsimp only [Page.update]
  split
  · exact (sends_send _ (.login page.playerId)).after opened
  · exact .nothing opened

theorem sends_onmessage (page : Page) (now : Int) (bytes : Bytes) :
    Sends page (page.onmessage now bytes)
      (if page.browser.reconnectAfterLogin ∧ messageIdOf bytes = 2 then [.reconnect] else []) := by
  unfold Page.onmessage
  by_cases login : messageIdOf bytes = 2
  · rw [onmessage_login login]
    have sent := congrArg (·.2.2) (@applyLogin_flags { page.browser with sent := [] })
    dsimp only [Browser.flags] at sent
    simp only [sent, login, and_true]
    split
    · exact (sends_send _ .reconnect).after fun _ => rfl
    · exact .nothing fun _ => rfl
  · rw [if_neg fun both => login both.2]
    split
    · next browser handled =>
      have sent := congrArg (·.2.2) (onmessage_flags login handled)
      dsimp only [Browser.flags] at sent
      rw [sent]
      exact .nothing fun _ => rfl
    · exact .nothing fun _ => rfl
    · exact .nothing fun _ => rfl

theorem sends_click (page : Page) (button : Button) :
    Sends page (page.click button) (page.requests (.clicked button)) := by
  cases button with
  | connect => exact .nothing fun index => frames_connect _ index
  | login => exact sends_send page (.login page.playerId)
  | heartbeat => exact sends_send page .heartbeat
  | quickMatch | nextGame => exact sends_send page .quickMatch
  | call => exact sends_send page (.callLandlord true)
  | decline => exact sends_send page (.callLandlord false)
  | play => exact sends_send page (.playCards page.browser.selectedCards)
  | pass => exact sends_send page .pass
  | reconnect => exact sends_send page .reconnect

end Pages

section Moves

variable {before after : World ρ} {label : Label}

theorem sends_move (move : WorldMove shuffler before label after) (unread : ∀ index, label.reads index = false) :
    Sends before.page after.page (before.page.requests label) := by
  cases move with
  | typed | selected | event => exact .nothing fun _ => rfl
  | clicked => exact sends_click _ _
  | heartbeatDue => exact sends_send _ .heartbeat
  | reconnectDue => exact .nothing fun index => frames_connect _ index
  | accepted | written => exact .nothing fun _ => frames_update_same fun _ => rfl
  | opened => exact sends_onopen _ _
  | @closed index =>
    refine .nothing fun other => ?_
    have closed : (before.page.update index fun socket =>
        { socket with readyState := .closed, downstream := [] }).frames other = before.page.frames other :=
      frames_update_same fun _ => rfl
    rw [← closed, Page.frames, (onclose_spec before.page index).1]
    rfl
  | @received index now socket bytes rest found _ downstream =>
    have head : (before.page.sockets[index]?.bind fun socket => socket.downstream.head?.map messageIdOf) =
        some (messageIdOf bytes) := by
      rw [found, Option.bind_some, downstream]
      rfl
    rw [Page.requests, head]
    simp only [Option.some.injEq]
    exact (sends_onmessage _ now bytes).after fun _ => frames_update_same fun _ => rfl
  | @read index =>
    have own := unread index
    simp [Label.reads] at own

/-- The frame that is read goes, and what is asked for comes. -/
theorem move_frames (move : WorldMove shuffler before label after) (index : Nat) :
    ∃ gone kept, gone.length = (if label.reads index then 1 else 0) ∧
      before.page.frames index = gone ++ kept ∧
      after.page.frames index = kept ++ (Act.asks ⟨before, label, after⟩ index).map Request.frame := by
  by_cases read : ∃ other moment later, label = .read other moment later
  · obtain ⟨other, moment, later, rfl⟩ := read
    have nothing : Act.asks ⟨before, .read other moment later, after⟩ index = [] := ite_self []
    rw [nothing, List.map_nil]
    cases move with
    | @read _ _ _ socket id sent rest session gateway found _ upstream =>
      rw [frames_update]
      by_cases own : other = index
      · subst own
        exact ⟨[sent.frame], rest.map Sent.frame, by simp [Label.reads], by simp [Page.frames, found, upstream],
          by simp [found]⟩
      · exact ⟨[], before.page.frames index, by simp [Label.reads, own], rfl, by simp [own]⟩
  · have unread : ∀ index, label.reads index = false := by
      intro index
      cases label with
      | read other moment later => exact absurd ⟨other, moment, later, rfl⟩ read
      | _ => rfl
    exact ⟨[], before.page.frames index, by simp [unread], rfl, sends_move move unread index⟩

end Moves

/-! ## Runs -/

def asked (trace : List (Act ρ)) (index : Nat) : List Request := trace.flatMap fun act => act.asks index

/-- How many frames of the socket the gateway has read. -/
def reads (trace : List (Act ρ)) (index : Nat) : Nat := trace.countP fun act => act.label.reads index

/-- The gateway reads what is asked for in its order. -/
def Ordered (trace : List (Act ρ)) (page : Page) : Prop :=
  ∀ index, reads trace index ≤ (asked trace index).length ∧
    ((asked trace index).map Request.frame).drop (reads trace index) = page.frames index

section Runs

variable {random : ρ} {trace : List (Act ρ)} {finish : World ρ}

theorem ordered_run
    (run : Transition.Steps (WorldStep shuffler) { gateway := { manager := { random } } } trace finish) :
    Ordered trace finish.page := by
  refine run.history (fun trace world => Ordered trace world.page) ?_ ?_
  · intro index
    simp [reads, asked, Page.frames]
  · intro trace before act after _ ordered step index
    obtain ⟨rfl, rfl, done⟩ := step
    obtain ⟨few, order⟩ := ordered index
    obtain ⟨gone, kept, count, front, rest⟩ := move_frames (world_cases done) index
    have more : asked (trace ++ [act]) index = asked trace index ++ act.asks index := by simp [asked]
    have next : reads (trace ++ [act]) index = reads trace index + gone.length := by
      rw [reads, List.countP_append, List.countP_singleton, count]
      rfl
    rw [front] at order
    have inside : reads trace index + gone.length ≤ ((asked trace index).map Request.frame).length := by
      have length := congrArg List.length order
      rw [List.length_drop, List.length_append] at length
      rw [List.length_map] at length ⊢
      omega
    rw [more, next, rest, List.map_append, List.drop_append_of_le_length inside, ← List.drop_drop, order,
      List.drop_left]
    refine ⟨?_, rfl⟩
    rw [List.length_map] at inside
    rw [List.length_append]
    omega

/-- The next frame of a socket is that of the request that is next. -/
theorem Ordered.next {page : Page} {index : Nat} {frame : Bytes} {rest : List Bytes}
    (ordered : Ordered trace page) (upstream : page.frames index = frame :: rest) :
    ∃ request, (asked trace index)[reads trace index]? = some request ∧ frame = request.frame := by
  have order := (ordered index).2
  have first := congrArg (·[0]?) (order.trans upstream)
  rw [List.getElem?_drop, Nat.add_zero, List.getElem?_map, List.getElem?_cons_zero, Option.map_eq_some_iff] at first
  obtain ⟨request, found, same⟩ := first
  exact ⟨request, found, same.symm⟩

end Runs

end Doudizhu.Web
