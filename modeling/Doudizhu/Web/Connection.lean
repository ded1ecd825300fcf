import Doudizhu.Gateway.WireFormat
import Doudizhu.Gateway.Session
import Doudizhu.Web.Browser

/-! # The page and the gateway

The rest of the script of `index.html`: what it sends, its sockets and timers, and how it
connects again.  The page and the gateway make one system, in which the frames of each side
reach the other in order.  A connection may be lost at any time, and the two sides learn of
it on their own.  The gateway meets other clients too, of which nothing is assumed.

A button may be pressed at any time, whether or not the page has greyed it out.
-/

namespace Doudizhu.Web

open Game Gateway Script

/-! ## What the page sends -/

/-- `setUint16`, the high byte first. -/
def uint16 (value : Nat) : Bytes := [UInt8.ofNat (value / 2 ^ 8), UInt8.ofNat value]

/-- `setUint32`, the high byte first. -/
def uint32 (value : Nat) : Bytes :=
  [UInt8.ofNat (value / 2 ^ 24), UInt8.ofNat (value / 2 ^ 16), UInt8.ofNat (value / 2 ^ 8),
    UInt8.ofNat value]

namespace Page

/-- `>>>` makes an unsigned number of 32 bits of the value. -/
def varint (value : Int) : Bytes := Proto3.varint (value % 2 ^ 32).toNat

def frame (messageId : Nat) (body : Bytes) : Bytes := uint32 (6 + body.length) ++ uint16 messageId ++ body

end Page

/-! ## Sockets -/

inductive ReadyState where
  | connecting | opened | closed
deriving DecidableEq

/-- A frame that was passed to a socket. -/
structure Sent where
  frame : Bytes
  /-- A handler of a socket sent it, not a button or a timer. -/
  automatic : Bool
deriving DecidableEq

structure Socket where
  readyState : ReadyState := .connecting
  /-- The session at the other end, once the gateway has accepted. -/
  session : Option SessionId := none
  /-- What the gateway has not read yet. -/
  upstream : List Sent := []
  /-- What the page has not received yet. -/
  downstream : List Bytes := []
deriving DecidableEq

/-! ## The script -/

structure Page where
  /-- What is in the input field, trimmed. -/
  playerId : String := "web-player"
  browser : Browser := {}
  shouldReconnect : Bool := true
  heartbeatTimer : Bool := false
  reconnectTimer : Bool := false
  /-- All sockets that were made. -/
  sockets : List Socket := []
  /-- The variable `socket`, an index. -/
  socket : Option Nat := none
deriving DecidableEq

inductive Button where
  | connect | login | heartbeat | quickMatch | call | decline | play | pass | reconnect | nextGame
deriving DecidableEq

namespace Page

def update (page : Page) (index : Nat) (change : Socket → Socket) : Page :=
  { page with sockets := page.sockets.modify index change }

/-- The frame goes to the variable `socket`, whichever socket the caller belongs to. -/
def send (page : Page) (automatic : Bool) (messageId : Nat) (body : Bytes) : Page :=
  match page.socket with
  | none => page
  | some index => page.update index fun socket =>
      if socket.readyState ≠ .opened then socket
      else { socket with upstream := socket.upstream ++ [{ frame := frame messageId body, automatic }] }

def sendLogin (page : Page) (automatic : Bool) : Page :=
  let text := page.playerId.toUTF8.data.toList
  page.send automatic 1 (0x0a :: varint text.length ++ text)

def connect (page : Page) : Page :=
  if ((page.socket.bind (page.sockets[·]?)).any fun socket => socket.readyState = .opened) then page
  else { page with sockets := page.sockets ++ [{}], socket := some page.sockets.length }

def onopen (page : Page) (index : Nat) : Page :=
  let page := page.update index fun socket => { socket with readyState := .opened }
  let page := { page with heartbeatTimer := true }
  if page.browser.reconnectAfterLogin then page.sendLogin true else page

def onclose (page : Page) (index : Nat) : Page :=
  let page := page.update index fun socket => { socket with readyState := .closed, downstream := [] }
  let page := { page with heartbeatTimer := false }
  let page :=
    if page.browser.loggedIn then { page with browser.reconnectAfterLogin := true } else page
  if page.shouldReconnect then { page with reconnectTimer := true } else page

/-- A handler that throws keeps nothing here; of the frames of the gateway none makes it
    throw, and none takes more turns than it has bytes. -/
def onmessage (page : Page) (now : Int) (bytes : Bytes) : Page :=
  match { page.browser with sent := [] }.onmessage (bytes.length + 1) now bytes with
  | .returned browser =>
    browser.sent.foldl (fun page messageId => page.send true messageId [])
      { page with browser := { browser with sent := [] } }
  | .thrown _ | .unfinished => page

def click (page : Page) : Button → Page
  | .connect => { page with shouldReconnect := true }.connect
  | .login => page.sendLogin false
  | .heartbeat => page.send false 3 []
  | .quickMatch => page.send false 5 []
  | .call => page.send false 7 [0x08, 0x01]
  | .decline => page.send false 7 [0x08, 0x00]
  | .play =>
    let page := page.send false 9 (page.browser.selectedCards.flatMap fun card => 0x08 :: varint card)
    { page with browser.selectedCards := [] }
  | .pass => page.send false 11 []
  | .reconnect => page.send false 14 []
  | .nextGame => page.send false 5 []

/-- The button of a card. -/
def select (page : Page) (code : Int) : Page :=
  let selected := page.browser.selectedCards
  { page with browser.selectedCards :=
      if code ∈ selected then selected.erase code else selected ++ [code] }

end Page

/-! ## The system -/

/-- The page, and the gateway that it talks to. -/
structure World (ρ : Type) where
  gateway : GatewayProcess ρ
  page : Page := {}

/-- What happens next.  The gateway takes an event with its whole handler, whose calls find
    the clocks of `later`. -/
inductive Label where
  | typed (text : String)
  | clicked (button : Button)
  | selected (code : Int)
  | heartbeatDue
  | reconnectDue
  /-- The gateway accepts the connection of a socket. -/
  | accepted (index : Nat) (moment : Moment)
  | opened (index : Nat)
  | closed (index : Nat)
  /-- The gateway reads the next frame of a socket. -/
  | read (index : Nat) (moment : Moment) (later : List Moment)
  /-- The gateway has written its next packet to a socket. -/
  | written (index : Nat) (moment : Moment) (later : List Moment)
  | received (index : Nat) (now : Int)
  /-- Anything else that happens to the gateway. -/
  | event (event : Event) (moment : Moment) (later : List Moment)

/-- The session whose bytes the event carries. -/
def carries : Event → Option SessionId
  | .frameRead id (some _) | .written id true => some id
  | _ => none

namespace World

variable {ρ : Type} (shuffler : Shuffler ρ)

/-- The gateway takes an event.  There is no result if these steps do not end the handler. -/
def handle (world : World ρ) (event : Event) (moment : Moment) (later : List Moment) (page : Page) :
    Except Fault (Option (World ρ)) := do
  let (_, gateway) ← world.gateway.run shuffler WireFormat.generated
    ((event, moment) :: later.map fun moment => (.next, moment))
  .ok (if gateway.agenda = [] then some { gateway, page } else none)

/-- There is no result if it cannot happen. -/
def step (world : World ρ) : Label → Except Fault (Option (World ρ))
  | .typed text => .ok (some { world with page.playerId := text })
  | .clicked button => .ok (some { world with page := world.page.click button })
  | .selected code =>
    .ok (if code ∈ world.page.browser.handCodes then some { world with page := world.page.select code }
      else none)
  | .heartbeatDue =>
    .ok (if world.page.heartbeatTimer then some { world with page := world.page.send false 3 [] }
      else none)
  | .reconnectDue =>
    .ok (if world.page.reconnectTimer then
        some { world with page := { world.page with reconnectTimer := false }.connect }
      else none)
  | .accepted index moment =>
    match world.page.sockets[index]? with
    | none => .ok none
    | some socket =>
      if socket.session ≠ none then .ok none
      else world.handle shuffler (.accepted .webSocket) moment []
        (world.page.update index fun socket =>
          { socket with session := some world.gateway.sessions.length })
  | .opened index =>
    match world.page.sockets[index]? with
    | none => .ok none
    | some socket =>
      .ok (if socket.readyState = .connecting ∧ socket.session ≠ none then
          some { world with page := world.page.onopen index }
        else none)
  | .closed index =>
    match world.page.sockets[index]? with
    | none => .ok none
    | some socket =>
      .ok (if socket.readyState ≠ .closed then some { world with page := world.page.onclose index }
        else none)
  | .read index moment later =>
    match world.page.sockets[index]? with
    | none => .ok none
    | some socket =>
      match socket.session, socket.upstream with
      | some id, sent :: rest =>
        if (world.gateway.sessions[id]?.any fun session => session.pendingRead = some .frame) then
          world.handle shuffler (.frameRead id (some sent.frame)) moment later
            (world.page.update index fun socket => { socket with upstream := rest })
        else .ok none
      | _, _ => .ok none
  | .written index moment later =>
    match world.page.sockets[index]? with
    | none => .ok none
    | some socket =>
      match socket.session with
      | none => .ok none
      | some id =>
        match world.gateway.sessions[id]? with
        | none => .ok none
        | some session =>
          match session.writing, session.writeQueue with
          | true, packet :: _ =>
            world.handle shuffler (.written id true) moment later
              (world.page.update index fun socket =>
                { socket with downstream := socket.downstream ++ [packet] })
          | _, _ => .ok none
  | .received index now =>
    match world.page.sockets[index]? with
    | none => .ok none
    | some socket =>
      match socket.readyState, socket.downstream with
      | .opened, bytes :: rest =>
        .ok (some { world with page :=
          (world.page.update index fun socket => { socket with downstream := rest }).onmessage now bytes })
      | _, _ => .ok none
  | .event event moment later =>
    match carries event with
    | none => world.handle shuffler event moment later world.page
    | some id =>
      if (world.page.sockets.any fun socket => socket.session = some id) then .ok none
      else world.handle shuffler event moment later world.page

end World

/-! ## Runs -/

/-- Something that happened. -/
structure Act (ρ : Type) where
  before : World ρ
  label : Label
  after : World ρ

/-- What can happen of the labels, one after another. -/
def World.run {ρ : Type} (shuffler : Shuffler ρ) (world : World ρ) :
    List Label → Except Fault (List (Act ρ) × World ρ)
  | [] => .ok ([], world)
  | label :: labels => do
    match ← world.step shuffler label with
    | none => world.run shuffler labels
    | some next =>
      let (trace, finish) ← next.run shuffler labels
      .ok (⟨world, label, next⟩ :: trace, finish)

end Doudizhu.Web
