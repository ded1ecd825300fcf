import Doudizhu.Gateway.Reconnects
import Doudizhu.Web.Connection
import Doudizhu.Web.SettlementView
import Doudizhu.Web.TurnView

/-! # Automatic reconnection

A page that has logged in and loses its connection connects again, logs in, and asks for its
game with C2S_RECONNECT.  The gateway closes the new session again when there is no game, and
the page starts over.  No handler of the page throws on the way (`handlers_return`).
-/

namespace Doudizhu.Web

open Game Gateway Script Proto3

variable {ρ : Type} {shuffler : Shuffler ρ}

/-! ## What the handlers read -/

def syncFields (roomId seat phase currentSeat landlordSeat : Nat) (cards : List Nat) :
    List (Nat × Content Bytes) :=
  uintFields 1 roomId ++ (uintFields 2 seat ++ (uintFields 3 phase ++ (uintFields 4 currentSeat ++
    (uintFields 5 landlordSeat ++ packedFields 6 cards))))

theorem sync_upcoming (roomId seat phase currentSeat landlordSeat : Nat) (cards : List Nat) :
    Upcoming id (frame (.reconnectSync roomId seat phase currentSeat landlordSeat cards))
      (frame (.reconnectSync roomId seat phase currentSeat landlordSeat cards)).length 6 []
      (syncFields roomId seat phase currentSeat landlordSeat cards) := by
  apply upcoming_frame
  · simp [syncFields, WireFormat.serialize]
  · intro field member
    simp only [syncFields, List.mem_append, mem_uintFields, mem_packedFields] at member
    obtain ⟨_, rfl⟩ | ⟨_, rfl⟩ | ⟨_, rfl⟩ | ⟨_, rfl⟩ | ⟨_, rfl⟩ | ⟨_, rfl⟩ := member <;> simp

def timeoutFields (actorSeat phase currentSeat : Nat) : List (Nat × Content Bytes) :=
  uintFields 1 actorSeat ++ (uintFields 2 phase ++ uintFields 3 currentSeat)

theorem timeout_upcoming (actorSeat phase currentSeat : Nat) :
    Upcoming id (frame (.timeoutAction actorSeat phase currentSeat))
      (frame (.timeoutAction actorSeat phase currentSeat)).length 6 []
      (timeoutFields actorSeat phase currentSeat) := by
  apply upcoming_frame
  · simp [timeoutFields, WireFormat.serialize]
  · intro field member
    simp only [timeoutFields, List.mem_append, mem_uintFields] at member
    obtain ⟨_, rfl⟩ | ⟨_, rfl⟩ | ⟨_, rfl⟩ := member <;> simp

section Frames

variable {browser : Browser} {fuel : Nat} {now : Int}

/-- No message of the gateway makes a handler throw, and none takes more turns than its frame
    has bytes. -/
theorem frame_handled {message : ServerMessage} (small : (frame message).length ≤ maxPacketSize)
    (enough : (frame message).length < fuel) :
    ∃ after, browser.onmessage fuel now (frame message) = .returned after := by
  have short : (frame message).length < 2 ^ 31 := by
    have most : maxPacketSize < 2 ^ 31 := by decide
    omega
  rw [onmessage_frame]
  cases message with
  | dealCards cards seat currentSeat =>
    obtain ⟨after, shown, _⟩ := @dealCards_turn browser _ _ _ _ short enough
    exact ⟨after, shown⟩
  | playBroadcast seat cards passed currentSeat =>
    obtain ⟨after, shown, _⟩ := @playBroadcast_turn browser _ _ _ _ _ short enough
    exact ⟨after, shown⟩
  | callLandlordRet accepted currentSeat gameStarted landlordSeat actorSeat called =>
    obtain ⟨after, shown, _⟩ := @callLandlordRet_turn browser _ _ _ _ _ _ _ enough
    exact ⟨after, shown⟩
  | roomState state =>
    obtain ⟨after, shown, _⟩ := @roomState_turn browser _ now _ short enough
    rw [onmessage_frame] at shown
    exact ⟨after, shown⟩
  | reconnectSync roomId seat phase currentSeat landlordSeat cards =>
    have upcoming := sync_upcoming roomId seat phase currentSeat landlordSeat cards
    have bytes : ∀ value, (6, Content.bytes value) ∉
        syncFields roomId seat phase currentSeat landlordSeat cards := by
      simp [syncFields, mem_uintFields, mem_packedFields]
    obtain ⟨after, shown, _⟩ :=
      @showDeal_turn browser _ _ _ _ _ 6 upcoming (legible_frame upcoming bytes short) enough
    exact ⟨after, shown⟩
  | settleResult win change =>
    have field (wantedField : Int) := @readField_fields _ _ _ _ _ wantedField (settle_upcoming win change) enough
    simp only [Browser.applySettlement, field, returned_bind]
    exact ⟨_, rfl⟩
  | timeoutAction actorSeat phase currentSeat =>
    have field (wantedField : Int) := @readField_fields _ _ _ _ _ wantedField
      (timeout_upcoming actorSeat phase currentSeat) enough
    simp only [Browser.applyTimeout, field, returned_bind]
    exact ⟨_, rfl⟩
  | loginRet | heartBeatRet | matchRet | playCardsRet | passRet => exact ⟨_, rfl⟩

end Frames

/-! ## What the handlers keep -/

/-- What the page goes by when it connects again. -/
def Browser.flags (browser : Browser) : Bool × Bool × List Nat :=
  (browser.loggedIn, browser.reconnectAfterLogin, browser.sent)

section Flags

variable {browser after : Browser} {fuel : Nat} {now : Int} {bytes : Bytes}

theorem showDeal_flags {cardField : Int} (shown : browser.showDeal fuel bytes cardField = .returned after) :
    after.flags = browser.flags := by
  unfold Browser.showDeal at shown
  obtain ⟨⟨cards, seat⟩, _, shown⟩ := bind_returned.mp shown
  obtain ⟨turn, _, shown⟩ := bind_returned.mp shown
  dsimp only at shown
  -- the phase is read of room states alone
  split at shown
  · obtain ⟨phase, _, shown⟩ := bind_returned.mp shown
    rw [returned_bind] at shown
    cases shown
    simp only [Browser.flags]
    split <;> rfl
  · rw [returned_bind] at shown
    cases shown
    simp only [Browser.flags]
    split <;> rfl

theorem showRoomState_flags (shown : browser.showRoomState fuel now bytes = .returned after) :
    after.flags = browser.flags := by
  unfold Browser.showRoomState at shown
  obtain ⟨names, _, shown⟩ := bind_returned.mp shown
  obtain ⟨phase, _, shown⟩ := bind_returned.mp shown
  obtain ⟨turn, _, shown⟩ := bind_returned.mp shown
  obtain ⟨landlordSeat, _, shown⟩ := bind_returned.mp shown
  obtain ⟨seconds, _, shown⟩ := bind_returned.mp shown
  obtain ⟨bottom, _, shown⟩ := bind_returned.mp shown
  obtain ⟨lastCards, _, shown⟩ := bind_returned.mp shown
  split at shown
  · obtain ⟨seat, _, shown⟩ := bind_returned.mp shown
    cases shown
    rfl
  · cases shown
    rfl

theorem applyPlayBroadcast_flags (applied : browser.applyPlayBroadcast fuel bytes = .returned after) :
    after.flags = browser.flags := by
  unfold Browser.applyPlayBroadcast at applied
  obtain ⟨⟨seat, passed, cards⟩, _, applied⟩ := bind_returned.mp applied
  obtain ⟨turn, _, applied⟩ := bind_returned.mp applied
  cases applied
  dsimp only [Browser.flags]
  split <;> rfl

theorem applyCallLandlord_flags (applied : browser.applyCallLandlord fuel bytes = .returned after) :
    after.flags = browser.flags := by
  unfold Browser.applyCallLandlord at applied
  obtain ⟨actor, _, applied⟩ := bind_returned.mp applied
  obtain ⟨called, _, applied⟩ := bind_returned.mp applied
  obtain ⟨started, _, applied⟩ := bind_returned.mp applied
  obtain ⟨landlord, _, applied⟩ := bind_returned.mp applied
  obtain ⟨turn, _, applied⟩ := bind_returned.mp applied
  cases applied
  split <;> rfl

theorem applySettlement_flags (applied : browser.applySettlement fuel bytes = .returned after) :
    after.flags = browser.flags := by
  unfold Browser.applySettlement at applied
  obtain ⟨win, _, applied⟩ := bind_returned.mp applied
  obtain ⟨change, _, applied⟩ := bind_returned.mp applied
  cases applied
  rfl

theorem applyTimeout_flags (applied : browser.applyTimeout fuel bytes = .returned after) :
    after.flags = browser.flags := by
  unfold Browser.applyTimeout at applied
  obtain ⟨turn, _, applied⟩ := bind_returned.mp applied
  obtain ⟨phase, _, applied⟩ := bind_returned.mp applied
  obtain ⟨actor, _, applied⟩ := bind_returned.mp applied
  cases applied
  rfl

theorem applyLogin_flags : browser.applyLogin.flags =
    (true, false, browser.sent ++ if browser.reconnectAfterLogin then [14] else []) := by
  unfold Browser.applyLogin Browser.flags
  cases browser.reconnectAfterLogin <;> simp

/-- The page reads the id of the message from two bytes. -/
def messageIdOf (bytes : Bytes) : Nat := 2 ^ 8 * (bytes.getD 4 0).toNat + (bytes.getD 5 0).toNat

/-- The answer to a login. -/
theorem onmessage_login (login : messageIdOf bytes = 2) :
    browser.onmessage fuel now bytes = .returned browser.applyLogin := by
  have whole : ¬ bytes.length < 6 := by
    intro short
    have beyond : bytes.length ≤ 5 := by omega
    have last : bytes.getD 5 0 = 0 := by simp [List.getElem?_eq_none beyond]
    rw [messageIdOf, last] at login
    have zero : (0 : UInt8).toNat = 0 := rfl
    omega
  have id : 2 ^ 8 * (bytes.getD 4 0).toNat + (bytes.getD 5 0).toNat = 2 := login
  rw [Browser.onmessage, if_neg whole]
  simp only [id]
  rfl

/-- No other message changes the flags or sends anything. -/
theorem onmessage_flags (other : messageIdOf bytes ≠ 2)
    (handled : browser.onmessage fuel now bytes = .returned after) : after.flags = browser.flags := by
  unfold Browser.onmessage at handled
  split at handled
  · cases handled
  dsimp only at handled
  split at handled
  · exact showDeal_flags handled
  split at handled
  · exact showDeal_flags handled
  split at handled
  · obtain ⟨shown, deal, handled⟩ := bind_returned.mp handled
    exact (showRoomState_flags handled).trans (showDeal_flags deal)
  split at handled
  · exact applyPlayBroadcast_flags handled
  split at handled
  · exact applyCallLandlord_flags handled
  split at handled
  · exact applySettlement_flags handled
  split at handled
  · exact applyTimeout_flags handled
  split at handled
  · next login => exact absurd login other
  · cases handled
    rfl

end Flags

/-! ## What the page sends by itself -/

/-- The page has logged in, and has lost a connection. -/
def Page.Lost (page : Page) : Prop :=
  page.browser.loggedIn ∧
    ∃ (index : Nat) (socket : Socket), page.sockets[index]? = some socket ∧ socket.readyState = .closed

/-- The bytes are the packet of a message, and not too many. -/
def Framed (bytes : Bytes) : Prop := fits bytes ∧ ∃ message, bytes = frame message

/-- Only a page that has lost a connection is about to reconnect, or has sent anything by
    itself; and what it receives are packets of the gateway. -/
structure PageInv (page : Page) : Prop where
  flagged : page.browser.reconnectAfterLogin → page.Lost
  automatic : ∀ (index : Nat) (socket : Socket), page.sockets[index]? = some socket →
    ∀ sent ∈ socket.upstream, sent.automatic → page.Lost
  received : ∀ (index : Nat) (socket : Socket), page.sockets[index]? = some socket →
    ∀ bytes ∈ socket.downstream, Framed bytes

section Pages

variable {page next : Page} {index : Nat} {change : Socket → Socket} {automatic : Bool}

theorem pageInv_start : PageInv {} where
  flagged := by simp
  automatic := by simp
  received := by simp

theorem socket_update (other : Nat) : (page.update index change).sockets[other]? =
    page.sockets[other]?.map fun socket => if index = other then change socket else socket := by
  rw [Page.update, List.getElem?_modify]
  rfl

theorem Page.Lost.keep (lost : page.Lost) (sockets : next.sockets = page.sockets)
    (loggedIn : page.browser.loggedIn → next.browser.loggedIn) : next.Lost :=
  ⟨loggedIn lost.1, sockets ▸ lost.2⟩

theorem PageInv.keep (inv : PageInv page) (sockets : next.sockets = page.sockets)
    (loggedIn : page.browser.loggedIn → next.browser.loggedIn)
    (flag : next.browser.reconnectAfterLogin → page.browser.reconnectAfterLogin) : PageInv next where
  flagged set := (inv.flagged (flag set)).keep sockets loggedIn
  automatic index socket found sent member self :=
    (inv.automatic index socket (sockets ▸ found) sent member self).keep sockets loggedIn
  received index socket found := inv.received index socket (sockets ▸ found)

/-- Sockets that have closed stay closed. -/
theorem Page.Lost.update (lost : page.Lost) (closed : ∀ socket, page.sockets[index]? = some socket →
      socket.readyState = .closed → (change socket).readyState = .closed) :
    (page.update index change).Lost := by
  obtain ⟨loggedIn, other, socket, found, shut⟩ := lost
  refine ⟨loggedIn, other, if index = other then change socket else socket, ?_, ?_⟩
  · rw [socket_update, found, Option.map_some]
  · split
    · next same => exact closed socket (same ▸ found) shut
    · exact shut

theorem PageInv.update (inv : PageInv page) (closed : ∀ socket, page.sockets[index]? = some socket →
      socket.readyState = .closed → (change socket).readyState = .closed)
    (sends : ∀ socket, page.sockets[index]? = some socket → ∀ sent ∈ (change socket).upstream,
      sent ∈ socket.upstream ∨ (sent.automatic → page.Lost))
    (receives : ∀ socket, page.sockets[index]? = some socket → ∀ bytes ∈ (change socket).downstream,
      bytes ∈ socket.downstream ∨ Framed bytes) : PageInv (page.update index change) where
  flagged set := (inv.flagged set).update closed
  automatic other socket found sent member self := by
    rw [socket_update] at found
    obtain ⟨old, was, rfl⟩ := Option.map_eq_some_iff.mp found
    refine Page.Lost.update ?_ closed
    split at member
    · next same =>
      obtain earlier | new := sends old (same ▸ was) sent member
      · exact inv.automatic other old was sent earlier self
      · exact new self
    · exact inv.automatic other old was sent member self
  received other socket found bytes member := by
    rw [socket_update] at found
    obtain ⟨old, was, rfl⟩ := Option.map_eq_some_iff.mp found
    split at member
    · next same =>
      obtain earlier | framed := receives old (same ▸ was) bytes member
      · exact inv.received other old was bytes earlier
      · exact framed
    · exact inv.received other old was bytes member

theorem Page.Lost.send {messageId : Nat} {body : Bytes} (lost : page.Lost) :
    (page.send automatic messageId body).Lost := by
  unfold Page.send
  split
  · exact lost
  · apply lost.update
    intro socket _ closed
    simp [closed]

theorem PageInv.send {messageId : Nat} {body : Bytes} (inv : PageInv page)
    (allowed : automatic → page.Lost) : PageInv (page.send automatic messageId body) := by
  unfold Page.send
  split
  · exact inv
  · apply inv.update
    · intro socket _ closed
      simp [closed]
    · intro socket _ sent member
      split at member
      · exact .inl member
      · obtain earlier | new := List.mem_append.mp member
        · exact .inl earlier
        · rw [List.mem_singleton.mp new]
          exact .inr allowed
    · intro socket _ bytes member
      split at member <;> exact .inl member

theorem PageInv.connect (inv : PageInv page) : PageInv page.connect := by
  unfold Page.connect
  split
  · exact inv
  · have lost : page.Lost → ({ page with sockets := page.sockets ++ [{}], socket := some page.sockets.length } :
        Page).Lost := by
      rintro ⟨loggedIn, index, socket, found, closed⟩
      obtain ⟨inside, _⟩ := List.getElem?_eq_some_iff.mp found
      exact ⟨loggedIn, index, socket, (List.getElem?_append_left inside).trans found, closed⟩
    -- nothing has been sent over the new one
    have known : ∀ {index : Nat} {socket : Socket}, (page.sockets ++ [({} : Socket)])[index]? = some socket →
        page.sockets[index]? = some socket ∨ socket = {} := by
      intro index socket found
      rw [List.getElem?_append] at found
      split at found
      · exact .inl found
      · exact .inr (List.mem_singleton.mp (List.mem_of_getElem? found))
    refine ⟨fun set => lost (inv.flagged set), ?_, ?_⟩
    · intro index socket found sent member self
      obtain old | rfl := known found
      · exact lost (inv.automatic index socket old sent member self)
      · cases member
    · intro index socket found bytes member
      obtain old | rfl := known found
      · exact inv.received index socket old bytes member
      · cases member

theorem PageInv.onopen {socket : Socket} (inv : PageInv page) (found : page.sockets[index]? = some socket)
    (waits : socket.readyState = .connecting) : PageInv (page.onopen index) := by
  have opened : PageInv (page.update index fun socket => { socket with readyState := .opened }) := by
    apply inv.update
    · intro other same closed
      rw [found] at same
      cases same
      rw [waits] at closed
      cases closed
    · intro socket _ sent member
      exact .inl member
    · intro socket _ bytes member
      exact .inl member
  have timed : PageInv { page.update index (fun socket => { socket with readyState := .opened }) with
      heartbeatTimer := true } := opened.keep rfl id id
  unfold Page.onopen
  dsimp only
  split
  · next flag => exact timed.send fun _ => timed.flagged flag
  · exact timed

/-- What `onclose` leaves. -/
theorem onclose_spec (page : Page) (index : Nat) :
    (page.onclose index).sockets = (page.update index fun socket =>
        { socket with readyState := .closed, downstream := [] }).sockets ∧
      (page.onclose index).browser.loggedIn = page.browser.loggedIn ∧
      (page.onclose index).browser.reconnectAfterLogin =
        (page.browser.loggedIn || page.browser.reconnectAfterLogin) := by
  unfold Page.onclose Page.update
  cases loggedIn : page.browser.loggedIn <;> cases shouldReconnect : page.shouldReconnect <;>
    simp [loggedIn]

theorem PageInv.onclose {socket : Socket} (inv : PageInv page)
    (found : page.sockets[index]? = some socket) : PageInv (page.onclose index) := by
  obtain ⟨sockets, same, flag⟩ := onclose_spec page index
  have closed : (page.onclose index).sockets[index]? =
      some { socket with readyState := .closed, downstream := [] } := by
    rw [sockets, socket_update, found, Option.map_some, if_pos rfl]
  -- the socket that has just closed is the one to look for
  have lost : page.browser.loggedIn → (page.onclose index).Lost := fun loggedIn =>
    ⟨same.trans loggedIn, index, _, closed, rfl⟩
  constructor
  · intro set
    rw [flag, Bool.or_eq_true] at set
    exact lost (set.elim id fun set => (inv.flagged set).1)
  · intro other socket found sent member self
    rw [sockets, socket_update] at found
    obtain ⟨old, was, rfl⟩ := Option.map_eq_some_iff.mp found
    have earlier : sent ∈ old.upstream := by
      split at member <;> exact member
    exact lost (inv.automatic other old was sent earlier self).1
  · intro other socket found bytes member
    rw [sockets, socket_update] at found
    obtain ⟨old, was, rfl⟩ := Option.map_eq_some_iff.mp found
    split at member
    · cases member
    · exact inv.received other old was bytes member

theorem PageInv.onmessage {now : Int} {bytes : Bytes} (inv : PageInv page) :
    PageInv (page.onmessage now bytes) := by
  unfold Page.onmessage
  split
  · next browser handled =>
    by_cases login : messageIdOf bytes = 2
    case neg =>
      have same := onmessage_flags login handled
      simp only [Browser.flags, Prod.mk.injEq] at same
      obtain ⟨loggedIn, flag, sent⟩ := same
      rw [sent, List.foldl_nil]
      exact inv.keep rfl (fun set => loggedIn.trans set) fun set => flag.symm.trans set
    case pos =>
      have flags := @applyLogin_flags { page.browser with sent := [] }
      rw [Outcome.returned.inj ((onmessage_login login).symm.trans handled)] at flags
      simp only [Browser.flags, List.nil_append, Prod.mk.injEq] at flags
      obtain ⟨loggedIn, flag, sent⟩ := flags
      have kept : PageInv { page with browser := { browser with sent := [] } } :=
        inv.keep rfl (fun _ => loggedIn) fun set => by simp [flag] at set
      rw [sent]
      split
      -- C2S_RECONNECT is sent, and the flag taken back
      · next set => exact kept.send fun _ => (inv.flagged set).keep rfl fun _ => loggedIn
      · exact kept
  · exact inv
  · exact inv

theorem PageInv.click {button : Button} (inv : PageInv page) : PageInv (page.click button) := by
  have byHand : ∀ messageId body, PageInv (page.send false messageId body) :=
    fun messageId body => inv.send nofun
  cases button with
  | connect =>
    have kept : PageInv { page with shouldReconnect := true } := inv.keep rfl id id
    exact kept.connect
  | play => exact (byHand _ _).keep rfl id id
  | login | heartbeat | quickMatch | call | decline | pass | reconnect | nextGame => exact byHand _ _

end Pages

/-! ## Steps -/

/-- What holds of the system at any time. -/
structure WorldInv (world : World ρ) : Prop where
  rooms : SoundRooms world.gateway.manager
  idle : world.gateway.agenda = []
  queues : world.gateway.Queues WireFormat.generated
  page : PageInv world.page

theorem worldInv_start (random : ρ) : WorldInv ({ gateway := { manager := { random } } } : World ρ) where
  rooms := soundRooms_empty random
  idle := rfl
  queues id session found := by simp at found
  page := pageInv_start

section Steps

variable {before after : World ρ} {event : Event} {moment : Moment} {later : List Moment} {page : Page}

theorem handle_spec (handled : before.handle shuffler event moment later page = .ok (some after)) :
    ∃ trace, before.gateway.run shuffler WireFormat.generated
        ((event, moment) :: later.map fun moment => (.next, moment)) = .ok (trace, after.gateway) ∧
      after.gateway.agenda = [] ∧ after.page = page := by
  obtain ⟨⟨trace, gateway⟩, ran, handled⟩ := ExceptLoop.bind_ok.mp handled
  dsimp only at handled
  split at handled
  · next through =>
    cases handled
    exact ⟨trace, ran, through, rfl⟩
  · cases handled

/-- The step goes on, to nothing or to a sound state. -/
def Goes (result : Except Fault (Option (World ρ))) : Prop :=
  ∃ next, result = .ok next ∧ ∀ world, next = some world → WorldInv world

theorem goes_none : Goes (.ok none : Except Fault (Option (World ρ))) := by
  refine ⟨none, rfl, ?_⟩
  intro world same
  cases same

theorem WorldInv.goes (inv : WorldInv before) (sound : PageInv page) :
    Goes (.ok (some { before with page })) := by
  refine ⟨_, rfl, ?_⟩
  intro world same
  cases same
  exact ⟨inv.rooms, inv.idle, inv.queues, sound⟩

theorem WorldInv.goes_if {may : Prop} [Decidable may] (inv : WorldInv before)
    (sound : may → PageInv page) : Goes (.ok (if may then some { before with page } else none)) := by
  split
  · next may => exact inv.goes (sound may)
  · exact goes_none

theorem WorldInv.handle (inv : WorldInv before) (sound : PageInv page) :
    Goes (before.handle shuffler event moment later page) := by
  obtain ⟨trace, gateway, ran⟩ := GatewayProcess.run_goes shuffler WireFormat.generated inv.rooms.sound
    ((event, moment) :: later.map fun moment => (.next, moment))
  refine ⟨if gateway.agenda = [] then some { gateway, page } else none, ?_, ?_⟩
  · unfold World.handle
    rw [ran]
    rfl
  · intro world same
    split at same
    · next through =>
      cases same
      have queues := (GatewayProcess.run_steps ran).invariant (GatewayProcess.Queues WireFormat.generated)
        inv.queues fun _ _ _ queues step => queues_step queues step.2.2
      exact ⟨inv.rooms.run ran, through, queues, sound⟩
    · cases same

theorem WorldInv.step (inv : WorldInv before) (label : Label) : Goes (before.step shuffler label) := by
  have page := inv.page
  -- what changes of a socket is neither its state nor what was sent over it
  have plain : ∀ {index change}, (∀ socket, (change socket).readyState = socket.readyState) →
      (∀ socket, ∀ sent ∈ (change socket).upstream, sent ∈ socket.upstream) →
      (∀ socket, before.page.sockets[index]? = some socket → ∀ bytes ∈ (change socket).downstream,
        bytes ∈ socket.downstream ∨ Framed bytes) →
      PageInv (before.page.update index change) := by
    intro index change state sends receives
    exact page.update (fun socket _ closed => (state socket).trans closed)
      (fun socket _ sent member => .inl (sends socket sent member)) receives
  cases label with
  | typed text => exact inv.goes (page.keep rfl id id)
  | clicked button => exact inv.goes page.click
  | selected code => exact inv.goes_if fun _ => page.keep rfl id id
  | heartbeatDue => exact inv.goes_if fun _ => page.send nofun
  | reconnectDue =>
    have fired : PageInv { before.page with reconnectTimer := false } := page.keep rfl id id
    exact inv.goes_if fun _ => fired.connect
  | accepted index moment =>
    rw [World.step]
    split
    · exact goes_none
    split
    · exact goes_none
    · exact inv.handle (plain (fun _ => rfl) (fun _ _ member => member) fun _ _ _ member => .inl member)
  | opened index =>
    rw [World.step]
    split
    · exact goes_none
    · next socket found => exact inv.goes_if fun may => page.onopen found may.1
  | closed index =>
    rw [World.step]
    split
    · exact goes_none
    · next socket found => exact inv.goes_if fun _ => page.onclose found
  | read index moment later =>
    rw [World.step]
    split
    · exact goes_none
    next socket found =>
    split
    · next id sent rest session upstream =>
      split
      · refine inv.handle (page.update (fun _ _ closed => closed) ?_ fun _ _ _ member => .inl member)
        intro other same passed member
        rw [found] at same
        cases same
        exact .inl (upstream ▸ List.mem_cons_of_mem _ member)
      · exact goes_none
    · exact goes_none
  | written index moment later =>
    rw [World.step]
    split
    · exact goes_none
    split
    · exact goes_none
    next id _ =>
    split
    · exact goes_none
    next session placed =>
    split
    · next packet rest _ queue =>
      -- the packet is the first of the queue
      have framed : Framed packet := inv.queues id session placed packet (queue ▸ List.mem_cons_self)
      refine inv.handle (plain (fun _ => rfl) (fun _ _ member => member) ?_)
      intro socket _ bytes member
      obtain waiting | new := List.mem_append.mp member
      · exact .inl waiting
      · exact .inr (List.mem_singleton.mp new ▸ framed)
    · exact goes_none
  | received index now =>
    rw [World.step]
    split
    · exact goes_none
    next socket found =>
    split
    · next bytes rest _ downstream =>
      have taken : PageInv (before.page.update index fun socket => { socket with downstream := rest }) := by
        refine plain (fun _ => rfl) (fun _ _ member => member) ?_
        intro other same bytes member
        rw [found] at same
        cases same
        exact .inl (downstream ▸ List.mem_cons_of_mem _ member)
      exact inv.goes taken.onmessage
    · exact goes_none
  | event event moment later =>
    rw [World.step]
    split
    · exact inv.handle page
    split
    · exact goes_none
    · exact inv.handle page

end Steps

/-! ## Runs -/

def WorldStep (shuffler : Shuffler ρ) (before : World ρ) (act : Act ρ) (after : World ρ) : Prop :=
  act.before = before ∧ act.after = after ∧ before.step shuffler act.label = .ok (some after)

theorem world_runs (shuffler : Shuffler ρ) {world : World ρ} (inv : WorldInv world) (labels : List Label) :
    ∃ trace finish, world.run shuffler labels = .ok (trace, finish) ∧
      Transition.Steps (WorldStep shuffler) world trace finish := by
  induction labels generalizing world with
  | nil => exact ⟨[], world, rfl, .refl⟩
  | cons label labels inductionHypothesis =>
    obtain ⟨next, done, goes⟩ := @WorldInv.step _ shuffler _ inv label
    rw [World.run, done]
    cases next with
    | none => exact inductionHypothesis inv
    | some next =>
      obtain ⟨trace, finish, ran, run⟩ := inductionHypothesis (goes next rfl)
      have first : WorldStep shuffler world ⟨world, label, next⟩ next := ⟨rfl, rfl, done⟩
      refine ⟨⟨world, label, next⟩ :: trace, finish, ?_, (Transition.Steps.single first).trans run⟩
      simp only [bind, Except.bind, ran]

/-- Everything that happens in a run happens to a sound system. -/
theorem sound_act {world finish : World ρ} {trace : List (Act ρ)} {act : Act ρ} (inv : WorldInv world)
    (run : Transition.Steps (WorldStep shuffler) world trace finish) (member : act ∈ trace) :
    WorldInv act.before ∧ act.before.step shuffler act.label = .ok (some act.after) := by
  have kept : ∀ before (act : Act ρ) after, WorldInv before → WorldStep shuffler before act after →
      WorldInv after := by
    intro before act after sound ⟨_, _, done⟩
    obtain ⟨next, same, goes⟩ := @WorldInv.step _ shuffler _ sound act.label
    rw [done] at same
    cases same
    exact goes after rfl
  obtain ⟨before, after, sound, rfl, rfl, done⟩ := run.step_of_mem WorldInv inv kept member
  exact ⟨sound, done⟩

/-- Whatever happens, the handler of a message that the page receives returns. -/
theorem handlers_return (shuffler : Shuffler ρ) (random : ρ) (labels : List Label) :
    ∃ trace finish, ({ gateway := { manager := { random } } } : World ρ).run shuffler labels =
        .ok (trace, finish) ∧
      ∀ act ∈ trace, ∀ index now (socket : Socket) bytes rest, act.label = .received index now →
        act.before.page.sockets[index]? = some socket → socket.downstream = bytes :: rest →
        ∃ after, { act.before.page.browser with sent := [] }.onmessage (bytes.length + 1) now bytes =
          .returned after := by
  have start := worldInv_start random
  obtain ⟨trace, finish, ran, run⟩ := world_runs shuffler start labels
  refine ⟨trace, finish, ran, ?_⟩
  intro act member index now socket bytes rest _ found downstream
  have sound := (sound_act start run member).1
  obtain ⟨small, message, rfl⟩ :=
    sound.page.received index socket found bytes (downstream ▸ List.mem_cons_self)
  exact frame_handled (by simpa [fits] using small) (Nat.lt_succ_self _)

/-! ## The reconnection -/

/-- The gateway reads a C2S_RECONNECT that the page has sent by itself, over a session that
    has logged in and is open. -/
def Act.reconnecting (act : Act ρ) : Option (SessionId × Session × Moment) :=
  match act.label with
  | .read index moment _ => do
    let socket ← act.before.page.sockets[index]?
    let id ← socket.session
    let sent ← socket.upstream.head?
    let session ← act.before.gateway.sessions[id]?
    if sent.automatic ∧ sent.frame = Page.frame 14 [] ∧ session.closed = false ∧
        session.notifierToken ≠ none then
      some (id, session, moment)
    else none
  | _ => none

/-- The session is still open when C2S_RECONNECT has been handled. -/
def Act.staysOpen (act : Act ρ) : Bool :=
  act.reconnecting.all fun (id, _, _) => act.after.gateway.isOpen id

/-- The session accepts C2S_RECONNECT, and its player sits in a room that plays. -/
def Act.resumable (act : Act ρ) : Bool :=
  act.reconnecting.all fun (_, session, moment) =>
    session.accepts act.before.gateway.notifier moment.packetAt &&
      act.before.gateway.manager.plays session.playerId

section Reconnections

variable {act : Act ρ} {id : SessionId} {session : Session} {moment : Moment}

theorem reconnecting_spec (reads : act.reconnecting = some (id, session, moment)) :
    ∃ index later socket sent rest, act.label = .read index moment later ∧
      act.before.page.sockets[index]? = some socket ∧ socket.session = some id ∧
      socket.upstream = sent :: rest ∧ sent.automatic ∧ sent.frame = reconnectPacket ∧
      act.before.gateway.sessions[id]? = some session ∧ session.closed = false := by
  unfold Act.reconnecting at reads
  split at reads
  · next index moment later label =>
    obtain ⟨socket, found, reads⟩ := Option.bind_eq_some_iff.mp reads
    obtain ⟨own, accepted, reads⟩ := Option.bind_eq_some_iff.mp reads
    obtain ⟨sent, head, reads⟩ := Option.bind_eq_some_iff.mp reads
    obtain ⟨reader, placed, reads⟩ := Option.bind_eq_some_iff.mp reads
    split at reads
    · next may =>
      cases reads
      obtain ⟨rest, upstream⟩ := List.head?_eq_some_iff.mp head
      exact ⟨index, later, socket, sent, rest, label, found, accepted, upstream, may.1, may.2.1, placed,
        may.2.2.1⟩
    · cases reads
  · cases reads

/-- The page had lost a connection before. -/
theorem reconnecting_lost (inv : WorldInv act.before)
    (reads : act.reconnecting = some (id, session, moment)) : act.before.page.Lost := by
  obtain ⟨index, later, socket, sent, rest, _, found, _, upstream, automatic, _⟩ := reconnecting_spec reads
  exact inv.page.automatic index socket found sent (upstream ▸ List.mem_cons_self) automatic

theorem reconnecting_iff (inv : WorldInv act.before)
    (counted : act.before.gateway.manager.nextRoomId ≤ 2 ^ 64)
    (done : act.before.step shuffler act.label = .ok (some act.after)) :
    act.staysOpen ↔ act.resumable := by
  unfold Act.staysOpen Act.resumable
  cases reads : act.reconnecting with
  | none => simp
  | some reading =>
    obtain ⟨id, session, moment⟩ := reading
    obtain ⟨index, later, socket, sent, rest, label, found, accepted, upstream, _, packet, placed, opened⟩ :=
      reconnecting_spec reads
    rw [label, World.step, found] at done
    simp only [accepted, upstream, placed, Option.any_some, decide_eq_true_eq, packet] at done
    split at done
    · next waits =>
      obtain ⟨trace, ran, through, _⟩ := handle_spec done
      have handled := reconnect_handled inv.rooms counted inv.idle placed waits opened ran through
      simpa using handled
    · cases done

end Reconnections

/-- In every run, a page that had lost a connection and reconnects by itself ends connected,
    exactly if whenever C2S_RECONNECT is read its player sits in a room that plays, is still
    registered with the session, and has not sent too much. -/
theorem reconnection_iff (shuffler : Shuffler ρ) (random : ρ) (labels : List Label) :
    ∃ trace finish, ({ gateway := { manager := { random } } } : World ρ).run shuffler labels =
        .ok (trace, finish) ∧
      (∀ act ∈ trace, act.reconnecting.isSome → act.before.page.Lost) ∧
      ((∀ act ∈ trace, act.before.gateway.manager.nextRoomId ≤ 2 ^ 64) →
        ((∀ act ∈ trace, act.staysOpen) ↔ ∀ act ∈ trace, act.resumable)) := by
  have start := worldInv_start random
  obtain ⟨trace, finish, ran, run⟩ := world_runs shuffler start labels
  refine ⟨trace, finish, ran, ?_, ?_⟩
  · intro act member reads
    obtain ⟨⟨id, session, moment⟩, reads⟩ := Option.isSome_iff_exists.mp reads
    exact reconnecting_lost (sound_act start run member).1 reads
  · intro counted
    have each : ∀ act ∈ trace, act.staysOpen ↔ act.resumable := by
      intro act member
      obtain ⟨sound, done⟩ := sound_act start run member
      exact reconnecting_iff sound (counted act member) done
    exact forall₂_congr each

/-! ## A player without a game -/

/-- The page has lost its connection, and is about to connect and log in again. -/
def Page.waits (page : Page) : Bool :=
  page.browser.reconnectAfterLogin && page.reconnectTimer &&
    (page.socket.bind (page.sockets[·]?)).any fun socket => socket.readyState = .closed

def welcome : LoginResult := { success := true, playerId := "web-player", coins := 1000, message := "" }

/-- A socket opens. -/
def opening (index : Nat) : List Label := [
  .accepted index .still, .event (.handshaken index true) .still [], .opened index]

/-- C2S_LOGIN goes to the backend, and its answer to the page. -/
def loggingIn (index : Nat) : List Label := [
  .read index .still [], .event (.jobDone 0 welcome) .still [], .event (.loginCompleted 0) .still [.still],
  .written index .still [], .received index 0]

/-- The player logs in, and the connection is lost. -/
def lostAtOnce : List Label :=
  .clicked .connect :: opening 0 ++ .clicked .login :: loggingIn 0 ++ [.closed 0]

/-- All that the page does by itself, and what the gateway does about it. -/
def automatically : List Label :=
  .reconnectDue :: opening 1 ++ loggingIn 1 ++ [.read 1 .still [.still, .still], .closed 1]

/-- A player who is in no room comes back to where the page waits to reconnect. -/
theorem reconnection_closed : ∃ before lost trace finish,
    ({ gateway := { manager := { random := () } } } : World Unit).run .identity lostAtOnce =
        .ok (before, lost) ∧ lost.page.waits ∧
      lost.run .identity automatically = .ok (trace, finish) ∧
      ¬ (∀ act ∈ trace, act.staysOpen) ∧ finish.page.waits := by
  obtain ⟨⟨before, lost⟩, dropped, passes⟩ := ExceptLoop.exists_of_test
    (show ExceptLoop.test (fun ((_, lost) : List (Act Unit) × World Unit) => lost.page.waits &&
        ExceptLoop.test (fun ((trace, finish) : List (Act Unit) × World Unit) =>
          (trace.any fun act => !act.staysOpen) && finish.page.waits) (lost.run .identity automatically))
      (({ gateway := { manager := { random := () } } } : World Unit).run .identity lostAtOnce) = true by
    decide +kernel)
  obtain ⟨waits, passes⟩ := Bool.and_eq_true_iff.mp passes
  obtain ⟨⟨trace, finish⟩, ran, passes⟩ := ExceptLoop.exists_of_test passes
  obtain ⟨closes, again⟩ := Bool.and_eq_true_iff.mp passes
  refine ⟨before, lost, trace, finish, dropped, waits, ran, ?_, again⟩
  intro stays
  obtain ⟨act, member, closed⟩ := List.any_eq_true.mp closes
  rw [stays act member] at closed
  cases closed

end Doudizhu.Web
