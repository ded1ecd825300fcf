import Doudizhu.Gateway.Deliveries
import Doudizhu.Web.MessageView
import Doudizhu.Web.WorldMoves

/-! # Delivery to the page

What the gateway passes to a session of the page comes to the socket at the other end: each
message once and in order, until the connection is lost.  The page shows each of them as
`shows` says.
-/

namespace Doudizhu.Web

open Game Gateway Script Transfer

variable {ρ : Type} {shuffler : Shuffler ρ}

/-! ## Events of the gateway -/

/-- The events that the gateway takes. -/
def Act.inputs (act : Act ρ) : List (Event × Moment) :=
  match act.label with
  | .accepted _ moment => handling (.accepted .webSocket) moment []
  | .read index moment later =>
    match act.before.page.sockets[index]? with
    | some { session := some id, upstream := sent :: _, .. } => handling (.frameRead id (some sent.frame)) moment later
    | _ => []
  | .written index moment later =>
    match act.before.page.sockets[index]? with
    | some { session := some id, .. } => handling (.written id true) moment later
    | _ => []
  | .event event moment later => handling event moment later
  | _ => []

/-- The steps of the gateway in a run. -/
def Driven (shuffler : Shuffler ρ) (start : GatewayProcess ρ) (trace : List (Act ρ)) (steps : List (Taken ρ))
    (gateway : GatewayProcess ρ) : Prop :=
  start.run shuffler WireFormat.generated (trace.flatMap Act.inputs) = .ok (steps, gateway)

/-! ## Lines -/

/-- The session at the other end, the state, and what the page has not received yet. -/
abbrev Line : Type := Option SessionId × ReadyState × List Bytes

def Socket.line (socket : Socket) : Line := (socket.session, socket.readyState, socket.downstream)

def Page.line (page : Page) (index : Nat) : Option Line := page.sockets[index]?.map Socket.line

/-- What the page receives over a socket. -/
def Act.receives (act : Act ρ) (index : Nat) : List Bytes :=
  match act.label with
  | .received socket _ =>
    if socket = index then ((act.before.page.sockets[index]?).bind fun socket => socket.downstream.head?).toList
    else []
  | _ => []

/-- What the page has received over a socket, the oldest first. -/
def received (index : Nat) (trace : List (Act ρ)) : List Bytes := trace.flatMap fun act => act.receives index

section Lines

variable {page next : Page} {index other : Nat} {change : Socket → Socket}

theorem line_sockets (same : next.sockets = page.sockets) (index : Nat) : next.line index = page.line index := by
  rw [Page.line, same, Page.line]

theorem line_update : (page.update index change).line other =
    page.sockets[other]?.map fun socket => (if index = other then change socket else socket).line := by
  rw [Page.line, socket_update, Option.map_map]
  rfl

theorem line_own {socket : Socket} (found : page.sockets[index]? = some socket) :
    (page.update index change).line index = some (change socket).line := by
  rw [line_update, found, Option.map_some, if_pos rfl]

theorem line_apart (differ : other ≠ index) : (page.update index change).line other = page.line other := by
  rw [line_update, Page.line]
  simp only [if_neg differ.symm]

theorem line_update_same (same : ∀ socket, (change socket).line = socket.line) :
    (page.update index change).line other = page.line other := by
  rw [line_update, Page.line]
  congr 1
  funext socket
  split
  · exact same socket
  · rfl

theorem line_send (automatic : Bool) (messageId : Nat) (body : Bytes) (index : Nat) :
    (page.send automatic messageId body).line index = page.line index := by
  unfold Page.send
  split
  · rfl
  · apply line_update_same
    intro socket
    split <;> rfl

theorem line_connect (index : Nat) : page.connect.line index = page.line index ∨
    page.line index = none ∧ page.connect.line index = some (none, .connecting, []) := by
  unfold Page.connect
  split
  · exact .inl rfl
  · rcases lt_trichotomy index page.sockets.length with inside | rfl | outside
    · exact .inl (by simp [Page.line, List.getElem?_append_left inside])
    · exact .inr (by simp [Page.line, Socket.line])
    · refine .inl ?_
      have beyond : (page.sockets ++ [({} : Socket)])[index]? = none := by
        rw [List.getElem?_eq_none_iff, List.length_append, List.length_singleton]
        exact outside
      have past : page.sockets[index]? = none := List.getElem?_eq_none outside.le
      simp [Page.line, beyond, past]

theorem line_onmessage (now : Int) (bytes : Bytes) (index : Nat) :
    (page.onmessage now bytes).line index = page.line index := by
  have sends : ∀ (ids : List Nat) (page : Page),
      (ids.foldl (fun page messageId => page.send true messageId []) page).line index = page.line index := by
    intro ids
    induction ids with
    | nil => exact fun page => rfl
    | cons id ids inductionHypothesis =>
      intro page
      rw [List.foldl_cons, inductionHypothesis, line_send]
  unfold Page.onmessage
  split
  · rw [sends]
    rfl
  · rfl
  · rfl

theorem line_click (button : Button) (index : Nat) : (page.click button).line index = page.line index ∨
    page.line index = none ∧ (page.click button).line index = some (none, .connecting, []) := by
  cases button with
  | connect => exact @line_connect { page with shouldReconnect := true } index
  | play =>
    refine .inl ((line_sockets rfl index).trans (line_send false 9 _ index))
  | login | heartbeat | quickMatch | call | decline | pass | reconnect | nextGame =>
    exact .inl (line_send false _ _ index)

theorem line_onopen (page : Page) (index other : Nat) : (page.onopen index).line other =
    (page.update index fun socket => { socket with readyState := .opened }).line other := by
  unfold Page.onopen
  dsimp only
  split
  · exact (line_send true 1 _ other).trans (line_sockets rfl other)
  · exact line_sockets rfl other

end Lines

/-! ## What is on its way -/

/-- What was delivered over a line are the packets that the page received, and then those that
    it has not received yet; once the connection is closed, some may be missing. -/
structure Delivered (trace : List (Act ρ)) (steps : List (Taken ρ)) (world : World ρ) : Prop where
  known : ∀ index id rest, world.page.line index = some (some id, rest) → id < world.gateway.sessions.length
  apart : ∀ index other id rest last, world.page.line index = some (some id, rest) →
    world.page.line other = some (some id, last) → index = other
  fresh : ∀ index, (∀ id rest, world.page.line index ≠ some (some id, rest)) → received index trace = [] ∧
    ∀ state packets, world.page.line index = some (none, state, packets) → packets = []
  order : ∀ index id state packets, world.page.line index = some (some id, state, packets) →
    ∃ rest, received index trace ++ rest = (outbox WireFormat.generated id steps).delivered ∧
      (state ≠ .closed → rest = packets)

section Steps

variable {trace : List (Act ρ)} {steps more : List (Taken ρ)} {act : Act ρ} {ends : SessionId → List Bytes}

/-- How a line goes on: what comes to it is delivered, and what goes from it is received. -/
structure LineMove (act : Act ρ) (ends : SessionId → List Bytes) (index : Nat) : Prop where
  old : ∀ id state packets, act.before.page.line index = some (some id, state, packets) →
    ∃ later left, act.after.page.line index = some (some id, later, left) ∧
      (later = .closed → act.receives index = []) ∧
      (later ≠ .closed → state ≠ .closed ∧ packets ++ ends id = act.receives index ++ left)
  new : ∀ id state packets, (∀ old rest, act.before.page.line index ≠ some (some old, rest)) →
    act.after.page.line index = some (some id, state, packets) →
    id = act.before.gateway.sessions.length ∧ id < act.after.gateway.sessions.length ∧ packets = [] ∧
      ∃ moment, act.label = .accepted index moment
  unused : (∀ id rest, act.before.page.line index ≠ some (some id, rest)) → act.receives index = [] ∧
    ∀ state packets, act.after.page.line index = some (none, state, packets) → packets = []

theorem Delivered.empty {world : World ρ} {index : Nat} {state : ReadyState} {packets : List Bytes}
    (delivered : Delivered trace steps world) (was : world.page.line index = some (none, state, packets)) :
    packets = [] := by
  refine (delivered.fresh index fun id rest found => ?_).2 state packets was
  rw [was] at found
  cases found

theorem received_snoc (index : Nat) : received index (trace ++ [act]) = received index trace ++ act.receives index := by
  rw [received, List.flatMap_append, List.flatMap_singleton, ← received]

theorem Delivered.step (delivered : Delivered trace steps act.before)
    (lines : ∀ index, LineMove act ends index)
    (grown : act.before.gateway.sessions.length ≤ act.after.gateway.sessions.length)
    (ended : ∀ id, (outbox WireFormat.generated id (steps ++ more)).delivered =
      (outbox WireFormat.generated id steps).delivered ++ ends id)
    (silent : ∀ id, act.before.gateway.sessions.length ≤ id →
      (outbox WireFormat.generated id steps).delivered = [] ∧ ends id = []) :
    Delivered (trace ++ [act]) (steps ++ more) act.after := by
  -- a line with a session had it before, or has just been accepted
  have sources : ∀ index id rest, act.after.page.line index = some (some id, rest) →
      (∃ old, act.before.page.line index = some (some id, old)) ∨
        (∀ old rest, act.before.page.line index ≠ some (some old, rest)) := by
    intro index id rest found
    by_cases had : ∃ old before, act.before.page.line index = some (some old, before)
    · obtain ⟨old, ⟨state, packets⟩, was⟩ := had
      obtain ⟨later, left, now, _⟩ := (lines index).old old state packets was
      rw [now] at found
      cases found
      exact .inl ⟨_, was⟩
    · push Not at had
      exact .inr had
  constructor
  · intro index id rest found
    obtain ⟨old, was⟩ | without := sources index id rest found
    · exact (delivered.known index id old was).trans_le grown
    · obtain ⟨state, packets⟩ := rest
      exact ((lines index).new id state packets without found).2.1
  · intro index other id rest last found same
    obtain ⟨old, was⟩ | without := sources index id rest found
    · obtain ⟨_, wasSame⟩ | withoutSame := sources other id last same
      · exact delivered.apart index other id _ _ was wasSame
      · obtain ⟨state, packets⟩ := last
        have fresh := ((lines other).new id state packets withoutSame same).1
        exact absurd fresh (Nat.ne_of_lt (delivered.known index id old was))
    · obtain ⟨state, packets⟩ := rest
      obtain ⟨fresh, _, _, _, label⟩ := (lines index).new id state packets without found
      obtain ⟨old, wasSame⟩ | withoutSame := sources other id last same
      · exact absurd fresh (Nat.ne_of_lt (delivered.known other id old wasSame))
      · obtain ⟨state, packets⟩ := last
        obtain ⟨_, _, _, _, labelSame⟩ := (lines other).new id state packets withoutSame same
        rw [label] at labelSame
        cases labelSame
        rfl
  · intro index without
    have before : ∀ id rest, act.before.page.line index ≠ some (some id, rest) := by
      intro id ⟨state, packets⟩ was
      obtain ⟨later, left, now, _⟩ := (lines index).old id state packets was
      exact without id _ now
    obtain ⟨nothing, empty⟩ := (lines index).unused before
    rw [received_snoc, (delivered.fresh index before).1, nothing]
    exact ⟨rfl, empty⟩
  · intro index id state packets found
    obtain ⟨⟨was, waiting⟩, old⟩ | without := sources index id _ found
    · obtain ⟨rest, order, open_⟩ := delivered.order index id was waiting old
      obtain ⟨later, left, now, closed, goes⟩ := (lines index).old id was waiting old
      rw [now] at found
      cases found
      rw [received_snoc, ended, ← order]
      by_cases shut : state = .closed
      · rw [closed shut, List.append_nil, List.append_assoc]
        exact ⟨rest ++ ends id, rfl, absurd shut⟩
      · obtain ⟨stays, split⟩ := goes shut
        refine ⟨packets, ?_, fun _ => rfl⟩
        rw [open_ stays, List.append_assoc, List.append_assoc, split]
    · obtain ⟨fresh, _, empty, _⟩ := (lines index).new id state packets without found
      obtain ⟨nothing, none⟩ := silent id fresh.ge
      have unreceived := (delivered.fresh index without).1
      rw [received_snoc, unreceived, ((lines index).unused without).1, ended, nothing, none, empty]
      exact ⟨[], rfl, fun _ => rfl⟩

variable {index : Nat}

/-- Nothing happens to the line, or it is a new one. -/
theorem LineMove.still (delivered : Delivered trace steps act.before) (quiet : act.receives index = [])
    (silent : ∀ id rest, act.before.page.line index = some (some id, rest) → ends id = [])
    (same : act.after.page.line index = act.before.page.line index ∨
      act.before.page.line index = none ∧ act.after.page.line index = some (none, .connecting, [])) :
    LineMove act ends index where
  old id state packets was := by
    obtain same | ⟨none, _⟩ := same
    · refine ⟨state, packets, same.trans was, fun _ => quiet, fun stays => ⟨stays, ?_⟩⟩
      rw [silent id _ was, quiet, List.append_nil, List.nil_append]
    · rw [none] at was
      cases was
  new id state packets without found := by
    obtain same | ⟨_, opened⟩ := same
    · exact absurd (same.symm.trans found) (without id _)
    · rw [opened] at found
      cases found
  unused without := by
    refine ⟨quiet, fun state packets found => ?_⟩
    obtain same | ⟨_, opened⟩ := same
    · exact (delivered.fresh index without).2 state packets (same.symm.trans found)
    · rw [opened] at found
      cases found
      rfl

/-- A socket changes. -/
theorem LineMove.changed {session after : Option SessionId} {state later : ReadyState} {packets left : List Bytes}
    (was : act.before.page.line index = some (session, state, packets))
    (now : act.after.page.line index = some (after, later, left))
    (known : ∀ id, session = some id → after = some id ∧ (later = .closed → act.receives index = []) ∧
      (later ≠ .closed → state ≠ .closed ∧ packets ++ ends id = act.receives index ++ left))
    (unknown : session = none → act.receives index = [] ∧ left = [] ∧ ∀ id, after = some id →
      id = act.before.gateway.sessions.length ∧ id < act.after.gateway.sessions.length ∧
        ∃ moment, act.label = .accepted index moment) : LineMove act ends index where
  old id old waiting found := by
    rw [was] at found
    cases found
    obtain ⟨rfl, goes⟩ := known id rfl
    exact ⟨later, left, now, goes⟩
  new id new waiting without found := by
    rw [now] at found
    cases found
    cases session with
    | some old => exact absurd was (without old _)
    | none =>
      obtain ⟨_, empty, accepted⟩ := unknown rfl
      obtain ⟨fresh, inside, label⟩ := accepted id rfl
      exact ⟨fresh, inside, empty, label⟩
  unused without := by
    cases session with
    | some old => exact absurd was (without old _)
    | none =>
      obtain ⟨nothing, empty, _⟩ := unknown rfl
      refine ⟨nothing, fun state packets found => ?_⟩
      rw [now] at found
      cases found
      exact empty

end Steps

/-! ## Moves -/

section Moves

variable {random : ρ} {trace : List (Act ρ)} {steps : List (Taken ρ)} {before after : World ρ}

/-- The page does something, and the gateway does nothing. -/
theorem Delivered.page {label : Label} {page : Page} (delivered : Delivered trace steps before)
    (run : Transition.Steps (GatewayStep shuffler WireFormat.generated) { manager := { random } } steps
      before.gateway)
    (lines : ∀ index, LineMove ⟨before, label, { before with page }⟩ (fun _ => []) index) :
    Delivered (trace ++ [⟨before, label, { before with page }⟩]) steps { before with page } := by
  have kept := @Delivered.step _ trace steps [] ⟨before, label, { before with page }⟩ (fun _ => []) delivered lines
    le_rfl (by simp) fun id beyond => ⟨nothing_delivered run (List.getElem?_eq_none beyond), rfl⟩
  rwa [List.append_nil] at kept

/-- The gateway takes an event. -/
theorem Delivered.takes {label : Label} {event : Event} {moment : Moment} {later : List Moment}
    {more : List (Taken ρ)} (sound : ManagerInv before.gateway.manager) (delivered : Delivered trace steps before)
    (run : Transition.Steps (GatewayStep shuffler WireFormat.generated) { manager := { random } } steps
      before.gateway)
    (ran : before.gateway.run shuffler WireFormat.generated (handling event moment later) =
      .ok (more, after.gateway))
    (lines : ∀ index, LineMove ⟨before, label, after⟩ (before.gateway.ends event) index) :
    Delivered (trace ++ [⟨before, label, after⟩]) (steps ++ more) after := by
  refine @Delivered.step _ trace steps more ⟨before, label, after⟩ (before.gateway.ends event) delivered lines
    (sessions_grow sound ran) (fun id => delivered_handler run ran) fun id beyond => ?_
  have absent := List.getElem?_eq_none beyond
  exact ⟨nothing_delivered run absent, ends_absent absent event⟩

theorem delivered_move {label : Label} (inv : WorldInv before) (delivered : Delivered trace steps before)
    (run : Transition.Steps (GatewayStep shuffler WireFormat.generated) { manager := { random } } steps
      before.gateway)
    (move : WorldMove shuffler before label after) :
    ∃ more, before.gateway.run shuffler WireFormat.generated (Act.inputs ⟨before, label, after⟩) =
        .ok (more, after.gateway) ∧
      Delivered (trace ++ [⟨before, label, after⟩]) (steps ++ more) after := by
  cases move with
  | typed | selected =>
    refine ⟨[], rfl, ?_⟩
    rw [List.append_nil]
    exact delivered.page run fun index => .still delivered rfl (fun _ _ _ => rfl) (.inl rfl)
  | @clicked button =>
    refine ⟨[], rfl, ?_⟩
    rw [List.append_nil]
    exact delivered.page run fun index => .still delivered rfl (fun _ _ _ => rfl) (line_click button index)
  | heartbeatDue =>
    refine ⟨[], rfl, ?_⟩
    rw [List.append_nil]
    exact delivered.page run fun index =>
      .still delivered rfl (fun _ _ _ => rfl) (.inl (line_send false 3 [] index))
  | reconnectDue =>
    refine ⟨[], rfl, ?_⟩
    rw [List.append_nil]
    exact delivered.page run fun index => .still delivered rfl (fun _ _ _ => rfl)
      (@line_connect { before.page with reconnectTimer := false } index)
  | @opened index socket found connecting =>
    refine ⟨[], rfl, ?_⟩
    rw [List.append_nil]
    have was : before.page.line index = some socket.line := by rw [Page.line, found, Option.map_some]
    refine delivered.page run fun other => ?_
    by_cases own : other = index
    · subst own
      refine .changed was ((line_onopen ..).trans (line_own found)) ?_ ?_
      · intro id accepted
        refine ⟨accepted, fun closed => ?_, fun _ => ⟨?_, List.append_nil _⟩⟩
        · cases closed
        · rw [connecting]
          nofun
      · intro fresh
        rw [Socket.line, fresh] at was
        refine ⟨rfl, delivered.empty was, fun id accepted => ?_⟩
        rw [fresh] at accepted
        cases accepted
    · exact .still delivered rfl (fun _ _ _ => rfl) (.inl ((line_onopen ..).trans (line_apart own)))
  | @closed index socket found stays =>
    refine ⟨[], rfl, ?_⟩
    rw [List.append_nil]
    have was : before.page.line index = some socket.line := by rw [Page.line, found, Option.map_some]
    have lines := line_sockets (onclose_spec before.page index).1
    refine delivered.page run fun other => ?_
    by_cases own : other = index
    · subst own
      refine .changed was ((lines other).trans (line_own found)) ?_ ?_
      · exact fun id accepted => ⟨accepted, fun _ => rfl, fun stays => absurd rfl stays⟩
      · intro fresh
        refine ⟨rfl, rfl, fun id accepted => ?_⟩
        rw [fresh] at accepted
        cases accepted
    · exact .still delivered rfl (fun _ _ _ => rfl) (.inl ((lines other).trans (line_apart own)))
  | @received index now socket bytes rest found opened downstream =>
    refine ⟨[], rfl, ?_⟩
    rw [List.append_nil]
    have was : before.page.line index = some socket.line := by rw [Page.line, found, Option.map_some]
    refine delivered.page run fun other => ?_
    by_cases own : other = index
    · subst own
      have receives (after : World ρ) : Act.receives ⟨before, .received other now, after⟩ other = [bytes] := by
        simp [Act.receives, found, downstream]
      refine .changed was ((line_onmessage ..).trans (line_own found)) ?_ ?_
      · intro id accepted
        refine ⟨accepted, fun closed => ?_, fun _ => ⟨?_, ?_⟩⟩
        · rw [opened] at closed
          cases closed
        · rw [opened]
          nofun
        · rw [receives, downstream, List.append_nil]
          rfl
      · intro fresh
        rw [Socket.line, fresh] at was
        have empty := delivered.empty was
        rw [downstream] at empty
        cases empty
    · have quiet (after : World ρ) : Act.receives ⟨before, .received index now, after⟩ other = [] :=
        if_neg fun same => own same.symm
      exact .still delivered (quiet _) (fun _ _ _ => rfl) (.inl ((line_onmessage ..).trans (line_apart own)))
  | @accepted index moment socket gateway found fresh takes =>
    obtain ⟨more, ran, _⟩ := takes
    have was : before.page.line index = some socket.line := by rw [Page.line, found, Option.map_some]
    have nothing : ∀ id, before.gateway.ends (.accepted .webSocket) id = [] := fun id => ends_other (by simp)
    refine ⟨more, ran, delivered.takes inv.rooms.sound run ran fun other => ?_⟩
    by_cases own : other = index
    · subst own
      refine .changed was (line_own found) ?_ ?_
      · intro id accepted
        rw [fresh] at accepted
        cases accepted
      · intro _
        rw [Socket.line, fresh] at was
        refine ⟨rfl, delivered.empty was, fun id accepted => ?_⟩
        cases accepted
        exact ⟨rfl, sessions_accepted inv.rooms.sound inv.idle ran, moment, rfl⟩
    · exact .still delivered rfl (fun id _ _ => nothing id) (.inl (line_apart own))
  | @read index moment later socket id sent rest session gateway found accepted upstream placed waits takes =>
    obtain ⟨more, ran, _⟩ := takes
    have inputs (after : World ρ) : Act.inputs ⟨before, .read index moment later, after⟩ =
        handling (.frameRead id (some sent.frame)) moment later := by
      simp only [Act.inputs, found]
      obtain ⟨readyState, owner, up, down⟩ := socket
      cases accepted
      cases upstream
      rfl
    have nothing : ∀ other, before.gateway.ends (.frameRead id (some sent.frame)) other = [] :=
      fun other => ends_other (by simp)
    rw [inputs]
    refine ⟨more, ran, delivered.takes inv.rooms.sound run ran fun other => ?_⟩
    refine .still delivered rfl (fun id _ _ => nothing id) (.inl ?_)
    exact line_update_same fun socket => rfl
  | @written index moment later socket id session packet queue gateway found accepted placed writing waiting takes =>
    obtain ⟨more, ran, _⟩ := takes
    have was : before.page.line index = some socket.line := by rw [Page.line, found, Option.map_some]
    have inputs (after : World ρ) : Act.inputs ⟨before, .written index moment later, after⟩ =
        handling (.written id true) moment later := by
      simp only [Act.inputs, found]
      obtain ⟨readyState, owner, up, down⟩ := socket
      cases accepted
      rfl
    have ended : before.gateway.ends (.written id true) id = [packet] := by
      simp [GatewayProcess.ends, placed, inv.idle, writing, waiting]
    rw [inputs]
    refine ⟨more, ran, delivered.takes inv.rooms.sound run ran fun other => ?_⟩
    by_cases own : other = index
    · subst own
      refine .changed was (line_own found) ?_ ?_
      · intro same accept
        rw [accepted] at accept
        cases accept
        refine ⟨accepted, fun _ => rfl, fun stays => ⟨stays, ?_⟩⟩
        rw [ended]
        rfl
      · intro fresh
        rw [accepted] at fresh
        cases fresh
    · refine .still delivered rfl (fun other _ line => ends_other ?_) (.inl (line_apart own))
      -- no two sockets have one session
      rintro same
      cases same
      rw [Socket.line, accepted] at was
      exact own (delivered.apart _ _ _ _ _ line was)
  | @event event moment later gateway apart takes =>
    obtain ⟨more, ran, _⟩ := takes
    refine ⟨more, ran, delivered.takes inv.rooms.sound run ran fun index => ?_⟩
    refine .still delivered rfl (fun id rest line => ends_other ?_) (.inl rfl)
    rintro rfl
    obtain ⟨socket, found, own⟩ := Option.map_eq_some_iff.mp line
    exact apart id rfl socket (List.mem_of_getElem? found) (congrArg Prod.fst own)

end Moves

/-! ## Runs -/

theorem send_browser (page : Page) (automatic : Bool) (messageId : Nat) (body : Bytes) :
    (page.send automatic messageId body).browser = page.browser := by
  unfold Page.send
  split <;> rfl

/-- The page shows a message that it receives. -/
theorem onmessage_message {page : Page} {message : ServerMessage} {now : Int}
    (fits : (frame message).length ≤ maxPacketSize) :
    (page.onmessage now (frame message)).browser =
      { { page.browser with sent := [] }.shows now message with sent := [] } := by
  have sends : ∀ (ids : List Nat) (page : Page),
      (ids.foldl (fun page messageId => page.send true messageId []) page).browser = page.browser := by
    intro ids
    induction ids with
    | nil => exact fun page => rfl
    | cons id ids inductionHypothesis =>
      intro page
      rw [List.foldl_cons, inductionHypothesis, send_browser]
  unfold Page.onmessage
  rw [onmessage_shows fits (Nat.lt_succ_self _)]
  dsimp only
  rw [sends]

section Runs

variable {random : ρ} {trace : List (Act ρ)} {finish : World ρ}

theorem driven (run : Transition.Steps (WorldStep shuffler) { gateway := { manager := { random } } } trace finish) :
    ∃ steps, Driven shuffler { manager := { random } } trace steps finish.gateway ∧ WorldInv finish ∧
      Delivered trace steps finish := by
  refine run.history (fun trace world => ∃ steps, Driven shuffler { manager := { random } } trace steps
    world.gateway ∧ WorldInv world ∧ Delivered trace steps world) ?_ ?_
  · refine ⟨[], rfl, worldInv_start random, ?_, ?_, ?_, ?_⟩ <;> simp [Page.line, received]
  · intro trace before act after earlier ⟨steps, ran, inv, delivered⟩ step
    obtain ⟨rfl, rfl, done⟩ := step
    obtain ⟨next, same, goes⟩ := @WorldInv.step _ shuffler _ inv act.label
    rw [done] at same
    cases same
    obtain ⟨more, rest, kept⟩ := delivered_move inv delivered (GatewayProcess.run_steps ran) (world_cases done)
    refine ⟨steps ++ more, ?_, goes _ rfl, kept⟩
    rw [Driven, List.flatMap_append, List.flatMap_singleton]
    exact (GatewayProcess.worksOff shuffler WireFormat.generated).append ran rest

/-- The page shows every message that it receives, and its handler returns; and of the messages
    that the gateway passes to one of its sessions it receives the first ones, each once and in
    their order. -/
theorem page_shows_messages (shuffler : Shuffler ρ) (random : ρ) (labels : List Label) :
    ∃ trace finish steps, ({ gateway := { manager := { random } } } : World ρ).run shuffler labels =
        .ok (trace, finish) ∧
      Driven shuffler { manager := { random } } trace steps finish.gateway ∧
      (∀ act ∈ trace, ∀ index now, act.label = .received index now → ∃ message,
        act.receives index = [frame message] ∧
        { act.before.page.browser with sent := [] }.onmessage ((frame message).length + 1) now (frame message) =
          .returned ({ act.before.page.browser with sent := [] }.shows now message) ∧
        act.after.page.browser =
          { { act.before.page.browser with sent := [] }.shows now message with sent := [] }) ∧
      ∀ index (socket : Socket) id, finish.page.sockets[index]? = some socket → socket.session = some id →
        ∃ messages, received index trace = messages.map frame ∧
          messages <+: (messagesTo id steps).filter (fitting WireFormat.generated) := by
  have start := worldInv_start random
  obtain ⟨trace, finish, ran, run⟩ := world_runs shuffler start labels
  obtain ⟨steps, drives, _, delivered⟩ := driven run
  refine ⟨trace, finish, steps, ran, drives, ?_, ?_⟩
  · intro act member index now label
    obtain ⟨sound, done⟩ := sound_act start run member
    have move := world_cases done
    obtain ⟨before, _, after⟩ := act
    dsimp only at label sound move ⊢
    subst label
    cases move with
    | @received _ _ socket bytes rest found _ downstream =>
      obtain ⟨small, message, rfl⟩ := sound.page.received index socket found bytes (downstream ▸ List.mem_cons_self)
      have small : (frame message).length ≤ maxPacketSize := by simpa [fits] using small
      refine ⟨message, by simp [Act.receives, found, downstream], ?_, onmessage_message small⟩
      exact onmessage_shows small (Nat.lt_succ_self _)
  · intro index socket id found accepted
    have line : finish.page.line index = some (some id, socket.readyState, socket.downstream) := by
      rw [Page.line, found, Option.map_some, Socket.line, accepted]
    obtain ⟨rest, order, _⟩ := delivered.order index id _ _ line
    have sent : received index trace <+:
        ((messagesTo id steps).filter (fitting WireFormat.generated)).map frame :=
      .trans ⟨rest, order⟩ (delivered_messages (GatewayProcess.run_steps drives))
    rw [List.prefix_iff_eq_take, ← List.map_take] at sent
    exact ⟨_, sent, List.take_prefix _ _⟩

end Runs

end Doudizhu.Web
