import Doudizhu.Lib.Freshness
import Doudizhu.Gateway.PacketSizes
import Doudizhu.Gateway.Refusals

/-! # Players see the table as it is

Whatever changes at a table, its players are handed the room state before the handler ends.
Between two handlers, the last room state that a player was handed shows the table that the
player sits at, and it was handed to the session that the player is registered at.
-/

namespace Doudizhu.Gateway

open Game

variable {ρ : Type} {shuffler : Shuffler ρ} {protobuf : Protobuf}

/-! ## What is shown -/

/-- The room state that was handed over for the player, and the session that got it. -/
def Note.shows (player : PlayerId) : Note → Option (S2CRoomState × Option SessionId)
  | .handed receiver (.roomState state) session => if receiver = player then some (state, session) else none
  | _ => none

def lastShown (notes : List Note) (player : PlayerId) : Option (S2CRoomState × Option SessionId) :=
  (notes.filterMap (Note.shows player)).getLast?

/-- The player has last been shown the table, at the session where the player is registered,
    if there is one. -/
def Shown (notes : List Note) (notifier : PlayerNotifier) (player : PlayerId) (table : S2CRoomState) : Prop :=
  ∃ state receiver, lastShown notes player = some (state, receiver) ∧ state.table = table ∧
    ∀ entry, notifier.senders.lookup player = some entry → receiver = some entry.session

def Task.shows (player : PlayerId) : Task → Bool
  | .notifyRoomState receiver | .notify receiver (.roomState _) => receiver = player
  | _ => false

def Task.closes : Task → Bool
  | .close _ => true
  | _ => false

/-- The running handler has still to show the player a room state. -/
def GatewayProcess.Due (gateway : GatewayProcess ρ) (player : PlayerId) : Prop :=
  ∃ task ∈ gateway.agenda, task.shows player

/-- A session is closed when there is nothing else to do, or there is none to close. -/
def ClosesAlone (agenda : List Task) : Prop :=
  (∃ id, agenda = [.close id]) ∨ ∀ task ∈ agenda, task.closes = false

structure Telling (notes : List Note) (gateway : GatewayProcess ρ) : Prop where
  alone : ClosesAlone gateway.agenda
  snapshots : ∀ player state, .notify player (.roomState state) ∈ gateway.agenda →
    ∀ table, gateway.manager.table player = some table → state.table = table
  fresh : Copies.Fresh gateway.manager.table (Shown notes gateway.notifier) gateway.Due

section Shown

variable {notes more : List Note} {notifier : PlayerNotifier} {player : PlayerId} {table : S2CRoomState}

theorem lastShown_quiet (nothing : more.filterMap (Note.shows player) = []) :
    lastShown (notes ++ more) player = lastShown notes player := by
  rw [lastShown, List.filterMap_append, nothing, List.append_nil]
  rfl

/-- Who is registered at another session no longer, has been shown the same. -/
theorem Shown.quiet {after : PlayerNotifier} (shown : Shown notes notifier player table)
    (nothing : more.filterMap (Note.shows player) = [])
    (senders : ∀ entry, after.senders.lookup player = some entry → notifier.senders.lookup player = some entry) :
    Shown (notes ++ more) after player table := by
  obtain ⟨state, receiver, last, same, registered⟩ := shown
  exact ⟨state, receiver, (lastShown_quiet nothing).trans last, same,
    fun entry found => registered entry (senders entry found)⟩

theorem shown_handed {state : S2CRoomState} (same : state.table = table) :
    Shown (notes ++ [.handed player (.roomState state)
      ((notifier.senders.lookup player).map NotifierEntry.session)]) notifier player table := by
  refine ⟨state, (notifier.senders.lookup player).map NotifierEntry.session, ?_, same, ?_⟩
  · simp [lastShown, Note.shows]
  · intro entry found
    rw [found]
    rfl

theorem shows_other {receiver : PlayerId} {message : ServerMessage} {session : Option SessionId}
    (differ : player ≠ receiver) : [Note.handed receiver message session].filterMap (Note.shows player) = [] := by
  cases message with
  | roomState state => simp [Note.shows, Ne.symm differ]
  | _ => rfl

end Shown

/-! ## Calls -/

section Calls

variable {before after : GatewayProcess ρ} {moment : Moment} {notes more : List Note} {task : Task}
  {tasks rest : List Task}

/-- The rooms show nothing new, and what the call leaves to do shows and closes nothing. -/
structure Passes (before after : GatewayProcess ρ) (tasks rest : List Task) : Prop where
  left : after.agenda = tasks ++ rest
  quiet : ∀ added ∈ tasks, added.closes = false ∧ ∀ player, added.shows player = false
  reveals : Reveals before.manager after.manager []
  senders : ∀ player entry, after.notifier.senders.lookup player = some entry →
    before.notifier.senders.lookup player = some entry

theorem Passes.calls (manager : after.manager = before.manager) (notifier : after.notifier = before.notifier)
    (left : after.agenda = tasks ++ rest)
    (quiet : ∀ added ∈ tasks, added.closes = false ∧ ∀ player, added.shows player = false) :
    Passes before after tasks rest := by
  refine ⟨left, quiet, ?_, ?_⟩
  · rw [manager]
    exact .refl _ _
  · intro player entry found
    rwa [notifier] at found

theorem Reveals.still {first second : RoomManager ρ} (reveals : Reveals first second []) {player : PlayerId}
    {table : S2CRoomState} (sees : second.table player = some table) : first.table player = some table :=
  (reveals player table sees).resolve_left (by simp)

/-- What is left, once it is known who has been shown what. -/
theorem Telling.goes (telling : Telling notes before) (agenda : before.agenda = task :: rest)
    (opens : task.closes = false) (passes : Passes before after tasks rest)
    (fresh : Copies.Fresh before.manager.table (Shown more after.notifier) after.Due) : Telling more after where
  alone := by
    obtain ⟨id, single⟩ | none := telling.alone
    · rw [agenda] at single
      cases single
      cases opens
    · right
      intro other member
      rw [passes.left] at member
      obtain added | old := List.mem_append.mp member
      · exact (passes.quiet other added).1
      · exact none other (by simp [agenda, old])
  snapshots player state member table sees := by
    rw [passes.left] at member
    obtain added | old := List.mem_append.mp member
    · have silent := (passes.quiet _ added).2 player
      simp [Task.shows] at silent
    · exact telling.snapshots player state (by simp [agenda, old]) table (passes.reveals.still sees)
  fresh := fresh.change (fun player table sees => .inr (passes.reveals.still sees)) (fun _ due => due)
    fun _ _ shown => .inr shown

theorem due_rest (agenda : before.agenda = task :: rest) (left : after.agenda = tasks ++ rest)
    {player : PlayerId} (silent : task.shows player = false) (due : before.Due player) : after.Due player := by
  obtain ⟨other, member, shows⟩ := due
  rw [agenda] at member
  obtain rfl | old := List.mem_cons.mp member
  · rw [silent] at shows
    cases shows
  · exact ⟨other, by simp [left, old], shows⟩

/-- A call that shows nothing. -/
theorem Telling.passes (telling : Telling notes before) (agenda : before.agenda = task :: rest)
    (opens : task.closes = false) (silent : ∀ player, task.shows player = false)
    (passes : Passes before after tasks rest) (nothing : ∀ player, more.filterMap (Note.shows player) = []) :
    Telling (notes ++ more) after :=
  telling.goes agenda opens passes <| telling.fresh.change (fun _ _ sees => .inr sees)
    (fun player due => due_rest agenda passes.left (silent player) due)
    fun player _ shown => .inr (shown.quiet (nothing player) (passes.senders player))

/-- A call that shows one player the table, or finds that the player sits at none. -/
theorem Telling.shows (telling : Telling notes before) (agenda : before.agenda = task :: rest)
    (opens : task.closes = false) {player : PlayerId} (own : ∀ other, other ≠ player → task.shows other = false)
    (passes : Passes before after tasks rest)
    (others : ∀ other, other ≠ player → more.filterMap (Note.shows other) = [])
    (shown : ∀ table, before.manager.table player = some table →
      Shown (notes ++ more) after.notifier player table) : Telling (notes ++ more) after :=
  telling.goes agenda opens passes <| telling.fresh.tell player shown
    (fun other differ due => due_rest agenda passes.left (own other differ) due)
    fun other _ differ shown => shown.quiet (others other differ) (passes.senders other)

/-- What is handed over goes to the session that is registered. -/
theorem send_spec {player : PlayerId} {message : ServerMessage} (left : before.agenda = rest)
    (done : before.send player message = .ok (notes, after)) :
    notes = [.handed player message ((before.notifier.senders.lookup player).map NotifierEntry.session)] ∧
      after.notifier = before.notifier ∧ ∃ tasks, Passes before after tasks rest := by
  unfold GatewayProcess.send at done
  split at done
  · next nobody =>
    cases done
    refine ⟨by rw [nobody]; rfl, rfl, [], ?_⟩
    exact .calls rfl rfl (left.trans (List.nil_append _).symm) (by simp)
  · next entry found =>
    cases done
    refine ⟨by rw [found]; rfl, rfl, [.sendPacket entry.session message], ?_⟩
    refine .calls rfl rfl ?_ (by simp [Task.closes, Task.shows])
    rw [GatewayProcess.push, left]

/-- The player is shown the table. -/
theorem send_shows {player : PlayerId} {state : S2CRoomState} (telling : Telling notes before)
    (agenda : before.agenda = task :: rest) (opens : task.closes = false)
    (own : ∀ other, other ≠ player → task.shows other = false)
    (done : ({ before with agenda := rest } : GatewayProcess ρ).send player (.roomState state) =
      .ok (more, after))
    (current : ∀ table, before.manager.table player = some table → state.table = table) :
    Telling (notes ++ more) after := by
  obtain ⟨rfl, notifier, tasks, left, quiet, reveals, senders⟩ := send_spec rfl done
  refine telling.shows agenda opens own ⟨left, quiet, reveals, senders⟩ (fun _ => shows_other) ?_
  intro table sees
  rw [notifier]
  exact shown_handed (current table sees)

theorem notify_telling {player : PlayerId} {message : ServerMessage} (telling : Telling notes before)
    (agenda : before.agenda = .notify player message :: rest)
    (done : ({ before with agenda := rest } : GatewayProcess ρ).send player message = .ok (more, after)) :
    Telling (notes ++ more) after := by
  by_cases snapshot : ∃ state, message = .roomState state
  · obtain ⟨state, rfl⟩ := snapshot
    refine send_shows telling agenda rfl ?_ done ?_
    · intro other differ
      simp [Task.shows, Ne.symm differ]
    · exact telling.snapshots player state (by simp [agenda])
  · obtain ⟨rfl, _, tasks, left, quiet, reveals, senders⟩ := send_spec rfl done
    refine telling.passes agenda rfl ?_ ⟨left, quiet, reveals, senders⟩ ?_
    · intro other
      cases message with
      | roomState state => exact absurd ⟨state, rfl⟩ snapshot
      | _ => rfl
    · intro other
      cases message with
      | roomState state => exact absurd ⟨state, rfl⟩ snapshot
      | _ => rfl

theorem notifyRoomState_telling {player : PlayerId} (holds : ManagerInv before.manager)
    (telling : Telling notes before) (agenda : before.agenda = .notifyRoomState player :: rest)
    (done : ({ before with agenda := rest } : GatewayProcess ρ).perform protobuf moment
      (.notifyRoomState player) = .ok (more, after)) : Telling (notes ++ more) after := by
  have own : ∀ other, other ≠ player → (Task.notifyRoomState player).shows other = false := by
    intro other differ
    simp [Task.shows, Ne.symm differ]
  obtain ⟨state, read, done⟩ := ExceptLoop.bind_ok.mp done
  have sees := roomState_table holds read
  cases state with
  | none =>
    cases done
    have passes : Passes before { before with agenda := rest } [] rest := .calls rfl rfl rfl (by simp)
    refine telling.shows agenda rfl own passes (fun _ _ => rfl) ?_
    intro table found
    rw [sees] at found
    cases found
  | some state =>
    refine send_shows telling agenda rfl own done ?_
    intro table found
    rw [sees] at found
    exact Option.some.inj found

/-- Only the table of the player who leaves changes, and it is in the snapshots. -/
theorem snapshots_show {manager : RoomManager ρ} (holds : ManagerInv manager) {player : PlayerId} {now : Time}
    {state : Option RoomState}
    (read : (manager.markOffline player moment.now).roomState now player = .ok state) :
    (∀ other shown, .notify other (.roomState shown) ∈ snapshots state →
      (manager.markOffline player moment.now).table other = some shown.table) ∧
    ∀ other table, (manager.markOffline player moment.now).table other = some table →
      (∃ shown, .notify other (.roomState shown) ∈ snapshots state) ∨ manager.table other = some table := by
  have away : ManagerInv (manager.markOffline player moment.now) := holds.markOffline _ _
  have flag : ∀ told, (∀ roomId room round, manager.rooms.lookup roomId = some room →
      room.round = some round → player ∈ room.playerIds → room.playerIds ⊆ told) →
      Reveals manager (manager.markOffline player moment.now) told :=
    fun told => reveals_flag (markOffline_rooms ..) (markOffline_playerRooms ..) fun other differ =>
      find_markOffline differ moment.now
  cases state with
  | none =>
    have nowhere := roomState_table away read
    refine ⟨by simp [snapshots], fun other table sees => .inr ((flag [] ?_).still sees)⟩
    intro roomId room round found started member
    have seated := table_member away (by rwa [markOffline_rooms]) started member
    rw [nowhere] at seated
    cases seated
  | some state =>
    obtain ⟨roomId, room, round, found, member, started, same, players⟩ := roomState_seats away read
    constructor
    · intro other shown listed
      obtain ⟨info, among, rfl, rfl⟩ : ∃ info ∈ state.players, info.playerId = other ∧
          encodeRoomState state = shown := by simpa [snapshots] using listed
      rw [same]
      exact table_member away found started (players ▸ List.mem_map_of_mem among)
    · intro other table sees
      have own : ∀ otherId otherRoom otherRound, manager.rooms.lookup otherId = some otherRoom →
          otherRoom.round = some otherRound → player ∈ otherRoom.playerIds →
          otherRoom.playerIds ⊆ room.playerIds := by
        intro otherId otherRoom _ otherFound _ inside
        rw [← markOffline_rooms manager player moment.now] at otherFound
        obtain rfl := away.unique found member otherFound inside
        rw [found] at otherFound
        cases otherFound
        exact List.Subset.refl _
      refine (flag room.playerIds own other table sees).imp_left fun mate => ?_
      rw [← players] at mate
      obtain ⟨info, among, rfl⟩ := List.mem_map.mp mate
      exact ⟨encodeRoomState state, List.mem_map.mpr ⟨info, among, rfl⟩⟩

/-- A session that closes has its player shown to be away, if there is a game. -/
theorem close_telling {id : SessionId} (holds : ManagerInv before.manager) (telling : Telling notes before)
    (agenda : before.agenda = [.close id])
    (done : ({ before with agenda := [] } : GatewayProcess ρ).close moment id = .ok (more, after)) :
    Telling (notes ++ more) after := by
  -- nobody was due to be shown anything
  have settled : ∀ player table, before.manager.table player = some table →
      Shown notes before.notifier player table := by
    intro player table sees
    refine telling.fresh.settled ?_ sees
    rintro other ⟨task, member, shows⟩
    rw [agenda, List.mem_singleton] at member
    cases member
    cases shows
  obtain ⟨rfl, notifier, ⟨manager, left⟩ | ⟨player, now, state, manager, read, left⟩⟩ := close_spec rfl done
  · rw [List.append_nil]
    refine ⟨.inr (by simp [left]), by simp [left], ?_⟩
    rw [manager, notifier]
    exact fun player table sees => .inr (settled player table sees)
  · rw [List.append_nil] at left
    rw [manager] at read
    obtain ⟨current, seen⟩ := snapshots_show holds read
    have listed : ∀ {other : PlayerId} {shown : S2CRoomState},
        Task.notify other (.roomState shown) ∈ after.agenda ↔
          .notify other (.roomState shown) ∈ snapshots state := by simp [left]
    rw [List.append_nil]
    refine ⟨.inr ?_, ?_, ?_⟩
    · intro task member
      rw [left] at member
      obtain snapshot | finish := List.mem_append.mp member
      · cases state with
        | none => cases snapshot
        | some state =>
          obtain ⟨_, _, rfl⟩ := List.mem_map.mp snapshot
          rfl
      · rw [List.mem_singleton.mp finish]
        rfl
    · intro other shown member table sees
      rw [manager, current other shown (listed.mp member)] at sees
      exact Option.some.inj sees
    · rw [manager, notifier]
      intro other table sees
      obtain ⟨shown, member⟩ | old := seen other table sees
      · exact .inl ⟨_, listed.mpr member, by simp [Task.shows]⟩
      · exact .inr (settled other table old)

theorem perform_telling (holds : ManagerInv before.manager) (telling : Telling notes before)
    (agenda : before.agenda = task :: rest)
    (fits : ∀ id message, task = .sendPacket id message → rest ≠ [] →
      PacketCodec.headerSize + (protobuf.serialize message).length ≤ maxPacketSize)
    (done : ({ before with agenda := rest } : GatewayProcess ρ).perform protobuf moment task =
      .ok (more, after)) : Telling (notes ++ more) after := by
  have aside : ∀ {other : Task} {next : GatewayProcess ρ}, before.agenda = other :: rest →
      other.closes = false → (∀ player, other.shows player = false) → next.agenda = rest →
      Reveals before.manager next.manager [] →
      (∀ player entry, next.notifier.senders.lookup player = some entry →
        before.notifier.senders.lookup player = some entry) → Telling (notes ++ []) next :=
    fun agenda opens silent left reveals senders =>
      have passes : Passes _ _ [] rest := ⟨left, by simp, reveals, senders⟩
      telling.passes agenda opens silent passes (by simp)
  cases task with
  | sendPacket id message =>
    simp only [GatewayProcess.perform, GatewayProcess.sendPacket] at done
    split at done
    · next long =>
      cases done
      obtain rfl : rest = [] := by
        by_contra more
        exact absurd (fits id message rfl more) (not_le.mpr long)
      refine ⟨.inl ⟨id, rfl⟩, by simp [GatewayProcess.push], ?_⟩
      refine telling.fresh.change (fun _ _ sees => .inr sees) ?_ (fun _ _ shown => .inr ?_)
      · intro player due
        have left : (({ before with agenda := [] } : GatewayProcess ρ).push [.close id]).agenda =
            [.close id] ++ [] := rfl
        exact due_rest agenda left rfl due
      · exact shown.quiet rfl fun _ found => found
    · cases done
      exact aside agenda rfl (fun _ => rfl) rfl (.refl _ _) fun _ _ found => found
  | close id =>
    obtain ⟨other, single⟩ | none := telling.alone
    · rw [agenda] at single
      cases single
      exact close_telling holds telling agenda done
    · have opens := none (.close id) (by simp [agenda])
      cases opens
  | finishClose id =>
    simp only [GatewayProcess.perform, GatewayProcess.finishClose] at done
    split at done
    · cases done
      exact aside agenda rfl (fun _ => rfl) rfl (.refl _ _) fun _ _ found => found
    split at done
    · cases done
      exact aside agenda rfl (fun _ => rfl) rfl (.refl _ _) fun _ _ found => found
    · cases done
      exact aside agenda rfl (fun _ => rfl) rfl (.refl _ _) fun _ _ found =>
        (PlayerNotifier.find_unregister.mp found).1
  | notify player message => exact notify_telling telling agenda done
  | notifyRoomState player => exact notifyRoomState_telling holds telling agenda done
  | postSettle entry =>
    cases done
    exact aside agenda rfl (fun _ => rfl) rfl (.refl _ _) fun _ _ found => found
  | cleanupIdle now =>
    cases done
    exact aside agenda rfl (fun _ => rfl) rfl (cleanupIdle_reveals holds _ now) fun _ _ found => found
  | cleanupExpired now =>
    cases done
    refine telling.passes agenda rfl (fun _ => rfl)
      ⟨rfl, ?_, cleanupExpired_reveals holds _ now, fun _ _ found => found⟩ (by simp)
    intro added member
    obtain ⟨entry, _, settled⟩ := List.mem_flatMap.mp member
    obtain rfl | rfl : _ ∨ _ := by simpa [GatewayProcess.settleTasks] using settled
    · exact ⟨rfl, fun _ => rfl⟩
    · exact ⟨rfl, fun _ => rfl⟩

end Calls

/-! ## Handlers -/

/-- Whoever has something new to see is told, and so is whoever sits at a table and is
    registered at another session now. -/
def Spreads (before after : GatewayProcess ρ) : Prop :=
  ∃ told, Reveals before.manager after.manager told ∧
    (∀ player ∈ told, .notifyRoomState player ∈ after.agenda) ∧
    ∀ player table, after.manager.table player = some table → player ∈ told ∨
      after.notifier.senders.lookup player = before.notifier.senders.lookup player

/-- The same of a handler, which closes nothing on the way. -/
def Shares (before after : GatewayProcess ρ) : Prop :=
  before.agenda = [] → ManagerInv before.manager → ClosesAlone after.agenda ∧ Spreads before after

section Handlers

variable {base after : GatewayProcess ρ} {moment : Moment} {id : SessionId} {session : Session}
  {player : PlayerId} {notes : List Note}

theorem told_tellAll {players : List PlayerId} (message : ServerMessage) (member : player ∈ players) :
    .notifyRoomState player ∈ GatewayProcess.tellAll players message :=
  List.mem_flatMap.mpr ⟨player, member, by simp⟩

theorem told_startTasks {start : GameStartInfo} (member : player ∈ start.playerIds) :
    .notifyRoomState player ∈ GatewayProcess.startTasks start := by
  obtain ⟨seat, found⟩ := List.getElem?_of_mem member
  exact List.mem_flatMap.mpr ⟨(player, seat), List.mk_mem_zipIdx_iff_getElem?.mpr found, by simp⟩

theorem served_alone (idle : base.agenda = []) (served : Served shuffler base moment id session after) :
    ClosesAlone after.agenda := by
  cases served with
  | closed => exact .inl ⟨id, by rw [GatewayProcess.push, idle]; rfl⟩
  | login => exact .inr (by simp [GatewayProcess.post, idle])
  | answered => exact .inr (by simp [GatewayProcess.push, idle, Task.closes])
  | refused => exact .inl ⟨id, by rw [GatewayProcess.push, idle]; rfl⟩
  | asked _ _ _ follows =>
    right
    intro task member
    rw [GatewayProcess.push, idle, List.append_nil] at member
    have follows := follows task member
    cases task with
    | close other => exact follows.elim
    | _ => rfl

theorem Spreads.told {told : List PlayerId} (reveals : Reveals base.manager after.manager told)
    (notifier : after.notifier = base.notifier) (due : ∀ player ∈ told, .notifyRoomState player ∈ after.agenda) :
    Spreads base after :=
  ⟨told, reveals, due, fun _ _ _ => .inr (by rw [notifier])⟩

theorem Spreads.nothing (reveals : Reveals base.manager after.manager [])
    (notifier : after.notifier = base.notifier) : Spreads base after :=
  .told reveals notifier (by simp)

theorem Spreads.unmoved (manager : after.manager = base.manager) (notifier : after.notifier = base.notifier) :
    Spreads base after := by
  refine .nothing ?_ notifier
  rw [manager]
  exact .refl _ _

theorem callLandlord_spreads (holds : ManagerInv base.manager) {call : Bool}
    (done : base.handleCallLandlord shuffler moment id player call = .ok (notes, after)) : Spreads base after := by
  unfold GatewayProcess.handleCallLandlord RoomManager.callLandlord at done
  obtain nobody | ⟨acted, next, room, round, state, called, spec⟩ :=
    act_spec shuffler holds moment.startedAt moment.now player (.callLandlord · call)
  · simp only [nobody, bind, Except.bind] at done
    cases done
    exact .unmoved rfl rfl
  · simp only [called, bind, Except.bind, Option.map_some] at done
    cases done
    cases accepted : acted.accepted with
    | false => exact .unmoved (act_refused called (by simp [accepted])) rfl
    | true =>
      refine .told spec.reveals rfl fun mate member => ?_
      simp only [GatewayProcess.push, if_true, List.mem_append]
      exact .inl (told_tellAll _ member)

theorem pass_spreads (holds : ManagerInv base.manager)
    (done : base.handlePass shuffler moment id player = .ok (notes, after)) : Spreads base after := by
  unfold GatewayProcess.handlePass RoomManager.pass at done
  obtain nobody | ⟨acted, next, room, round, state, passed, spec⟩ :=
    act_spec shuffler holds moment.now moment.now player .pass
  · simp only [nobody, bind, Except.bind] at done
    cases done
    exact .unmoved rfl rfl
  · simp only [passed, bind, Except.bind, Option.map_some] at done
    cases done
    cases accepted : acted.accepted with
    | false => exact .unmoved (act_refused passed (by simp [accepted])) rfl
    | true =>
      refine .told spec.reveals rfl fun mate member => ?_
      simp only [GatewayProcess.push, if_true, List.mem_append, List.mem_cons]
      exact .inl (.inr (told_tellAll _ member))

theorem playCards_spreads (holds : ManagerInv base.manager) {encoded : List Nat}
    (done : base.handlePlayCards shuffler moment id player encoded = .ok (notes, after)) :
    Spreads base after := by
  unfold GatewayProcess.handlePlayCards RoomManager.playCards at done
  split at done
  · cases done
    exact .unmoved rfl rfl
  next cards _ =>
  obtain nobody | ⟨acted, next, room, round, state, played, spec⟩ :=
    act_spec shuffler holds moment.now moment.now player (.playCards · cards)
  · simp only [nobody, bind, Except.bind] at done
    cases done
    exact .unmoved rfl rfl
  · simp only [played, bind, Except.bind] at done
    cases accepted : acted.accepted with
    | false =>
      simp only [accepted, Bool.and_false, Bool.false_eq_true, if_false] at done
      cases done
      exact .unmoved (act_refused played (by simp [accepted])) rfl
    | true =>
      by_cases settled : acted.round.phase = .settled
      -- the room is gone
      · simp only [accepted, settled, decide_true, Bool.and_self, if_true] at done
        cases done
        exact .nothing (spec.reveals_removed holds) rfl
      · simp only [accepted, settled, decide_false, Bool.false_and, Bool.false_eq_true,
          if_false, if_true] at done
        cases done
        refine .told spec.reveals rfl fun mate member => ?_
        simp only [GatewayProcess.push, List.mem_append, List.mem_cons]
        exact .inl (.inl (.inr (told_tellAll _ member)))

theorem quickMatch_spreads (holds : ManagerInv base.manager)
    (done : base.handleQuickMatch shuffler moment id player = .ok (notes, after)) : Spreads base after := by
  unfold GatewayProcess.handleQuickMatch at done
  split at done
  · cases done
    exact .unmoved rfl rfl
  · obtain ⟨⟨result, manager⟩, matched, done⟩ := ExceptLoop.bind_ok.mp done
    cases done
    refine .told (matchPlayer_reveals holds matched) rfl fun mate member => ?_
    cases started : result.gameStart with
    | none =>
      rw [started] at member
      cases member
    | some start =>
      rw [started] at member
      simp only [GatewayProcess.push, List.mem_append, List.mem_cons]
      exact .inl (.inr (told_startTasks member))

theorem dispatched_shares (dispatched : Dispatched shuffler base moment id session (.ok (notes, after))) :
    Shares base after := by
  intro idle holds
  refine ⟨served_alone idle dispatched.served, ?_⟩
  generalize done : Except.ok (notes, after) = outcome at dispatched
  cases dispatched with
  | closed | login | heartbeat =>
    cases done
    exact Spreads.unmoved rfl rfl
  | quickMatch => exact quickMatch_spreads holds done.symm
  | callLandlord => exact callLandlord_spreads holds done.symm
  | playCards => exact playCards_spreads holds done.symm
  | pass => exact pass_spreads holds done.symm
  | reconnect =>
    obtain ⟨info, _, done⟩ := ExceptLoop.bind_ok.mp done.symm
    cases info <;> cases done <;> exact Spreads.unmoved rfl rfl

theorem shares_packets (moment : Moment) (id : SessionId) : PacketRule shuffler moment id (@Shares ρ) where
  update shares := shares
  still base idle _ := ⟨.inr (by simp [idle]), Spreads.unmoved rfl rfl⟩
  dispatched := dispatched_shares

/-- Who has logged in is shown to be back, and sees the table at the new session. -/
theorem completeLogin_shares {completion : LoginCompletion}
    (done : base.completeLogin moment completion = .ok (notes, after)) : Shares base after := by
  intro idle holds
  simp only [GatewayProcess.completeLogin] at done
  split at done
  · have online : ManagerInv (base.manager.markOnline completion.result.playerId) := holds.markOnline _
    obtain ⟨state, read, done⟩ := ExceptLoop.bind_ok.mp done
    have flag : ∀ told, (∀ roomId room round, base.manager.rooms.lookup roomId = some room →
        room.round = some round → completion.result.playerId ∈ room.playerIds → room.playerIds ⊆ told) →
        Reveals base.manager (base.manager.markOnline completion.result.playerId) told :=
      fun told => reveals_flag rfl rfl fun other differ => by
        simp [RoomManager.markOnline, differ]
    have senders : ∀ other, other ≠ completion.result.playerId →
        (base.notifier.registerPlayer completion.result.playerId completion.session).2.senders.lookup other =
          base.notifier.senders.lookup other := fun other differ => by
      rw [PlayerNotifier.find_register, if_neg differ]
    have sees := roomState_table online read
    cases state with
    | none =>
      cases done
      refine ⟨.inr (by simp [GatewayProcess.push, GatewayProcess.update, idle, Task.closes]), [], ?_, by simp, ?_⟩
      · refine flag [] fun roomId room round found started member => ?_
        rw [table_member online found started member] at sees
        cases sees
      · intro other table seen
        refine .inr (senders other ?_)
        rintro rfl
        have nowhere := sees.symm.trans seen
        cases nowhere
    | some state =>
      cases done
      obtain ⟨roomId, room, round, found, member, started, same, players⟩ := roomState_seats online read
      refine ⟨.inr ?_, room.playerIds, flag _ ?_, ?_, ?_⟩
      · intro task listed
        simp only [GatewayProcess.push, GatewayProcess.update, idle, List.append_nil, List.mem_append] at listed
        obtain told | answer := listed
        · obtain ⟨_, _, rfl⟩ := List.mem_map.mp told
          rfl
        · rw [List.mem_singleton.mp answer]
          rfl
      · intro otherId otherRoom _ otherFound _ inside
        obtain rfl := online.unique found member otherFound inside
        obtain rfl := Option.some.inj (otherFound.symm.trans found)
        exact List.Subset.refl _
      · intro mate inside
        rw [← players] at inside
        obtain ⟨info, among, rfl⟩ := List.mem_map.mp inside
        simp only [GatewayProcess.push, List.mem_append]
        exact .inl (.inl (List.mem_map.mpr ⟨info, among, rfl⟩))
      · intro other table seen
        by_cases own : other = completion.result.playerId
        · exact .inl (own ▸ member)
        · exact .inr (senders other own)
  · cases done
    exact ⟨.inr (by simp [GatewayProcess.push, idle, Task.closes]), .unmoved rfl rfl⟩

theorem cleanup_shares (done : base.cleanup shuffler moment = .ok (notes, after)) : Shares base after := by
  intro idle holds
  obtain ⟨⟨actions, manager⟩, timed, done⟩ := ExceptLoop.bind_ok.mp done
  cases done
  refine ⟨.inr ?_, .told (timeoutExpired_reveals holds timed) rfl ?_⟩
  · intro task member
    rw [GatewayProcess.push, idle, List.append_nil] at member
    obtain acts | cleans := List.mem_append.mp member
    · obtain ⟨action, _, member⟩ := List.mem_flatMap.mp acts
      obtain told | settled := List.mem_append.mp member
      · obtain ⟨player, _, told⟩ := List.mem_flatMap.mp told
        obtain rfl | rfl : _ ∨ _ := by simpa using told
        · rfl
        · rfl
      · obtain ⟨entry, _, settled⟩ := List.mem_flatMap.mp settled
        obtain rfl | rfl : _ ∨ _ := by simpa [GatewayProcess.settleTasks] using settled
        · rfl
        · rfl
    · obtain rfl | rfl : _ ∨ _ := by simpa using cleans
      · rfl
      · rfl
  · intro player member
    obtain ⟨action, among, inside⟩ := List.mem_flatMap.mp member
    simp only [GatewayProcess.push, List.mem_append]
    refine .inl (.inl (List.mem_flatMap.mpr ⟨action, among, ?_⟩))
    exact List.mem_append_left _ (told_tellAll _ inside)

theorem Shares.aside (manager : after.manager = base.manager) (notifier : after.notifier = base.notifier)
    (agenda : after.agenda = base.agenda) : Shares base after := by
  intro idle _
  exact ⟨.inr (by simp [agenda, idle]), .unmoved manager notifier⟩

theorem Shares.close {id : SessionId} (done : base.calls [.close id] = .ok (notes, after)) :
    Shares base after := by
  cases done
  intro idle _
  exact ⟨.inl ⟨id, by rw [GatewayProcess.push, idle]; rfl⟩, .unmoved rfl rfl⟩

theorem handle_shares {event : Event}
    (done : base.handle shuffler protobuf moment event = .ok (notes, after)) : Shares base after := by
  have packets : ∀ id, PacketRule shuffler moment id (@Shares ρ) := shares_packets moment
  have happened := handle_cases shuffler protobuf base moment event
  rw [done] at happened
  generalize answer : Except.ok (notes, after) = outcome at happened
  cases happened with
  | nothing | accepted | shaken | written | returned =>
    cases answer
    exact .aside rfl rfl rfl
  | unshaken | unwritten | expired => exact (packets _).update (.close answer.symm)
  | headerRead => exact (packets _).headerRead answer.symm
  | bodyRead => exact (packets _).bodyRead answer.symm
  | frameRead => exact (packets _).frameRead answer.symm
  | loginCompleted =>
    have shares := completeLogin_shares answer.symm
    exact shares
  | cleanup => exact cleanup_shares answer.symm

end Handlers

/-! ## Steps and runs -/

/-- What an event sets off hands nothing over before a call does, and plans no snapshot. -/
theorem idle_move {before after : GatewayProcess ρ} {event : Event} {notes : List Note}
    (idle : before.agenda = []) (move : GatewayMove before event notes after) :
    (∀ player, notes.filterMap (Note.shows player) = []) ∧
      ∀ player state, .notify player (.roomState state) ∉ after.agenda := by
  have plain : ∀ {tasks : List Task}, after.agenda = tasks ++ before.agenda.tail →
      (∀ task ∈ tasks, task.plain) → ∀ player state, .notify player (.roomState state) ∉ after.agenda := by
    intro tasks agenda plain player state member
    rw [agenda, idle, List.tail_nil, List.append_nil] at member
    have snapshot := plain _ member
    cases snapshot
  cases move with
  | stalled => exact ⟨fun _ => rfl, by simp [idle]⟩
  | other _ _ agenda tasks => exact ⟨fun _ => rfl, plain agenda tasks⟩
  | opened _ _ _ _ _ agenda => exact ⟨fun _ => rfl, by simp [agenda]⟩
  | handed handing => simp [Handing, idle] at handing
  | acted _ _ _ _ _ _ _ agenda tasks => exact ⟨fun _ => rfl, plain agenda tasks⟩
  | loggedIn _ _ _ _ _ _ _ agenda tasks => exact ⟨fun _ => rfl, plain agenda tasks⟩
  | closed _ head => simp [idle] at head
  | closing _ _ head => simp [idle] at head
  | finished _ head => simp [idle] at head
  | cleaned _ _ _ _ _ _ _ agenda tasks => exact ⟨fun _ => rfl, plain agenda tasks⟩

theorem step_telling {before : GatewayProcess ρ} {taken : Taken ρ} {after : GatewayProcess ρ}
    {notes : List Note} (holds : ManagerInv before.manager) (telling : Telling notes before)
    (step : GatewayStep shuffler protobuf before taken after) (fits : ¬ taken.Outgrows protobuf) :
    Telling (notes ++ taken.notes) after := by
  obtain ⟨_, move⟩ := step.moves holds
  obtain ⟨own, _, done⟩ := step
  simp only [GatewayProcess.step] at done
  cases agenda : before.agenda with
  | nil =>
    simp only [agenda] at done
    obtain ⟨silent, planned⟩ := idle_move agenda move
    obtain ⟨alone, told, reveals, due, registered⟩ := handle_shares done agenda holds
    refine ⟨alone, fun player state member => absurd member (planned player state), ?_⟩
    have nobody : ∀ player, ¬ before.Due player := by
      rintro player ⟨task, member, _⟩
      rw [agenda] at member
      cases member
    have later : ∀ player ∈ told, after.Due player :=
      fun player member => ⟨.notifyRoomState player, due player member, by simp [Task.shows]⟩
    intro player table sees
    obtain new | old := reveals player table sees
    · exact .inl (later player new)
    obtain moved | same := registered player table sees
    · exact .inl (later player moved)
    · refine .inr ((telling.fresh.settled nobody old).quiet (silent player) ?_)
      intro entry found
      rwa [same] at found
  | cons task rest =>
    simp only [agenda] at done
    split at done
    · refine perform_telling holds telling agenda ?_ done
      rintro id message rfl more
      by_contra long
      exact fits ⟨id, message, rest, own ▸ agenda, more, not_le.mp long⟩
    · obtain ⟨silent, rfl⟩ := Prod.mk.inj (Except.ok.inj done)
      rw [← silent, List.append_nil]
      exact telling

theorem telling_start (random : ρ) : Telling [] ({ manager := { random } } : GatewayProcess ρ) where
  alone := .inr (by simp)
  snapshots := by simp
  fresh player table sees := by
    cases sees

theorem telling_run {random : ρ} {trace : List (Taken ρ)} {finish : GatewayProcess ρ}
    (run : Transition.Steps (GatewayStep shuffler protobuf) { manager := { random } } trace finish)
    (fits : ∀ taken ∈ trace, ¬ taken.Outgrows protobuf) : Telling (trace.flatMap Taken.notes) finish := by
  suffices ManagerInv finish.manager ∧
      ((∀ taken ∈ trace, ¬ taken.Outgrows protobuf) → Telling (trace.flatMap Taken.notes) finish) from
    this.2 fits
  refine run.history (fun trace (gateway : GatewayProcess ρ) => ManagerInv gateway.manager ∧
    ((∀ taken ∈ trace, ¬ taken.Outgrows protobuf) → Telling (trace.flatMap Taken.notes) gateway))
    ⟨managerInv_empty random, fun _ => telling_start random⟩ ?_
  intro trace before taken after _ ⟨holds, telling⟩ step
  refine ⟨(step.moves holds).1, fun fits => ?_⟩
  rw [List.flatMap_append, List.flatMap_singleton]
  refine step_telling holds (telling fun other member => fits other ?_) step (fits taken ?_)
  · exact List.mem_append_left _ member
  · exact List.mem_append_right _ (List.mem_singleton_self taken)

/-- When no handler is running, the last room state that a player was handed shows the table
    that the player sits at, and it went to the session where the player is registered. -/
theorem players_see_the_table (shuffler : Shuffler ρ) (protobuf : Protobuf)
    (writes : protobuf.serialize = WireFormat.serialize) (random : ρ) (inputs : List (Event × Moment)) :
    ∃ trace finish,
      ({ manager := { random } } : GatewayProcess ρ).run shuffler protobuf inputs = .ok (trace, finish) ∧
      ((∀ taken ∈ trace, taken.Backed) → finish.manager.nextRoomId ≤ 2 ^ 64 → finish.agenda = [] →
        ∀ player table, finish.manager.table player = some table →
          Shown (trace.flatMap Taken.notes) finish.notifier player table) := by
  obtain ⟨trace, finish, ran, run⟩ := gateway_runs shuffler protobuf random inputs
  refine ⟨trace, finish, ran, fun backed counted idle player table sees => ?_⟩
  have telling := telling_run run fun taken member =>
    modestly_fits writes (modestly_run run backed counted taken member)
  refine telling.fresh.settled ?_ sees
  rintro other ⟨task, member, _⟩
  rw [idle] at member
  cases member

/-- Bob, who stays when Ann leaves, sees the table. -/
theorem bob_sees_the_table : ∃ trace finish,
    ({ manager := { random := () } } : GatewayProcess Unit).run .identity WireFormat.generated
      leavesTheGame = .ok (trace, finish) ∧
    ∃ table, finish.manager.table "bob" = some table ∧
      Shown (trace.flatMap Taken.notes) finish.notifier "bob" table := by
  obtain ⟨trace, finish, ran, backed, counted, idle⟩ := leavesTheGame_backed
  obtain ⟨⟨_, _⟩, sat, seated⟩ := ExceptLoop.exists_of_test
    (show ExceptLoop.test (fun (_, finish) => (finish.manager.table "bob").isSome)
      (({ manager := { random := () } } : GatewayProcess Unit).run .identity WireFormat.generated
        leavesTheGame) = true by
    decide +kernel)
  obtain ⟨other, last, again, sees⟩ :=
    players_see_the_table .identity WireFormat.generated rfl () leavesTheGame
  cases ran.symm.trans sat
  cases ran.symm.trans again
  obtain ⟨table, found⟩ := Option.isSome_iff_exists.mp seated
  exact ⟨trace, finish, ran, table, found, sees backed counted idle "bob" table found⟩

end Doudizhu.Gateway
