import Doudizhu.Lib.Chronicle
import Doudizhu.Game.Refinement
import Doudizhu.Gateway.Session
import Doudizhu.Gateway.Settlement

/-! # What players are told of a game

The messages that sessions send to all players of a room, as a game by the rules: one deals
the cards, each of the following announces one move, and one may settle the game.
`Story` is what has been told of a room, with the game that it tells.
-/

namespace Doudizhu.Game.Rules

/-- What is done for a seat that lets its time run out: it does not call, it passes, and
    where it has to lead, it plays a card of its hand. -/
inductive Automatic : Table → Act → Prop where
  | call {deal : Deal} {turn : Fin 3} {bidder : Option (Fin 3)} :
      Automatic (.bidding deal turn bidder) (.call turn false)
  | pass {landlord turn : Fin 3} {hands : Fin 3 → Multiset Card} {trick : Trick} :
      Automatic (.playing landlord turn hands (some trick)) (.pass turn)
  | lead {landlord turn : Fin 3} {hands : Fin 3 → Multiset Card} {card : Card} :
      card ∈ hands turn → Automatic (.playing landlord turn hands none) (.play turn {card})

end Doudizhu.Game.Rules

namespace Doudizhu.Game

open Rules

/-! ## What a round shows of its table -/

def Rules.Table.phase : Table → GamePhase
  | .bidding _ _ _ => .callLandlord
  | .playing _ _ _ _ => .playCards
  | .won _ _ _ => .settled

section Shows

variable {round : GameRound} {table : Table}

theorem Represents.phase_eq (represents : Represents round table) : round.phase = table.phase := by
  cases table with
  | bidding => exact Bidding.phase represents
  | playing => exact Playing.phase represents
  | won => exact Over.phase represents

theorem Represents.turn_eq (represents : Represents round table) : round.currentSeat = table.turn := by
  cases table with
  | bidding => exact Bidding.seat represents
  | playing => exact Playing.seat represents
  | won => exact Over.seat represents

theorem Represents.landlord_eq (represents : Represents round table) :
    round.landlordSeat = table.landlord.map Fin.val := by
  cases table with
  | bidding => exact Bidding.lord represents
  | playing => exact Playing.lord represents
  | won => exact Over.lord represents

/-- The call that a timeout makes is the automatic move. -/
theorem automatic_timeout {act : Act} {log : DealLog} (holds : RoundInv log round)
    (represents : Represents round table) (asks : round.timeoutCall.act? = some act) :
    Automatic table act := by
  unfold GameRound.timeoutCall at asks
  cases table with
  | bidding deal turn bidder =>
    have bidding : Bidding round deal turn bidder := represents
    simp only [bidding.phase, RoundOp.act?, bidding.own, Option.map_some, Option.some.injEq] at asks
    exact asks ▸ .call
  | playing landlord turn hands trick =>
    have playing : Playing round landlord turn hands trick := represents
    simp only [playing.phase] at asks
    cases trick with
    | some trick =>
      obtain ⟨following, other⟩ := playing.other
      rw [if_pos ⟨Option.isSome_iff_ne_none.mpr following, other⟩] at asks
      simp only [RoundOp.act?, playing.own, Option.map_some, Option.some.injEq] at asks
      exact asks ▸ .pass
    | none =>
      have leads : round.lastPlay = none := playing.table
      rw [if_neg (by simp [leads])] at asks
      simp only [RoundOp.act?, playing.seat, seat?_val, Option.map_some, Option.some.injEq, turn.isLt,
        dite_true, Fin.eta] at asks
      -- the seat still holds a card
      obtain ⟨card, rest, hand⟩ :=
        List.exists_cons_of_ne_nil ((holds.playing playing.phase).holding turn)
      rw [hand] at asks
      refine asks ▸ .lead ?_
      rw [← playing.held, GameRound.holdings, hand]
      exact List.mem_cons_self
  | won landlord winner hands =>
    have finished : Over round landlord winner hands := represents
    simp [finished.phase, RoundOp.act?] at asks

end Shows

end Doudizhu.Game

namespace Doudizhu.Gateway

open Game Rules

variable {ρ : Type} {shuffler : Shuffler ρ}

/-! ## Announcements -/

/-- The message announces the move, and the table it leads to. -/
inductive Announces (table : Table) : Act → Table → ServerMessage → Prop where
  | called {seat : Fin 3} {wants : Bool} {next : Table} :
      Announces table (.call seat wants) next
        (.callLandlordRet true next.turn (next.phase = .playCards) ((next.landlord.map Fin.val).getD 0)
          seat wants)
  | played {seat : Fin 3} {cards : List Card} {next : Table} :
      Announces table (.play seat cards) next
        (.playBroadcast seat (cards.map CardCodec.encode) false next.turn)
  | passed {seat : Fin 3} {next : Table} :
      Announces table (.pass seat) next (.playBroadcast seat [] true next.turn)
  /-- The move itself is left to be seen from the room states. -/
  | timedOut {act : Act} {next : Table} :
      Automatic table act → Announces table act next (.timeoutAction act.seat next.phase.value next.turn)

/-- A move by the rules, with the message that announces it. -/
def Told (table : Table) (message : ServerMessage) (next : Table) : Prop :=
  ∃ act, Rule table act next ∧ Announces table act next message

/-- The messages announce a game from the deal on. -/
def Tells (deal : Deal) (messages : List ServerMessage) (table : Table) : Prop :=
  Transition.Steps Told deal.table messages table

/-! ## The log of the games -/

/-- What all players of a room are told at once. -/
inductive GameEvent where
  | begun (roomId : RoomId) (players : List PlayerId) (hands : Hands)
  | told (roomId : RoomId) (players : List PlayerId) (message : ServerMessage)
  | settled (roomId : RoomId) (players : List PlayerId) (landlord : Fin 3) (won : Bool)

def GameEvent.roomId : GameEvent → RoomId
  | .begun roomId _ _ | .told roomId _ _ | .settled roomId _ _ _ => roomId

/-- What is handed to the notifier for whom. -/
def GameEvent.letters : GameEvent → List (PlayerId × ServerMessage)
  | .begun _ players hands => players.zipIdx.map fun (player, seat) =>
    (player, .dealCards ((hands (seatAt seat)).map CardCodec.encode) seat 0)
  | .told _ players message => players.map fun player => (player, message)
  | .settled _ players landlord won => players.zipIdx.map fun (player, seat) =>
    (player, .settleResult (0 < coinChange landlord won seat) (coinChange landlord won seat))

/-- The deal, and then the messages. -/
structure Opening (roomId : RoomId) (players : List PlayerId) (deal : Deal)
    (messages : List ServerMessage) (hands : Hands) (log : List GameEvent) : Prop where
  three : players.length = 3
  dealt : ∀ seat, (hands seat : Multiset Card) = deal.hands seat
  events : log = .begun roomId players hands :: messages.map (.told roomId players)

/-- How a game is settled where it ends: by who has won, or against a player who is gone. -/
inductive Closes (gone : PlayerId → Prop) (players : List PlayerId) : Table → Fin 3 → Bool → Prop where
  | won {landlord winner : Fin 3} {hands : Fin 3 → Multiset Card} :
      Closes gone players (.won landlord winner hands) landlord (landlord = winner)
  | left {landlord turn leaver : Fin 3} {hands : Fin 3 → Multiset Card} {trick : Option Rules.Trick}
      {player : PlayerId} :
      players[leaver.val]? = some player → gone player →
      Closes gone players (.playing landlord turn hands trick) landlord (leaver ≠ landlord)

/-- What has been told of a room, and where that leaves it.  Its game may be settled against
    a player who is gone from it. -/
inductive Story (gone : RoomId → PlayerId → Prop) (roomId : RoomId) : List GameEvent → Option Room → Prop where
  | silent {place : Option Room} : (∀ room ∈ place, room.round = none) → Story gone roomId [] place
  | playing {room : Room} {round : GameRound} {deal : Deal} {messages : List ServerMessage} {table : Table}
      {hands : Hands} {log : List GameEvent} :
      Opening roomId room.playerIds deal messages hands log → Tells deal messages table →
      room.round = some round → Represents round table → Story gone roomId log (some room)
  | settled {players : List PlayerId} {deal : Deal} {messages : List ServerMessage} {table : Table}
      {hands : Hands} {log : List GameEvent} {landlord : Fin 3} {won : Bool} :
      Opening roomId players deal messages hands log → Tells deal messages table →
      Closes (gone roomId) players table landlord won →
      Story gone roomId (log ++ [.settled roomId players landlord won]) none
  /-- Nobody is the landlord yet, so nobody has lost. -/
  | dissolved {players : List PlayerId} {deal again : Deal} {messages : List ServerMessage}
      {turn : Fin 3} {bidder : Option (Fin 3)} {hands : Hands} {log : List GameEvent} :
      Opening roomId players deal messages hands log → Tells deal messages (.bidding again turn bidder) →
      Story gone roomId log none

/-- What the log says of each room, and nothing of rooms to come. -/
structure Chronicled (gone : RoomId → PlayerId → Prop) (log : List GameEvent) (manager : RoomManager ρ) :
    Prop where
  tells : Chronicle.Tells GameEvent.roomId (Story gone) log manager.rooms.lookup
  fresh : ∀ roomId, manager.nextRoomId ≤ roomId → Chronicle.about GameEvent.roomId log roomId = []

/-! ## A call and its announcement -/

section Calls

variable {now : Time} {before after : Game.RoundState ρ} {table : Table} {seat : Nat}

/-- An accepted call is a move of the game. -/
theorem moved_of_accepted {op : RoundOp} (represents : Represents before.round table)
    (done : op.exec shuffler now before = .ok (true, after)) :
    ∃ act next, (op.resolve before.round).act? = some act ∧ Rule table act next ∧
      Represents after.round next := by
  obtain ⟨_, moved⟩ | ⟨refused, _⟩ := exec_cases done
  · exact represents_move represents moved
  · cases refused

theorem told_call {called : Bool} (represents : Represents before.round table)
    (done : (RoundOp.callLandlord seat called).exec shuffler now before = .ok (true, after)) :
    ∃ next, Represents after.round next ∧ Told table (.callLandlordRet true after.round.currentSeat
      (after.round.phase = .playCards) (after.round.landlordSeat.getD 0) seat called) next := by
  obtain ⟨act, next, asks, rule, kept⟩ := moved_of_accepted represents done
  obtain ⟨own, same, rfl⟩ := Option.map_eq_some_iff.mp asks
  refine ⟨next, kept, _, rule, ?_⟩
  rw [kept.turn_eq, kept.landlord_eq, kept.phase_eq, seat?_eq_some.mp same]
  exact .called

theorem told_play {cards : List Card} (represents : Represents before.round table)
    (done : (RoundOp.playCards seat cards).exec shuffler now before = .ok (true, after)) :
    ∃ next, Represents after.round next ∧ Told table
      (.playBroadcast seat (cards.map CardCodec.encode) false after.round.currentSeat) next := by
  obtain ⟨act, next, asks, rule, kept⟩ := moved_of_accepted represents done
  obtain ⟨own, same, rfl⟩ := Option.map_eq_some_iff.mp asks
  refine ⟨next, kept, _, rule, ?_⟩
  rw [kept.turn_eq, seat?_eq_some.mp same]
  exact .played

theorem told_pass (represents : Represents before.round table)
    (done : (RoundOp.pass seat).exec shuffler now before = .ok (true, after)) :
    ∃ next, Represents after.round next ∧
      Told table (.playBroadcast seat [] true after.round.currentSeat) next := by
  obtain ⟨act, next, asks, rule, kept⟩ := moved_of_accepted represents done
  obtain ⟨own, same, rfl⟩ := Option.map_eq_some_iff.mp asks
  refine ⟨next, kept, _, rule, ?_⟩
  rw [kept.turn_eq, seat?_eq_some.mp same]
  exact .passed

theorem told_timeout {log : DealLog} (holds : RoundInv log before.round)
    (represents : Represents before.round table)
    (done : RoundOp.timeout.exec shuffler now before = .ok (true, after)) :
    ∃ next, Represents after.round next ∧ Told table
      (.timeoutAction before.round.currentSeat after.round.phase.value after.round.currentSeat) next := by
  obtain ⟨act, next, asks, rule, kept⟩ := moved_of_accepted represents done
  refine ⟨next, kept, act, rule, ?_⟩
  rw [kept.turn_eq, kept.phase_eq, represents.turn_eq, rule.turn_eq]
  exact .timedOut (automatic_timeout holds represents asks)

end Calls

/-! ## How stories go on -/

section Stories

variable {gone : RoomId → PlayerId → Prop} {roomId : RoomId} {room later : Room} {round after : GameRound}
  {log : List GameEvent}

/-- The story of a room with a round. -/
theorem Story.of_started (story : Story gone roomId log (some room)) (started : room.round = some round) :
    ∃ deal messages table hands, Opening roomId room.playerIds deal messages hands log ∧
      Tells deal messages table ∧ Represents round table := by
  cases story with
  | silent idle =>
    have idle := idle room rfl
    rw [started] at idle
    cases idle
  | playing opening tells own represents =>
    rw [started] at own
    cases own
    exact ⟨_, _, _, _, opening, tells, represents⟩

theorem Story.of_idle (story : Story gone roomId log (some room)) (idle : room.round = none) : log = [] := by
  cases story with
  | silent => rfl
  | playing _ _ started =>
    rw [idle] at started
    cases started

/-- More players may be gone. -/
theorem Story.mono {moreGone : RoomId → PlayerId → Prop} {place : Option Room}
    (story : Story gone roomId log place) (grows : ∀ player, gone roomId player → moreGone roomId player) :
    Story moreGone roomId log place := by
  cases story with
  | silent idle => exact .silent idle
  | playing opening tells started represents => exact .playing opening tells started represents
  | settled opening tells closes =>
    cases closes with
    | won => exact .settled opening tells .won
    | left seat away => exact .settled opening tells (.left seat (grows _ away))
  | dissolved opening tells => exact .dissolved opening tells

theorem Opening.told {players : List PlayerId} {deal : Deal} {messages : List ServerMessage}
    {hands : Hands} (opening : Opening roomId players deal messages hands log)
    (message : ServerMessage) :
    Opening roomId players deal (messages ++ [message]) hands (log ++ [.told roomId players message]) where
  three := opening.three
  dealt := opening.dealt
  events := by simp [opening.events]

/-- The round stays as it is. -/
theorem Story.kept (story : Story gone roomId log (some room)) (players : later.playerIds = room.playerIds)
    (same : later.round = room.round) : Story gone roomId log (some later) := by
  cases story with
  | silent idle =>
    refine .silent ?_
    rintro _ ⟨⟩
    exact same.trans (idle room rfl)
  | playing opening tells started represents =>
    rw [← players] at opening
    exact .playing opening tells (same.trans started) represents

/-- A move is made and announced. -/
theorem Story.told (story : Story gone roomId log (some room)) (started : room.round = some round)
    (players : later.playerIds = room.playerIds) (now : later.round = some after) {message : ServerMessage}
    (moves : ∀ table, Represents round table → ∃ next, Represents after next ∧ Told table message next) :
    Story gone roomId (log ++ [.told roomId room.playerIds message]) (some later) := by
  obtain ⟨deal, messages, table, hands, opening, tells, represents⟩ := story.of_started started
  obtain ⟨next, kept, told⟩ := moves table represents
  have opening := opening.told message
  rw [← players] at opening ⊢
  exact .playing opening (tells.snoc told) now kept

/-- A move is made and announced that ends the game. -/
theorem Story.won (story : Story gone roomId log (some room)) (started : room.round = some round)
    (settled : after.phase = .settled) {landlord winner : Nat} (lord : after.landlordSeat = some landlord)
    (won : after.winnerSeat = some winner) {message : ServerMessage}
    (moves : ∀ table, Represents round table → ∃ next, Represents after next ∧ Told table message next) :
    ∃ own : Fin 3, own.val = landlord ∧
      Story gone roomId (log ++ [.told roomId room.playerIds message,
        .settled roomId room.playerIds own (landlord == winner)]) none := by
  obtain ⟨deal, messages, table, hands, opening, tells, represents⟩ := story.of_started started
  obtain ⟨next, kept, told⟩ := moves table represents
  have phase : next.phase = .settled := kept.phase_eq.symm.trans settled
  cases next with
  | bidding | playing => cases phase
  | won own last hands =>
    have finished : Over after own last hands := kept
    obtain rfl := Option.some.inj (finished.lord.symm.trans lord)
    obtain rfl := Option.some.inj (finished.won.symm.trans won)
    refine ⟨own, rfl, ?_⟩
    have closes : Closes (gone roomId) room.playerIds (.won own last hands) own (own = last) := .won
    have closed := Story.settled (opening.told message) (tells.snoc told) closes
    rw [List.append_assoc] at closed
    have same : (own.val == last.val) = decide (own = last) := by
      rw [Bool.eq_iff_iff, beq_iff_eq, decide_eq_true_iff, Fin.ext_iff]
    rw [same]
    exact closed

end Stories

end Doudizhu.Gateway
