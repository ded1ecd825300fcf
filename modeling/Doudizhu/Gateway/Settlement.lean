import Doudizhu.Gateway.RoomRuns

/-! # Settlement

A game is settled once: for each room whose round found a landlord one batch leaves with
the room, and none for any other.  A batch moves coins between the landlord and the two
other players, and nothing more.
-/

namespace Doudizhu.Gateway

open Game

variable {ρ : Type} {shuffler : Shuffler ρ}

/-! ## Game ids -/

/-- Two rooms have two game ids. -/
theorem toString_injective {first second : RoomId} (same : toString first = toString second) :
    first = second := by
  have digits : Nat.toDigits 10 first = Nat.toDigits 10 second := by
    rw [← Nat.toList_repr, ← Nat.toList_repr]
    exact congrArg String.toList same
  rw [← @Nat.ofDigitChars_ten_toDigits first, digits, Nat.ofDigitChars_ten_toDigits]

/-! ## The shape of a batch -/

/-- The coins of one seat: the landlord's stake is twice that of the others. -/
def coinChange (landlord : Nat) (won : Bool) (seat : Nat) : Int :=
  if seat = landlord then (if won then 200 else -200) else (if won then -100 else 100)

/-- `batch` settles the game of `room`, which the landlord won or lost. -/
structure Settles (room : Room) (landlord : Fin 3) (won : Bool) (batch : List SettlementEntry) :
    Prop where
  three : batch.length = 3
  players : batch.map SettlementEntry.playerId = room.playerIds
  game : ∀ entry ∈ batch, entry.gameId = toString room.id
  changes : ∀ (seat : Nat) entry, batch[seat]? = some entry →
    entry.coinChange = coinChange landlord won seat
  zeroSum : (batch.map SettlementEntry.coinChange).sum = 0
  result : ∀ entry ∈ batch, (entry.result = "WIN" ↔ 0 < entry.coinChange) ∧
    (entry.result = "LOSE" ↔ entry.coinChange < 0)

theorem entry_spec {room : Room} {landlord : Nat} {won : Bool} {duration : Int} {seat : Nat}
    {entry : SettlementEntry}
    (found : (room.settlementEntries landlord won duration)[seat]? = some entry) :
    entry.gameId = toString room.id ∧ entry.coinChange = coinChange landlord won seat ∧
      (entry.result = "WIN" ↔ 0 < entry.coinChange) ∧
      (entry.result = "LOSE" ↔ entry.coinChange < 0) := by
  simp only [Room.settlementEntries, List.getElem?_map, List.getElem?_zipIdx, Option.map_map,
    Option.map_eq_some_iff] at found
  obtain ⟨player, _, rfl⟩ := found
  by_cases own : seat = landlord
  · cases won <;> simp [coinChange, own]
  · cases won <;> simp [coinChange, own]

theorem changes_eq (room : Room) (landlord : Nat) (won : Bool) (duration : Int) :
    (room.settlementEntries landlord won duration).map SettlementEntry.coinChange =
      (List.range room.playerIds.length).map (coinChange landlord won) := by
  apply List.ext_getElem?
  intro seat
  rw [List.getElem?_map, List.getElem?_map]
  cases found : (room.settlementEntries landlord won duration)[seat]? with
  | none =>
    have outside : room.playerIds.length ≤ seat := by
      simpa [Room.settlementEntries] using found
    rw [List.getElem?_eq_none (by simpa using outside)]
    rfl
  | some entry =>
    have inside : seat < room.playerIds.length := by
      simpa [Room.settlementEntries] using (List.getElem?_eq_some_iff.mp found).1
    rw [List.getElem?_range inside]
    exact congrArg some (entry_spec found).2.1

/-- What the landlord wins the others lose, and the other way round. -/
theorem sum_coinChange (landlord : Fin 3) (won : Bool) :
    ((List.range 3).map (coinChange landlord won)).sum = 0 := by
  cases won <;> fin_cases landlord <;> rfl

theorem settles_entries {room : Room} (three : room.playerIds.length = 3) (landlord : Fin 3)
    (won : Bool) (duration : Int) :
    Settles room landlord won (room.settlementEntries landlord won duration) where
  three := by simp [Room.settlementEntries, three]
  players := by
    simp only [Room.settlementEntries, List.map_map]
    exact List.zipIdx_map_fst 0 room.playerIds
  game entry member := by
    obtain ⟨seat, found⟩ := List.mem_iff_getElem?.mp member
    exact (entry_spec found).1
  changes seat entry found := (entry_spec found).2.1
  zeroSum := by
    rw [changes_eq, three]
    exact sum_coinChange landlord won
  result entry member := by
    obtain ⟨seat, found⟩ := List.mem_iff_getElem?.mp member
    exact (entry_spec found).2.2

/-! ## Who wins -/

/-- A round that a call has just settled: its landlord was found before, and the winner is
    the one seat without cards. -/
theorem settling_spec {log : DealLog} {before after : Game.RoundState ρ} {op : RoundOp} {now : Time}
    {accepted : Bool} (ready : RoundInv log before.round) (unsettled : before.round.phase ≠ .settled)
    (done : op.exec shuffler now before = .ok (accepted, after))
    (settled : after.round.phase = .settled) :
    ∃ landlord winner : Fin 3, before.round.landlordSeat = some landlord.val ∧
      after.round.landlordSeat = some landlord.val ∧ after.round.winnerSeat = some winner.val ∧
      ∀ seat, after.round.deal.hands seat = [] ↔ seat = winner := by
  obtain ⟨_, moved⟩ | ⟨_, rfl⟩ := exec_cases done
  · have playing := (settled_move moved settled).1
    have found := (ready.landlord_iff unsettled).mpr playing
    have sound := (roundInv_move ready moved).settled settled
    obtain ⟨landlord, owned⟩ := sound.seated
    obtain ⟨winner, _, won, _, hands⟩ := sound.settled
    exact ⟨landlord, winner, (landlord_move ready found moved).symm.trans owned, owned, won, hands⟩
  · exact absurd settled unsettled

/-- The landlord wins a finished round iff the landlord has no card left. -/
theorem finished_settles {roomId : RoomId} {room : Room} {batch : List SettlementEntry}
    {op : RoundOp} {now : Time} (sound : RoomInv roomId room)
    (finished : Finished shuffler op now room batch) :
    ∃ (landlord : Fin 3) (won : Bool) (round : GameRound), room.round = some round ∧
      round.landlordSeat = some landlord.val ∧ Settles room landlord won batch ∧
      ∃ random state, op.exec shuffler now ⟨round, random⟩ = .ok (true, state) ∧
        state.round.phase = .settled ∧ (won ↔ state.round.deal.hands landlord = []) := by
  obtain ⟨round, random, state, endedAt, started, done, settled, rfl⟩ := finished
  obtain ⟨three, unsettled, log, ready⟩ := sound.shape.playing started
  have before : RoundInv log (Game.RoundState.mk round random).round := ready
  obtain ⟨landlord, winner, found, owned, won, hands⟩ := settling_spec before unsettled done settled
  refine ⟨landlord, landlord.val == winner.val, round, started, found, ?_, random, state, done, settled,
    ?_⟩
  · simp only [Room.settlements, owned, won]
    exact settles_entries three landlord _ _
  · rw [hands, beq_iff_eq, Fin.val_inj]

/-- A player who is away too long loses, alone or with a partner. -/
theorem abandoned_settles {manager : RoomManager ρ} {roomId : RoomId} {room : Room} {now : Time}
    {player : PlayerId} {batch : List SettlementEntry} (sound : RoomInv roomId room)
    (abandoned : Abandoned manager now room player batch) (nonempty : batch ≠ []) :
    ∃ (landlord : Fin 3) (won : Bool) (round : GameRound), room.round = some round ∧
      round.landlordSeat = some landlord.val ∧ Settles room landlord won batch ∧
      (won ↔ room.seatOf player ≠ landlord) := by
  obtain ⟨since, member, away, long, rfl⟩ := abandoned
  cases started : room.round with
  | none => simp [Room.expiredSettlements, started] at nonempty
  | some round =>
    obtain ⟨three, unsettled, log, ready⟩ := sound.shape.playing started
    cases owned : round.landlordSeat with
    | none => simp [Room.expiredSettlements, started, owned] at nonempty
    | some seat =>
      have playing := (ready.landlord_iff unsettled).mp (by simp [owned])
      obtain ⟨landlord, found⟩ := (ready.playing playing).seated
      cases Option.some.inj (owned.symm.trans found)
      refine ⟨landlord, room.seatOf player != landlord, round, rfl, owned, ?_, by simp⟩
      simp only [Room.expiredSettlements, started, owned]
      exact settles_entries three landlord _ _

/-! ## Rounds that have found a landlord -/

def Room.landlordFound (room : Room) : Bool :=
  match room.round with
  | none => false
  | some round => round.landlordSeat.isSome

/-- How many of the batches settle the game of this room. -/
def batchesFor (roomId : RoomId) (batches : List (List SettlementEntry)) : Nat :=
  batches.countP fun batch => batch.any fun entry => entry.gameId = toString roomId

@[simp] theorem batchesFor_nil (roomId : RoomId) : batchesFor roomId [] = 0 := rfl

@[simp] theorem batchesFor_append (roomId : RoomId) (first second : List (List SettlementEntry)) :
    batchesFor roomId (first ++ second) = batchesFor roomId first + batchesFor roomId second :=
  List.countP_append

theorem Settles.nonempty {room : Room} {landlord : Fin 3} {won : Bool} {batch : List SettlementEntry}
    (settles : Settles room landlord won batch) : batch ≠ [] := by
  intro empty
  have three := settles.three
  rw [empty] at three
  cases three

theorem batchesFor_settles {room : Room} {landlord : Fin 3} {won : Bool} {batch : List SettlementEntry}
    (settles : Settles room landlord won batch) (roomId : RoomId) :
    batchesFor roomId [batch] = if room.id = roomId then 1 else 0 := by
  have own : (batch.any fun entry => entry.gameId = toString roomId) = decide (room.id = roomId) := by
    rw [Bool.eq_iff_iff, List.any_eq_true, decide_eq_true_iff]
    constructor
    · rintro ⟨entry, member, game⟩
      rw [decide_eq_true_iff, settles.game entry member] at game
      exact toString_injective game
    · rintro rfl
      obtain ⟨entry, member⟩ := List.exists_mem_of_ne_nil batch settles.nonempty
      exact ⟨entry, member, by simpa using settles.game entry member⟩
  rw [batchesFor, List.countP_singleton, own]
  by_cases same : room.id = roomId <;> simp [same]

/-! ## What an operation does to one room -/

/-- One room over an operation, with the number of batches that settle its game.
    `fresh` is the next room id. -/
inductive Effect (fresh roomId : RoomId) : Option Room → Option Room → Nat → Prop where
  | same {slot : Option Room} : Effect fresh roomId slot slot 0
  | opened {room : Room} : fresh ≤ roomId → room.landlordFound = false →
      Effect fresh roomId none (some room) 0
  | kept {room later : Room} : (room.landlordFound → later.landlordFound) →
      Effect fresh roomId (some room) (some later) 0
  | left {room : Room} :
      Effect fresh roomId (some room) none (if room.landlordFound then 1 else 0)

theorem landlordFound_eq {room : Room} {round : GameRound} (started : room.round = some round) :
    room.landlordFound = round.landlordSeat.isSome := by
  simp only [Room.landlordFound, started]

/-- Where nobody is owed anything there was no landlord. -/
theorem unfound_of_nothing {roomId : RoomId} {room : Room} {player : PlayerId} {now : Time}
    (sound : RoomInv roomId room) (nothing : room.expiredSettlements player now = []) :
    room.landlordFound = false := by
  unfold Room.landlordFound
  split
  · rfl
  · next round started =>
    have three := (sound.shape.playing started).1
    cases owned : round.landlordSeat with
    | none => rfl
    | some landlord =>
      have lengths := congrArg List.length nothing
      simp [Room.expiredSettlements, started, owned, Room.settlementEntries, three] at lengths

theorem move_effect {before after : RoomManager ρ} {event : RoomEvent} {roomId : RoomId}
    (holds : ManagerInv before) (move : RoomMove shuffler before event after)
    (about : event.roomId = some roomId) :
    Effect before.nextRoomId roomId (before.rooms.lookup roomId) (after.rooms.lookup roomId)
      (batchesFor roomId event.batches) := by
  cases move with
  | @joined _ _ _ room joined waits place absent players sound begun rooms =>
    cases about
    -- a game begins without a landlord
    have unfound : joined.landlordFound = false := by
      unfold Room.landlordFound
      split
      · rfl
      · next round started =>
        obtain ⟨random, rfl⟩ := begun round started
        rfl
    rw [rooms, UnorderedMap.find_insert, if_pos rfl]
    obtain found | ⟨absent, fresh⟩ := place
    · rw [found]
      refine .kept fun landlord => ?_
      simp [Room.landlordFound, waits.idle] at landlord
    · rw [absent]
      exact .opened fresh unfound
  | @moved _ room next round op now accepted state found started done unsettled sameId players after =>
    cases about
    obtain ⟨three, open_, log, ready⟩ := (holds.room _ _ found).shape.playing started
    rw [found]
    simp only [RoomManager.putRoom, UnorderedMap.find_insert, if_true]
    refine .kept fun landlord => ?_
    rw [landlordFound_eq started] at landlord
    rw [landlordFound_eq after]
    -- once there is a landlord, no move changes who it is
    obtain ⟨_, moved⟩ | ⟨_, rfl⟩ := exec_cases done
    · have ready : RoundInv log (Game.RoundState.mk round before.random).round := ready
      rw [landlord_move ready landlord moved]
      exact landlord
    · exact landlord
  | @settled _ room round op now endedAt accepted state found started done settled =>
    cases about
    have sound := holds.room _ _ found
    obtain ⟨three, unsettled, log, ready⟩ := sound.shape.playing started
    have ready : RoundInv log (Game.RoundState.mk round before.random).round := ready
    obtain ⟨landlord, winner, first, owned, won, hands⟩ := settling_spec ready unsettled done settled
    -- the room goes, and exactly one batch with it
    have settles : Settles room landlord (landlord.val == winner.val)
        (room.settlements state.round endedAt) := by
      simp only [Room.settlements, owned, won]
      exact settles_entries three landlord _ _
    have counted := batchesFor_settles settles roomId
    simp only [RoomEvent.batches, if_neg settles.nonempty, counted, sound.id, if_true]
    rw [found]
    change Effect _ _ _ ((before.removeRoom roomId room).rooms.lookup roomId) 1
    rw [find_removeRoom, if_pos rfl]
    have one : (if room.landlordFound then 1 else 0) = 1 := by
      rw [landlordFound_eq started, first]
      rfl
    exact one ▸ .left
  | @idle _ room found idle =>
    cases about
    rw [found, find_removeRoom, if_pos rfl]
    -- a room without a game pays nobody
    have zero : batchesFor roomId (RoomEvent.closed roomId []).batches =
        if room.landlordFound then 1 else 0 := by
      simp [Room.landlordFound, idle, RoomEvent.batches]
    exact zero ▸ .left
  | @expired _ room player since now found member away long =>
    cases about
    have sound := holds.room _ _ found
    rw [found, find_removeRoom, if_pos rfl]
    have counted : batchesFor roomId
        (RoomEvent.closed roomId (room.expiredSettlements player now)).batches =
          if room.landlordFound then 1 else 0 := by
      -- there is a batch exactly if there is a landlord
      by_cases nonempty : room.expiredSettlements player now = []
      · have unfound : room.landlordFound = false := unfound_of_nothing sound nonempty
        simp [RoomEvent.batches, nonempty, unfound]
      · have abandoned : Abandoned before now room player _ := ⟨since, member, away, long, rfl⟩
        obtain ⟨landlord, won, round, started, owned, settles, _⟩ :=
          abandoned_settles sound abandoned nonempty
        have landlordFound : room.landlordFound = true := by
          rw [landlordFound_eq started, owned]
          rfl
        rw [RoomEvent.batches, if_neg nonempty, batchesFor_settles settles, sound.id, landlordFound,
          if_pos rfl, if_pos rfl]
    exact counted ▸ .left
  | online | offline => cases about

/-- A batch settles the game of the room its event is about. -/
theorem event_settles {before after : RoomManager ρ} {event : RoomEvent} {batch : List SettlementEntry}
    (holds : ManagerInv before) (move : RoomMove shuffler before event after)
    (given : batch ∈ event.batches) :
    ∃ room landlord won, event.roomId = some room.id ∧ Settles room landlord won batch := by
  cases move with
  | @settled _ room round op now endedAt accepted state found started done settled =>
    have sound := holds.room _ _ found
    obtain ⟨three, unsettled, log, ready⟩ := sound.shape.playing started
    have ready : RoundInv log (Game.RoundState.mk round before.random).round := ready
    obtain ⟨landlord, winner, _, owned, won, _⟩ := settling_spec ready unsettled done settled
    simp only [RoomEvent.batches] at given
    split at given
    · cases given
    · rw [List.mem_singleton.mp given]
      refine ⟨room, landlord, landlord.val == winner.val, by simp [RoomEvent.roomId, sound.id], ?_⟩
      simp only [Room.settlements, owned, won]
      exact settles_entries three landlord _ _
  | idle => simp [RoomEvent.batches] at given
  | @expired _ room player since now found member away long =>
    have sound := holds.room _ _ found
    simp only [RoomEvent.batches] at given
    split at given
    · cases given
    · next nonempty =>
      rw [List.mem_singleton.mp given]
      have abandoned : Abandoned before now room player _ := ⟨since, member, away, long, rfl⟩
      obtain ⟨landlord, won, _, _, _, settles, _⟩ := abandoned_settles sound abandoned nonempty
      exact ⟨room, landlord, won, by simp [RoomEvent.roomId, sound.id], settles⟩
  | joined | moved | online | offline => cases given

theorem batches_other {before after : RoomManager ρ} {event : RoomEvent} {roomId : RoomId}
    (holds : ManagerInv before) (move : RoomMove shuffler before event after)
    (differ : event.roomId ≠ some roomId) : batchesFor roomId event.batches = 0 := by
  refine List.countP_eq_zero.mpr ?_
  intro batch given
  obtain ⟨room, landlord, won, about, settles⟩ := event_settles holds move given
  have one := batchesFor_settles settles roomId
  have elsewhere : room.id ≠ roomId := fun same => differ (about.trans (congrArg some same))
  rw [if_neg elsewhere, batchesFor, List.countP_singleton] at one
  intro own
  rw [if_pos own] at one
  cases one

theorem move_grows {before after : RoomManager ρ} {event : RoomEvent}
    (move : RoomMove shuffler before event after) : before.nextRoomId ≤ after.nextRoomId := by
  cases move with
  | joined _ _ _ _ _ _ _ _ _ _ grows => exact grows
  | moved | settled => exact le_refl _
  | idle | expired =>
    rw [stopWaiting_eq]
    exact le_refl _
  | online => exact le_refl _
  | offline =>
    unfold RoomManager.markOffline
    split <;> exact le_refl _

theorem moves_grow {before after : RoomManager ρ} {events : List RoomEvent}
    (moves : RoomMoves shuffler before events after) : before.nextRoomId ≤ after.nextRoomId :=
  moves.invariant (fun current => before.nextRoomId ≤ current.nextRoomId) (le_refl _)
    fun _ _ _ grown move => grown.trans (move_grows move)

theorem Effect.earlier {fresh later roomId : RoomId} {first second : Option Room} {number : Nat}
    (effect : Effect later roomId first second number) (grows : fresh ≤ later) :
    Effect fresh roomId first second number := by
  cases effect with
  | same => exact .same
  | opened unused unfound => exact .opened (grows.trans unused) unfound
  | kept keeps => exact .kept keeps
  | left => exact .left

theorem moves_batches_other {before after : RoomManager ρ} {events : List RoomEvent}
    {roomId : RoomId} (holds : ManagerInv before) (moves : RoomMoves shuffler before events after)
    (differ : roomId ∉ events.filterMap RoomEvent.roomId) :
    batchesFor roomId (events.flatMap RoomEvent.batches) = 0 := by
  induction moves with
  | refl => rfl
  | @snoc events current after event moves move inductionHypothesis =>
    rw [List.filterMap_append, List.mem_append, not_or] at differ
    have about : event.roomId ≠ some roomId := fun about =>
      differ.2 (List.mem_filterMap.mpr ⟨event, List.mem_singleton_self event, about⟩)
    rw [List.flatMap_append, List.flatMap_singleton, batchesFor_append,
      inductionHypothesis differ.1, batches_other (managerInv_moves holds moves) move about]

/-- An operation is about each room once at most, so it has one effect on it. -/
theorem moves_effect {before after : RoomManager ρ} {events : List RoomEvent} (holds : ManagerInv before)
    (moves : RoomMoves shuffler before events after)
    (once : (events.filterMap RoomEvent.roomId).Nodup) (roomId : RoomId) :
    Effect before.nextRoomId roomId (before.rooms.lookup roomId) (after.rooms.lookup roomId)
      (batchesFor roomId (events.flatMap RoomEvent.batches)) := by
  induction moves with
  | refl => exact .same
  | @snoc events current after event moves move inductionHypothesis =>
    rw [List.filterMap_append] at once
    obtain ⟨earlier, _, apart⟩ := List.nodup_append.mp once
    have sound := managerInv_moves holds moves
    rw [List.flatMap_append, List.flatMap_singleton, batchesFor_append]
    by_cases about : event.roomId = some roomId
    -- this is the one event about the room; nothing before it was
    · have new : roomId ∉ events.filterMap RoomEvent.roomId := fun member =>
        apart roomId member roomId (List.mem_filterMap.mpr ⟨event, by simp, about⟩) rfl
      have effect := (move_effect sound move about).earlier (moves_grow moves)
      rw [moves_other moves new] at effect
      rw [moves_batches_other holds moves new, Nat.zero_add]
      exact effect
    · rw [batches_other sound move about, move_other move about]
      exact inductionHypothesis earlier

/-! ## Exactly once -/

/-- At some moment of the run the round of this room had its landlord. -/
def Reached (trace : List (RoomCall ρ)) (roomId : RoomId) : Prop :=
  ∃ call ∈ trace, ∃ room, call.before.rooms.lookup roomId = some room ∧ room.landlordFound

theorem reached_snoc {trace : List (RoomCall ρ)} {call : RoomCall ρ} {roomId : RoomId} :
    Reached (trace ++ [call]) roomId ↔ Reached trace roomId ∨
      ∃ room, call.before.rooms.lookup roomId = some room ∧ room.landlordFound := by
  simp only [Reached, List.mem_append, List.mem_singleton, or_and_right, exists_or, exists_eq_left]

/-- The settlements given out along a run. -/
def allBatches (trace : List (RoomCall ρ)) : List (List SettlementEntry) :=
  trace.flatMap fun call => call.answer.batches

/-- What a run has to say of one room, now in `slot`: whether its landlord was reached, and
    how often its game was settled. -/
structure RoomHistory (reached : Prop) (settled : Nat) (slot : Option Room) : Prop where
  present : ∀ room, slot = some room → settled = 0 ∧ (reached → room.landlordFound)
  gone : slot = none → (reached → settled = 1) ∧ (¬ reached → settled = 0)

theorem RoomHistory.step {reached : Prop} {fresh roomId : RoomId} {settled more : Nat}
    {first second : Option Room} (holds : RoomHistory reached settled first)
    (unused : fresh ≤ roomId → ¬ reached) (effect : Effect fresh roomId first second more) :
    RoomHistory (reached ∨ ∃ room, first = some room ∧ room.landlordFound) (settled + more) second := by
  cases effect with
  | same =>
    refine ⟨?_, ?_⟩
    · rintro room rfl
      obtain ⟨none, landlord⟩ := holds.present room rfl
      refine ⟨none, ?_⟩
      rintro (before | ⟨_, ⟨⟩, now⟩)
      · exact landlord before
      · exact now
    · rintro rfl
      simpa using holds.gone rfl
  | opened late unfound =>
    refine ⟨?_, nofun⟩
    intro room _
    -- its id is a new one, so no landlord was found in it
    have never := unused late
    refine ⟨(holds.gone rfl).2 never, ?_⟩
    rintro (before | ⟨_, ⟨⟩, _⟩)
    exact absurd before never
  | @kept room later keeps =>
    refine ⟨?_, nofun⟩
    rintro _ ⟨⟩
    obtain ⟨none, landlord⟩ := holds.present room rfl
    refine ⟨none, ?_⟩
    rintro (before | ⟨_, ⟨⟩, now⟩)
    · exact keeps (landlord before)
    · exact keeps now
  | @left room =>
    obtain ⟨none, landlord⟩ := holds.present room rfl
    -- the room leaves with a batch exactly if its landlord was found
    refine ⟨by rintro _ ⟨⟩, fun _ => ⟨?_, ?_⟩⟩
    · rintro (before | ⟨_, ⟨⟩, now⟩)
      · rw [none, if_pos (landlord before)]
      · rw [none, if_pos now]
    · intro never
      have unfound : ¬ room.landlordFound := fun found => never (.inr ⟨room, rfl, found⟩)
      rw [none, if_neg unfound]

/-- The history of every room, along every run. -/
theorem roomHistory_run {random : ρ} {trace : List (RoomCall ρ)} {finish : RoomManager ρ}
    (run : Transition.Steps (RoomStep shuffler) ({ random } : RoomManager ρ) trace finish)
    (roomId : RoomId) :
    ManagerInv finish ∧
      RoomHistory (Reached trace roomId) (batchesFor roomId (allBatches trace))
        (finish.rooms.lookup roomId) ∧
      (finish.nextRoomId ≤ roomId → ¬ Reached trace roomId) := by
  refine run.history (fun trace (manager : RoomManager ρ) => ManagerInv manager ∧
    RoomHistory (Reached trace roomId) (batchesFor roomId (allBatches trace))
      (manager.rooms.lookup roomId) ∧ (manager.nextRoomId ≤ roomId → ¬ Reached trace roomId)) ?_ ?_
  · have never : ¬ Reached ([] : List (RoomCall ρ)) roomId := by
      rintro ⟨_, ⟨⟩, _⟩
    exact ⟨managerInv_empty random, ⟨by simp, fun _ => ⟨fun reached => absurd reached never,
      fun _ => rfl⟩⟩, fun _ => never⟩
  · intro trace before call after _ holds step
    obtain ⟨sound, history, unused⟩ := holds
    obtain ⟨events, comes⟩ := step.comes sound
    have effect := moves_effect sound comes.moves comes.once roomId
    rw [← comes.batches] at effect
    -- what the call gives out comes on top of what was given out before
    have total : batchesFor roomId (allBatches (trace ++ [call])) =
        batchesFor roomId (allBatches trace) + batchesFor roomId call.answer.batches := by
      simp [allBatches]
    refine ⟨managerInv_moves sound comes.moves, ?_, ?_⟩
    · rw [total, reached_snoc, step.1]
      exact history.step unused effect
    · intro late reached
      have earlier := (moves_grow comes.moves).trans late
      rw [reached_snoc, step.1] at reached
      obtain before | ⟨room, found, _⟩ := reached
      · exact unused earlier before
      · exact absurd (sound.fresh roomId room found) (not_lt.mpr earlier)

/-- Why the batch of a call is right: its game had a landlord, and the winners are those
    of the round that has just settled, or those a player who stayed away has left. -/
def WinnersBy (shuffler : Shuffler ρ) (before : RoomManager ρ) (room : Room) (round : GameRound)
    (landlord : Fin 3) (won : Bool) : RoomOp → Prop
  | .playCards now _ player cards => ∃ random state,
      (RoundOp.playCards (room.seatOf player) cards).exec shuffler now ⟨round, random⟩ =
        .ok (true, state) ∧
      state.round.phase = .settled ∧ (won ↔ state.round.deal.hands landlord = [])
  | .timeoutExpired _ _ startedAt => ∃ random state,
      RoundOp.timeout.exec shuffler (startedAt room.id) ⟨round, random⟩ = .ok (true, state) ∧
      state.round.phase = .settled ∧ (won ↔ state.round.deal.hands landlord = [])
  | .cleanupExpired _ now => ∃ player since, player ∈ room.playerIds ∧
      before.offlineSince.lookup player = some since ∧ now - since ≥ seconds 300 ∧
      (won ↔ room.seatOf player ≠ landlord)
  | _ => False

theorem ending_settles {before : RoomManager ρ} {op : RoomOp} {roomId : RoomId} {room : Room}
    {batch : List SettlementEntry} (own : RoomInv roomId room)
    (ending : Ending shuffler before room batch op) (nonempty : batch ≠ []) :
    ∃ (landlord : Fin 3) (won : Bool) (round : GameRound), room.round = some round ∧
      round.landlordSeat = some landlord.val ∧ Settles room landlord won batch ∧
      WinnersBy shuffler before room round landlord won op := by
  cases op with
  | playCards | timeoutExpired => exact finished_settles own ending
  | cleanupExpired order now =>
    obtain ⟨player, abandoned⟩ := ending
    obtain ⟨landlord, won, round, started, owned, settles, lost⟩ :=
      abandoned_settles own abandoned nonempty
    obtain ⟨since, member, away, long, _⟩ := abandoned
    exact ⟨landlord, won, round, started, owned, settles, player, since, member, away, long, lost⟩
  | matchPlayer | callLandlord | pass | reconnectInfo | roomState | markOnline | markOffline
  | cleanupIdle => exact ending.elim

/-- Every batch of a call settles the game of a room that was there. -/
theorem RoomStep.settles {before after : RoomManager ρ} {call : RoomCall ρ}
    (sound : ManagerInv before) (step : RoomStep shuffler before call after)
    {batch : List SettlementEntry} (given : batch ∈ call.answer.batches) :
    ∃ roomId room round landlord won, before.rooms.lookup roomId = some room ∧
      room.id = roomId ∧ room.playerIds.Nodup ∧ room.round = some round ∧
      round.landlordSeat = some landlord.val ∧ Settles room landlord won batch ∧
      WinnersBy shuffler before room round landlord won call.op := by
  obtain ⟨events, comes⟩ := step.comes sound
  -- no operation gives out an empty batch
  have nonempty : batch ≠ [] := by
    rw [comes.batches] at given
    obtain ⟨event, _, given⟩ := List.mem_flatMap.mp given
    exact batches_nonempty given
  obtain ⟨roomId, room, found, ending⟩ := step.ends sound batch given
  have own := sound.room roomId room found
  obtain ⟨landlord, won, round, started, owned, settles, winners⟩ :=
    ending_settles own ending nonempty
  exact ⟨roomId, room, round, landlord, won, found, own.id, own.nodup, started, owned, settles, winners⟩

/-- No game is settled twice along a run. -/
theorem batchesFor_le {random : ρ} {trace : List (RoomCall ρ)} {finish : RoomManager ρ}
    (run : Transition.Steps (RoomStep shuffler) ({ random } : RoomManager ρ) trace finish)
    (roomId : RoomId) : batchesFor roomId (allBatches trace) ≤ 1 := by
  obtain ⟨_, history, _⟩ := roomHistory_run run roomId
  cases slot : finish.rooms.lookup roomId with
  | some room => exact (history.present room slot).1 ▸ Nat.zero_le 1
  | none =>
    by_cases reached : Reached trace roomId
    · exact ((history.gone slot).1 reached).le
    · exact (history.gone slot).2 reached ▸ Nat.zero_le 1

/-- Along every run: a room whose landlord was found and that is gone has been settled
    once, no other room has, and every batch is one of these settlements. -/
theorem settled_exactly_once (shuffler : Shuffler ρ) (random : ρ) (ops : List RoomOp) :
    ∃ trace finish, RoomManager.run shuffler { random } ops = .ok (trace, finish) ∧
      (∀ roomId,
        (Reached trace roomId → finish.rooms.lookup roomId = none →
          batchesFor roomId (allBatches trace) = 1) ∧
        (¬ Reached trace roomId ∨ finish.rooms.lookup roomId ≠ none →
          batchesFor roomId (allBatches trace) = 0)) ∧
      ∀ call ∈ trace, ∀ batch ∈ call.answer.batches, ∃ roomId room round landlord won,
        call.before.rooms.lookup roomId = some room ∧ room.id = roomId ∧ room.playerIds.Nodup ∧
        room.round = some round ∧ round.landlordSeat = some landlord.val ∧
        Settles room landlord won batch ∧
        WinnersBy shuffler call.before room round landlord won call.op := by
  obtain ⟨trace, finish, ran, _⟩ := run_sound shuffler (managerInv_empty random) ops
  have run := RoomManager.run_steps ran
  refine ⟨trace, finish, ran, ?_, ?_⟩
  · intro roomId
    obtain ⟨_, history, _⟩ := roomHistory_run run roomId
    refine ⟨fun reached gone => (history.gone gone).1 reached, ?_⟩
    intro spared
    cases slot : finish.rooms.lookup roomId with
    | some room => exact (history.present room slot).1
    | none =>
      obtain never | present := spared
      · exact (history.gone slot).2 never
      · exact absurd slot present
  · intro call member batch given
    obtain ⟨before, after, sound, step⟩ := sound_at run (managerInv_empty random) member
    rw [step.1]
    exact step.settles sound given

end Doudizhu.Gateway
