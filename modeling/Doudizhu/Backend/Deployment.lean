import Mathlib.Data.String.Basic
import Doudizhu.Backend.Ledger
import Doudizhu.Gateway.Settlement

/-! # Gateways and the ledger

The gateway settles games under the number of their room; the backend applies a
settlement unless it has one for that game and player already.  A deployment is one
backend with the gateway processes that run over it, one after the other, each with a
`RoomManager` of its own.

Within one process no two settlements name the same game and player.  The next process
counts its rooms from 1 again.
-/

namespace Doudizhu.Gateway

/-- What the backend knows a settlement by. -/
def SettlementEntry.pair (entry : SettlementEntry) : String × PlayerId :=
  (entry.gameId, entry.playerId)

/-- The body of `/api/games/settle`. -/
def SettlementEntry.request (entry : SettlementEntry) : Backend.SettlementRequest where
  gameId := entry.gameId
  playerId := entry.playerId
  coinChange := entry.coinChange
  result := entry.result
  durationSeconds := entry.durationSeconds

end Doudizhu.Gateway

namespace Doudizhu.Backend

open Gateway Game

variable {ρ : Type} {shuffler : Shuffler ρ}

/-! ## Deployments -/

structure Deployment (ρ : Type) where
  /-- The rooms of the process that runs now. -/
  manager : RoomManager ρ
  ledger : Ledger := {}
  /-- Settle requests on their way to the backend. -/
  posted : List SettlementEntry := []
  /-- What the process that runs now has posted so far. -/
  sent : List (String × PlayerId) := []
  /-- What the processes before it had posted. -/
  sentBefore : List (String × PlayerId) := []

inductive DeploymentEvent (ρ : Type) where
  /-- The gateway is started again. -/
  | restart (random : ρ)
  | operation (op : RoomOp)
  | login (player : PlayerId)
  /-- The backend handles one of the posted requests. -/
  | settle (index : Nat)

/-- One event, with the settlements it posts. -/
def Deployment.step (shuffler : Shuffler ρ) (deployment : Deployment ρ) :
    DeploymentEvent ρ → Except Fault (List SettlementEntry × Deployment ρ)
  | .restart random =>
    .ok ([], { deployment with
      manager := { random }
      sent := []
      sentBefore := deployment.sentBefore ++ deployment.sent })
  | .operation op => do
    let (answer, manager) ← op.exec shuffler deployment.manager
    let entries := answer.batches.flatten
    .ok (entries, { deployment with
      manager
      posted := deployment.posted ++ entries
      sent := deployment.sent ++ entries.map SettlementEntry.pair })
  | .login player => .ok ([], { deployment with ledger := deployment.ledger.afterLogin player })
  | .settle index =>
    match deployment.posted[index]? with
    | none => .ok ([], deployment)
    | some entry =>
      .ok ([], { deployment with
        ledger := deployment.ledger.afterSettle entry.request
        posted := deployment.posted.eraseIdx index })

structure DeploymentCall (ρ : Type) where
  event : DeploymentEvent ρ
  before : Deployment ρ
  entries : List SettlementEntry
  after : Deployment ρ

def Deployment.run (shuffler : Shuffler ρ) (deployment : Deployment ρ) :
    List (DeploymentEvent ρ) → Except Fault (List (DeploymentCall ρ) × Deployment ρ)
  | [] => .ok ([], deployment)
  | event :: events => do
    let (entries, next) ← deployment.step shuffler event
    let (trace, finish) ← next.run shuffler events
    .ok (⟨event, deployment, entries, next⟩ :: trace, finish)

/-- A process settles a game under a number and for a player that an earlier process
    used together already. -/
def DeploymentCall.Reuses (call : DeploymentCall ρ) : Prop :=
  ∃ entry ∈ call.entries, entry.pair ∈ call.before.sentBefore

/-- The backend handles this settlement of a player it knows, whose balance stays in
    bounds. -/
structure DeploymentCall.Handles (call : DeploymentCall ρ) (entry : SettlementEntry) (coins : Int) :
    Prop where
  posted : ∃ index, call.event = .settle index ∧ call.before.posted[index]? = some entry
  known : call.before.ledger.players.lookup entry.playerId = some coins
  lower : 0 ≤ coins + entry.coinChange
  upper : coins + entry.coinChange < 2 ^ 31

/-- The settlement changes the coins of its player, by what it says. -/
def DeploymentCall.Applies (call : DeploymentCall ρ) (entry : SettlementEntry) (coins : Int) : Prop :=
  call.after.ledger.players.lookup entry.playerId = some (coins + entry.coinChange)

/-- What all processes have posted, in order. -/
def sentAlong (trace : List (DeploymentCall ρ)) : List (String × PlayerId) :=
  trace.flatMap fun call => call.entries.map SettlementEntry.pair

def DeploymentStep (shuffler : Shuffler ρ) (before : Deployment ρ) (call : DeploymentCall ρ)
    (after : Deployment ρ) : Prop :=
  call.before = before ∧ call.after = after ∧ before.step shuffler call.event = .ok (call.entries, after)

theorem Deployment.worksOff (shuffler : Shuffler ρ) :
    Transition.WorksOff (DeploymentStep shuffler) (fun deployment => deployment.step shuffler)
      (fun deployment event entries next => ⟨event, deployment, entries, next⟩)
      (Deployment.run shuffler) where
  nil _ := rfl
  cons _ _ _ := rfl
  move done := ⟨rfl, rfl, done⟩

theorem Deployment.run_steps {deployment finish : Deployment ρ} {events : List (DeploymentEvent ρ)}
    {trace : List (DeploymentCall ρ)} (ran : deployment.run shuffler events = .ok (trace, finish)) :
    Transition.Steps (DeploymentStep shuffler) deployment trace finish :=
  (Deployment.worksOff shuffler).steps ran

/-! ## One process -/

/-- A batch posts one settlement for each player of its room. -/
theorem settles_pairs {room : Room} {landlord : Fin 3} {won : Bool} {batch : List SettlementEntry}
    (settles : Settles room landlord won batch) :
    batch.map SettlementEntry.pair = room.playerIds.map fun player => (toString room.id, player) := by
  rw [← settles.players, List.map_map]
  apply List.map_congr_left
  intro entry member
  simp [SettlementEntry.pair, settles.game entry member]

/-- Batches of different games post different pairs. -/
theorem pairs_nodup {batches : List (List SettlementEntry)}
    (settle : ∀ batch ∈ batches, ∃ room landlord won, Settles room landlord won batch ∧
      room.playerIds.Nodup)
    (once : ∀ roomId, batchesFor roomId batches ≤ 1) :
    (batches.flatten.map SettlementEntry.pair).Nodup := by
  induction batches with
  | nil => exact .nil
  | cons batch batches inductionHypothesis =>
    obtain ⟨room, landlord, won, settles, players⟩ := settle batch (List.mem_cons_self ..)
    have split : ∀ roomId, batchesFor roomId (batch :: batches) =
        batchesFor roomId [batch] + batchesFor roomId batches :=
      fun roomId => batchesFor_append roomId [batch] batches
    have rest := inductionHypothesis (fun other member => settle other (List.mem_cons_of_mem _ member))
      fun roomId => by
        have total := once roomId
        rw [split] at total
        omega
    rw [List.flatten_cons, List.map_append, settles_pairs settles]
    refine List.nodup_append.mpr ⟨players.map fun _ _ same => congrArg Prod.snd same, rest, ?_⟩
    rintro pair own _ later rfl
    obtain ⟨player, _, rfl⟩ := List.mem_map.mp own
    obtain ⟨entry, inside, same⟩ := List.mem_map.mp later
    obtain ⟨other, member, inside⟩ := List.mem_flatten.mp inside
    -- the game of `room` would be settled by `batch` and by `other`
    have total := once room.id
    have game : entry.gameId = toString room.id := congrArg Prod.fst same
    have again : 0 < batchesFor room.id batches :=
      List.countP_pos_iff.mpr
        ⟨other, member, List.any_eq_true.mpr ⟨entry, inside, decide_eq_true game⟩⟩
    rw [split, batchesFor_settles settles, if_pos rfl] at total
    omega

/-- Within one process no pair is posted twice. -/
theorem process_nodup {random : ρ} {trace : List (RoomCall ρ)} {finish : RoomManager ρ}
    (run : Transition.Steps (Gateway.RoomStep shuffler) ({ random } : RoomManager ρ) trace finish) :
    ((allBatches trace).flatten.map SettlementEntry.pair).Nodup := by
  refine pairs_nodup ?_ (batchesFor_le run)
  intro batch given
  obtain ⟨call, member, given⟩ := List.mem_flatMap.mp given
  obtain ⟨before, after, sound, step⟩ := sound_at run (managerInv_empty random) member
  obtain ⟨roomId, room, round, landlord, won, _, _, nodup, _, _, settles, _⟩ := step.settles sound given
  exact ⟨room, landlord, won, settles, nodup⟩

/-! ## The text of a settlement -/

theorem blank_toString (number : Nat) : blank (toString number) = false := by
  have digits : (toString number).toList = Nat.toDigits 10 number := Nat.toList_repr
  rw [blank, digits, List.all_eq_false]
  obtain ⟨digit, member⟩ := List.exists_mem_of_ne_nil _ (Nat.toDigits_ne_nil (n := number) (b := 10))
  refine ⟨digit, member, ?_⟩
  have isDigit := Nat.isDigit_of_mem_toDigits (by decide) (by decide) member
  simp only [Char.isDigit, Bool.and_eq_true, decide_eq_true_eq] at isDigit
  have lower := isDigit.1
  rw [ge_iff_le, UInt32.le_iff_toNat_le] at lower
  have large : 48 ≤ digit.toNat := lower
  simp only [decide_eq_true_eq]
  omega

/-- What a posted settlement is like. -/
structure EntrySound (entry : SettlementEntry) : Prop where
  gameId : blank entry.gameId = false
  result : blank entry.result = false
  change : entry.coinChange ≠ 0

theorem entrySound_settles {room : Room} {landlord : Fin 3} {won : Bool} {batch : List SettlementEntry}
    (settles : Settles room landlord won batch) {entry : SettlementEntry} (member : entry ∈ batch) :
    EntrySound entry := by
  obtain ⟨seat, found⟩ := List.mem_iff_getElem?.mp member
  have change : entry.coinChange ≠ 0 := by
    rw [settles.changes seat entry found, coinChange]
    split <;> split <;> decide
  refine ⟨?_, ?_, change⟩
  · rw [settles.game entry member]
    exact blank_toString room.id
  · obtain lost | won := lt_or_gt_of_ne change
    · rw [(settles.result entry member).2.mpr lost]
      decide
    · rw [(settles.result entry member).1.mpr won]
      decide

/-! ## Histories -/

/-- The pairs that the ledger has recorded. -/
def Ledger.pairs (ledger : Ledger) : List (String × String) :=
  ledger.gameRecords.map fun record => (record.gameId, record.playerId)

/-- What holds after a history in which `all` was posted. -/
structure DeploymentInv (shuffler : Shuffler ρ) (all : List (String × PlayerId))
    (deployment : Deployment ρ) : Prop where
  process : ∃ random calls,
    Transition.Steps (Gateway.RoomStep shuffler) ({ random } : RoomManager ρ) calls deployment.manager ∧
    deployment.sent = (allBatches calls).flatten.map SettlementEntry.pair
  sent : all = deployment.sentBefore ++ deployment.sent
  /-- Every pair that is recorded or posted was sent, and no more often. -/
  handled : (deployment.ledger.pairs ++ deployment.posted.map SettlementEntry.pair).Subperm all
  posted : ∀ entry ∈ deployment.posted, EntrySound entry
  known : ∀ player coins, deployment.ledger.players.lookup player = some coins → blank player = false

theorem deploymentInv_start (shuffler : Shuffler ρ) (random : ρ) :
    DeploymentInv shuffler [] ({ manager := { random } } : Deployment ρ) where
  process := ⟨random, [], .refl, rfl⟩
  sent := rfl
  handled := .refl _
  posted := by simp
  known := by simp

/-- An operation of the process: what it posts is new to the process. -/
theorem operation_spec {all : List (String × PlayerId)} {deployment : Deployment ρ}
    (holds : DeploymentInv shuffler all deployment) {op : RoomOp} {answer : RoomAnswer}
    {manager : RoomManager ρ} (done : op.exec shuffler deployment.manager = .ok (answer, manager)) :
    (∃ random calls,
      Transition.Steps (Gateway.RoomStep shuffler) ({ random } : RoomManager ρ) calls manager ∧
      deployment.sent ++ answer.batches.flatten.map SettlementEntry.pair =
        (allBatches calls).flatten.map SettlementEntry.pair) ∧
    (∀ entry ∈ answer.batches.flatten, EntrySound entry) ∧
    (deployment.sent ++ answer.batches.flatten.map SettlementEntry.pair).Nodup := by
  obtain ⟨random, calls, run, sent⟩ := holds.process
  have step : Gateway.RoomStep shuffler deployment.manager ⟨op, deployment.manager, answer⟩ manager :=
    ⟨rfl, done⟩
  have longer := run.snoc step
  have posts : deployment.sent ++ answer.batches.flatten.map SettlementEntry.pair =
      (allBatches (calls ++ [⟨op, deployment.manager, answer⟩])).flatten.map SettlementEntry.pair := by
    simp [sent, allBatches]
  refine ⟨⟨random, _, longer, posts⟩, ?_, posts ▸ process_nodup longer⟩
  intro entry inside
  obtain ⟨batch, given, member⟩ := List.mem_flatten.mp inside
  have sound := (roomHistory_run run 0).1
  obtain ⟨_, room, round, landlord, won, _, _, _, _, _, settles, _⟩ := step.settles sound given
  exact entrySound_settles settles member

/-- A posted request leaves the list and may leave a record. -/
theorem settle_handled {ledger : Ledger} {posted : List SettlementEntry} {index : Nat}
    {entry : SettlementEntry} {all : List (String × PlayerId)} (found : posted[index]? = some entry)
    (handled : (ledger.pairs ++ posted.map SettlementEntry.pair).Subperm all) :
    ((ledger.afterSettle entry.request).pairs ++
      (posted.eraseIdx index).map SettlementEntry.pair).Subperm all := by
  obtain ⟨inside, same⟩ := List.getElem?_eq_some_iff.mp found
  obtain kept | added := Ledger.settle_records ledger entry.request
  · rw [Ledger.pairs, kept]
    have fewer : ((posted.eraseIdx index).map SettlementEntry.pair).Sublist
        (posted.map SettlementEntry.pair) := (List.eraseIdx_sublist posted index).map _
    exact ((List.Sublist.refl _).append fewer).subperm.trans handled
  -- the pair moves from the queue to the records
  · have moved : (posted.map SettlementEntry.pair).Perm
        (entry.pair :: (posted.eraseIdx index).map SettlementEntry.pair) := by
      have front := (List.getElem_cons_eraseIdx_perm inside).symm.map SettlementEntry.pair
      rwa [same, List.map_cons] at front
    rw [Ledger.pairs, added, List.map_append, List.append_assoc]
    exact ((List.Perm.refl _).append moved.symm).subperm.trans handled

theorem deploymentInv_step {all : List (String × PlayerId)} {before after : Deployment ρ}
    {event : DeploymentEvent ρ} {entries : List SettlementEntry}
    (holds : DeploymentInv shuffler all before)
    (done : before.step shuffler event = .ok (entries, after)) :
    DeploymentInv shuffler (all ++ entries.map SettlementEntry.pair) after := by
  cases event with
  -- a new process has sent nothing, and what was posted stays posted
  | restart random =>
    cases done
    rw [List.map_nil, List.append_nil]
    exact ⟨⟨random, [], .refl, rfl⟩, by simpa using holds.sent, holds.handled, holds.posted,
      holds.known⟩
  | operation op =>
    obtain ⟨⟨answer, manager⟩, ran, done⟩ := ExceptLoop.bind_ok.mp done
    cases done
    obtain ⟨process, sound, _⟩ := operation_spec holds ran
    refine ⟨process, ?_, ?_, ?_, holds.known⟩
    · rw [holds.sent, List.append_assoc]
    · rw [List.map_append, ← List.append_assoc]
      exact holds.handled.append (.refl _)
    · intro entry member
      obtain old | new := List.mem_append.mp member
      · exact holds.posted entry old
      · exact sound entry new
  | login player =>
    cases done
    rw [List.map_nil, List.append_nil]
    refine ⟨holds.process, holds.sent, ?_, holds.posted, ?_⟩
    · rw [Ledger.pairs, Ledger.login_records]
      exact holds.handled
    · intro other coins known
      obtain ⟨coins, old⟩ | valid := Ledger.login_known known
      · exact holds.known other coins old
      · exact valid
  | settle index =>
    simp only [Deployment.step] at done
    split at done
    · cases done
      rw [List.map_nil, List.append_nil]
      exact holds
    · next entry posted =>
      cases done
      rw [List.map_nil, List.append_nil]
      refine ⟨holds.process, holds.sent, settle_handled posted holds.handled, ?_, ?_⟩
      · exact fun other member => holds.posted other (List.mem_of_mem_eraseIdx member)
      · intro player coins known
        obtain ⟨coins, old⟩ := Ledger.settle_known known
        exact holds.known player coins old

/-- Every history goes on. -/
theorem run_deployment {all : List (String × PlayerId)} {deployment : Deployment ρ}
    (holds : DeploymentInv shuffler all deployment) (events : List (DeploymentEvent ρ)) :
    ∃ trace finish, deployment.run shuffler events = .ok (trace, finish) := by
  have runs := (Deployment.worksOff shuffler).goes
    (fun _ deployment => ∃ all, DeploymentInv shuffler all deployment) ?_ ⟨all, holds⟩ events
  · obtain ⟨trace, finish, ran, _⟩ := runs
    exact ⟨trace, finish, ran⟩
  · intro _ deployment event ⟨all, holds⟩
    have goes : ∃ entries next, deployment.step shuffler event = .ok (entries, next) := by
      cases event with
      | restart | login => exact ⟨_, _, rfl⟩
      | operation op =>
        obtain ⟨random, calls, run, _⟩ := holds.process
        obtain ⟨answer, next, _, done, _⟩ := exec_comes shuffler (roomHistory_run run 0).1 op
        exact ⟨_, _, by rw [Deployment.step, done]; rfl⟩
      | settle index =>
        simp only [Deployment.step]
        split <;> exact ⟨_, _, rfl⟩
    obtain ⟨entries, next, done⟩ := goes
    exact ⟨entries, next, done, _, deploymentInv_step holds done⟩

/-- A settlement of a known player that fits is applied unless its pair is recorded or its
    duration negative. -/
theorem applied_iff {all : List (String × PlayerId)} {before : Deployment ρ}
    (holds : DeploymentInv shuffler all before) {index : Nat} {entry : SettlementEntry} {coins : Int}
    (posted : before.posted[index]? = some entry)
    (known : before.ledger.players.lookup entry.playerId = some coins)
    (lower : 0 ≤ coins + entry.coinChange) (upper : coins + entry.coinChange < 2 ^ 31) :
    (before.ledger.afterSettle entry.request).players.lookup entry.playerId =
        some (coins + entry.coinChange) ↔
      before.ledger.recorded entry.gameId entry.playerId = false ∧ 0 ≤ entry.durationSeconds := by
  have sound := holds.posted entry (List.mem_of_getElem? posted)
  have named : blank entry.playerId = false := holds.known entry.playerId coins known
  have valid : entry.request.valid ↔ 0 ≤ entry.durationSeconds := by
    simp only [SettlementRequest.valid, SettlementEntry.request, sound.gameId, sound.result, named,
      Bool.not_false, Bool.true_and]
    exact decide_eq_true_iff
  constructor
  · intro applied
    -- were it ignored, the balance would not change, but no entry is for 0 coins
    by_contra ignored
    have same : before.ledger.afterSettle entry.request = before.ledger := by
      apply Ledger.settle_ignored
      by_cases old : before.ledger.recorded entry.gameId entry.playerId
      · exact .inr old
      · left
        rw [Bool.eq_false_iff, ne_eq, valid]
        exact fun nonnegative => ignored ⟨Bool.eq_false_iff.mpr old, nonnegative⟩
    rw [same, known, Option.some.injEq] at applied
    exact sound.change (by omega)
  · rintro ⟨new, nonnegative⟩
    exact Ledger.settle_applied known (valid.mpr nonnegative) new lower upper

/-- When nothing was sent twice, what is posted is not recorded yet. -/
theorem new_of_nodup {all : List (String × PlayerId)} {before : Deployment ρ}
    (holds : DeploymentInv shuffler all before) {index : Nat} {entry : SettlementEntry}
    (posted : before.posted[index]? = some entry) (distinct : all.Nodup) :
    before.ledger.recorded entry.gameId entry.playerId = false := by
  obtain ⟨list, perm, sublist⟩ := holds.handled
  have nodup := perm.nodup_iff.mp (distinct.sublist sublist)
  rw [Bool.eq_false_iff, ne_eq, Ledger.recorded_iff]
  intro old
  have on : entry.pair ∈ before.posted.map SettlementEntry.pair :=
    List.mem_map_of_mem (List.mem_of_getElem? posted)
  exact (List.nodup_append.mp nodup).2.2 entry.pair old entry.pair on rfl

/-- Pairs that are new to the process repeat nothing unless an earlier process sent them. -/
theorem nodup_snoc {former sent new : List (String × PlayerId)} (process : (sent ++ new).Nodup) :
    (former ++ sent ++ new).Nodup ↔ (former ++ sent).Nodup ∧ ∀ pair ∈ new, pair ∉ former := by
  obtain ⟨_, fresh, apart⟩ := List.nodup_append.mp process
  constructor
  · intro distinct
    obtain ⟨before, _, differ⟩ := List.nodup_append.mp distinct
    exact ⟨before, fun pair inNew inFormer =>
      differ pair (List.mem_append_left _ inFormer) pair inNew rfl⟩
  · rintro ⟨before, unused⟩
    refine List.nodup_append.mpr ⟨before, fresh, ?_⟩
    rintro pair old _ inNew rfl
    obtain inFormer | inSent := List.mem_append.mp old
    · exact unused pair inNew inFormer
    · exact apart pair inSent pair inNew rfl

/-- A step keeps all pairs different iff it reuses none. -/
theorem nodup_step {all : List (String × PlayerId)} {before after : Deployment ρ}
    {call : DeploymentCall ρ} (holds : DeploymentInv shuffler all before)
    (step : DeploymentStep shuffler before call after) :
    (all ++ call.entries.map SettlementEntry.pair).Nodup ↔ all.Nodup ∧ ¬ call.Reuses := by
  -- one process never sends a pair twice
  have process : (before.sent ++ call.entries.map SettlementEntry.pair).Nodup := by
    obtain ⟨random, calls, run, sent⟩ := holds.process
    have own : before.sent.Nodup := sent ▸ process_nodup run
    obtain ⟨_, _, done⟩ := step
    cases which : call.event with
    | operation op =>
      rw [which] at done
      obtain ⟨⟨answer, manager⟩, ran, done⟩ := ExceptLoop.bind_ok.mp done
      injection done with same
      rw [← (Prod.mk.inj same).1]
      exact (operation_spec holds ran).2.2
    | restart | login =>
      rw [which] at done
      injection done with same
      rw [← (Prod.mk.inj same).1]
      simpa using own
    | settle index =>
      rw [which] at done
      simp only [Deployment.step] at done
      split at done <;>
      · injection done with same
        rw [← (Prod.mk.inj same).1]
        simpa using own
  rw [holds.sent, nodup_snoc process]
  simp only [DeploymentCall.Reuses, step.1, List.forall_mem_map, not_exists, not_and]

/-- What a history comes to: all pairs are different as long as no process reuses a pair of
    an earlier one, and then no settlement is taken for a repeated one. -/
theorem deployment_history {random : ρ} {trace : List (DeploymentCall ρ)} {finish : Deployment ρ}
    (run : Transition.Steps (DeploymentStep shuffler) { manager := { random } } trace finish) :
    DeploymentInv shuffler (sentAlong trace) finish ∧
      ((sentAlong trace).Nodup ↔ ∀ call ∈ trace, ¬ call.Reuses) ∧
      ∀ call ∈ trace, ∀ entry coins, call.Handles entry coins →
        (call.Applies entry coins ↔
          call.before.ledger.recorded entry.gameId entry.playerId = false ∧
            0 ≤ entry.durationSeconds) ∧
        ((sentAlong trace).Nodup →
          call.before.ledger.recorded entry.gameId entry.playerId = false) := by
  refine run.history (fun trace finish => DeploymentInv shuffler (sentAlong trace) finish ∧
      ((sentAlong trace).Nodup ↔ ∀ call ∈ trace, ¬ call.Reuses) ∧
      ∀ call ∈ trace, ∀ entry coins, call.Handles entry coins →
        (call.Applies entry coins ↔
          call.before.ledger.recorded entry.gameId entry.playerId = false ∧
            0 ≤ entry.durationSeconds) ∧
        ((sentAlong trace).Nodup →
          call.before.ledger.recorded entry.gameId entry.playerId = false)) ?_ ?_
  · exact ⟨deploymentInv_start shuffler random, by simp [sentAlong], by simp⟩
  · intro trace before call after _ holds step
    obtain ⟨sound, distinct, handled⟩ := holds
    have along : sentAlong (trace ++ [call]) = sentAlong trace ++ call.entries.map SettlementEntry.pair := by
      simp [sentAlong]
    refine ⟨along ▸ deploymentInv_step sound step.2.2, ?_, ?_⟩
    · rw [along, nodup_step sound step, distinct]
      simp [or_imp, forall_and]
    · intro other member entry coins handles
      obtain old | new := List.mem_append.mp member
      · obtain ⟨applied, fresh⟩ := handled other old entry coins handles
        exact ⟨applied, fun nodup => fresh (List.nodup_append.mp (along ▸ nodup)).1⟩
      · rw [List.mem_singleton.mp new] at handles ⊢
        obtain ⟨⟨index, settling, posted⟩, known, lower, upper⟩ := handles
        have done := step.2.2
        rw [step.1] at posted known ⊢
        simp only [settling, Deployment.step, posted] at done
        injection done with same
        have ledger : call.after.ledger = before.ledger.afterSettle entry.request := by
          rw [step.2.1, ← (Prod.mk.inj same).2]
        refine ⟨?_, fun nodup => new_of_nodup sound posted (List.nodup_append.mp (along ▸ nodup)).1⟩
        rw [DeploymentCall.Applies, ledger]
        exact applied_iff sound posted known lower upper

/-! ## Every finished game -/

/-- All pairs that are sent differ iff no process reuses one of an earlier process.  As
    long as that is so, the ledger applies every settlement of a player it knows, with a
    duration that is not negative, whose balance stays in bounds. -/
theorem settlements_applied (shuffler : Shuffler ρ) (random : ρ) (events : List (DeploymentEvent ρ)) :
    ∃ trace finish,
      Deployment.run shuffler { manager := { random } } events = .ok (trace, finish) ∧
      ((sentAlong trace).Nodup ↔ ∀ call ∈ trace, ¬ call.Reuses) ∧
      (∀ call ∈ trace, ∀ entry coins, call.Handles entry coins →
        (call.Applies entry coins ↔
          call.before.ledger.recorded entry.gameId entry.playerId = false ∧
            0 ≤ entry.durationSeconds)) ∧
      ((∀ call ∈ trace, ¬ call.Reuses) → ∀ call ∈ trace, ∀ entry coins, call.Handles entry coins →
        0 ≤ entry.durationSeconds → call.Applies entry coins) := by
  obtain ⟨trace, finish, ran⟩ := run_deployment (deploymentInv_start shuffler random) events
  obtain ⟨_, distinct, handled⟩ := deployment_history (Deployment.run_steps ran)
  refine ⟨trace, finish, ran, distinct, ?_, ?_⟩
  · exact fun call member entry coins handles => (handled call member entry coins handles).1
  · intro fresh call member entry coins handles nonnegative
    obtain ⟨applied, unrecorded⟩ := handled call member entry coins handles
    exact applied.mpr ⟨unrecorded (distinct.mpr fresh), nonnegative⟩

/-- Three players lose and win a game in room 1; the gateway is started again, and they
    play another game in room 1. -/
def roomUsedAgain : List (DeploymentEvent Unit) :=
  let game : List (DeploymentEvent Unit) := [
    .operation (.matchPlayer .ascending 0 "ann"),
    .operation (.matchPlayer .ascending 0 "bob"),
    .operation (.matchPlayer .ascending 0 "cat"),
    .operation (.callLandlord 0 0 "ann" true),
    .operation (.callLandlord 0 0 "bob" false),
    .operation (.callLandlord 0 0 "cat" false),
    .operation (.markOffline "ann" 0),
    .operation (.cleanupExpired .ascending (seconds 300)),
    .settle 0, .settle 0, .settle 0]
  [.login "ann", .login "bob", .login "cat"] ++ game ++ [.restart ()] ++ game

/-- A settlement that should count and does not. -/
def DeploymentCall.loses (call : DeploymentCall ρ) : Bool :=
  match call.event with
  | .settle index =>
    match call.before.posted[index]? with
    | none => false
    | some entry =>
      match call.before.ledger.players.lookup entry.playerId with
      | none => false
      | some coins =>
        0 ≤ coins + entry.coinChange && coins + entry.coinChange < 2 ^ 31 &&
          0 ≤ entry.durationSeconds &&
          call.after.ledger.players.lookup entry.playerId != some (coins + entry.coinChange)
  | _ => false

theorem DeploymentCall.of_loses {call : DeploymentCall ρ} (loses : call.loses) :
    ∃ entry coins, call.Handles entry coins ∧ 0 ≤ entry.durationSeconds ∧
      ¬ call.Applies entry coins := by
  unfold DeploymentCall.loses at loses
  split at loses
  · next index settling =>
    split at loses
    · cases loses
    · next entry posted =>
      split at loses
      · cases loses
      · next coins known =>
        simp only [Bool.and_eq_true, decide_eq_true_eq, bne_iff_ne] at loses
        obtain ⟨⟨⟨lower, upper⟩, nonnegative⟩, kept⟩ := loses
        exact ⟨entry, coins, ⟨⟨index, settling, posted⟩, known, lower, upper⟩, nonnegative, kept⟩
  · cases loses

/-- The second game of `ann` is not applied: her 200 coins stay. -/
theorem second_game_ignored : ∃ trace finish,
    Deployment.run .identity { manager := { random := () } } roomUsedAgain = .ok (trace, finish) ∧
    ¬ (sentAlong trace).Nodup ∧
    ∃ call ∈ trace, ∃ entry coins, call.Handles entry coins ∧ 0 ≤ entry.durationSeconds ∧
      ¬ call.Applies entry coins := by
  obtain ⟨⟨trace, finish⟩, ran, passes⟩ := ExceptLoop.exists_of_test
    (show ExceptLoop.test (fun (trace, _) => !decide (sentAlong trace).Nodup &&
        trace.any DeploymentCall.loses)
      (Deployment.run .identity { manager := { random := () } } roomUsedAgain) = true by
    decide +kernel)
  simp only [Bool.and_eq_true, Bool.not_eq_true', decide_eq_false_iff_not, List.any_eq_true] at passes
  obtain ⟨repeated, call, member, loses⟩ := passes
  exact ⟨trace, finish, ran, repeated, call, member, call.of_loses loses⟩

end Doudizhu.Backend
