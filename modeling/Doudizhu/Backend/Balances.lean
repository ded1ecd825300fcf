import Doudizhu.Backend.Digest

/-! # Balances

The coin ledger in the tables, whatever the collation takes for one id.
-/

namespace Doudizhu.Backend

open Database

theorem Database.applied_ne (database : Database) (tables : Tables) (request : SettlementRequest)
    (player : PlayerRow) (record : GameRecord) : database.applied tables request player record ≠ tables := by
  intro same
  have longer := congrArg (fun other : Tables => other.gameRecords.length) same
  simp [Database.applied] at longer

/-- After any requests, whatever the collation is: a player has one row at most; its balance is in
    bounds, and is the initial one plus the changes on record, which is also what the statistics
    show; no game is on record twice for a player; and a settlement changes the tables iff they
    accept it. -/
theorem ledger_exact (database : Database) (documented : database.Documented) (requests : List LedgerRequest) :
    let tables := requests.foldl database.handle {}
    (∀ playerId, (tables.players.countP fun row => database.same row.id playerId) ≤ 1) ∧
    (∀ playerId player, database.findById tables playerId = some player →
      IsBalance player.coins ∧ player.coins = initialCoins + database.changes tables playerId ∧
        (database.stats tables playerId).coinChange = player.coins - initialCoins) ∧
    (∀ gameId playerId, (tables.gameRecords.countP fun record =>
      database.same record.gameId gameId && database.same record.playerId playerId) ≤ 1) ∧
    ∀ gameId playerId (coinChange : Int32) result (durationSeconds : Int64),
      let request := settlementRequest gameId playerId coinChange result durationSeconds
      let next := database.handle tables (.settle gameId playerId coinChange result durationSeconds)
      (next ≠ tables ↔ ∃ player record, database.Accepts tables request player record) ∧
        (next ≠ tables → ∃ player record, database.Accepts tables request player record ∧
          next = database.applied tables request player record) := by
  intro tables
  have holds : database.TablesInv tables := tablesInv_run documented requests tablesInv_start
  refine ⟨?_, ?_, ?_, ?_⟩
  · intro playerId
    have apart := List.nodup_iff_count_le_one.mp holds.apart (database.weight playerId)
    rw [List.count, List.countP_map] at apart
    exact apart
  · intro playerId player known
    have digested : (database.digest tables).players.lookup (database.weight playerId) = some player.coins := by
      rw [find_digest, known]
      rfl
    refine ⟨holds.balance known, ?_, ?_⟩
    · have exact := holds.ledger.exact _ _ digested
      rwa [Ledger.changes, recordsOf_digest] at exact
    · have wrapped := wrapped_changes holds.ledger digested
      rwa [recordsOf_digest] at wrapped
  · intro gameId playerId
    have once := List.nodup_iff_count_le_one.mp holds.ledger.once (database.weight gameId, database.weight playerId)
    rw [digest, List.map_map, List.count, List.countP_map] at once
    exact once
  · intro gameId playerId coinChange result durationSeconds request next
    have int : IsInt request.coinChange := isInt_toInt coinChange
    obtain ⟨player, record, accepts, applies⟩ | ⟨refuses, same⟩ := settle_spec (fun _ => holds.balance) int
    · have changes : next = database.applied tables request player record := applies
      have differ : next ≠ tables := changes ▸ database.applied_ne tables request player record
      exact ⟨⟨fun _ => ⟨player, record, accepts⟩, fun _ => differ⟩, fun _ => ⟨player, record, accepts, changes⟩⟩
    · refine ⟨⟨fun differ => absurd same differ, ?_⟩, fun differ => absurd same differ⟩
      rintro ⟨player, record, accepts⟩
      exact absurd accepts (refuses player record)

/-- MySQL, as far as ids of ASCII characters go: the case of a letter does not count, and spaces at
    the end of a text are cut where its column has no room for them. -/
def mysql : Database where
  weight text := String.ofList (text.toList.map Char.toLower)
  kept text :=
    if storable text then some text
    else if (text.toList.drop 255).all (· == ' ') then some (String.ofList (text.toList.take 255))
    else none
  loaded _ row := row

/-- No character of an id is a space, in either case. -/
theorem idCharacter_toLower {char : Char} (valid : idCharacter char) : char.toLower ≠ ' ' := by
  intro space
  have same : char = ' ' := by
    delta Char.toLower at space
    split at space
    · next upper =>
      have sum : char.val + 32 = 32 := congrArg Char.val space
      rw [UInt32.add_eq_right] at sum
      rw [sum] at upper
      exact absurd upper.1 (by decide)
    · exact space
  rw [same] at valid
  exact absurd valid (by decide)

theorem toList_pushn (text : String) (char : Char) (count : Nat) :
    (text.pushn char count).toList = text.toList ++ List.replicate count char := by
  rw [String.pushn_eq_repeat_push]
  induction count with
  | zero => exact (List.append_nil _).symm
  | succ count inductionHypothesis =>
    rw [Nat.repeat, String.toList_push, inductionHypothesis, List.append_assoc, ← List.replicate_succ']

theorem mysql_documented : mysql.Documented where
  fits text fits := if_pos fits
  cuts text kept keeps := by
    simp only [mysql] at keeps
    split at keeps
    · exact ⟨0, Option.some.inj keeps⟩
    obtain ⟨spaces, same⟩ := Option.ite_none_right_eq_some.mp keeps
    obtain rfl := Option.some.inj same
    have rest : text.toList.drop 255 = List.replicate (text.length - 255) ' ' := by
      rw [List.eq_replicate_iff]
      refine ⟨by rw [List.length_drop, String.length_toList], fun char member => ?_⟩
      exact beq_iff_eq.mp (List.all_eq_true.mp spaces char member)
    refine ⟨text.length - 255, ?_⟩
    rw [← String.toList_inj, toList_pushn, String.toList_ofList, ← rest, List.take_append_drop]
  pads text id valid same := by
    have space : ' ' ∈ id.toList.map Char.toLower := by
      have chars : (text.push ' ').toList.map Char.toLower = id.toList.map Char.toLower :=
        String.ofList_injective same
      rw [← chars, String.toList_push]
      simp
    obtain ⟨char, member, lower⟩ := List.mem_map.mp space
    simp only [validPlayerId, Bool.and_eq_true, List.all_eq_true] at valid
    exact absurd lower (idCharacter_toLower (valid.2.2 char member))
  loads _ _ := .inr rfl

/-- Ann's profile is the same by another spelling of her name. -/
theorem ledger_of_ann :
    let tables := [LedgerRequest.login "ann", .settle "game-1" "Ann" 120 "WIN" 60].foldl mysql.handle {}
    (mysql.stats tables "ANN").coinChange = 120 := by
  intro tables
  have known : mysql.findById tables "ANN" = some ⟨"ann", 1120⟩ := by decide +kernel
  exact ((ledger_exact mysql mysql_documented
    [.login "ann", .settle "game-1" "Ann" 120 "WIN" 60]).2.1 "ANN" _ known).2.2

/-- A text that fills its column, and one more character. -/
theorem kept_pushed {text : String} (full : text.length = 255) (last : Char) :
    mysql.kept (text.push last) = if last = ' ' then some text else none := by
  have long : ¬ storable (text.push last) := by
    rw [storable, decide_eq_true_iff, String.length_push, full]
    decide
  have cut : (text.push last).toList.drop 255 = [last] := by
    rw [String.toList_push, List.drop_left' (String.length_toList.trans full)]
  have rest : (text.push last).toList.take 255 = text.toList := by
    rw [String.toList_push, List.take_left' (String.length_toList.trans full)]
  rw [mysql]
  dsimp only
  rw [if_neg long, cut, rest, String.ofList_toList]
  by_cases space : last = ' ' <;> simp [space]

theorem mysql_apart {left right : String} (differ : left.length ≠ right.length) :
    mysql.same left right = false := by
  rw [Database.same, beq_eq_false_iff_ne]
  intro weights
  apply differ
  have lengths := congrArg String.length weights
  simp only [mysql, String.length_ofList, List.length_map, String.length_toList] at lengths
  exact lengths

/-- Ann's account after she won the games. -/
def annsTables (coins : Int) (games : List String) : Tables where
  players := [⟨"ann", coins⟩]
  gameRecords := games.map fun game => ⟨game, "ann", 120, "WIN", 60⟩

section Ann

variable {coins : Int} {games : List String} {game : String}

theorem ann_found : mysql.findById (annsTables coins games) "ann" = some ⟨"ann", coins⟩ := by
  simp [Database.findById, annsTables, Database.same, mysql]

theorem ann_recorded :
    mysql.recorded (annsTables coins games) game "ann" = games.any fun other => mysql.same other game := by
  simp [Database.recorded, annsTables, Database.same, Function.comp_def]

theorem ann_stored :
    mysql.stored ⟨game, "ann", 120, "WIN", 60⟩ = (mysql.kept game).map (⟨·, "ann", 120, "WIN", 60⟩) := by
  have ann : mysql.kept "ann" = some "ann" := by decide +kernel
  have win : mysql.kept "WIN" = some "WIN" := by decide +kernel
  rw [Database.stored, ann, win]
  cases mysql.kept game <;> rfl

theorem ann_wins (shown : blank game = false) (fits : storable game)
    (new : ∀ other ∈ games, mysql.same other game = false) (lower : 0 ≤ coins + 120)
    (upper : coins + 120 < 2 ^ 31) :
    mysql.handle (annsTables coins games) (.settle game "ann" 120 "WIN" 60) =
      annsTables (coins + 120) (games ++ [game]) := by
  have ann : blank "ann" = false := by decide +kernel
  have win : blank "WIN" = false := by decide +kernel
  have unrecorded : mysql.recorded (annsTables coins games) game "ann" = false := by
    rw [ann_recorded, List.any_eq_false]
    intro other member
    simp [new other member]
  have accepts : mysql.Accepts (annsTables coins games) (settlementRequest game "ann" 120 "WIN" 60)
      ⟨"ann", coins⟩ ⟨game, "ann", 120, "WIN", 60⟩ := by
    refine ⟨?_, ann_found, unrecorded, ?_, unrecorded, lower, upper⟩
    · simp [settlementRequest, SettlementRequest.valid, shown, ann, win]
    · exact ann_stored.trans (congrArg (Option.map _) (mysql_documented.fits game fits))
  refine (settle_accepted accepts).trans ?_
  simp [Database.applied, Database.updatePlayer, annsTables, Database.same, settlementRequest]

/-- A game is not saved if its column refuses it, or keeps what is on record. -/
theorem ann_unsaved (unsaved : ∀ kept, mysql.kept game = some kept → kept ∈ games) :
    mysql.handle (annsTables coins games) (.settle game "ann" 120 "WIN" 60) = annsTables coins games := by
  refine settle_unsaved ann_found (insertRecord_none.mpr fun row saved => ?_)
  obtain ⟨kept, keeps, rfl⟩ := Option.map_eq_some_iff.mp (ann_stored.symm.trans saved)
  rw [ann_recorded, List.any_eq_true]
  exact ⟨kept, unsaved kept keeps, same_iff.mpr rfl⟩

theorem ann_history (full : game.length = 255) (shown : blank game = false) :
    [LedgerRequest.login "ann", .settle "game-1" "ann" 120 "WIN" 60, .settle game "ann" 120 "WIN" 60].foldl
      mysql.handle {} = annsTables 1240 ["game-1", game] := by
  have first : [LedgerRequest.login "ann", .settle "game-1" "ann" 120 "WIN" 60].foldl mysql.handle {} =
      annsTables 1120 ["game-1"] := by
    decide +kernel
  have apart : mysql.same "game-1" game = false := by
    apply mysql_apart
    rw [full]
    decide +kernel
  refine (congrArg (fun before => mysql.handle before (.settle game "ann" 120 "WIN" 60)) first).trans ?_
  exact ann_wins shown (by simp [storable, full]) (by simp [apart]) (by decide) (by decide)

theorem ann_refused (full : game.length = 255) : ∀ gameId ∈ ["", "GAME-1", game.push ' ', game.push 'g'],
    gameId ∉ ["game-1", game] ∧
      mysql.handle (annsTables coins ["game-1", game]) (.settle gameId "ann" 120 "WIN" 60) =
        annsTables coins ["game-1", game] := by
  have lengths : ∀ {short : String} {length}, short.length = length → length ≠ 255 → short ≠ game := by
    rintro short _ rfl differ rfl
    exact differ full
  have pushed : ∀ last, (game.push last).length = 256 := by
    intro last
    rw [String.length_push, full]
  have first : ∀ last, game.push last ≠ "game-1" := by
    intro last same
    have length := pushed last
    rw [same] at length
    exact absurd length (by decide)
  intro gameId member
  simp only [List.mem_cons, List.not_mem_nil, or_false, not_or] at member ⊢
  obtain rfl | rfl | rfl | rfl := member
  · have invalid : (settlementRequest "" "ann" 120 "WIN" 60).valid = false := by decide +kernel
    have same := @settle_invalid mysql (annsTables coins ["game-1", game]) _ invalid
    exact ⟨⟨by decide, lengths rfl (by decide)⟩, same⟩
  · refine ⟨⟨by decide, lengths rfl (by decide)⟩, settle_recorded ?_⟩
    have case : mysql.same "game-1" "GAME-1" := by decide +kernel
    rw [settlementRequest, ann_recorded]
    exact List.any_eq_true.mpr ⟨"game-1", List.mem_cons_self, case⟩
  · refine ⟨⟨first _, lengths (pushed _) (by decide)⟩, ann_unsaved fun kept keeps => ?_⟩
    rw [kept_pushed full] at keeps
    cases keeps
    simp
  · refine ⟨⟨first _, lengths (pushed _) (by decide)⟩, ann_unsaved fun kept keeps => ?_⟩
    rw [kept_pushed full] at keeps
    cases keeps

end Ann

def fullText : String := String.ofList (List.replicate 255 'g')

/-- A player who could pay, and has no record of these games by their characters, is refused four
    settlements: of a blank game, of one that differs from a game on record in case only, of one
    that its column cuts to a game on record, and of one that is too long for it. -/
theorem settlements_refused :
    let tables := [LedgerRequest.login "ann", .settle "game-1" "ann" 120 "WIN" 60,
      .settle fullText "ann" 120 "WIN" 60].foldl mysql.handle {}
    mysql.findById tables "ann" = some ⟨"ann", 1240⟩ ∧ IsBalance (1240 + 120) ∧
      tables.gameRecords.map GameRecord.gameId = ["game-1", fullText] ∧
      ∀ gameId ∈ ["", "GAME-1", fullText.push ' ', fullText.push 'g'],
        gameId ∉ ["game-1", fullText] ∧
          mysql.handle tables (.settle gameId "ann" 120 "WIN" 60) = tables := by
  intro tables
  have full : fullText.length = 255 := String.length_ofList.trans List.length_replicate
  have shown : blank fullText = false :=
    (congrArg (List.all · _) String.toList_ofList).trans List.all_replicate
  have reached : tables = annsTables 1240 ["game-1", fullText] := ann_history full shown
  rw [reached]
  exact ⟨ann_found, ⟨by decide, by decide⟩, rfl, ann_refused full⟩

end Doudizhu.Backend
