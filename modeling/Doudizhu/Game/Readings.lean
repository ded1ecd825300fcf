import Doudizhu.Game.CardGrammar

/-! # Hands with several readings

`analyze` reports one pattern, and `play_cards` compares that one only.  Here is which
responses that refuses: triples in a row may also be read as an airplane with wings, and
the lowest run of triples need not be the only one.
-/

namespace Doudizhu.Game.CardRules

/-- What the cards may be read as: the pattern reported, and an airplane with singles for
    every run of triples with one other card for each. -/
inductive Reading (cards : List Card) : Play → Prop where
  | reported : Reading cards (analyze cards)
  | wings {low length : Nat} (enough : 2 ≤ length) (size : cards.length = 4 * length)
      (triples : HasTriples cards low length) :
      Reading cards ⟨.airplaneWithSingles, Rank.ofValue (low + length - 1), cards.length⟩

/-- Four triples in a row, the highest above the airplane with singles to beat. -/
structure FourTriples (cur prev : List Card) : Prop where
  previous : (analyze prev).pattern = .airplaneWithSingles
  twelve : prev.length = 12
  higher : ∃ low, IsRun cur low 4 3 ∧ (analyze prev).mainRank.value < low + 3

/-! ## Triples -/

section Triples

variable {cards : List Card} {low length : Nat}

/-- Each rank with three cards takes three of them. -/
theorem length_ge_triples {values : List Nat} (nodup : values.Nodup)
    (triples : ∀ value ∈ values, rankCount cards value = 3) : 3 * values.length ≤ cards.length := by
  have counted : ∀ value ∈ values, (rankCounts cards).count value = 3 := by
    intro value member
    rw [count_rankCounts, triples value member]
  have total := (Tally.values_eraseAll nodup counted (by decide)).sum_eq
  rw [sum_values, List.sum_append, List.sum_replicate_nat] at total
  omega

theorem HasTriples.bounds (triples : HasTriples cards low length) (positive : 0 < length) :
    3 ≤ low ∧ low + length ≤ 15 := by
  have occurs : 0 < rankCount cards low := by
    rw [triples.counts low le_rfl (by omega)]
    decide
  exact ⟨(rank_bounds occurs).1, triples.ace⟩

theorem HasTriples.value_top (triples : HasTriples cards low length) (positive : 0 < length) :
    (Rank.ofValue (low + length - 1)).value = low + length - 1 := by
  obtain ⟨lower, upper⟩ := triples.bounds positive
  exact Rank.value_ofValue (by omega) (by omega)

theorem IsRun.triples (run : IsRun cards low length 3) : HasTriples cards low length where
  ace := run.ace
  counts value lower upper := by rw [run.counts, if_pos ⟨lower, upper⟩]

theorem HasTriples.subrun {first shorter : Nat} (triples : HasTriples cards low length)
    (lower : low ≤ first) (upper : first + shorter ≤ low + length) :
    HasTriples cards first shorter where
  ace := upper.trans triples.ace
  counts value above below := triples.counts value (by omega) (by omega)

/-- Two runs of triples that the cards are too few for share a rank. -/
theorem HasTriples.overlap {second count : Nat} (one : HasTriples cards low length)
    (other : HasTriples cards second count) (few : cards.length < 3 * (length + count)) :
    low < second + count ∧ second < low + length := by
  by_contra separate
  have disjoint : (List.range' low length).Disjoint (List.range' second count) := by
    intro value inOne inOther
    rw [List.mem_range'_1] at inOne inOther
    omega
  have nodup : (List.range' low length ++ List.range' second count).Nodup :=
    List.nodup_append'.mpr ⟨List.nodup_range', List.nodup_range', disjoint⟩
  have triples : ∀ value ∈ List.range' low length ++ List.range' second count,
      rankCount cards value = 3 := by
    intro value member
    rw [List.mem_append, List.mem_range'_1, List.mem_range'_1] at member
    obtain inOne | inOther := member
    · exact one.counts value inOne.1 inOne.2
    · exact other.counts value inOther.1 inOther.2
  have enough := length_ge_triples nodup triples
  rw [List.length_append, List.length_range', List.length_range'] at enough
  omega

end Triples

/-! ## What `analyze` reports for triples -/

section Reported

variable {cards : List Card}

theorem airplane_play {play : Play}
    (found : airplane (rankCounts cards) cards.length = some play) :
    play = ⟨.airplane, highestRank (rankCounts cards), cards.length⟩ := by
  simp only [airplane, Option.ite_none_right_eq_some, Option.some.injEq] at found
  exact found.2.symm

theorem airplaneWithSingles_play {play : Play}
    (found : airplaneWithSingles (rankCounts cards) cards.length = some play) :
    ∃ low length, 2 ≤ length ∧ cards.length = 4 * length ∧ HasTriples cards low length ∧
      play = ⟨.airplaneWithSingles, Rank.ofValue (low + length - 1), cards.length⟩ := by
  simp only [airplaneWithSingles, Option.ite_none_right_eq_some, Option.bind_eq_bind,
    Option.bind_eq_some_iff, Option.some.injEq] at found
  obtain ⟨⟨size, multiple⟩, mainRank, searched, _, rfl⟩ := found
  obtain ⟨low, triples, top⟩ := airplaneMainRank_some (by omega) searched
  obtain ⟨lower, upper⟩ := triples.bounds (by omega)
  refine ⟨low, cards.length / 4, by omega, by omega, triples, ?_⟩
  have above : low + cards.length / 4 - 1 = mainRank.value := by omega
  rw [above, Rank.ofValue_value]

/-- Only the blocks for triples report triples. -/
theorem blocks_cases {counts : Tally Nat} {size : Nat} {play : Play}
    (found : blocks counts size = some play) :
    airplane counts size = some play ∨ airplaneWithSingles counts size = some play ∨
      play.pattern ≠ .airplane ∧ play.pattern ≠ .airplaneWithSingles := by
  simp only [blocks, Option.orElse_eq_orElse, Option.orElse_eq_or, Option.or_eq_some_iff] at found
  rcases found with found | ⟨_, found⟩
  · simp only [rocket, Option.ite_none_right_eq_some, Option.some.injEq] at found
    simp [← found.2]
  rcases found with found | ⟨_, found⟩
  · simp only [oneRank, Option.ite_none_right_eq_some] at found
    obtain ⟨_, found⟩ := found
    split at found <;> cases found <;> simp
  rcases found with found | ⟨_, found⟩
  · simp only [tripleWithSingle, Option.bind_eq_bind, Option.bind_eq_some_iff,
      Option.ite_none_right_eq_some, Option.some.injEq] at found
    obtain ⟨_, _, _, rfl⟩ := found
    simp
  rcases found with found | ⟨_, found⟩
  · simp only [tripleWithPair, Option.bind_eq_bind, Option.bind_eq_some_iff,
      Option.ite_none_right_eq_some, Option.some.injEq] at found
    obtain ⟨_, _, _, _, _, rfl⟩ := found
    simp
  rcases found with found | ⟨_, found⟩
  · simp only [fourWithTwoSingles, Option.bind_eq_bind, Option.bind_eq_some_iff,
      Option.ite_none_right_eq_some, Option.some.injEq] at found
    obtain ⟨_, _, _, rfl⟩ := found
    simp
  rcases found with found | ⟨_, found⟩
  · simp only [fourWithTwoPairs, Option.bind_eq_bind, Option.bind_eq_some_iff,
      Option.ite_none_right_eq_some, Option.some.injEq] at found
    obtain ⟨_, _, _, rfl⟩ := found
    simp
  rcases found with found | ⟨_, found⟩
  · simp only [straight, Option.ite_none_right_eq_some, Option.some.injEq] at found
    simp [← found.2]
  rcases found with found | ⟨_, found⟩
  · simp only [consecutivePairs, Option.ite_none_right_eq_some, Option.some.injEq] at found
    simp [← found.2]
  rcases found with found | ⟨_, found | ⟨_, found⟩⟩
  · exact .inl found
  · exact .inr (.inl found)
  · simp only [airplaneWithPairs, Option.bind_eq_bind, Option.bind_eq_some_iff,
      Option.ite_none_right_eq_some, Option.some.injEq] at found
    obtain ⟨_, _, _, _, rfl⟩ := found
    simp

theorem analyze_block (valid : (analyze cards).pattern ≠ .invalid) :
    blocks (rankCounts cards) cards.length = some (analyze cards) := by
  have nonempty : cards.isEmpty = false := by
    cases cards with
    | nil => exact absurd rfl valid
    | cons => rfl
  rw [analyze, if_neg (by simp [nonempty])] at valid ⊢
  cases found : blocks (rankCounts cards) cards.length with
  | none => rw [found] at valid; exact absurd rfl valid
  | some play => rfl

theorem analyze_airplaneWithSingles (reported : (analyze cards).pattern = .airplaneWithSingles) :
    ∃ low length, 2 ≤ length ∧ cards.length = 4 * length ∧ HasTriples cards low length ∧
      analyze cards = ⟨.airplaneWithSingles, Rank.ofValue (low + length - 1), cards.length⟩ := by
  have valid : (analyze cards).pattern ≠ .invalid := by
    rw [reported]
    decide
  obtain found | found | ⟨_, notSingles⟩ := blocks_cases (analyze_block valid)
  · rw [airplane_play found] at reported
    cases reported
  · exact airplaneWithSingles_play found
  · exact absurd reported notSingles

end Reported

/-! ## Two hands of one deck -/

section Deck

variable {prev cur : List Card}

theorem rankCount_deck (value : Nat) : rankCount createCards value ≤ 4 := by
  by_cases occurs : 0 < rankCount createCards value
  · obtain ⟨card, _, same⟩ := List.countP_pos_iff.mp occurs
    rw [← of_decide_eq_true same]
    cases card.rank <;> decide
  · omega

theorem rankCount_both (drawn : (prev ++ cur).Subperm createCards) (value : Nat) :
    rankCount prev value + rankCount cur value ≤ 4 := by
  refine le_trans (le_of_eq ?_) ((drawn.countP_le _).trans (rankCount_deck value))
  rw [List.countP_append]
  rfl

/-- A rank has no three cards in each of two hands. -/
theorem HasTriples.disjoint {low length second count : Nat}
    (drawn : (prev ++ cur).Subperm createCards) (one : HasTriples prev low length)
    (other : HasTriples cur second count) (positive : 0 < length) (nonempty : 0 < count) :
    low + length ≤ second ∨ second + count ≤ low := by
  by_contra overlap
  have both := rankCount_both drawn (max low second)
  rw [one.counts _ (by omega) (by omega), other.counts _ (by omega) (by omega)] at both
  omega

/-- Where some run of triples with wings wins, the lowest one wins too, unless the cards are
    four triples in a row. -/
theorem wings_beat {low length : Nat} (drawn : (prev ++ cur).Subperm createCards)
    (enough : 2 ≤ length) (size : cur.length = 4 * length) (triples : HasTriples cur low length)
    (beats : canBeat ⟨.airplaneWithSingles, Rank.ofValue (low + length - 1), cur.length⟩
      (analyze prev) = true) :
    canBeat (analyze cur) (analyze prev) = true ∨ FourTriples cur prev := by
  have singles : (analyze prev).pattern = .airplaneWithSingles ∧
      cur.length = (analyze prev).cardCount ∧ (analyze prev).mainRank.value < low + length - 1 := by
    rw [← triples.value_top (by omega)]
    simp only [canBeat] at beats
    grind
  obtain ⟨reported, sameCount, higher⟩ := singles
  obtain ⟨first, count, _, prevSize, prevTriples, play⟩ := analyze_airplaneWithSingles reported
  rw [play] at sameCount higher
  rw [prevTriples.value_top (by omega)] at higher
  obtain rfl : count = length := by simp only at sameCount; omega
  have apart := prevTriples.disjoint drawn triples (by omega) (by omega)
  by_cases airplane : Shape cur .airplane
  · -- the four triples leave no room for a longer run beside those of the other hand
    obtain ⟨start, runLength, long, run⟩ := airplane
    have total := run.length (by decide)
    have separate := prevTriples.disjoint drawn run.triples (by omega) (by omega)
    obtain ⟨lower, upper⟩ := prevTriples.bounds (by omega)
    obtain ⟨runLower, runUpper⟩ := run.triples.bounds (by omega)
    obtain ⟨rfl, rfl⟩ : count = 3 ∧ runLength = 4 := by omega
    have inside : low + 2 < start + 4 := by
      have top := run.counts (low + 2)
      rw [triples.counts _ (by omega) (by omega)] at top
      split at top
      · next within => exact within.2
      · cases top
    refine .inr ⟨reported, by omega, start, run, ?_⟩
    rw [play, prevTriples.value_top (by omega)]
    omega
  · have shape : Shape cur .airplaneWithSingles := ⟨⟨low, count, enough, size, triples⟩, airplane⟩
    have analyzed := analyze_complete shape
    obtain ⟨lowest, number, _, curSize, curTriples, curPlay⟩ :=
      analyze_airplaneWithSingles analyzed
    obtain rfl : number = count := by omega
    -- two runs that do not meet take six cards out of four for each rank
    have meet := triples.overlap curTriples (by omega)
    have separate := prevTriples.disjoint drawn curTriples (by omega) (by omega)
    have above : first + number - 1 < lowest + number - 1 := by omega
    rw [← prevTriples.value_top (by omega), ← curTriples.value_top (by omega)] at above
    left
    simp [canBeat, curPlay, play, size, prevSize, above]

/-- Read as three triples with the lowest for wings, the cards would win. -/
theorem FourTriples.reading (four : FourTriples cur prev) :
    ∃ play, Reading cur play ∧ canBeat play (analyze prev) = true := by
  obtain ⟨low, run, higher⟩ := four.higher
  have size := run.length (by decide)
  have triples : HasTriples cur (low + 1) 3 := run.triples.subrun (by omega) (by omega)
  have wings := Reading.wings (by decide) size triples
  refine ⟨_, wings, ?_⟩
  obtain ⟨first, count, _, prevSize, prevTriples, play⟩ := analyze_airplaneWithSingles four.previous
  have twelve := four.twelve
  rw [show low + 3 = low + 1 + 3 - 1 by omega, ← triples.value_top (by decide), play] at higher
  simp only [canBeat, size, play, twelve]
  simpa using higher

/-- They are reported as an airplane, which an airplane with singles is not compared to. -/
theorem FourTriples.refused (four : FourTriples cur prev) :
    (analyze cur).pattern = .airplane ∧ canBeat (analyze cur) (analyze prev) = false := by
  obtain ⟨low, run, _⟩ := four.higher
  have pattern := analyze_complete (show Shape cur .airplane from ⟨low, 4, by decide, run⟩)
  refine ⟨pattern, ?_⟩
  simp [canBeat, pattern, four.previous]

end Deck

/-- Of the responses that beat the play to beat in some reading, those compared as they
    should be are all but four triples in a row against an airplane with singles of twelve
    cards, and these are refused. -/
theorem refused_reading (prev cur : List Card) (drawn : (prev ++ cur).Subperm createCards) :
    ((∃ play, Reading cur play ∧ canBeat play (analyze prev) = true) ↔
      canBeat (analyze cur) (analyze prev) = true ∨ FourTriples cur prev) ∧
    (FourTriples cur prev → (analyze cur).pattern = .airplane ∧
      canBeat (analyze cur) (analyze prev) = false) := by
  refine ⟨⟨?_, ?_⟩, ?_⟩
  · rintro ⟨play, reading, beats⟩
    cases reading with
    | reported => exact .inl beats
    | wings enough size triples => exact wings_beat drawn enough size triples beats
  · rintro (beats | four)
    · exact ⟨_, .reported, beats⟩
    · exact four.reading
  · exact fun four => four.refused

/-- `rank` in the first `number` suits. -/
def ofRank (number : Nat) (rank : Rank) : List Card :=
  createCards.filter (·.rank = rank) |>.take number

/-- 3-3-3 4-4-4 5-5-5 with 6-6-J as wings. -/
def wingsToBeat : List Card :=
  ofRank 3 .three ++ ofRank 3 .four ++ ofRank 3 .five ++ ofRank 2 .six ++ ofRank 1 .jack

/-- 7-7-7 8-8-8 9-9-9 10-10-10. -/
def fourTriples : List Card :=
  ofRank 3 .seven ++ ofRank 3 .eight ++ ofRank 3 .nine ++ ofRank 3 .ten

theorem fourTriples_drawn : (wingsToBeat ++ fourTriples).Subperm createCards :=
  List.subperm_of_subset (by decide) (by decide)

theorem fourTriples_triples : HasTriples fourTriples 8 3 where
  ace := by decide
  counts value lower upper := by
    interval_cases value <;> decide

/-- The four triples read as 8-8-8 9-9-9 10-10-10 with the sevens would win. -/
theorem fourTriples_refused :
    ¬ ∀ prev cur : List Card, (prev ++ cur).Subperm createCards →
      (analyze prev).pattern ≠ .invalid →
      ∀ play, Reading cur play → canBeat play (analyze prev) = true →
        canBeat (analyze cur) (analyze prev) = true := by
  intro never
  have beats := never wingsToBeat fourTriples fourTriples_drawn (by decide) _
    (.wings (by decide) (by decide) fourTriples_triples) (by decide)
  revert beats
  decide

theorem refused_reading_fourTriples :
    (∃ play, Reading fourTriples play ∧ canBeat play (analyze wingsToBeat) = true) ↔
      canBeat (analyze fourTriples) (analyze wingsToBeat) = true ∨
        FourTriples fourTriples wingsToBeat :=
  (refused_reading wingsToBeat fourTriples fourTriples_drawn).1

end Doudizhu.Game.CardRules
