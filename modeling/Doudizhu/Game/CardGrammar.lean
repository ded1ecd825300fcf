import Mathlib.Data.Finset.Filter
import Mathlib.Order.Interval.Finset.Nat
import Doudizhu.Game.CardRules

/-! # The grammar of card patterns

`Shape cards pattern` says which cards are declared to form a pattern, in terms of
how many cards of each rank there are and of nothing the analysis computes.
`analyze_sound` and `analyze_complete` show that the ordered chain of tests in
`analyze` finds a declared pattern and finds one whenever there is one;
`shape_unique` that no cards have two.  The order of the tests therefore never
matters.
-/

namespace Doudizhu.Game.CardRules

/-! ## The declared patterns -/

/-- The number of cards of one rank. -/
def rankCount (cards : List Card) (value : Nat) : Nat :=
  cards.countP fun card => card.rank.value = value

/-- The non-zero numbers of cards, one for each rank that occurs. -/
def countProfile (cards : List Card) : Multiset Nat :=
  ((Finset.Icc Rank.three.value Rank.bigJoker.value).filter fun value =>
    0 < rankCount cards value).val.map (rankCount cards)

/-- The cards are `length` consecutive ranks from `low`, none above the ace, each
    exactly `number` times. -/
structure IsRun (cards : List Card) (low length number : Nat) : Prop where
  ace : low + length ≤ Rank.ace.value + 1
  counts : ∀ value, rankCount cards value = if low ≤ value ∧ value < low + length then number else 0

/-- `length` consecutive ranks from `low`, none above the ace, have exactly three cards. -/
structure HasTriples (cards : List Card) (low length : Nat) : Prop where
  ace : low + length ≤ Rank.ace.value + 1
  counts : ∀ value, low ≤ value → value < low + length → rankCount cards value = 3

def OneRank (cards : List Card) : Prop := ∃ rank, ∀ card ∈ cards, card.rank = rank

def Shape (cards : List Card) : CardPattern → Prop
  | .invalid => False
  | .rocket => cards.length = 2 ∧ rankCount cards Rank.smallJoker.value = 1 ∧
      rankCount cards Rank.bigJoker.value = 1
  | .single => OneRank cards ∧ cards.length = 1
  | .pair => OneRank cards ∧ cards.length = 2
  | .triple => OneRank cards ∧ cards.length = 3
  | .bomb => OneRank cards ∧ cards.length = 4
  | .tripleWithSingle => cards.length = 4 ∧ ∃ value, rankCount cards value = 3
  | .tripleWithPair => countProfile cards = {3, 2}
  | .fourWithTwoSingles => cards.length = 6 ∧ ∃ value, rankCount cards value = 4
  | .fourWithTwoPairs => countProfile cards = {4, 2, 2}
  | .straight => 5 ≤ cards.length ∧ ∃ low, IsRun cards low cards.length 1
  | .consecutivePairs => ∃ low length, 3 ≤ length ∧ IsRun cards low length 2
  | .airplane => ∃ low length, 2 ≤ length ∧ IsRun cards low length 3
  | .airplaneWithSingles => (∃ low length, 2 ≤ length ∧ cards.length = 4 * length ∧
      HasTriples cards low length) ∧ ¬ ∃ low length, 2 ≤ length ∧ IsRun cards low length 3
  | .airplaneWithPairs => ∃ low length, 2 ≤ length ∧ cards.length = 5 * length ∧
      HasTriples cards low length ∧
      ∀ value, ¬ (low ≤ value ∧ value < low + length) →
        rankCount cards value = 0 ∨ rankCount cards value = 2

/-! ## The tally of the ranks -/

section Counts

variable (cards : List Card)

@[simp] theorem count_rankCounts (value : Nat) :
    (rankCounts cards).count value = rankCount cards value := by
  rw [rankCounts, Tally.count_ofList, List.count_eq_countP, List.countP_map]
  rfl

theorem sum_values : (rankCounts cards).values.sum = cards.length := by
  rw [rankCounts, Tally.sum_values_ofList, List.length_map]

variable {cards}

theorem rank_bounds {value : Nat} (occurs : 0 < rankCount cards value) :
    Rank.three.value ≤ value ∧ value ≤ Rank.bigJoker.value := by
  obtain ⟨card, _, same⟩ := List.countP_pos_iff.mp occurs
  rw [← of_decide_eq_true same]
  exact card.rank.value_bounds

theorem countProfile_eq : countProfile cards = (rankCounts cards).values := by
  rw [Tally.values_eq_map_count, ← Multiset.map_coe]
  have counts : (rankCounts cards).count = rankCount cards := funext (count_rankCounts cards)
  rw [countProfile, counts]
  congr 1
  have keysNodup : (↑(rankCounts cards).keys : Multiset Nat).Nodup :=
    Multiset.coe_nodup.mpr (rankCounts cards).keys_nodup
  refine (Multiset.Nodup.ext (Finset.nodup _) keysNodup).mpr fun value => ?_
  rw [Finset.mem_val, Finset.mem_filter, Finset.mem_Icc, Multiset.mem_coe, Tally.mem_keys,
    count_rankCounts]
  exact ⟨fun member => member.2, fun occurs => ⟨rank_bounds occurs, occurs⟩⟩

theorem mem_values {number : Nat} :
    number ∈ (rankCounts cards).values ↔ 0 < number ∧ ∃ value, rankCount cards value = number := by
  simp [Tally.mem_values]

theorem rankCount_of_oneRank {rank : Rank} (same : ∀ card ∈ cards, card.rank = rank) (value : Nat) :
    rankCount cards value = if rank.value = value then cards.length else 0 := by
  split
  · next equal =>
    exact List.countP_eq_length.mpr fun card member => by simp [same card member, equal]
  · next differ =>
    exact List.countP_eq_zero.mpr fun card member => by simp [same card member, differ]

theorem size_eq_one (nonempty : cards ≠ []) : (rankCounts cards).size = 1 ↔ OneRank cards := by
  constructor
  · intro one
    obtain ⟨value, keys⟩ := List.length_eq_one_iff.mp ((rankCounts cards).length_keys.trans one)
    have shared : ∀ card ∈ cards, card.rank.value = value := by
      intro card member
      have occurs : card.rank.value ∈ (rankCounts cards).keys := by
        rw [Tally.mem_keys, count_rankCounts]
        exact List.countP_pos_iff.mpr ⟨card, member, by simp⟩
      simpa [keys] using occurs
    refine ⟨Rank.ofValue value, fun card member => ?_⟩
    rw [← shared card member, Rank.ofValue_value]
  · rintro ⟨rank, same⟩
    have keys : (rankCounts cards).keys = List.range' rank.value 1 := by
      rw [Tally.keys_eq_range]
      intro key
      rw [count_rankCounts, rankCount_of_oneRank same]
      have positive := List.length_pos_of_ne_nil nonempty
      split <;> omega
    rw [← Tally.length_keys, keys, List.length_range']

/-- Two ranks have at most all the cards between them. -/
theorem rankCount_add_le {first second : Nat} (differ : first ≠ second) :
    rankCount cards first + rankCount cards second ≤ cards.length := by
  induction cards with
  | nil => simp [rankCount]
  | cons card cards inductionHypothesis =>
    simp only [rankCount, List.countP_cons, List.length_cons, decide_eq_true_eq] at *
    split <;> split <;> omega

/-- Positive numbers that add up to how many they are are ones. -/
theorem eq_one_of_sum {values : List Nat} (positive : ∀ value ∈ values, 1 ≤ value)
    (total : values.sum = values.length) : ∀ value ∈ values, value = 1 := by
  induction values with
  | nil => simp
  | cons head values inductionHypothesis =>
    have first := positive head (by simp)
    have rest : ∀ value ∈ values, 1 ≤ value := fun value member =>
      positive value (List.mem_cons_of_mem _ member)
    have bound := List.length_le_sum_of_one_le values rest
    rw [List.sum_cons, List.length_cons] at total
    intro value member
    rcases List.mem_cons.mp member with rfl | later
    · omega
    · exact inductionHypothesis rest (by omega) value later

/-- Three for each triple and four for a quadruple are among the cards. -/
theorem sum_ge (values : List Nat) : 3 * values.count 3 + 4 * values.count 4 ≤ values.sum := by
  induction values with
  | nil => simp
  | cons value values inductionHypothesis =>
    simp only [List.count_cons, List.sum_cons, beq_iff_eq]
    split <;> split <;> omega

end Counts

/-! ## Runs -/

theorem IsRun.keys {cards : List Card} {low length number : Nat}
    (run : IsRun cards low length number) (positive : 0 < number) :
    (rankCounts cards).keys = List.range' low length := by
  rw [Tally.keys_eq_range]
  intro key
  rw [count_rankCounts, run.counts]
  split <;> omega

theorem IsRun.values {cards : List Card} {low length number : Nat}
    (run : IsRun cards low length number) (positive : 0 < number) :
    (rankCounts cards).values = List.replicate length number := by
  rw [Tally.values_eq_map_count, run.keys positive, List.eq_replicate_iff]
  refine ⟨by simp, fun value member => ?_⟩
  obtain ⟨key, inRun, rfl⟩ := List.mem_map.mp member
  rw [count_rankCounts, run.counts, if_pos (List.mem_range'_1.mp inRun)]

theorem IsRun.length {cards : List Card} {low length number : Nat}
    (run : IsRun cards low length number) (positive : 0 < number) :
    cards.length = length * number := by
  rw [← sum_values, run.values positive, List.sum_replicate_nat]

/-- Cards whose ranks are a run and all occur `number` times are a run. -/
theorem isRun_of_keys {cards : List Card} {low length number : Nat}
    (ace : low + length ≤ Rank.ace.value + 1)
    (keys : (rankCounts cards).keys = List.range' low length)
    (values : ∀ value ∈ (rankCounts cards).values, value = number) :
    IsRun cards low length number where
  ace := ace
  counts value := by
    have occurs := Tally.keys_eq_range.mp keys value
    rw [count_rankCounts] at occurs
    split
    · next inside =>
      exact values _ (mem_values.mpr ⟨occurs.mpr inside, value, rfl⟩)
    · next outside =>
      exact Nat.eq_zero_of_not_pos fun positive => outside (occurs.mp positive)

theorem steps_iff {keys : List Nat} :
    steps keys = true ↔ keys = List.range' (keys.head?.getD 0) keys.length := by
  induction keys with
  | nil => simp [steps]
  | cons first keys inductionHypothesis =>
    cases keys with
    | nil => simp [steps]
    | cons second rest =>
      simp only [List.head?_cons, Option.getD_some] at inductionHypothesis
      simp only [steps, Bool.and_eq_true, beq_iff_eq, inductionHypothesis, List.head?_cons,
        Option.getD_some, List.length_cons, List.range'_succ, List.cons.injEq, true_and]
      constructor
      · rintro ⟨rfl, equal⟩; exact ⟨rfl, equal⟩
      · rintro ⟨rfl, equal⟩; exact ⟨rfl, equal⟩

theorem lastKey_of_run {counts : Tally Nat} {low length : Nat}
    (keys : counts.keys = List.range' low length) (nonempty : 0 < length) :
    lastKey counts = low + length - 1 := by
  rw [lastKey, keys, List.getLast?_range', if_neg (by omega)]
  rfl

theorem consecutive_iff {counts : Tally Nat} :
    consecutive counts = true ↔
      ∃ low length, 0 < length ∧ low + length ≤ Rank.ace.value + 1 ∧
        counts.keys = List.range' low length := by
  have emptyKeys : counts.entries = [] ↔ counts.keys = [] := by simp [Tally.keys]
  simp only [consecutive, Bool.and_eq_true, Bool.not_eq_true', List.isEmpty_eq_false_iff, ne_eq,
    emptyKeys, decide_eq_true_eq, steps_iff]
  constructor
  · rintro ⟨⟨nonempty, ace⟩, run⟩
    have positive := List.length_pos_of_ne_nil nonempty
    rw [lastKey_of_run run positive] at ace
    exact ⟨counts.keys.head?.getD 0, counts.keys.length, positive, by omega, run⟩
  · rintro ⟨low, length, positive, ace, run⟩
    rw [lastKey_of_run run positive, run]
    refine ⟨⟨by simp; omega, by omega⟩, ?_⟩
    obtain ⟨length, rfl⟩ := Nat.exists_eq_succ_of_ne_zero positive.ne'
    simp [List.range'_succ]

theorem consecutive_of_run {cards : List Card} {low length number : Nat}
    (run : IsRun cards low length number) (positive : 0 < number) (nonempty : 0 < length) :
    consecutive (rankCounts cards) = true :=
  consecutive_iff.mpr ⟨low, length, nonempty, run.ace, run.keys positive⟩

theorem searchRun_some {counts : Tally Nat} {tripleCount attempts start low : Nat}
    (found : searchRun counts tripleCount attempts start = some low) :
    start ≤ low ∧ low + tripleCount - 1 ≤ Rank.ace.value ∧
      ∀ offset, offset < tripleCount → counts.count (low + offset) = 3 := by
  induction attempts generalizing start with
  | zero => cases found
  | succ attempts inductionHypothesis =>
    rw [searchRun] at found
    split at found
    · next bound =>
      split at found
      · next triples =>
        cases found
        refine ⟨le_rfl, bound, fun offset inside => ?_⟩
        simpa using List.all_eq_true.mp triples offset (List.mem_range.mpr inside)
      · obtain ⟨later, rest⟩ := inductionHypothesis found
        exact ⟨by omega, rest⟩
    · cases found

/-- The search misses no run: the starts it does not try are above the ace. -/
theorem searchRun_none {counts : Tally Nat} {tripleCount attempts start low : Nat}
    (positive : 0 < tripleCount) (all : start + attempts = Rank.ace.value + 1)
    (missed : searchRun counts tripleCount attempts start = none) (from_ : start ≤ low)
    (ace : low + tripleCount ≤ Rank.ace.value + 1) :
    ¬ ∀ offset, offset < tripleCount → counts.count (low + offset) = 3 := by
  induction attempts generalizing start with
  | zero => omega
  | succ attempts inductionHypothesis =>
    rw [searchRun, if_pos (by omega)] at missed
    split at missed
    · cases missed
    · next broken =>
      intro triples
      rcases Nat.eq_or_lt_of_le from_ with rfl | later
      · refine broken (List.all_eq_true.mpr fun offset member => ?_)
        simpa using triples offset (List.mem_range.mp member)
      · exact inductionHypothesis (by omega) missed later triples

/-! ## The blocks of `analyze` -/

section Blocks

variable {cards : List Card} {play : Play}

theorem rankWith_some {number value : Nat} (found : rankWith (rankCounts cards) number = some value) :
    rankCount cards value = number ∧ 0 < number := by
  obtain ⟨entry, inEntries, rfl⟩ := Option.map_eq_some_iff.mp found
  have counted := Tally.mem_entries.mp (List.mem_of_find?_eq_some inEntries)
  have asked : entry.2 = number := by simpa using List.find?_some inEntries
  rw [← count_rankCounts, ← asked]
  exact counted

theorem rankWith_isSome {number value : Nat} (counted : rankCount cards value = number)
    (positive : 0 < number) : ∃ first, rankWith (rankCounts cards) number = some first := by
  have member : (value, number) ∈ (rankCounts cards).entries :=
    Tally.mem_entries.mpr ⟨by rw [count_rankCounts, counted], positive⟩
  cases found : (rankCounts cards).entries.find? fun entry => entry.2 == number with
  | none => simpa using List.find?_eq_none.mp found _ member
  | some entry => exact ⟨entry.1, by simp [rankWith, found]⟩

theorem airplaneMainRank_some {tripleCount : Nat} {mainRank : Rank} (positive : 0 < tripleCount)
    (found : airplaneMainRank (rankCounts cards) tripleCount = some mainRank) :
    ∃ low, HasTriples cards low tripleCount ∧ mainRank.value + 1 - tripleCount = low := by
  obtain ⟨low, searched, rfl⟩ := Option.map_eq_some_iff.mp found
  obtain ⟨lower, ace, triples⟩ := searchRun_some searched
  refine ⟨low, ⟨by omega, fun value from_ below => ?_⟩, ?_⟩
  · have counted := triples (value - low) (by omega)
    rwa [count_rankCounts, Nat.add_sub_cancel' from_] at counted
  · have three : Rank.three.value = 3 := rfl
    have top : Rank.ace.value = 14 := rfl
    rw [Rank.value_ofValue (by omega) (by omega)]
    omega

theorem airplaneMainRank_isSome {low tripleCount : Nat} (positive : 0 < tripleCount)
    (triples : HasTriples cards low tripleCount) :
    ∃ mainRank, airplaneMainRank (rankCounts cards) tripleCount = some mainRank := by
  cases searched : searchRun (rankCounts cards) tripleCount 12 Rank.three.value with
  | some start => exact ⟨_, by rw [airplaneMainRank, searched]; rfl⟩
  | none =>
    have first : 0 < rankCount cards low := by rw [triples.counts low le_rfl (by omega)]; decide
    have all : Rank.three.value + 12 = Rank.ace.value + 1 := rfl
    refine absurd (fun offset inside => ?_)
      (searchRun_none positive all searched (rank_bounds first).1 triples.ace)
    rw [count_rankCounts]
    exact triples.counts _ (by omega) (by omega)

/-- A run of triples splits off the other ranks' counts. -/
theorem values_of_triples {low tripleCount : Nat} (triples : HasTriples cards low tripleCount) :
    (rankCounts cards).values.Perm (List.replicate tripleCount 3 ++
      ((List.range' low tripleCount).foldl Tally.erase (rankCounts cards)).values) := by
  have counted : ∀ key ∈ List.range' low tripleCount, (rankCounts cards).count key = 3 := by
    intro key member
    obtain ⟨lower, upper⟩ := List.mem_range'_1.mp member
    rw [count_rankCounts, triples.counts key lower upper]
  have erased := Tally.values_eraseAll List.nodup_range' counted (by decide)
  rwa [List.length_range'] at erased

theorem sum_eraseRun {low tripleCount : Nat} {mainRank : Rank}
    (triples : HasTriples cards low tripleCount) (top : mainRank.value + 1 - tripleCount = low) :
    3 * tripleCount + (eraseRun (rankCounts cards) mainRank tripleCount).values.sum = cards.length := by
  rw [← sum_values, (values_of_triples triples).sum_eq, List.sum_append, List.sum_replicate_nat,
    Nat.mul_comm, eraseRun, top]

theorem rocket_sound (found : rocket (rankCounts cards) cards.length = some play) :
    Shape cards play.pattern := by
  simp only [rocket, count_rankCounts, Option.ite_none_right_eq_some, Option.some.injEq] at found
  obtain ⟨⟨size, small, big⟩, rfl⟩ := found
  have together : rankCount cards Rank.smallJoker.value + rankCount cards Rank.bigJoker.value ≤
      cards.length := rankCount_add_le (by decide)
  exact ⟨size, by omega, by omega⟩

theorem oneRank_sound (nonempty : cards ≠ [])
    (found : oneRank (rankCounts cards) cards.length = some play) :
    Shape cards play.pattern ∨ OneRank cards ∧ 4 < cards.length ∧ play = {} := by
  simp only [oneRank, Option.ite_none_right_eq_some, size_eq_one nonempty] at found
  obtain ⟨shared, found⟩ := found
  have positive := List.length_pos_of_ne_nil nonempty
  split at found
  · next size => cases found; exact .inl ⟨shared, size⟩
  · next size => cases found; exact .inl ⟨shared, size⟩
  · next size => cases found; exact .inl ⟨shared, size⟩
  · next size => cases found; exact .inl ⟨shared, size⟩
  · next notOne notTwo notThree notFour =>
    refine .inr ⟨shared, ?_, (Option.some.inj found).symm⟩
    by_contra few
    have small : cards.length = 1 ∨ cards.length = 2 ∨ cards.length = 3 ∨ cards.length = 4 := by
      omega
    rcases small with one | two | three | four
    · exact notOne one
    · exact notTwo two
    · exact notThree three
    · exact notFour four

theorem tripleWithSingle_sound
    (found : tripleWithSingle (rankCounts cards) cards.length = some play) :
    Shape cards play.pattern := by
  simp only [tripleWithSingle, Option.bind_eq_bind, Option.bind_eq_some_iff,
    Option.ite_none_right_eq_some, Option.some.injEq] at found
  obtain ⟨value, triple, size, rfl⟩ := found
  exact ⟨size, value, (rankWith_some triple).1⟩

theorem tripleWithPair_sound (found : tripleWithPair (rankCounts cards) cards.length = some play) :
    Shape cards play.pattern := by
  simp only [tripleWithPair, Option.bind_eq_bind, Option.bind_eq_some_iff,
    Option.ite_none_right_eq_some, Option.some.injEq] at found
  obtain ⟨first, triple, second, pair, ⟨_, size⟩, rfl⟩ := found
  obtain ⟨triple, _⟩ := rankWith_some triple
  obtain ⟨pair, _⟩ := rankWith_some pair
  have hasTriple : 3 ∈ (rankCounts cards).values := mem_values.mpr ⟨by decide, first, triple⟩
  have hasPair : 2 ∈ (rankCounts cards).values := mem_values.mpr ⟨by decide, second, pair⟩
  show countProfile cards = {3, 2}
  rw [countProfile_eq]
  obtain ⟨x, y, values⟩ := List.length_eq_two.mp ((rankCounts cards).length_values.trans size)
  rw [values] at hasTriple hasPair ⊢
  simp only [List.mem_cons, List.not_mem_nil, or_false] at hasTriple hasPair
  obtain ⟨rfl, rfl⟩ | ⟨rfl, rfl⟩ : x = 3 ∧ y = 2 ∨ x = 2 ∧ y = 3 := by omega
  · rfl
  · exact Multiset.coe_eq_coe.mpr (.swap 3 2 [])

theorem fourWithTwoSingles_sound
    (found : fourWithTwoSingles (rankCounts cards) cards.length = some play) :
    Shape cards play.pattern := by
  simp only [fourWithTwoSingles, Option.bind_eq_bind, Option.bind_eq_some_iff,
    Option.ite_none_right_eq_some, Option.some.injEq] at found
  obtain ⟨value, four, size, rfl⟩ := found
  exact ⟨size, value, (rankWith_some four).1⟩

theorem fourWithTwoPairs_sound
    (found : fourWithTwoPairs (rankCounts cards) cards.length = some play) :
    Shape cards play.pattern := by
  simp only [fourWithTwoPairs, Option.bind_eq_bind, Option.bind_eq_some_iff,
    Option.ite_none_right_eq_some, Option.some.injEq, List.all_eq_true, beq_iff_eq] at found
  obtain ⟨value, four, ⟨_, size, pairs⟩, rfl⟩ := found
  have counted : (rankCounts cards).count value = 4 := by
    rw [count_rankCounts, (rankWith_some four).1]
  have rest : ((rankCounts cards).erase value).values = List.replicate 2 2 :=
    List.eq_replicate_iff.mpr ⟨by rw [Tally.length_values, size], pairs⟩
  have split := Tally.values_erase counted (by decide)
  rw [rest] at split
  show countProfile cards = {4, 2, 2}
  rw [countProfile_eq]
  exact Multiset.coe_eq_coe.mpr split

theorem straight_sound (found : straight (rankCounts cards) cards.length = some play) :
    Shape cards play.pattern := by
  simp only [straight, Option.ite_none_right_eq_some, Option.some.injEq] at found
  obtain ⟨⟨size, distinct, run⟩, rfl⟩ := found
  obtain ⟨low, length, _, ace, keys⟩ := consecutive_iff.mp run
  have same : length = cards.length := by
    rw [← distinct, ← Tally.length_keys, keys, List.length_range']
  subst same
  refine ⟨size, low, isRun_of_keys ace keys ?_⟩
  -- as many ranks as cards leaves one card for each
  exact eq_one_of_sum (fun value member => (mem_values.mp member).1)
    (by rw [sum_values, Tally.length_values, distinct])

theorem consecutivePairs_sound
    (found : consecutivePairs (rankCounts cards) cards.length = some play) :
    Shape cards play.pattern := by
  simp only [consecutivePairs, Option.ite_none_right_eq_some, Option.some.injEq,
    List.all_eq_true, beq_iff_eq] at found
  obtain ⟨⟨size, _, run, pairs⟩, rfl⟩ := found
  obtain ⟨low, length, _, ace, keys⟩ := consecutive_iff.mp run
  have isRun := isRun_of_keys ace keys pairs
  have total := isRun.length (by decide)
  exact ⟨low, length, by omega, isRun⟩

theorem airplane_sound (found : airplane (rankCounts cards) cards.length = some play) :
    Shape cards play.pattern := by
  simp only [airplane, Option.ite_none_right_eq_some, Option.some.injEq,
    List.all_eq_true, beq_iff_eq] at found
  obtain ⟨⟨size, _, run, triples⟩, rfl⟩ := found
  obtain ⟨low, length, _, ace, keys⟩ := consecutive_iff.mp run
  have isRun := isRun_of_keys ace keys triples
  have total := isRun.length (by decide)
  exact ⟨low, length, by omega, isRun⟩

theorem airplane_complete (shape : Shape cards .airplane) :
    ∃ play, airplane (rankCounts cards) cards.length = some play := by
  obtain ⟨low, length, enough, run⟩ := shape
  have total := run.length (by decide)
  refine ⟨_, if_pos ⟨by omega, by omega, consecutive_of_run run (by decide) (by omega), ?_⟩⟩
  simp [run.values (by decide)]

/-- This block is reached only when the cards are not an airplane. -/
theorem airplaneWithSingles_sound (notAirplane : ¬ Shape cards .airplane)
    (found : airplaneWithSingles (rankCounts cards) cards.length = some play) :
    Shape cards play.pattern := by
  simp only [airplaneWithSingles, Option.ite_none_right_eq_some, Option.bind_eq_bind,
    Option.bind_eq_some_iff, Option.some.injEq] at found
  obtain ⟨⟨size, multiple⟩, mainRank, searched, _, rfl⟩ := found
  obtain ⟨low, triples, _⟩ := airplaneMainRank_some (by omega) searched
  exact ⟨⟨low, cards.length / 4, by omega, by omega, triples⟩, notAirplane⟩

theorem airplaneWithPairs_sound
    (found : airplaneWithPairs (rankCounts cards) cards.length = some play) :
    Shape cards play.pattern := by
  simp only [airplaneWithPairs, Option.ite_none_right_eq_some, Option.bind_eq_bind,
    Option.bind_eq_some_iff, Option.some.injEq, List.all_eq_true, beq_iff_eq] at found
  obtain ⟨⟨size, multiple⟩, mainRank, searched, ⟨_, pairs⟩, rfl⟩ := found
  obtain ⟨low, triples, top⟩ := airplaneMainRank_some (by omega) searched
  refine ⟨low, cards.length / 5, by omega, by omega, triples, fun value outside => ?_⟩
  have kept : (eraseRun (rankCounts cards) mainRank (cards.length / 5)).count value =
      rankCount cards value := by
    rw [eraseRun, top, Tally.count_eraseAll, if_neg, count_rankCounts]
    rw [List.mem_range'_1]
    exact outside
  rcases Nat.eq_zero_or_pos (rankCount cards value) with zero | positive
  · exact .inl zero
  · rw [← kept] at positive ⊢
    exact .inr (pairs _ (Tally.mem_values.mpr ⟨positive, value, rfl⟩))

theorem airplaneWithSingles_complete (shape : Shape cards .airplaneWithSingles) :
    ∃ play, airplaneWithSingles (rankCounts cards) cards.length = some play := by
  obtain ⟨⟨low, length, enough, size, triples⟩, _⟩ := shape
  have quarter : cards.length / 4 = length := by omega
  obtain ⟨mainRank, searched⟩ := airplaneMainRank_isSome (by omega) triples
  obtain ⟨_, found, top⟩ := airplaneMainRank_some (by omega) searched
  have total := sum_eraseRun found top
  refine ⟨⟨.airplaneWithSingles, mainRank, cards.length⟩, ?_⟩
  rw [airplaneWithSingles, if_pos ⟨by omega, by omega⟩, quarter, searched]
  exact if_pos (by omega)

/-- The ranks outside the triples of an airplane with pairs are as many pairs. -/
theorem values_outside {low length : Nat} (triples : HasTriples cards low length)
    (size : cards.length = 5 * length)
    (pairs : ∀ value, ¬ (low ≤ value ∧ value < low + length) →
      rankCount cards value = 0 ∨ rankCount cards value = 2) :
    ((List.range' low length).foldl Tally.erase (rankCounts cards)).values =
      List.replicate length 2 := by
  have two : ∀ number ∈ ((List.range' low length).foldl Tally.erase (rankCounts cards)).values,
      number = 2 := by
    intro number member
    obtain ⟨positive, value, counted⟩ := Tally.mem_values.mp member
    rw [Tally.count_eraseAll, count_rankCounts] at counted
    split at counted
    · omega
    · next outside =>
      rw [List.mem_range'_1] at outside
      rcases pairs value outside with zero | pair <;> omega
  have all := List.eq_replicate_length.mpr two
  have total := (values_of_triples triples).sum_eq
  rw [sum_values, List.sum_append, List.sum_replicate_nat, all, List.sum_replicate_nat] at total
  rw [all]
  congr 1
  omega

theorem airplaneWithPairs_complete (shape : Shape cards .airplaneWithPairs) :
    ∃ play, airplaneWithPairs (rankCounts cards) cards.length = some play := by
  obtain ⟨low, length, enough, size, triples, pairs⟩ := shape
  have fifth : cards.length / 5 = length := by omega
  obtain ⟨mainRank, searched⟩ := airplaneMainRank_isSome (by omega) triples
  obtain ⟨first, found, top⟩ := airplaneMainRank_some (by omega) searched
  have same : first = low := by
    -- a triple of the run found lies in the run declared, and the other way round
    by_contra differ
    rcases Nat.lt_or_gt_of_ne differ with below | above
    · have three := found.counts first le_rfl (by omega)
      rcases pairs first (by omega) with zero | pair <;> omega
    · have three := found.counts (first + length - 1) (by omega) (by omega)
      rcases pairs (first + length - 1) (by omega) with zero | pair <;> omega
  have rest := values_outside triples size pairs
  rw [← same, ← top, ← eraseRun] at rest
  refine ⟨⟨.airplaneWithPairs, mainRank, cards.length⟩, ?_⟩
  rw [airplaneWithPairs, if_pos ⟨by omega, by omega⟩, fifth, searched]
  refine if_pos ⟨?_, ?_⟩
  · rw [← Tally.length_values, rest, List.length_replicate]
  · simp [rest]

end Blocks

/-! ## One pattern for all cards -/

section Patterns

variable {cards : List Card} {pattern : CardPattern}

theorem values_of_oneRank (nonempty : cards ≠ []) (shared : OneRank cards) :
    (rankCounts cards).values = [cards.length] := by
  have one := (size_eq_one nonempty).mpr shared
  rw [← Tally.length_values] at one
  obtain ⟨number, values⟩ := List.length_eq_one_iff.mp one
  have total := sum_values cards
  rw [values] at total ⊢
  simpa using total

theorem length_of_profile {numbers : List Nat} (profile : countProfile cards = numbers) :
    cards.length = numbers.sum := by
  rw [countProfile_eq, Multiset.coe_eq_coe] at profile
  rw [← sum_values, profile.sum_eq]

theorem mem_of_profile {numbers : List Nat} {number : Nat} (profile : countProfile cards = numbers) :
    number ∈ (rankCounts cards).values ↔ number ∈ numbers := by
  rw [countProfile_eq, Multiset.coe_eq_coe] at profile
  exact profile.mem_iff

theorem HasTriples.le_count {low length : Nat} (triples : HasTriples cards low length) :
    length ≤ (rankCounts cards).values.count 3 := by
  rw [(values_of_triples triples).count_eq, List.count_append, List.count_replicate_self]
  omega

theorem HasTriples.mem_values {low length : Nat} (triples : HasTriples cards low length)
    (positive : 0 < length) : 3 ∈ (rankCounts cards).values :=
  List.count_pos_iff.mp (lt_of_lt_of_le positive triples.le_count)

open Classical in
/-- Which pattern five or more cards can have at most, the shapes of one size apart. -/
noncomputable def sequenceKind (cards : List Card) : CardPattern :=
  if ∀ value ∈ (rankCounts cards).values, value = 1 then .straight
  else if ∀ value ∈ (rankCounts cards).values, value = 2 then .consecutivePairs
  else if Shape cards .airplane then .airplane
  else if 5 * (rankCounts cards).values.count 3 = cards.length then .airplaneWithPairs
  else .airplaneWithSingles

/-- Which pattern cards can have at most, read off their number and the counts of their
    ranks. -/
noncomputable def kind (cards : List Card) : CardPattern :=
  if cards.length = 1 then .single
  else if cards.length = 2 then if 1 ∈ (rankCounts cards).values then .rocket else .pair
  else if cards.length = 3 then .triple
  else if cards.length = 4 then
    if 3 ∈ (rankCounts cards).values then .tripleWithSingle else .bomb
  else if cards.length = 5 ∧ 3 ∈ (rankCounts cards).values then .tripleWithPair
  else if cards.length = 6 ∧ 4 ∈ (rankCounts cards).values then .fourWithTwoSingles
  else if cards.length = 8 ∧ 4 ∈ (rankCounts cards).values then .fourWithTwoPairs
  else sequenceKind cards

theorem kind_eq_sequenceKind (long : 5 ≤ cards.length)
    (five : cards.length = 5 → 3 ∉ (rankCounts cards).values)
    (six : cards.length = 6 → 4 ∉ (rankCounts cards).values)
    (eight : cards.length = 8 → 4 ∉ (rankCounts cards).values) : kind cards = sequenceKind cards := by
  rw [kind, if_neg (by omega), if_neg (by omega), if_neg (by omega), if_neg (by omega),
    if_neg fun both => five both.1 both.2, if_neg fun both => six both.1 both.2,
    if_neg fun both => eight both.1 both.2]

theorem not_all {number other : Nat} (member : number ∈ (rankCounts cards).values)
    (differ : number ≠ other) : ¬ ∀ value ∈ (rankCounts cards).values, value = other :=
  fun all => differ (all number member)

/-- A run has one count only. -/
theorem IsRun.notMem {low length number other : Nat} (run : IsRun cards low length number)
    (positive : 0 < number) (differ : other ≠ number) : other ∉ (rankCounts cards).values := by
  rw [run.values positive]
  exact fun member => differ (List.eq_of_mem_replicate member)

theorem IsRun.mem {low length number : Nat} (run : IsRun cards low length number)
    (positive : 0 < number) (nonempty : 0 < length) : number ∈ (rankCounts cards).values := by
  rw [run.values positive]
  exact List.mem_replicate.mpr ⟨nonempty.ne', rfl⟩

theorem IsRun.all {low length number : Nat} (run : IsRun cards low length number)
    (positive : 0 < number) : ∀ value ∈ (rankCounts cards).values, value = number := by
  rw [run.values positive]
  exact fun _ => List.eq_of_mem_replicate

theorem kind_of_shape (shape : Shape cards pattern) : kind cards = pattern := by
  cases pattern with
  | invalid => cases shape
  | rocket =>
    obtain ⟨size, small, _⟩ := shape
    have one : 1 ∈ (rankCounts cards).values := mem_values.mpr ⟨by decide, _, small⟩
    simp [kind, size, one]
  | single => simp [kind, shape.2]
  | pair =>
    have values := values_of_oneRank (by rintro rfl; cases shape.2) shape.1
    simp [kind, values, shape.2]
  | triple => simp [kind, shape.2]
  | bomb =>
    have values := values_of_oneRank (by rintro rfl; cases shape.2) shape.1
    simp [kind, values, shape.2]
  | tripleWithSingle =>
    obtain ⟨size, value, triple⟩ := shape
    have three : 3 ∈ (rankCounts cards).values := mem_values.mpr ⟨by decide, value, triple⟩
    simp [kind, size, three]
  | tripleWithPair =>
    have size : cards.length = [3, 2].sum := length_of_profile shape
    have three : 3 ∈ (rankCounts cards).values := (mem_of_profile shape).mpr (by decide)
    simp [kind, size, three]
  | fourWithTwoSingles =>
    obtain ⟨size, value, quadruple⟩ := shape
    have four : 4 ∈ (rankCounts cards).values := mem_values.mpr ⟨by decide, value, quadruple⟩
    simp [kind, size, four]
  | fourWithTwoPairs =>
    have size : cards.length = [4, 2, 2].sum := length_of_profile shape
    have four : 4 ∈ (rankCounts cards).values := (mem_of_profile shape).mpr (by decide)
    simp [kind, size, four]
  -- no rank of a run occurs 2, 3 or 4 times unless all do, so `kind` comes to the sequences
  | straight =>
    obtain ⟨size, low, run⟩ := shape
    rw [kind_eq_sequenceKind size (fun _ => run.notMem (by decide) (by decide))
      (fun _ => run.notMem (by decide) (by decide)) (fun _ => run.notMem (by decide) (by decide))]
    exact if_pos (run.all (by decide))
  | consecutivePairs =>
    obtain ⟨low, length, enough, run⟩ := shape
    have size := run.length (by decide)
    have pair := run.mem (by decide) (by omega)
    rw [kind_eq_sequenceKind (by omega) (fun _ => run.notMem (by decide) (by decide))
      (fun _ => run.notMem (by decide) (by decide)) (fun _ => run.notMem (by decide) (by decide)),
      sequenceKind, if_neg (not_all pair (by decide))]
    exact if_pos (run.all (by decide))
  | airplane =>
    obtain ⟨low, length, enough, run⟩ := id shape
    have size := run.length (by decide)
    have triple := run.mem (by decide) (by omega)
    rw [kind_eq_sequenceKind (by omega) (by omega)
      (fun _ => run.notMem (by decide) (by decide)) (fun _ => run.notMem (by decide) (by decide)),
      sequenceKind, if_neg (not_all triple (by decide)), if_neg (not_all triple (by decide))]
    exact if_pos shape
  | airplaneWithSingles =>
    obtain ⟨⟨low, length, enough, size, triples⟩, notAirplane⟩ := shape
    have triple := triples.mem_values (by omega)
    have many := triples.le_count
    -- eight cards with two triples have no four of a kind
    have noFour : cards.length = 8 → 4 ∉ (rankCounts cards).values := by
      intro eight four
      have total := sum_ge (rankCounts cards).values
      have quadruple := List.count_pos_iff.mpr four
      rw [sum_values] at total
      omega
    have noRun : ¬ Shape cards .airplane := notAirplane
    rw [kind_eq_sequenceKind (by omega) (by omega) (by omega) noFour, sequenceKind,
      if_neg (not_all triple (by decide)), if_neg (not_all triple (by decide)), if_neg noRun]
    exact if_neg (by omega)
  | airplaneWithPairs =>
    obtain ⟨low, length, enough, size, triples, pairs⟩ := shape
    have split := values_of_triples triples
    rw [values_outside triples size pairs] at split
    have triple := triples.mem_values (by omega)
    have pair : 2 ∈ (rankCounts cards).values := by
      rw [split.mem_iff, List.mem_append]
      exact .inr (List.mem_replicate.mpr ⟨by omega, rfl⟩)
    -- the pairs lie outside the run, so all triples are its own
    have exactly : (rankCounts cards).values.count 3 = length := by
      rw [split.count_eq, List.count_append, List.count_replicate_self, List.count_replicate]
      simp
    have notAirplane : ¬ Shape cards .airplane := by
      rintro ⟨_, _, _, run⟩
      exact run.notMem (by decide) (by decide) pair
    rw [kind_eq_sequenceKind (by omega) (by omega) (by omega) (by omega), sequenceKind,
      if_neg (not_all triple (by decide)), if_neg (not_all triple (by decide)), if_neg notAirplane]
    exact if_pos (by omega)

/-- No cards have two declared patterns. -/
theorem shape_unique {other : CardPattern} (shape : Shape cards pattern) (another : Shape cards other) :
    pattern = other :=
  (kind_of_shape shape).symm.trans (kind_of_shape another)

theorem nonempty_of_shape (shape : Shape cards pattern) : cards ≠ [] := by
  rintro rfl
  cases pattern with
  | invalid => cases shape
  | rocket | tripleWithSingle | fourWithTwoSingles => cases shape.1
  | single | pair | triple | bomb => cases shape.2
  | tripleWithPair => cases (length_of_profile shape : [].length = [3, 2].sum)
  | fourWithTwoPairs => cases (length_of_profile shape : [].length = [4, 2, 2].sum)
  | straight => have := shape.1; simp at this
  | consecutivePairs | airplane =>
    obtain ⟨low, length, enough, run⟩ := shape
    have size := run.length (by decide)
    simp at size
    omega
  | airplaneWithSingles =>
    obtain ⟨⟨low, length, enough, size, _⟩, _⟩ := shape
    simp at size
    omega
  | airplaneWithPairs =>
    obtain ⟨low, length, enough, size, _⟩ := shape
    simp at size
    omega

/-- More than four cards of one rank are no pattern. -/
theorem length_le_of_oneRank (shape : Shape cards pattern) (shared : OneRank cards) :
    cards.length ≤ 4 := by
  have values := values_of_oneRank (nonempty_of_shape shape) shared
  cases pattern with
  | invalid => cases shape
  | rocket | tripleWithSingle => have := shape.1; omega
  | single | pair | triple | bomb => have := shape.2; omega
  | tripleWithPair =>
    have three : 3 ∈ (rankCounts cards).values := (mem_of_profile shape).mpr (by decide)
    have two : 2 ∈ (rankCounts cards).values := (mem_of_profile shape).mpr (by decide)
    rw [values, List.mem_singleton] at three two
    omega
  | fourWithTwoSingles =>
    obtain ⟨size, value, quadruple⟩ := shape
    have four : 4 ∈ (rankCounts cards).values := mem_values.mpr ⟨by decide, value, quadruple⟩
    rw [values, List.mem_singleton] at four
    omega
  | fourWithTwoPairs =>
    have four : 4 ∈ (rankCounts cards).values := (mem_of_profile shape).mpr (by decide)
    have two : 2 ∈ (rankCounts cards).values := (mem_of_profile shape).mpr (by decide)
    rw [values, List.mem_singleton] at four two
    omega
  | straight =>
    obtain ⟨size, low, run⟩ := shape
    have one := congrArg List.length (values.symm.trans (run.values (by decide)))
    simp at one
    omega
  | consecutivePairs | airplane =>
    obtain ⟨low, length, enough, run⟩ := shape
    have one := congrArg List.length (values.symm.trans (run.values (by decide)))
    simp at one
    omega
  | airplaneWithSingles =>
    obtain ⟨⟨low, length, enough, size, triples⟩, _⟩ := shape
    have three := triples.mem_values (by omega)
    rw [values, List.mem_singleton] at three
    omega
  | airplaneWithPairs =>
    obtain ⟨low, length, enough, size, triples, _⟩ := shape
    have three := triples.mem_values (by omega)
    rw [values, List.mem_singleton] at three
    omega

theorem blocks_sound {play : Play} (nonempty : cards ≠ [])
    (found : blocks (rankCounts cards) cards.length = some play) :
    Shape cards play.pattern ∨ OneRank cards ∧ 4 < cards.length ∧ play = {} := by
  simp only [blocks, Option.orElse_eq_orElse, Option.orElse_eq_or, Option.or_eq_some_iff] at found
  rcases found with found | ⟨_, found⟩
  · exact .inl (rocket_sound found)
  rcases found with found | ⟨_, found⟩
  · exact oneRank_sound nonempty found
  rcases found with found | ⟨_, found⟩
  · exact .inl (tripleWithSingle_sound found)
  rcases found with found | ⟨_, found⟩
  · exact .inl (tripleWithPair_sound found)
  rcases found with found | ⟨_, found⟩
  · exact .inl (fourWithTwoSingles_sound found)
  rcases found with found | ⟨_, found⟩
  · exact .inl (fourWithTwoPairs_sound found)
  rcases found with found | ⟨_, found⟩
  · exact .inl (straight_sound found)
  rcases found with found | ⟨_, found⟩
  · exact .inl (consecutivePairs_sound found)
  rcases found with found | ⟨none, found⟩
  · exact .inl (airplane_sound found)
  have notAirplane : ¬ Shape cards .airplane := fun shape => by
    obtain ⟨play, some⟩ := airplane_complete shape
    rw [none] at some
    cases some
  rcases found with found | ⟨_, found⟩
  · exact .inl (airplaneWithSingles_sound notAirplane found)
  · exact .inl (airplaneWithPairs_sound found)

/-- Some block answers for every declared pattern. -/
theorem blocks_complete (shape : Shape cards pattern) :
    blocks (rankCounts cards) cards.length ≠ none := by
  have nonempty := nonempty_of_shape shape
  simp only [blocks, Option.orElse_eq_orElse, Option.orElse_eq_or, ne_eq, Option.or_eq_none_iff]
  -- suppose that no block answers
  rintro ⟨noRocket, noOneRank, noTripleSingle, noTriplePair, noFourSingles, noFourPairs, noStraight,
    noPairs, noAirplane, noSingles, noAirplanePairs⟩
  cases pattern with
  | invalid => cases shape
  | rocket =>
    obtain ⟨size, small, big⟩ := shape
    rw [rocket, count_rankCounts, count_rankCounts, if_pos ⟨size, by omega, by omega⟩] at noRocket
    cases noRocket
  | single | pair | triple | bomb =>
    obtain ⟨shared, size⟩ := shape
    simp [oneRank, (size_eq_one nonempty).mpr shared, size] at noOneRank
  | tripleWithSingle =>
    obtain ⟨size, value, triple⟩ := shape
    obtain ⟨first, found⟩ := rankWith_isSome triple (by decide)
    simp [tripleWithSingle, found, size] at noTripleSingle
  | tripleWithPair =>
    have size : cards.length = [3, 2].sum := length_of_profile shape
    have three : 3 ∈ (rankCounts cards).values := (mem_of_profile shape).mpr (by decide)
    have two : 2 ∈ (rankCounts cards).values := (mem_of_profile shape).mpr (by decide)
    obtain ⟨_, value, triple⟩ := mem_values.mp three
    obtain ⟨_, other, pair⟩ := mem_values.mp two
    obtain ⟨first, found⟩ := rankWith_isSome triple (by decide)
    obtain ⟨second, foundPair⟩ := rankWith_isSome pair (by decide)
    have ranks : (rankCounts cards).size = 2 := by
      rw [← Tally.length_values, ← Multiset.coe_card, ← countProfile_eq,
        show countProfile cards = _ from shape]
      rfl
    simp [tripleWithPair, found, foundPair, size, ranks] at noTriplePair
  | fourWithTwoSingles =>
    obtain ⟨size, value, quadruple⟩ := shape
    obtain ⟨first, found⟩ := rankWith_isSome quadruple (by decide)
    simp [fourWithTwoSingles, found, size] at noFourSingles
  | fourWithTwoPairs =>
    have size : cards.length = [4, 2, 2].sum := length_of_profile shape
    have four : 4 ∈ (rankCounts cards).values := (mem_of_profile shape).mpr (by decide)
    obtain ⟨_, value, quadruple⟩ := mem_values.mp four
    obtain ⟨first, found⟩ := rankWith_isSome quadruple (by decide)
    have counted : (rankCounts cards).count first = 4 := by
      rw [count_rankCounts, (rankWith_some found).1]
    -- without the four, two pairs are left
    have rest : ((rankCounts cards).erase first).values.Perm [2, 2] := by
      have profile := Multiset.coe_eq_coe.mp (countProfile_eq.symm.trans shape)
      exact ((Tally.values_erase counted (by decide)).symm.trans profile).cons_inv
    have ranks : ((rankCounts cards).erase first).size = 2 := by
      rw [← Tally.length_values, rest.length_eq]
      rfl
    have pairs : ∀ number ∈ ((rankCounts cards).erase first).values, number = 2 := by
      intro number member
      simpa using rest.mem_iff.mp member
    simp [fourWithTwoPairs, found, size, ranks] at noFourPairs
    obtain ⟨number, member, differ⟩ := noFourPairs
    exact differ (pairs number member)
  | straight =>
    obtain ⟨size, low, run⟩ := shape
    have ranks : (rankCounts cards).size = cards.length := by
      rw [← Tally.length_values, run.values (by decide), List.length_replicate]
    rw [straight, if_pos ⟨size, ranks, consecutive_of_run run (by decide) (by omega)⟩] at noStraight
    cases noStraight
  | consecutivePairs =>
    obtain ⟨low, length, enough, run⟩ := shape
    have size := run.length (by decide)
    have pairs : (rankCounts cards).values.all (· == 2) = true := by simp [run.values]
    rw [consecutivePairs, if_pos ⟨by omega, by omega,
      consecutive_of_run run (by decide) (by omega), pairs⟩] at noPairs
    cases noPairs
  | airplane =>
    obtain ⟨play, some⟩ := airplane_complete shape
    rw [some] at noAirplane
    cases noAirplane
  | airplaneWithSingles =>
    obtain ⟨play, some⟩ := airplaneWithSingles_complete shape
    rw [some] at noSingles
    cases noSingles
  | airplaneWithPairs =>
    obtain ⟨play, some⟩ := airplaneWithPairs_complete shape
    rw [some] at noAirplanePairs
    cases noAirplanePairs

/-- What `analyze` reports is declared. -/
theorem analyze_sound (valid : (analyze cards).pattern ≠ .invalid) :
    Shape cards (analyze cards).pattern := by
  rcases List.eq_nil_or_concat' cards with rfl | ⟨front, last, equal⟩
  · exact absurd rfl valid
  · have nonempty : cards ≠ [] := by simp [equal]
    rw [analyze, if_neg (by simpa using nonempty)] at valid ⊢
    cases found : blocks (rankCounts cards) cards.length with
    | none => rw [found] at valid; exact absurd rfl valid
    | some play =>
      rw [found] at valid
      rcases blocks_sound nonempty found with shape | ⟨_, _, rfl⟩
      · exact shape
      · exact absurd rfl valid

/-- What is declared `analyze` reports. -/
theorem analyze_complete (shape : Shape cards pattern) : (analyze cards).pattern = pattern := by
  have nonempty := nonempty_of_shape shape
  rw [analyze, if_neg (by simpa using nonempty)]
  cases found : blocks (rankCounts cards) cards.length with
  | none => exact absurd found (blocks_complete shape)
  | some play =>
    rcases blocks_sound nonempty found with declared | ⟨shared, many, _⟩
    · exact shape_unique declared shape
    · have few := length_le_of_oneRank shape shared
      omega

end Patterns

/-- The exact grammar: a pattern is reported iff the cards are declared to form it, and
    `Invalid` iff they form none. -/
theorem analyze_grammar (cards : List Card) :
    (∀ pattern, pattern ≠ .invalid → ((analyze cards).pattern = pattern ↔ Shape cards pattern)) ∧
      ((analyze cards).pattern = .invalid ↔ ∀ pattern, ¬ Shape cards pattern) := by
  constructor
  · intro pattern valid
    constructor
    · rintro rfl
      exact analyze_sound valid
    · exact analyze_complete
  · constructor
    · intro invalid pattern shape
      rw [analyze_complete shape] at invalid
      subst invalid
      exact shape
    · intro none
      by_contra valid
      exact none _ (analyze_sound valid)

end Doudizhu.Game.CardRules
