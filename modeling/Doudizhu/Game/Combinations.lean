import Mathlib.Data.Finset.Dedup
import Doudizhu.Game.Readings

/-! # Combinations and their ranks

The rules of the game build the combinations up from ranks: so many cards of one rank,
ranks in a row, and wings beside them.  `Forms` lists them, each with the rank it is
compared by.  `forms_iff` shows that `analyze` reports that pattern and that rank and no
other, so the comparison made by `can_beat` is the one of the rules.
-/

namespace Doudizhu.Game

open CardRules

/-! ## The rules -/

/-- The ranks of cards, as often as they occur. -/
def ranks (cards : Multiset Card) : Multiset Nat := cards.map fun card => card.rank.value

/-- `length` ranks in a row from `low`, each `number` times. -/
def row (low length number : Nat) : Multiset Nat := number • (List.range' low length : Multiset Nat)

/-- The rank lies outside the row. -/
def Beside (low length rank : Nat) : Prop := ¬ (low ≤ rank ∧ rank < low + length)

/-- `length` ranks in a row occur three times each. -/
def TriplesFrom (values : Multiset Nat) (low length : Nat) : Prop :=
  low + length ≤ Rank.ace.value + 1 ∧
    ∀ rank, low ≤ rank → rank < low + length → values.count rank = 3

/-- `Forms pattern rank values`: cards of the ranks `values` are a combination of the
    pattern, and it is compared by `rank`. -/
inductive Forms : CardPattern → Nat → Multiset Nat → Prop where
  | rocket : Forms .rocket Rank.bigJoker.value {Rank.smallJoker.value, Rank.bigJoker.value}
  | single {rank : Nat} : Forms .single rank {rank}
  | pair {rank : Nat} : Forms .pair rank (.replicate 2 rank)
  | triple {rank : Nat} : Forms .triple rank (.replicate 3 rank)
  | bomb {rank : Nat} : Forms .bomb rank (.replicate 4 rank)
  | tripleWithSingle {rank wing : Nat} : wing ≠ rank →
      Forms .tripleWithSingle rank (.replicate 3 rank + {wing})
  | tripleWithPair {rank wing : Nat} : wing ≠ rank →
      Forms .tripleWithPair rank (.replicate 3 rank + .replicate 2 wing)
  | fourWithTwoSingles {rank first second : Nat} : first ≠ rank → second ≠ rank →
      Forms .fourWithTwoSingles rank (.replicate 4 rank + {first, second})
  | fourWithTwoPairs {rank : Nat} {wings : Finset Nat} : wings.card = 2 → rank ∉ wings →
      Forms .fourWithTwoPairs rank (.replicate 4 rank + 2 • wings.val)
  | straight {low length : Nat} : 5 ≤ length → low + length ≤ Rank.ace.value + 1 →
      Forms .straight (low + length - 1) (row low length 1)
  | consecutivePairs {low length : Nat} : 3 ≤ length → low + length ≤ Rank.ace.value + 1 →
      Forms .consecutivePairs (low + length - 1) (row low length 2)
  | airplane {low length : Nat} : 2 ≤ length → low + length ≤ Rank.ace.value + 1 →
      Forms .airplane (low + length - 1) (row low length 3)
  -- of several rows the lowest counts, and four triples in a row are no wings
  | airplaneWithSingles {low length : Nat} {wings : Multiset Nat} : 2 ≤ length →
      low + length ≤ Rank.ace.value + 1 → wings.card = length →
      (∀ wing ∈ wings, Beside low length wing) →
      (∀ lower < low, ¬ TriplesFrom (row low length 3 + wings) lower length) →
      (∀ other longer, other + longer ≤ Rank.ace.value + 1 →
        row low length 3 + wings ≠ row other longer 3) →
      Forms .airplaneWithSingles (low + length - 1) (row low length 3 + wings)
  | airplaneWithPairs {low length : Nat} {wings : Finset Nat} : 2 ≤ length →
      low + length ≤ Rank.ace.value + 1 → wings.card = length →
      (∀ wing ∈ wings, Beside low length wing) →
      Forms .airplaneWithPairs (low + length - 1) (row low length 3 + 2 • wings.val)

/-- Which cards beat which: the rocket everything, a bomb everything but bombs and the
    rocket, and otherwise the higher rank of two combinations of one pattern and size. -/
inductive Beats (cards previous : Multiset Card) : Prop where
  | rocket {pattern : CardPattern} {rank under : Nat} : Forms .rocket rank (ranks cards) →
      Forms pattern under (ranks previous) → pattern ≠ .rocket → Beats cards previous
  | bomb {pattern : CardPattern} {rank under : Nat} : Forms .bomb rank (ranks cards) →
      Forms pattern under (ranks previous) → pattern ≠ .rocket → pattern ≠ .bomb →
      Beats cards previous
  | higher {pattern : CardPattern} {rank under : Nat} : Forms pattern rank (ranks cards) →
      Forms pattern under (ranks previous) → cards.card = previous.card → under < rank →
      Beats cards previous

/-! ## Counting ranks -/

theorem count_ranks (cards : List Card) (rank : Nat) :
    (ranks cards).count rank = rankCount cards rank := by
  rw [ranks, Multiset.map_coe, Multiset.coe_count, List.count_eq_countP, List.countP_map]
  rfl

@[simp] theorem card_ranks (cards : Multiset Card) : (ranks cards).card = cards.card :=
  Multiset.card_map _ _

@[simp] theorem count_row (low length number rank : Nat) :
    (row low length number).count rank = if low ≤ rank ∧ rank < low + length then number else 0 := by
  rw [row, Multiset.count_nsmul, Multiset.coe_count]
  split
  · next inside =>
    rw [List.count_eq_one_of_mem List.nodup_range' (List.mem_range'_1.mpr inside), mul_one]
  · next outside =>
    rw [List.count_eq_zero.mpr fun member => outside (List.mem_range'_1.mp member), mul_zero]

@[simp] theorem card_row (low length number : Nat) : (row low length number).card = number * length := by
  simp [row]

theorem isRun_iff {cards : List Card} {low length number : Nat} :
    IsRun cards low length number ↔
      low + length ≤ Rank.ace.value + 1 ∧ ranks cards = row low length number := by
  constructor
  · intro run
    refine ⟨run.ace, Multiset.ext.mpr fun rank => ?_⟩
    rw [count_ranks, count_row, run.counts]
  · rintro ⟨ace, same⟩
    refine ⟨ace, fun rank => ?_⟩
    rw [← count_ranks, same, count_row]

theorem hasTriples_iff {cards : List Card} {low length : Nat} :
    HasTriples cards low length ↔ TriplesFrom (ranks cards) low length := by
  constructor
  · intro triples
    refine ⟨triples.ace, fun rank lower upper => ?_⟩
    rw [count_ranks, triples.counts rank lower upper]
  · rintro ⟨ace, triples⟩
    refine ⟨ace, fun rank lower upper => ?_⟩
    rw [← count_ranks, triples rank lower upper]

/-- Ranks that occur `number` times can be set aside. -/
theorem eq_replicate_add {values : Multiset Nat} {rank number : Nat}
    (counted : values.count rank = number) :
    ∃ rest, values = .replicate number rank + rest ∧ rank ∉ rest ∧
      values.card = number + rest.card := by
  have within : Multiset.replicate number rank ≤ values :=
    Multiset.le_count_iff_replicate_le.mp counted.ge
  obtain ⟨rest, rfl⟩ := Multiset.le_iff_exists_add.mp within
  refine ⟨rest, rfl, ?_, by simp⟩
  rw [Multiset.count_add, Multiset.count_replicate_self] at counted
  exact Multiset.count_eq_zero.mp (by omega)

/-- So can a row of triples. -/
theorem TriplesFrom.eq_row_add {values : Multiset Nat} {low length : Nat}
    (triples : TriplesFrom values low length) :
    ∃ rest, values = row low length 3 + rest ∧ (∀ wing ∈ rest, Beside low length wing) ∧
      values.card = 3 * length + rest.card := by
  have within : row low length 3 ≤ values := by
    rw [Multiset.le_iff_count]
    intro rank
    rw [count_row]
    split
    · next inside => exact (triples.2 rank inside.1 inside.2).ge
    · exact Nat.zero_le _
  obtain ⟨rest, rfl⟩ := Multiset.le_iff_exists_add.mp within
  refine ⟨rest, rfl, ?_, by simp⟩
  intro wing member inside
  have three := triples.2 wing inside.1 inside.2
  rw [Multiset.count_add, count_row, if_pos inside] at three
  exact absurd member (Multiset.count_eq_zero.mp (by omega))

/-- Ranks that come in pairs are twice the ranks there are. -/
theorem eq_pairs {values : Multiset Nat} (pairs : ∀ rank ∈ values, values.count rank = 2) :
    values = 2 • values.toFinset.val ∧ values.card = 2 * values.toFinset.card := by
  have twice : values = 2 • values.toFinset.val := by
    refine Multiset.ext.mpr fun rank => ?_
    rw [Multiset.count_nsmul, Multiset.toFinset_val, Multiset.count_dedup]
    split
    · next member => rw [pairs rank member]
    · next absent => rw [Multiset.count_eq_zero.mpr absent]
  refine ⟨twice, ?_⟩
  rw [Finset.card_def]
  conv_lhs => rw [twice]
  exact Multiset.card_nsmul _ _

/-! ## What the blocks report -/

/-- The play is the combination that the cards form. -/
structure Reports (cards : List Card) (play : Play) : Prop where
  forms : Forms play.pattern play.mainRank.value (ranks cards)
  size : play.cardCount = cards.length

section Blocks

variable {cards : List Card} {play : Play}

theorem rocket_reports (found : rocket (rankCounts cards) cards.length = some play) :
    Reports cards play := by
  have shape := rocket_sound found
  simp only [rocket, Option.ite_none_right_eq_some, Option.some.injEq] at found
  obtain ⟨_, rfl⟩ := found
  obtain ⟨size, small, big⟩ := shape
  rw [← count_ranks] at small big
  obtain ⟨rest, split, _, total⟩ := eq_replicate_add small
  rw [card_ranks, Multiset.coe_card, size] at total
  obtain ⟨other, rfl⟩ := Multiset.card_eq_one.mp (show rest.card = 1 by omega)
  rw [split, Multiset.count_add, Multiset.count_singleton, Multiset.count_replicate] at big
  obtain rfl : Rank.bigJoker.value = other := by
    by_contra differ
    rw [if_neg differ] at big
    cases big
  refine ⟨?_, rfl⟩
  rw [split]
  exact Forms.rocket

/-- The highest of the ranks when there is only one. -/
theorem highestRank_of_oneRank {rank : Rank} (nonempty : cards ≠ [])
    (same : ∀ card ∈ cards, card.rank = rank) : highestRank (rankCounts cards) = rank := by
  have keys : (rankCounts cards).keys = List.range' rank.value 1 := by
    rw [Tally.keys_eq_range]
    intro key
    rw [count_rankCounts, rankCount_of_oneRank same]
    have positive := List.length_pos_of_ne_nil nonempty
    split <;> omega
  rw [highestRank, lastKey_of_run keys Nat.one_pos, Nat.add_sub_cancel, Rank.ofValue_value]

theorem ranks_of_oneRank {rank : Rank} (same : ∀ card ∈ cards, card.rank = rank) :
    ranks cards = .replicate cards.length rank.value := by
  refine Multiset.ext.mpr fun value => ?_
  rw [count_ranks, rankCount_of_oneRank same, Multiset.count_replicate]

theorem oneRank_reports (nonempty : cards ≠ [])
    (found : oneRank (rankCounts cards) cards.length = some play) (valid : play.pattern ≠ .invalid) :
    Reports cards play := by
  simp only [oneRank, Option.ite_none_right_eq_some, size_eq_one nonempty] at found
  obtain ⟨⟨rank, same⟩, found⟩ := found
  rw [highestRank_of_oneRank nonempty same] at found
  have alike := ranks_of_oneRank same
  split at found
  · next size => cases found; exact ⟨by rw [alike, size]; exact .single, rfl⟩
  · next size => cases found; exact ⟨by rw [alike, size]; exact .pair, rfl⟩
  · next size => cases found; exact ⟨by rw [alike, size]; exact .triple, rfl⟩
  · next size => cases found; exact ⟨by rw [alike, size]; exact .bomb, rfl⟩
  · cases found; exact absurd rfl valid

/-- The rank that `find_if` finds is the rank of a card. -/
theorem rankWith_value {number value : Nat} (found : rankWith (rankCounts cards) number = some value) :
    (ranks cards).count value = number ∧ (Rank.ofValue value).value = value := by
  obtain ⟨counted, positive⟩ := rankWith_some found
  have occurs : 0 < rankCount cards value := by omega
  obtain ⟨lower, upper⟩ := rank_bounds occurs
  exact ⟨by rw [count_ranks, counted], Rank.value_ofValue lower upper⟩

theorem tripleWithSingle_reports
    (found : tripleWithSingle (rankCounts cards) cards.length = some play) :
    Reports cards play := by
  simp only [tripleWithSingle, Option.bind_eq_bind, Option.bind_eq_some_iff,
    Option.ite_none_right_eq_some, Option.some.injEq] at found
  obtain ⟨value, triple, size, rfl⟩ := found
  obtain ⟨counted, same⟩ := rankWith_value triple
  obtain ⟨rest, split, absent, total⟩ := eq_replicate_add counted
  rw [card_ranks, Multiset.coe_card, size] at total
  obtain ⟨wing, rfl⟩ := Multiset.card_eq_one.mp (show rest.card = 1 by omega)
  refine ⟨?_, rfl⟩
  rw [split, same]
  exact .tripleWithSingle fun equal => absent (by simp [equal])

theorem tripleWithPair_reports (found : tripleWithPair (rankCounts cards) cards.length = some play) :
    Reports cards play := by
  simp only [tripleWithPair, Option.bind_eq_bind, Option.bind_eq_some_iff,
    Option.ite_none_right_eq_some, Option.some.injEq] at found
  obtain ⟨value, triple, wing, pair, ⟨size, _⟩, rfl⟩ := found
  obtain ⟨counted, same⟩ := rankWith_value triple
  obtain ⟨two, _⟩ := rankWith_value pair
  have differ : wing ≠ value := by
    rintro rfl
    omega
  obtain ⟨rest, split, _, total⟩ := eq_replicate_add counted
  rw [card_ranks, Multiset.coe_card, size] at total
  rw [split, Multiset.count_add, Multiset.count_replicate, if_neg differ.symm, zero_add] at two
  have all : rest.count wing = rest.card := by omega
  have pairOnly : rest = .replicate 2 wing :=
    Multiset.eq_replicate.mpr ⟨by omega, fun _ member => (Multiset.count_eq_card.mp all _ member).symm⟩
  refine ⟨?_, rfl⟩
  rw [split, same, pairOnly]
  exact .tripleWithPair differ

theorem fourWithTwoSingles_reports
    (found : fourWithTwoSingles (rankCounts cards) cards.length = some play) :
    Reports cards play := by
  simp only [fourWithTwoSingles, Option.bind_eq_bind, Option.bind_eq_some_iff,
    Option.ite_none_right_eq_some, Option.some.injEq] at found
  obtain ⟨value, four, size, rfl⟩ := found
  obtain ⟨counted, same⟩ := rankWith_value four
  obtain ⟨rest, split, absent, total⟩ := eq_replicate_add counted
  rw [card_ranks, Multiset.coe_card, size] at total
  obtain ⟨first, second, rfl⟩ := Multiset.card_eq_two.mp (show rest.card = 2 by omega)
  refine ⟨?_, rfl⟩
  rw [split, same]
  exact .fourWithTwoSingles (fun equal => absent (by simp [equal])) fun equal =>
    absent (by simp [equal])

theorem fourWithTwoPairs_reports
    (found : fourWithTwoPairs (rankCounts cards) cards.length = some play) :
    Reports cards play := by
  simp only [fourWithTwoPairs, Option.bind_eq_bind, Option.bind_eq_some_iff,
    Option.ite_none_right_eq_some, Option.some.injEq, List.all_eq_true, beq_iff_eq] at found
  obtain ⟨value, four, ⟨size, _, pairs⟩, rfl⟩ := found
  obtain ⟨counted, same⟩ := rankWith_value four
  obtain ⟨rest, split, absent, total⟩ := eq_replicate_add counted
  rw [card_ranks, Multiset.coe_card, size] at total
  have twos : ∀ rank ∈ rest, rest.count rank = 2 := by
    intro rank member
    have differ : rank ≠ value := fun equal => absent (equal ▸ member)
    have all : (ranks cards).count rank = rest.count rank := by
      rw [split, Multiset.count_add, Multiset.count_replicate, if_neg differ.symm, zero_add]
    have kept : ((rankCounts cards).erase value).count rank = rest.count rank := by
      rw [Tally.count_erase, if_neg differ, count_rankCounts, ← count_ranks, all]
    rw [← kept]
    exact pairs _ (Tally.mem_values.mpr ⟨kept ▸ Multiset.count_pos.mpr member, rank, rfl⟩)
  obtain ⟨twice, half⟩ := eq_pairs twos
  refine ⟨?_, rfl⟩
  rw [split, same, twice]
  exact .fourWithTwoPairs (by omega) (by simpa using absent)

/-- The row of ranks in which a run ends. -/
theorem highestRank_of_run {low length number : Nat} (run : IsRun cards low length number)
    (positive : 0 < number) (nonempty : 0 < length) :
    (highestRank (rankCounts cards)).value = low + length - 1 := by
  have bounds : 3 ≤ low := by
    have occurs : 0 < rankCount cards low := by
      rw [run.counts, if_pos ⟨le_rfl, by omega⟩]
      exact positive
    exact (rank_bounds occurs).1
  have ace := run.ace
  have fourteen : Rank.ace.value = 14 := rfl
  rw [highestRank, lastKey_of_run (run.keys positive) nonempty,
    Rank.value_ofValue (by omega) (by omega)]

theorem straight_reports (found : straight (rankCounts cards) cards.length = some play) :
    Reports cards play := by
  have shape := straight_sound found
  simp only [straight, Option.ite_none_right_eq_some, Option.some.injEq] at found
  obtain ⟨_, rfl⟩ := found
  obtain ⟨size, low, run⟩ := shape
  refine ⟨?_, rfl⟩
  rw [highestRank_of_run run Nat.one_pos (by omega), (isRun_iff.mp run).2]
  exact .straight size run.ace

theorem consecutivePairs_reports
    (found : consecutivePairs (rankCounts cards) cards.length = some play) :
    Reports cards play := by
  have shape := consecutivePairs_sound found
  simp only [consecutivePairs, Option.ite_none_right_eq_some, Option.some.injEq] at found
  obtain ⟨_, rfl⟩ := found
  obtain ⟨low, length, enough, run⟩ := shape
  refine ⟨?_, rfl⟩
  rw [highestRank_of_run run (by decide) (by omega), (isRun_iff.mp run).2]
  exact .consecutivePairs enough run.ace

theorem airplane_reports (found : airplane (rankCounts cards) cards.length = some play) :
    Reports cards play := by
  have shape := airplane_sound found
  rw [airplane_play found] at shape ⊢
  obtain ⟨low, length, enough, run⟩ := shape
  refine ⟨?_, rfl⟩
  rw [highestRank_of_run run (by decide) (by omega), (isRun_iff.mp run).2]
  exact .airplane enough run.ace

/-- The search starts with the lowest rank and takes the first run there is. -/
theorem searchRun_lowest {counts : Tally Nat} {tripleCount attempts start low lower : Nat}
    (found : searchRun counts tripleCount attempts start = some low) (from_ : start ≤ lower)
    (below : lower < low) :
    ¬ ∀ offset, offset < tripleCount → counts.count (lower + offset) = 3 := by
  induction attempts generalizing start with
  | zero => cases found
  | succ attempts inductionHypothesis =>
    rw [searchRun] at found
    split at found
    · split at found
      · cases found
        omega
      · next broken =>
        intro triples
        rcases Nat.eq_or_lt_of_le from_ with rfl | later
        · refine broken (List.all_eq_true.mpr fun offset member => ?_)
          simpa using triples offset (List.mem_range.mp member)
        · exact inductionHypothesis found later triples
    · cases found

theorem airplaneMainRank_lowest {tripleCount : Nat} {mainRank : Rank} (positive : 0 < tripleCount)
    (found : airplaneMainRank (rankCounts cards) tripleCount = some mainRank) :
    ∃ low, TriplesFrom (ranks cards) low tripleCount ∧ mainRank.value = low + tripleCount - 1 ∧
      ∀ lower < low, ¬ TriplesFrom (ranks cards) lower tripleCount := by
  obtain ⟨low, triples, top⟩ := airplaneMainRank_some positive found
  obtain ⟨lowest, searched, rfl⟩ := Option.map_eq_some_iff.mp found
  obtain ⟨lower, upper⟩ := triples.bounds positive
  obtain ⟨three, ace, _⟩ := searchRun_some searched
  have values : Rank.three.value = 3 ∧ Rank.ace.value = 14 := ⟨rfl, rfl⟩
  rw [Rank.value_ofValue (by omega) (by omega)] at top ⊢
  obtain rfl : lowest = low := by omega
  refine ⟨lowest, hasTriples_iff.mp triples, rfl, ?_⟩
  intro other below row
  have three : 3 ≤ other := (HasTriples.bounds (hasTriples_iff.mpr row) positive).1
  refine searchRun_lowest searched three below fun offset inside => ?_
  rw [count_rankCounts, ← count_ranks]
  exact row.2 _ (by omega) (by omega)

theorem airplaneWithSingles_reports (notAirplane : ¬ Shape cards .airplane)
    (found : airplaneWithSingles (rankCounts cards) cards.length = some play) :
    Reports cards play := by
  simp only [airplaneWithSingles, Option.ite_none_right_eq_some, Option.bind_eq_bind,
    Option.bind_eq_some_iff, Option.some.injEq] at found
  obtain ⟨⟨size, multiple⟩, mainRank, searched, _, rfl⟩ := found
  obtain ⟨low, triples, top, lowest⟩ := airplaneMainRank_lowest (by omega) searched
  obtain ⟨wings, split, beside, total⟩ := triples.eq_row_add
  rw [card_ranks, Multiset.coe_card] at total
  refine ⟨?_, rfl⟩
  rw [top]
  rw [split] at lowest ⊢
  refine .airplaneWithSingles (by omega) triples.1 (by omega) beside lowest ?_
  intro other longer ace same
  have sizes := congrArg Multiset.card (split.trans same)
  rw [card_ranks, Multiset.coe_card, card_row] at sizes
  exact notAirplane ⟨other, longer, by omega, isRun_iff.mpr ⟨ace, split.trans same⟩⟩

theorem airplaneWithPairs_reports
    (found : airplaneWithPairs (rankCounts cards) cards.length = some play) :
    Reports cards play := by
  simp only [airplaneWithPairs, Option.ite_none_right_eq_some, Option.bind_eq_bind,
    Option.bind_eq_some_iff, Option.some.injEq, List.all_eq_true, beq_iff_eq] at found
  obtain ⟨⟨size, multiple⟩, mainRank, searched, ⟨_, pairs⟩, rfl⟩ := found
  obtain ⟨low, triples, top, _⟩ := airplaneMainRank_lowest (by omega) searched
  obtain ⟨wings, split, beside, total⟩ := triples.eq_row_add
  rw [card_ranks, Multiset.coe_card] at total
  have start : mainRank.value + 1 - cards.length / 5 = low := by omega
  have twos : ∀ rank ∈ wings, wings.count rank = 2 := by
    intro rank member
    have outside := beside rank member
    have all : (ranks cards).count rank = wings.count rank := by
      rw [split, Multiset.count_add, count_row, if_neg outside, zero_add]
    have kept : (eraseRun (rankCounts cards) mainRank (cards.length / 5)).count rank =
        wings.count rank := by
      rw [eraseRun, start, Tally.count_eraseAll, if_neg, count_rankCounts, ← count_ranks, all]
      rw [List.mem_range'_1]
      exact outside
    rw [← kept]
    exact pairs _ (Tally.mem_values.mpr ⟨kept ▸ Multiset.count_pos.mpr member, rank, rfl⟩)
  obtain ⟨twice, half⟩ := eq_pairs twos
  refine ⟨?_, rfl⟩
  rw [split, top, twice]
  refine .airplaneWithPairs (by omega) triples.1 (by omega) ?_
  intro wing member
  exact beside wing (Multiset.mem_toFinset.mp member)

/-- What the chain of blocks reports is a combination. -/
theorem blocks_reports (nonempty : cards ≠ [])
    (found : blocks (rankCounts cards) cards.length = some play) (valid : play.pattern ≠ .invalid) :
    Reports cards play := by
  simp only [blocks, Option.orElse_eq_orElse, Option.orElse_eq_or, Option.or_eq_some_iff] at found
  rcases found with found | ⟨_, found⟩
  · exact rocket_reports found
  rcases found with found | ⟨_, found⟩
  · exact oneRank_reports nonempty found valid
  rcases found with found | ⟨_, found⟩
  · exact tripleWithSingle_reports found
  rcases found with found | ⟨_, found⟩
  · exact tripleWithPair_reports found
  rcases found with found | ⟨_, found⟩
  · exact fourWithTwoSingles_reports found
  rcases found with found | ⟨_, found⟩
  · exact fourWithTwoPairs_reports found
  rcases found with found | ⟨_, found⟩
  · exact straight_reports found
  rcases found with found | ⟨_, found⟩
  · exact consecutivePairs_reports found
  rcases found with found | ⟨noAirplane, found | ⟨_, found⟩⟩
  · exact airplane_reports found
  · refine airplaneWithSingles_reports (fun shape => ?_) found
    obtain ⟨_, some⟩ := airplane_complete shape
    rw [noAirplane] at some
    cases some
  · exact airplaneWithPairs_reports found

end Blocks

/-! ## The rules and the analysis agree -/

section Agreement

variable {pattern : CardPattern} {rank : Nat} {values : Multiset Nat} {cards : List Card}

theorem analyze_reports (valid : (analyze cards).pattern ≠ .invalid) : Reports cards (analyze cards) := by
  have nonempty : cards ≠ [] := by
    rintro rfl
    exact valid rfl
  exact blocks_reports nonempty (analyze_block valid) valid

/-- Cards of one rank, so many of them. -/
theorem oneRank_of_replicate {number : Nat} (same : ranks cards = .replicate number rank) :
    OneRank cards ∧ cards.length = number := by
  have size := congrArg Multiset.card same
  rw [card_ranks, Multiset.coe_card, Multiset.card_replicate] at size
  refine ⟨⟨Rank.ofValue rank, fun card member => ?_⟩, size⟩
  have mapped : card.rank.value ∈ ranks cards := Multiset.mem_map_of_mem _ member
  rw [same] at mapped
  rw [← Multiset.eq_of_mem_replicate mapped, Rank.ofValue_value]

theorem rankCount_of_ranks {first : Multiset Nat} (same : ranks cards = first) (value : Nat) :
    rankCount cards value = first.count value := by
  rw [← count_ranks, same]

theorem length_of_ranks {first : Multiset Nat} (same : ranks cards = first) :
    cards.length = first.card := by
  rw [← same, card_ranks, Multiset.coe_card]

/-- The profile counts every rank that occurs. -/
theorem countProfile_ranks :
    countProfile cards = (ranks cards).toFinset.val.map (ranks cards).count := by
  have counts : (ranks cards).count = rankCount cards := funext (count_ranks cards)
  rw [countProfile, counts]
  congr 2
  ext value
  rw [Finset.mem_filter, Finset.mem_Icc, Multiset.mem_toFinset, ← Multiset.count_pos, count_ranks]
  exact ⟨fun member => member.2, fun occurs => ⟨rank_bounds occurs, occurs⟩⟩

/-- A rank apart from pairs adds its number to their profile. -/
theorem profile_pairs {number : Nat} {wings : Finset Nat} (positive : 0 < number)
    (absent : rank ∉ wings) (same : ranks cards = .replicate number rank + 2 • wings.val) :
    countProfile cards = number ::ₘ .replicate wings.card 2 := by
  have all : (ranks cards).toFinset = insert rank wings := by
    ext value
    rw [same, Multiset.mem_toFinset, Multiset.mem_add, Multiset.mem_replicate, Finset.mem_insert,
      Multiset.mem_nsmul, Finset.mem_val]
    constructor
    · rintro (⟨_, rfl⟩ | ⟨_, wing⟩)
      · exact .inl rfl
      · exact .inr wing
    · rintro (rfl | wing)
      · exact .inl ⟨by omega, rfl⟩
      · exact .inr ⟨by decide, wing⟩
  rw [countProfile_ranks, all, Finset.insert_val_of_notMem absent, Multiset.map_cons]
  congr 1
  · rw [same, Multiset.count_add, Multiset.count_replicate_self, Multiset.count_nsmul,
      Multiset.count_eq_zero.mpr (by simpa using absent), mul_zero, add_zero]
  · rw [Multiset.eq_replicate]
    refine ⟨Multiset.card_map _ _, ?_⟩
    intro value member
    obtain ⟨wing, inside, rfl⟩ := Multiset.mem_map.mp member
    have differ : rank ≠ wing := fun equal => absent (equal ▸ inside)
    rw [same, Multiset.count_add, Multiset.count_replicate, if_neg differ, zero_add,
      Multiset.count_nsmul, Multiset.count_eq_one_of_mem wings.nodup inside]

theorem triplesFrom_row {low length : Nat} {wings : Multiset Nat}
    (ace : low + length ≤ Rank.ace.value + 1) (beside : ∀ wing ∈ wings, Beside low length wing) :
    TriplesFrom (row low length 3 + wings) low length := by
  refine ⟨ace, fun rank lower upper => ?_⟩
  rw [Multiset.count_add, count_row, if_pos ⟨lower, upper⟩,
    Multiset.count_eq_zero.mpr fun member => beside rank member ⟨lower, upper⟩]

theorem triplesFrom_pairs {low length : Nat} {wings : Finset Nat}
    (ace : low + length ≤ Rank.ace.value + 1) (beside : ∀ wing ∈ wings, Beside low length wing) :
    TriplesFrom (row low length 3 + 2 • wings.val) low length :=
  triplesFrom_row ace fun wing member => beside wing (Multiset.mem_of_mem_nsmul member)

theorem Forms.shape (forms : Forms pattern rank (ranks cards)) : Shape cards pattern := by
  generalize same : ranks cards = values at forms
  cases forms with
  | rocket =>
    refine ⟨length_of_ranks same, ?_, ?_⟩
    · rw [rankCount_of_ranks same]; decide
    · rw [rankCount_of_ranks same]; decide
  | single => exact oneRank_of_replicate (same.trans (Multiset.replicate_one _).symm)
  | pair | triple | bomb => exact oneRank_of_replicate same
  | tripleWithSingle differ =>
    refine ⟨length_of_ranks same, rank, ?_⟩
    simp [rankCount_of_ranks same, Ne.symm differ]
  | @tripleWithPair rank wing differ =>
    have absent : rank ∉ ({wing} : Finset Nat) := by simpa using differ.symm
    exact profile_pairs (by decide) absent same
  | fourWithTwoSingles first second =>
    refine ⟨length_of_ranks same, rank, ?_⟩
    simp [rankCount_of_ranks same, Ne.symm first, Ne.symm second]
  | fourWithTwoPairs two absent =>
    have profile := profile_pairs (by decide) absent same
    rw [two] at profile
    exact profile
  | straight enough ace =>
    have size := length_of_ranks same
    rw [card_row, one_mul] at size
    exact ⟨size ▸ enough, _, size ▸ isRun_iff.mpr ⟨ace, same⟩⟩
  | consecutivePairs enough ace => exact ⟨_, _, enough, isRun_iff.mpr ⟨ace, same⟩⟩
  | airplane enough ace => exact ⟨_, _, enough, isRun_iff.mpr ⟨ace, same⟩⟩
  | @airplaneWithSingles low length wings enough ace size beside lowest notAirplane =>
    have total := length_of_ranks same
    rw [Multiset.card_add, card_row] at total
    refine ⟨⟨low, length, enough, by omega, hasTriples_iff.mpr ?_⟩, ?_⟩
    · exact same ▸ triplesFrom_row ace beside
    · rintro ⟨other, longer, _, run⟩
      obtain ⟨below, airplane⟩ := isRun_iff.mp run
      exact notAirplane other longer below (same.symm.trans airplane)
  | @airplaneWithPairs low length wings enough ace size beside =>
    have total := length_of_ranks same
    rw [Multiset.card_add, card_row, Multiset.card_nsmul, ← Finset.card_def] at total
    refine ⟨low, length, enough, by omega,
      hasTriples_iff.mpr (same ▸ triplesFrom_pairs ace beside), ?_⟩
    intro value outside
    rw [rankCount_of_ranks same, Multiset.count_add, count_row, if_neg outside, zero_add,
      Multiset.count_nsmul]
    by_cases member : value ∈ wings
    · exact .inr (by rw [Multiset.count_eq_one_of_mem wings.nodup member])
    · exact .inl (by rw [Multiset.count_eq_zero.mpr (by simpa using member)])

/-- Two rows of the same ranks start with the same one. -/
theorem row_low_unique {low other length number : Nat} (positive : 0 < number) (nonempty : 0 < length)
    (same : row low length number = row other length number) : low = other := by
  have one := congrArg (Multiset.count low) same
  have another := congrArg (Multiset.count other) same
  rw [count_row, count_row, if_pos ⟨le_rfl, by omega⟩] at one
  rw [count_row, count_row, if_pos (show other ≤ other ∧ other < other + length by omega)] at another
  split at one
  · next inside =>
    split at another
    · next within => omega
    · omega
  · omega

theorem row_top_unique {low other length longer number : Nat} (positive : 0 < number)
    (nonempty : 0 < length) (same : row low length number = row other longer number) :
    low + length - 1 = other + longer - 1 := by
  have sizes := congrArg Multiset.card same
  rw [card_row, card_row] at sizes
  obtain rfl : length = longer := Nat.eq_of_mul_eq_mul_left positive sizes
  rw [row_low_unique positive nonempty same]

/-- Among pairs only the row has a rank three times. -/
theorem row_of_three {low length : Nat} {wings : Finset Nat}
    (three : (row low length 3 + 2 • wings.val).count rank = 3) : low ≤ rank ∧ rank < low + length := by
  by_contra outside
  rw [Multiset.count_add, count_row, if_neg outside, Multiset.count_nsmul] at three
  omega

/-- The jokers have one rank to be compared by. -/
theorem rocket_rank (forms : Forms .rocket rank values) : rank = Rank.bigJoker.value := by
  cases forms
  rfl

/-- No combination has two ranks to be compared by. -/
theorem Forms.rank_unique {second : Nat} (one : Forms pattern rank values)
    (another : Forms pattern second values) : rank = second := by
  generalize same : values = others at another
  cases one with
  | rocket => cases another with
    | rocket => rfl
  | single => cases another with
    | single => exact Multiset.singleton_inj.mp same
  | pair | triple | bomb => cases another with
    | _ => exact (Multiset.replicate_right_inj (by decide)).mp same
  | @tripleWithSingle rank wing differ => cases another with
    | @tripleWithSingle other extra apart =>
      have three := congrArg (Multiset.count rank) same
      simp only [Multiset.count_add, Multiset.count_replicate, Multiset.count_singleton] at three
      grind
  | @tripleWithPair rank wing differ => cases another with
    | @tripleWithPair other extra apart =>
      have three := congrArg (Multiset.count rank) same
      simp only [Multiset.count_add, Multiset.count_replicate] at three
      grind
  | @fourWithTwoSingles rank first second differ apart => cases another with
    | @fourWithTwoSingles other third fourth =>
      have four := congrArg (Multiset.count rank) same
      simp only [Multiset.count_add, Multiset.count_replicate, Multiset.insert_eq_cons,
        Multiset.count_cons, Multiset.count_singleton] at four
      grind
  | @fourWithTwoPairs rank wings two absent => cases another with
    | @fourWithTwoPairs other extra =>
      have four := congrArg (Multiset.count rank) same
      have few := Multiset.nodup_iff_count_le_one.mp extra.nodup rank
      simp only [Multiset.count_add, Multiset.count_replicate, Multiset.count_nsmul] at four
      grind
  | straight enough => cases another with
    | straight => exact row_top_unique Nat.one_pos (by omega) same
  | consecutivePairs enough => cases another with
    | consecutivePairs => exact row_top_unique (by decide) (by omega) same
  | airplane enough => cases another with
    | airplane => exact row_top_unique (by decide) (by omega) same
  | @airplaneWithSingles low length wings enough ace size beside lowest => cases another with
    | @airplaneWithSingles other longer extra _ above count apart least =>
      have sizes := congrArg Multiset.card same
      rw [Multiset.card_add, Multiset.card_add, card_row, card_row] at sizes
      obtain rfl : length = longer := by omega
      have one := triplesFrom_row ace beside
      have another := triplesFrom_row above apart
      rw [same] at one lowest
      have notBelow : ¬ low < other := fun below => least low below one
      have notAbove : ¬ other < low := fun below => lowest other below another
      omega
  | @airplaneWithPairs low length wings enough ace size beside => cases another with
    | @airplaneWithPairs other longer extra _ above count apart =>
      have sizes := congrArg Multiset.card same
      rw [Multiset.card_add, Multiset.card_add, card_row, card_row, Multiset.card_nsmul,
        Multiset.card_nsmul, ← Finset.card_def, ← Finset.card_def] at sizes
      obtain rfl : length = longer := by omega
      have one := triplesFrom_pairs ace beside
      have another := triplesFrom_pairs above apart
      have inOther := row_of_three (same ▸ one.2 low le_rfl (by omega))
      have inOne := row_of_three (same.symm ▸ another.2 other le_rfl (by omega))
      omega

/-- Cards form a combination, compared by a rank, exactly when `analyze` reports the
    pattern and the rank. -/
theorem forms_iff (cards : List Card) (pattern : CardPattern) (rank : Nat) :
    Forms pattern rank (ranks cards) ↔
      pattern ≠ .invalid ∧ (analyze cards).pattern = pattern ∧ (analyze cards).mainRank.value = rank := by
  constructor
  · intro forms
    have reported := analyze_complete forms.shape
    have valid : pattern ≠ .invalid := by
      rintro rfl
      exact forms.shape
    refine ⟨valid, reported, ?_⟩
    have analyzed := (analyze_reports (reported ▸ valid)).forms
    rw [reported] at analyzed
    exact analyzed.rank_unique forms
  · rintro ⟨valid, rfl, rfl⟩
    exact (analyze_reports valid).forms

theorem canBeat_valid {current previous : Play} (beats : canBeat current previous = true) :
    current.pattern ≠ .invalid ∧ previous.pattern ≠ .invalid := by
  rw [canBeat] at beats
  split at beats
  · cases beats
  · next valid => exact not_or.mp valid

/-- `can_beat` compares the reports of `analyze` as the rules compare the cards. -/
theorem beats_iff (cards previous : List Card) :
    canBeat (analyze cards) (analyze previous) = true ↔ Beats cards previous := by
  constructor
  · intro beats
    obtain ⟨valid, validPrevious⟩ := canBeat_valid beats
    have own := analyze_reports valid
    have other := analyze_reports validPrevious
    have forms := own.forms
    rw [canBeat, if_neg (not_or.mpr ⟨valid, validPrevious⟩)] at beats
    split at beats
    · next rocket =>
      rw [rocket] at forms
      exact .rocket forms other.forms (by simpa using beats)
    split at beats
    · next bomb =>
      simp only [Bool.and_eq_true, Bool.or_eq_true, decide_eq_true_eq] at beats
      rw [bomb] at forms
      obtain ⟨noRocket, notBomb | higher⟩ := beats
      · exact .bomb forms other.forms noRocket notBomb
      · by_cases both : (analyze previous).pattern = .bomb
        · have under := other.forms
          rw [both] at under
          refine .higher forms under ?_ higher
          rw [Multiset.coe_card, Multiset.coe_card, forms.shape.2, under.shape.2]
        · exact .bomb forms other.forms noRocket both
    · simp only [Bool.and_eq_true, decide_eq_true_eq] at beats
      obtain ⟨⟨same, sizes⟩, higher⟩ := beats
      rw [same] at forms
      refine .higher forms other.forms ?_ higher
      rw [Multiset.coe_card, Multiset.coe_card, ← own.size, sizes, other.size]
  · intro beats
    cases beats with
    | rocket forms under noRocket =>
      obtain ⟨_, reported, _⟩ := (forms_iff ..).mp forms
      obtain ⟨valid, below, _⟩ := (forms_iff ..).mp under
      simp [canBeat, reported, below, valid, noRocket]
    | bomb forms under noRocket noBomb =>
      obtain ⟨_, reported, _⟩ := (forms_iff ..).mp forms
      obtain ⟨valid, below, _⟩ := (forms_iff ..).mp under
      simp [canBeat, reported, below, valid, noRocket, noBomb]
    | @higher pattern rank low forms under sizes higher =>
      obtain ⟨valid, reported, top⟩ := (forms_iff ..).mp forms
      obtain ⟨_, below, bottom⟩ := (forms_iff ..).mp under
      have own := (analyze_reports (reported ▸ valid)).size
      have other := (analyze_reports (below ▸ valid)).size
      rw [Multiset.coe_card, Multiset.coe_card, ← own, ← other] at sizes
      have noRocket : pattern ≠ .rocket := by
        rintro rfl
        rw [rocket_rank forms, rocket_rank under] at higher
        exact lt_irrefl _ higher
      simp only [canBeat, reported, below, top, bottom, sizes, higher]
      simp [valid, noRocket]

/-- What `analyze` reports is the combination of the rules with the rank of the rules, and
    `can_beat` compares two reports as the rules compare the cards. -/
theorem compared_by_the_rules (cards previous : List Card) :
    (∀ pattern rank, Forms pattern rank (ranks cards) ↔ pattern ≠ .invalid ∧
      (analyze cards).pattern = pattern ∧ (analyze cards).mainRank.value = rank) ∧
    (canBeat (analyze cards) (analyze previous) = true ↔ Beats cards previous) :=
  ⟨forms_iff cards, beats_iff cards previous⟩

end Agreement

end Doudizhu.Game
