import Mathlib.Data.List.Sort
import Mathlib.Algebra.BigOperators.Group.List.Basic
import Mathlib.Algebra.Order.BigOperators.Group.List
import Mathlib.Tactic.Ring

/-! # Ordered tallies

An ordered map from keys to counts, as `++map[key]` fills it: the entries stand in
key order and no count is zero.  Both facts are fields, so every tally has them.

`count_ofList` says what a filled tally holds, `mem_entries` what its entries are;
`keys_eq_range` recognises an unbroken run of keys.
-/

structure Tally (κ : Type) [LinearOrder κ] where
  entries : List (κ × Nat)
  sorted : (entries.map Prod.fst).Pairwise (· < ·)
  positive : ∀ entry ∈ entries, 0 < entry.2

namespace Tally

variable {κ : Type} [LinearOrder κ]

def keys (tally : Tally κ) : List κ := tally.entries.map Prod.fst

def values (tally : Tally κ) : List Nat := tally.entries.map Prod.snd

def size (tally : Tally κ) : Nat := tally.entries.length

def count (tally : Tally κ) (key : κ) : Nat :=
  ((tally.entries.find? fun entry => entry.1 = key).map Prod.snd).getD 0

def empty : Tally κ where
  entries := []
  sorted := by simp
  positive := by simp

/-! ## Filling -/

def bumpEntries (key : κ) : List (κ × Nat) → List (κ × Nat)
  | [] => [(key, 1)]
  | (other, count) :: rest =>
    if key < other then (key, 1) :: (other, count) :: rest
    else if key = other then (other, count + 1) :: rest
    else (other, count) :: bumpEntries key rest

theorem mem_keys_bumpEntries {key other : κ} {entries : List (κ × Nat)}
    (member : other ∈ (bumpEntries key entries).map Prod.fst) :
    other = key ∨ other ∈ entries.map Prod.fst := by
  induction entries with
  | nil => simpa [bumpEntries] using member
  | cons entry entries inductionHypothesis =>
    simp only [bumpEntries] at member
    split at member
    · simpa using member
    · split at member
      · exact .inr (by simpa using member)
      · simp only [List.map_cons, List.mem_cons] at member ⊢
        rcases member with head | tail
        · exact .inr (.inl head)
        · rcases inductionHypothesis tail with same | earlier
          · exact .inl same
          · exact .inr (.inr earlier)

theorem sorted_bumpEntries (key : κ) {entries : List (κ × Nat)}
    (sorted : (entries.map Prod.fst).Pairwise (· < ·)) :
    ((bumpEntries key entries).map Prod.fst).Pairwise (· < ·) := by
  induction entries with
  | nil => simp [bumpEntries]
  | cons entry entries inductionHypothesis =>
    have tail := (List.pairwise_cons.mp sorted).2
    have head := (List.pairwise_cons.mp sorted).1
    simp only [bumpEntries]
    split
    · next before =>
      simp only [List.map_cons]
      refine List.pairwise_cons.mpr ⟨?_, sorted⟩
      intro other member
      rcases List.mem_cons.mp member with same | later
      · rw [same]; exact before
      · exact before.trans (head other later)
    · split
      · exact sorted
      · next notBefore notSame =>
        simp only [List.map_cons]
        refine List.pairwise_cons.mpr ⟨?_, inductionHypothesis tail⟩
        intro other member
        rcases mem_keys_bumpEntries member with same | later
        · rw [same]; exact lt_of_le_of_ne (not_lt.mp notBefore) (Ne.symm notSame)
        · exact head other later

theorem positive_bumpEntries (key : κ) {entries : List (κ × Nat)}
    (positive : ∀ entry ∈ entries, 0 < entry.2) :
    ∀ entry ∈ bumpEntries key entries, 0 < entry.2 := by
  induction entries with
  | nil => simp [bumpEntries]
  | cons entry entries inductionHypothesis =>
    have tail : ∀ other ∈ entries, 0 < other.2 := fun other member =>
      positive other (List.mem_cons_of_mem _ member)
    have head := positive entry (by simp)
    intro other member
    simp only [bumpEntries] at member
    split at member
    · rcases List.mem_cons.mp member with rfl | earlier
      · exact Nat.one_pos
      · exact positive other earlier
    · split at member
      · rcases List.mem_cons.mp member with rfl | earlier
        · exact Nat.succ_pos _
        · exact tail other earlier
      · rcases List.mem_cons.mp member with rfl | earlier
        · exact head
        · exact inductionHypothesis tail other earlier

/-- `++map[key]`. -/
def bump (tally : Tally κ) (key : κ) : Tally κ where
  entries := bumpEntries key tally.entries
  sorted := sorted_bumpEntries key tally.sorted
  positive := positive_bumpEntries key tally.positive

def ofList (keys : List κ) : Tally κ := keys.foldl bump empty

/-- `map.erase(key)`. -/
def erase (tally : Tally κ) (key : κ) : Tally κ where
  entries := tally.entries.filter fun entry => entry.1 ≠ key
  sorted := tally.sorted.sublist (List.filter_sublist.map Prod.fst)
  positive entry member := tally.positive entry (List.mem_of_mem_filter member)

/-! ## Counts -/

/-- The entries of a tally are its non-zero counts. -/
theorem mem_entries {tally : Tally κ} {key : κ} {number : Nat} :
    (key, number) ∈ tally.entries ↔ tally.count key = number ∧ 0 < number := by
  obtain ⟨entries, sorted, positive⟩ := tally
  simp only [count]
  constructor
  · intro member
    refine ⟨?_, positive _ member⟩
    induction entries with
    | nil => cases member
    | cons entry entries inductionHypothesis =>
      rcases List.mem_cons.mp member with rfl | later
      · simp
      · have before := (List.pairwise_cons.mp sorted).1 key (List.mem_map_of_mem later)
        rw [List.find?_cons_of_neg (by simpa using before.ne)]
        exact inductionHypothesis (List.pairwise_cons.mp sorted).2
          (fun other member => positive other (List.mem_cons_of_mem _ member)) later
  · rintro ⟨counted, nonzero⟩
    cases found : entries.find? fun entry => decide (entry.1 = key) with
    | none =>
      rw [found] at counted
      simp only [Option.map_none, Option.getD_none] at counted
      omega
    | some entry =>
      rw [found] at counted
      have same : entry.1 = key := by simpa using List.find?_some found
      have member := List.mem_of_find?_eq_some found
      rw [← same, ← show entry.2 = number from counted]
      exact member

theorem count_eq_zero {tally : Tally κ} {key : κ} : tally.count key = 0 ↔ key ∉ tally.keys := by
  constructor
  · intro zero member
    obtain ⟨entry, inEntries, rfl⟩ := List.mem_map.mp member
    have counted := mem_entries.mp inEntries
    omega
  · intro absent
    by_contra nonzero
    exact absent (List.mem_map_of_mem (mem_entries.mpr ⟨rfl, Nat.pos_of_ne_zero nonzero⟩))

theorem mem_keys {tally : Tally κ} {key : κ} : key ∈ tally.keys ↔ 0 < tally.count key := by
  rw [Nat.pos_iff_ne_zero, ne_eq, count_eq_zero, not_not]

theorem mem_values {tally : Tally κ} {number : Nat} :
    number ∈ tally.values ↔ 0 < number ∧ ∃ key, tally.count key = number := by
  constructor
  · intro member
    obtain ⟨entry, inEntries, rfl⟩ := List.mem_map.mp member
    have counted := mem_entries.mp inEntries
    exact ⟨counted.2, entry.1, counted.1⟩
  · rintro ⟨positive, key, counted⟩
    exact List.mem_map_of_mem (f := Prod.snd) (mem_entries.mpr ⟨counted, positive⟩)

theorem values_eq_map_count (tally : Tally κ) : tally.values = tally.keys.map tally.count := by
  rw [keys, List.map_map]
  exact List.map_congr_left fun entry member => (mem_entries.mp member).1.symm

theorem keys_nodup (tally : Tally κ) : tally.keys.Nodup :=
  tally.sorted.imp fun less => less.ne

@[simp] theorem length_keys (tally : Tally κ) : tally.keys.length = tally.size := by simp [keys, size]

@[simp] theorem length_values (tally : Tally κ) : tally.values.length = tally.size := by
  simp [values, size]

@[simp] theorem count_empty (key : κ) : (empty : Tally κ).count key = 0 := rfl

theorem count_bump (tally : Tally κ) (key other : κ) :
    (tally.bump key).count other = tally.count other + if key = other then 1 else 0 := by
  obtain ⟨entries, sorted, positive⟩ := tally
  simp only [bump, count]
  induction entries with
  | nil => by_cases same : key = other <;> simp [bumpEntries, same]
  | cons entry entries inductionHypothesis =>
    have tail := inductionHypothesis (List.pairwise_cons.mp sorted).2
      fun other member => positive other (List.mem_cons_of_mem _ member)
    simp only [bumpEntries]
    split
    · next before =>
      by_cases same : key = other
      · -- a key before the first entry is in no entry
        subst same
        have absent : ∀ later ∈ entry :: entries, ¬ decide (later.1 = key) = true := by
          intro later member
          have bound : key < later.1 := by
            rcases List.mem_cons.mp member with rfl | inTail
            · exact before
            · exact before.trans
                ((List.pairwise_cons.mp sorted).1 later.1 (List.mem_map_of_mem inTail))
          simpa using bound.ne'
        simp [List.find?_eq_none.mpr absent]
      · simp [same]
    · split
      · next same =>
        subst same
        by_cases here : entry.1 = other <;> simp [here]
      · next notBefore notSame =>
        by_cases here : entry.1 = other
        · subst here; simp [notSame]
        · simpa [List.find?_cons, here] using tail

theorem count_foldl_bump (keys : List κ) (tally : Tally κ) (key : κ) :
    (keys.foldl bump tally).count key = tally.count key + keys.count key := by
  induction keys generalizing tally with
  | nil => simp
  | cons head keys inductionHypothesis =>
    rw [List.foldl_cons, inductionHypothesis, count_bump, List.count_cons]
    simp only [beq_iff_eq]
    omega

theorem count_ofList (keys : List κ) (key : κ) : (ofList keys).count key = keys.count key := by
  simp [ofList, count_foldl_bump]

theorem count_erase (tally : Tally κ) (key other : κ) :
    (tally.erase key).count other = if other = key then 0 else tally.count other := by
  split
  · next same =>
    rw [count_eq_zero]
    intro member
    obtain ⟨entry, inEntries, rfl⟩ := List.mem_map.mp member
    simpa [same] using List.of_mem_filter inEntries
  · next differ =>
    rcases Nat.eq_zero_or_pos (tally.count other) with zero | positive
    · rw [zero, count_eq_zero]
      intro member
      obtain ⟨entry, inEntries, rfl⟩ := List.mem_map.mp member
      exact count_eq_zero.mp zero (List.mem_map_of_mem (List.mem_of_mem_filter inEntries))
    · have member := mem_entries.mpr ⟨rfl, positive⟩
      exact (mem_entries.mp (List.mem_filter.mpr ⟨member, by simpa using differ⟩)).1

theorem sum_values_bumpEntries (key : κ) (entries : List (κ × Nat)) :
    ((bumpEntries key entries).map Prod.snd).sum = (entries.map Prod.snd).sum + 1 := by
  induction entries with
  | nil => rfl
  | cons entry entries inductionHypothesis =>
    simp only [bumpEntries]
    split
    · simp; omega
    · split <;> simp [inductionHypothesis] <;> omega

/-- The counts of a filled tally add up to the number of keys counted. -/
theorem sum_values_ofList (keys : List κ) : (ofList keys).values.sum = keys.length := by
  suffices ∀ tally : Tally κ, (keys.foldl bump tally).values.sum = tally.values.sum + keys.length by
    simpa [ofList, values, empty] using this empty
  intro tally
  induction keys generalizing tally with
  | nil => simp
  | cons head keys inductionHypothesis =>
    rw [List.foldl_cons, inductionHypothesis]
    have bumped : (tally.bump head).values.sum = tally.values.sum + 1 :=
      sum_values_bumpEntries head tally.entries
    simp only [bumped, List.length_cons]
    omega

/-! ## Erasing -/

/-- Erasing a key takes its one count away. -/
theorem values_erase {tally : Tally κ} {key : κ} {number : Nat} (counted : tally.count key = number)
    (positive : 0 < number) : tally.values.Perm (number :: (tally.erase key).values) := by
  have member : (key, number) ∈ tally.entries := mem_entries.mpr ⟨counted, positive⟩
  have nodup : tally.entries.Nodup := List.Nodup.of_map Prod.fst tally.keys_nodup
  have rest : tally.entries.erase (key, number) = (tally.erase key).entries := by
    rw [nodup.erase_eq_filter]
    refine List.filter_congr fun entry inEntries => ?_
    have own := (mem_entries.mp inEntries).1
    by_cases same : entry.1 = key
    · have equal : entry = (key, number) := Prod.ext same (by rw [← own, same, counted])
      simp [equal]
    · have differ : entry ≠ (key, number) := fun equal => same (congrArg Prod.fst equal)
      simp [same, differ]
  have split := (List.perm_cons_erase member).map Prod.snd
  rw [rest] at split
  exact split

theorem count_eraseAll (keys : List κ) (tally : Tally κ) (key : κ) :
    (keys.foldl erase tally).count key = if key ∈ keys then 0 else tally.count key := by
  induction keys generalizing tally with
  | nil => simp
  | cons head keys inductionHypothesis =>
    rw [List.foldl_cons, inductionHypothesis, count_erase]
    by_cases same : key = head <;> simp [same]

/-- Erasing distinct keys that have the same count. -/
theorem values_eraseAll {keys : List κ} {tally : Tally κ} {number : Nat} (nodup : keys.Nodup)
    (counted : ∀ key ∈ keys, tally.count key = number) (positive : 0 < number) :
    tally.values.Perm (List.replicate keys.length number ++ (keys.foldl erase tally).values) := by
  induction keys generalizing tally with
  | nil => simp
  | cons key keys inductionHypothesis =>
    obtain ⟨absent, nodup⟩ := List.nodup_cons.mp nodup
    have later : ∀ other ∈ keys, (tally.erase key).count other = number := by
      intro other member
      have differ : other ≠ key := fun same => absent (same ▸ member)
      rw [count_erase, if_neg differ, counted other (List.mem_cons_of_mem _ member)]
    exact (values_erase (counted key (by simp)) positive).trans
      ((inductionHypothesis nodup later).cons number)

/-! ## Runs of keys -/

/-- A tally's keys are the run of `length` keys from `low` iff exactly these have a count. -/
theorem keys_eq_range {tally : Tally Nat} {low length : Nat} :
    tally.keys = List.range' low length ↔
      ∀ key, 0 < tally.count key ↔ low ≤ key ∧ key < low + length := by
  constructor
  · intro equal key
    rw [← mem_keys, equal, List.mem_range'_1]
  · intro counted
    refine List.Subset.antisymm_of_sortedLT ?_ ?_ (List.sortedLT_iff_pairwise.mpr tally.sorted)
      (List.sortedLT_range' low length (by decide))
    · intro key member
      exact List.mem_range'_1.mpr ((counted key).mp (mem_keys.mp member))
    · intro key member
      exact mem_keys.mpr ((counted key).mpr (List.mem_range'_1.mp member))

end Tally
