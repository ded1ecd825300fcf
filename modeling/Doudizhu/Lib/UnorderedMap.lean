import Mathlib.Data.Finmap
import Mathlib.Data.Finset.Sort

/-! # Hash maps

A hash map is a finite map, Mathlib's `Finmap`: two maps with the same entries are
equal, whatever the order their buckets are visited in.  A loop over a hash map takes
that order as an argument, a `VisitOrder`, so that what is proved holds for every order.
-/

/-- An order to visit sets of keys in: each key once. -/
structure VisitOrder (κ : Type) where
  visit : Finset κ → List κ
  nodup : ∀ keys, (visit keys).Nodup
  mem_visit : ∀ keys key, key ∈ visit keys ↔ key ∈ keys

abbrev UnorderedMap (κ α : Type) : Type := Finmap fun _ : κ => α

namespace UnorderedMap

variable {κ α : Type} [DecidableEq κ]

theorem find_insert (map : UnorderedMap κ α) (key other : κ) (value : α) :
    (map.insert key value).lookup other = if other = key then some value else map.lookup other := by
  by_cases same : other = key
  · subst same; simp
  · simp [same, Finmap.lookup_insert_of_ne]

theorem find_erase (map : UnorderedMap κ α) (key other : κ) :
    (map.erase key).lookup other = if other = key then none else map.lookup other := by
  by_cases same : other = key
  · subst same; simp
  · simp [same, Finmap.lookup_erase_ne]

/-- Writing back what is there changes nothing. -/
theorem insert_self {map : UnorderedMap κ α} {key : κ} {value : α}
    (found : map.lookup key = some value) : map.insert key value = map := by
  apply Finmap.ext_lookup
  intro other
  rw [find_insert]
  split
  · next same => rw [same, found]
  · rfl

/-- Erasing what is not there changes nothing. -/
theorem erase_absent {map : UnorderedMap κ α} {key : κ} (absent : map.lookup key = none) :
    map.erase key = map := by
  apply Finmap.ext_lookup
  intro other
  rw [find_erase]
  split
  · next same => rw [same, absent]
  · rfl

/-- Erasing one key and writing another may be exchanged. -/
theorem erase_insert_ne (map : UnorderedMap κ α) {erased key : κ} (value : α) (differ : erased ≠ key) :
    (map.insert key value).erase erased = (map.erase erased).insert key value := by
  apply Finmap.ext_lookup
  intro other
  rw [find_erase, find_insert, find_insert, find_erase]
  split
  · next same => rw [if_neg (same ▸ differ)]
  · rfl

/-- `emplace` inserts only where the key is new. -/
def emplace (map : UnorderedMap κ α) (key : κ) (value : α) : UnorderedMap κ α :=
  if key ∈ map then map else map.insert key value

theorem emplace_new {map : UnorderedMap κ α} {key : κ} (value : α) (fresh : map.lookup key = none) :
    map.emplace key value = map.insert key value := by
  rw [Finmap.lookup_eq_none] at fresh
  simp [emplace, fresh]

theorem find_emplace (map : UnorderedMap κ α) (key other : κ) (value : α) :
    (map.emplace key value).lookup other =
      if other = key then some ((map.lookup key).getD value) else map.lookup other := by
  unfold emplace
  split
  · next present =>
    obtain ⟨old, found⟩ := Finmap.mem_iff.mp present
    split
    · next same => rw [same, found]; rfl
    · rfl
  · next absent =>
    rw [find_insert, Finmap.lookup_eq_none.mpr absent]
    rfl

/-- Erase every key of a list. -/
def eraseAll (map : UnorderedMap κ α) (keys : List κ) : UnorderedMap κ α :=
  keys.foldl (fun map key => map.erase key) map

theorem find_eraseAll (map : UnorderedMap κ α) (keys : List κ) (other : κ) :
    (map.eraseAll keys).lookup other = if other ∈ keys then none else map.lookup other := by
  induction keys generalizing map with
  | nil => simp [eraseAll]
  | cons key keys inductionHypothesis =>
    change (eraseAll (map.erase key) keys).lookup other = _
    rw [inductionHypothesis, find_erase]
    by_cases same : other = key <;> simp [same]

theorem eraseAll_comm (map : UnorderedMap κ α) (first second : List κ) :
    (map.eraseAll first).eraseAll second = (map.eraseAll second).eraseAll first := by
  apply Finmap.ext_lookup
  intro other
  simp only [find_eraseAll]
  split <;> split <;> rfl

theorem mem_keys_of_find {map : UnorderedMap κ α} {key : κ} {value : α}
    (found : map.lookup key = some value) : key ∈ map.keys :=
  Finmap.mem_keys.mpr (Finmap.mem_of_lookup_eq_some found)

end UnorderedMap

/-! ## Visiting in key order -/

/-- The smallest key first. -/
def VisitOrder.ascending {κ : Type} [LinearOrder κ] : VisitOrder κ where
  visit keys := Quot.liftOn keys.val (fun list => list.insertionSort (· ≤ ·))
    fun left right same => List.Perm.eq_of_pairwise' (List.pairwise_insertionSort (· ≤ ·) left)
      (List.pairwise_insertionSort (· ≤ ·) right)
      ((List.perm_insertionSort _ left).trans
        (List.Perm.trans same (List.perm_insertionSort _ right).symm))
  nodup := by
    rintro ⟨⟨list⟩, nodup⟩
    exact (List.perm_insertionSort _ list).nodup_iff.mpr nodup
  mem_visit := by
    rintro ⟨⟨list⟩, nodup⟩ key
    exact (List.perm_insertionSort _ list).mem_iff
