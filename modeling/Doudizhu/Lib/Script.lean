import Mathlib.Data.Finset.Card
import Mathlib.Logic.Relation

/-! # Scripts

A script returns a value, throws, or goes on: `unfinished` is what is known of a script that
has not ended in the turns that its loops were given.  `loop` is a `while` loop, turn by
turn.

The rules of the module:

* `loop_done`, `loop_again` — the first turn of a loop;
* `loop_endless` — a loop that can always take another turn never ends;
* `loop_ends` — a loop that is always at one of finitely many places, and at none of them
  twice, ends in one turn more than there are places;
* `loop_scan` — a loop that takes one item of a list each turn comes to `scan`, the same walk
  down the list, in one turn more than there are items.
-/

namespace Script

inductive Outcome (ε α : Type) where
  | returned (value : α)
  | thrown (error : ε)
  | unfinished
deriving DecidableEq

variable {ε α β σ : Type}

def Outcome.bind : Outcome ε α → (α → Outcome ε β) → Outcome ε β
  | .returned value, next => next value
  | .thrown error, _ => .thrown error
  | .unfinished, _ => .unfinished

instance : Monad (Outcome ε) where
  pure := .returned
  bind := Outcome.bind

@[simp] theorem returned_bind (value : α) (next : α → Outcome ε β) :
    (Outcome.returned value >>= next) = next value := rfl

@[simp] theorem thrown_bind (error : ε) (next : α → Outcome ε β) :
    (Outcome.thrown error >>= next) = .thrown error := rfl

/-- A script that returns does each of its steps. -/
theorem bind_returned {first : Outcome ε α} {next : α → Outcome ε β} {result : β} :
    (first >>= next) = .returned result ↔
      ∃ value, first = .returned value ∧ next value = .returned result := by
  cases first with
  | returned value => simp
  | thrown error => simp
  | unfinished =>
    constructor
    · intro same
      cases same
    · intro ⟨value, same, _⟩
      cases same

/-- The value that a script returns passes the test. -/
def Outcome.test (passes : α → Bool) : Outcome ε α → Bool
  | .returned value => passes value
  | .thrown _ | .unfinished => false

theorem returned_of_test {passes : α → Bool} {script : Outcome ε α} (tested : script.test passes = true) :
    ∃ value, script = .returned value ∧ passes value = true := by
  cases script with
  | returned value => exact ⟨value, rfl, tested⟩
  | thrown error => cases tested
  | unfinished => cases tested

/-! ## Loops -/

/-- What a turn comes to. -/
inductive Turn (σ α : Type) where
  | again (state : σ)
  | done (result : α)
deriving DecidableEq

/-- At most so many turns. -/
def loop (turn : σ → Outcome ε (Turn σ α)) : Nat → σ → Outcome ε α
  | 0, _ => .unfinished
  | fuel + 1, state => do
    match ← turn state with
    | .again next => loop turn fuel next
    | .done result => .returned result

variable {turn : σ → Outcome ε (Turn σ α)} {state next : σ} {result : α} {fuel : Nat}

theorem loop_done (last : turn state = .returned (.done result)) :
    loop turn (fuel + 1) state = .returned result := by
  rw [loop, last]
  rfl

theorem loop_again (more : turn state = .returned (.again next)) :
    loop turn (fuel + 1) state = loop turn fuel next := by
  rw [loop, more]
  rfl

/-! ## Ends -/

theorem loop_endless (Lasting : σ → Prop)
    (on : ∀ state, Lasting state →
      turn state = .unfinished ∨ ∃ next, turn state = .returned (.again next) ∧ Lasting next)
    (lasting : Lasting state) : loop turn fuel state = .unfinished := by
  induction fuel generalizing state with
  | zero => rfl
  | succ fuel inductionHypothesis =>
    obtain stuck | ⟨next, more, lasting⟩ := on state lasting
    · rw [loop, stuck]
      rfl
    · rw [loop_again more]
      exact inductionHypothesis lasting

section Places

variable {π : Type} [DecidableEq π] {place : σ → π}

/-- `visited` are the places that the loop has been at. -/
theorem loop_ends_from {places : Finset π} {Next : π → π → Prop} {Sound : σ → Prop}
    (turns : ∀ state, Sound state → turn state ≠ .unfinished ∧
      ∀ next, turn state = .returned (.again next) →
        place state ∈ places ∧ Next (place state) (place next) ∧ Sound next)
    (once : ∀ state, Sound state → ¬ Relation.TransGen Next (place state) (place state))
    {visited : Finset π} (inside : visited ⊆ places)
    (behind : ∀ earlier ∈ visited, Relation.TransGen Next earlier (place state))
    (sound : Sound state) (enough : places.card < fuel + visited.card) :
    loop turn fuel state ≠ .unfinished := by
  induction fuel generalizing state visited with
  | zero =>
    have few := Finset.card_le_card inside
    omega
  | succ fuel inductionHypothesis =>
    obtain ⟨finished, goesOn⟩ := turns state sound
    cases taken : turn state with
    | unfinished => exact absurd taken finished
    | thrown error =>
      rw [loop, taken]
      intro same
      cases same
    | returned last =>
      cases last with
      | done result =>
        rw [loop_done taken]
        intro same
        cases same
      | again next =>
        obtain ⟨here, step, soundNext⟩ := goesOn next taken
        have new : place state ∉ visited := fun member => once state sound (behind _ member)
        rw [loop_again taken]
        refine inductionHypothesis (Finset.insert_subset here inside) ?_ soundNext ?_
        · intro earlier member
          obtain rfl | member := Finset.mem_insert.mp member
          · exact .single step
          · exact (behind earlier member).tail step
        · rw [Finset.card_insert_of_notMem new]
          omega

theorem loop_ends {places : Finset π} {Next : π → π → Prop} {Sound : σ → Prop}
    (turns : ∀ state, Sound state → turn state ≠ .unfinished ∧
      ∀ next, turn state = .returned (.again next) →
        place state ∈ places ∧ Next (place state) (place next) ∧ Sound next)
    (once : ∀ state, Sound state → ¬ Relation.TransGen Next (place state) (place state))
    (sound : Sound state) (enough : places.card < fuel) : loop turn fuel state ≠ .unfinished := by
  refine loop_ends_from turns once (Finset.empty_subset places) ?_ sound ?_
  · intro earlier member
    exact absurd member (Finset.notMem_empty earlier)
  · rwa [Finset.card_empty, Nat.add_zero]

end Places

/-! ## Walks down a list -/

variable {ι κ : Type}

/-- What a loop that takes one item each turn comes to. -/
def scan (step : κ → ι → Turn κ α) (result : κ → α) : κ → List ι → α
  | kept, [] => result kept
  | kept, item :: items =>
    match step kept item with
    | .again kept => scan step result kept items
    | .done found => found

variable {step : κ → ι → Turn κ α} {one : κ → ι → κ}

/-- The items at which it does not stop are folded. -/
theorem scan_append {result : κ → α} {items : List ι}
    (on : ∀ kept, ∀ item ∈ items, step kept item = .again (one kept item)) (kept : κ) (others : List ι) :
    scan step result kept (items ++ others) = scan step result (items.foldl one kept) others := by
  induction items generalizing kept with
  | nil => rfl
  | cons item items inductionHypothesis =>
    rw [List.cons_append, scan, on kept item List.mem_cons_self, List.foldl_cons]
    exact inductionHypothesis (fun kept other member => on kept other (List.mem_cons_of_mem item member)) _

theorem scan_foldl {result : κ → α} {items : List ι}
    (on : ∀ kept, ∀ item ∈ items, step kept item = .again (one kept item)) (kept : κ) :
    scan step result kept items = result (items.foldl one kept) := by
  have walked := @scan_append _ _ _ step one result items on kept []
  rwa [List.append_nil] at walked

/-- `At` says which items are ahead of the loop in a state, and what it has kept of those
    behind it. -/
theorem loop_scan (At : σ → κ → List ι → Prop) (step : κ → ι → Turn κ α) (result : κ → α)
    (stop : ∀ state kept, At state kept [] → turn state = .returned (.done (result kept)))
    (one : ∀ state kept item items, At state kept (item :: items) →
      match step kept item with
      | .again kept => ∃ next, turn state = .returned (.again next) ∧ At next kept items
      | .done found => turn state = .returned (.done found))
    {kept : κ} {items : List ι} (ahead : At state kept items) (enough : items.length < fuel) :
    loop turn fuel state = .returned (scan step result kept items) := by
  induction items generalizing state kept fuel with
  | nil =>
    cases fuel with
    | zero => exact absurd enough (Nat.not_lt_zero _)
    | succ fuel =>
      rw [scan]
      exact loop_done (stop state kept ahead)
  | cons item items inductionHypothesis =>
    cases fuel with
    | zero => exact absurd enough (Nat.not_lt_zero _)
    | succ fuel =>
      have turns := one state kept item items ahead
      rw [scan]
      cases taken : step kept item with
      | again kept =>
        rw [taken] at turns
        obtain ⟨next, more, ahead⟩ := turns
        rw [loop_again more]
        exact inductionHypothesis ahead (Nat.lt_of_succ_lt_succ enough)
      | done found =>
        rw [taken] at turns
        exact loop_done turns

end Script
