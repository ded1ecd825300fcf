import Mathlib.Data.List.Basic
import Mathlib.Data.List.Nodup

/-! # Loops that may fail

`for x in xs { state = body(state, x) }` with a body that may throw is
`xs.foldlM body state` in `Except`.  `foldlM_spec` is the loop rule: `Holds` speaks
of the elements already visited and of the state.  `foldl_spec` is the rule for bodies
that cannot throw, and `foldlM_kept` the one for loops that are known to have succeeded.
`foldl_reorder` is the rule for loops whose order does not matter.
-/

namespace ExceptLoop

variable {α σ φ : Type}

/-- A computation of two parts succeeds when both do. -/
theorem bind_ok {first : Except φ α} {second : α → Except φ σ} {result : σ} :
    (first >>= second) = .ok result ↔ ∃ value, first = .ok value ∧ second value = .ok result := by
  cases first with
  | error fault => simp [bind, Except.bind]
  | ok value => simp [bind, Except.bind]

/-- The value of a computation passes the test. -/
def test (passes : α → Bool) : Except φ α → Bool
  | .ok value => passes value
  | .error _ => false

/-- What evaluating a computation shows of its value. -/
theorem exists_of_test {passes : α → Bool} {computation : Except φ α}
    (tested : test passes computation = true) :
    ∃ value, computation = .ok value ∧ passes value = true := by
  cases computation with
  | error fault => cases tested
  | ok value => exact ⟨value, rfl, tested⟩

theorem foldlM_spec {body : σ → α → Except φ σ} (Holds : List α → σ → Prop)
    (elements : List α) (start : σ) (initial : Holds [] start)
    (kept : ∀ visited element rest state, elements = visited ++ element :: rest →
      Holds visited state →
      ∃ next, body state element = .ok next ∧ Holds (visited ++ [element]) next) :
    ∃ finish, elements.foldlM body start = .ok finish ∧ Holds elements finish := by
  suffices ∀ visited rest state, elements = visited ++ rest → Holds visited state →
      ∃ finish, rest.foldlM body state = .ok finish ∧ Holds elements finish from
    this [] elements start rfl initial
  intro visited rest
  induction rest generalizing visited with
  | nil =>
    intro state split holds
    rw [List.append_nil] at split
    exact ⟨state, rfl, split ▸ holds⟩
  | cons element rest inductionHypothesis =>
    intro state split holds
    obtain ⟨next, moved, holds⟩ := kept visited element rest state split holds
    rw [List.foldlM_cons, moved]
    exact inductionHypothesis (visited ++ [element]) next (by simp [split]) holds

/-- What every round of a loop keeps, a loop that succeeds keeps. -/
theorem foldlM_kept {body : σ → α → Except φ σ} (Holds : σ → Prop) {elements : List α}
    {start finish : σ} (ran : elements.foldlM body start = .ok finish) (initial : Holds start)
    (kept : ∀ state element next, body state element = .ok next → Holds state → Holds next) :
    Holds finish := by
  induction elements generalizing start with
  | nil =>
    cases ran
    exact initial
  | cons element elements inductionHypothesis =>
    rw [List.foldlM_cons] at ran
    obtain ⟨next, moved, ran⟩ := bind_ok.mp ran
    exact inductionHypothesis ran (kept _ _ _ moved initial)

/-- A loop whose every answer is known collects the answers. -/
theorem mapM_eq {read : α → Except φ σ} {value : α → σ}
    (spec : ∀ item answer, read item = .ok answer → answer = value item) {items : List α}
    {answers : List σ} (ran : items.mapM read = .ok answers) : answers = items.map value := by
  induction items generalizing answers with
  | nil =>
    cases ran
    rfl
  | cons item items inductionHypothesis =>
    rw [List.mapM_cons] at ran
    obtain ⟨answer, done, ran⟩ := bind_ok.mp ran
    obtain ⟨later, rest, same⟩ := bind_ok.mp ran
    cases same
    rw [spec item answer done, inductionHypothesis rest]
    rfl

theorem foldl_spec {body : σ → α → σ} (Holds : List α → σ → Prop) (elements : List α) (start : σ)
    (initial : Holds [] start)
    (kept : ∀ visited element rest state, elements = visited ++ element :: rest →
      Holds visited state → Holds (visited ++ [element]) (body state element)) :
    Holds elements (elements.foldl body start) := by
  have total : ∀ visited element rest state, elements = visited ++ element :: rest →
      Holds visited state → ∃ next,
        (.ok (body state element) : Except Empty σ) = .ok next ∧ Holds (visited ++ [element]) next :=
    fun visited element rest state split holds => ⟨_, rfl, kept visited element rest state split holds⟩
  obtain ⟨finish, ran, holds⟩ := foldlM_spec Holds elements start initial total
  have pure : elements.foldlM (fun state element => (.ok (body state element) : Except Empty σ)) start =
      .ok (elements.foldl body start) := List.foldlM_pure
  rw [pure] at ran
  exact Except.ok.inj ran ▸ holds

/-- In a list without repetitions the element being visited is new. -/
theorem notMem_visited {elements visited rest : List α} {element : α} (nodup : elements.Nodup)
    (split : elements = visited ++ element :: rest) : element ∉ visited := by
  intro member
  subst split
  exact (List.nodup_append.mp nodup).2.2 element member element (by simp) rfl

theorem foldl_congr {body : σ → α → σ} {Same : σ → σ → Prop}
    (congr : ∀ left right element, Same left right → Same (body left element) (body right element))
    (elements : List α) {left right : σ} (same : Same left right) :
    Same (elements.foldl body left) (elements.foldl body right) := by
  induction elements generalizing left right with
  | nil => exact same
  | cons element elements inductionHypothesis => exact inductionHypothesis (congr _ _ _ same)

/-- A loop comes to the same in any order of its elements, if any two of them may be
    exchanged in every state that the loop can be in. -/
theorem foldl_reorder {body : σ → α → σ} (Holds : σ → Prop) (Same : σ → σ → Prop)
    (equivalence : Equivalence Same)
    (congr : ∀ left right element, Same left right → Same (body left element) (body right element))
    {first second : List α} (perm : first.Perm second)
    (kept : ∀ state, ∀ element ∈ first, Holds state → Holds (body state element))
    (exchange : ∀ state, ∀ one ∈ first, ∀ other ∈ first, Holds state →
      Same (body (body state one) other) (body (body state other) one))
    {start : σ} (initial : Holds start) : Same (first.foldl body start) (second.foldl body start) := by
  induction perm generalizing start with
  | nil => exact equivalence.refl start
  | cons element perm inductionHypothesis =>
    apply inductionHypothesis
    · exact fun state other member => kept state other (List.mem_cons_of_mem _ member)
    · exact fun state one member other inside =>
        exchange state one (List.mem_cons_of_mem _ member) other (List.mem_cons_of_mem _ inside)
    · exact kept start element List.mem_cons_self initial
  | swap one other rest =>
    have exchanged := exchange start other (by simp) one (by simp) initial
    exact foldl_congr congr rest exchanged
  | trans firstPerm _ firstHypothesis secondHypothesis =>
    apply equivalence.trans (firstHypothesis kept exchange initial)
    apply secondHypothesis _ _ initial
    · exact fun state element member => kept state element (firstPerm.mem_iff.mpr member)
    · exact fun state one member other inside =>
        exchange state one (firstPerm.mem_iff.mpr member) other (firstPerm.mem_iff.mpr inside)

end ExceptLoop
