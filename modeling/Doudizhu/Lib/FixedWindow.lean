import Mathlib.Algebra.Order.Group.Defs
import Mathlib.Algebra.Order.Group.Int
import Mathlib.Data.List.Count

/-! # Counting in windows

A rate limit that counts arrivals: the first arrival `width` or more after the start of the
window starts another one, and an arrival is let in if the window has counted at most `limit`.

The rules of the module, for arrivals that come in the order of their times:

* `Limited.start` and `Limited.arrive` — what holds of the arrivals so far;
* `Limited.lets_in` — arrivals of which no span of `width` sees more than `limit` are all let in;
* `Limited.admits` — of the arrivals that are let in, no span sees more than twice the `limit`.
-/

namespace FixedWindow

variable {τ : Type}

structure Window (τ : Type) where
  start : τ
  count : Nat

/-- The arrivals that are let in, after one more. -/
def letIn (limit : Nat) (admitted : List τ) (window : Window τ) (now : τ) : List τ :=
  if window.count ≤ limit then admitted ++ [now] else admitted

section LetIn

variable {limit : Nat} {admitted : List τ} {window : Window τ} {now : τ}

theorem mem_letIn {time : τ} (member : time ∈ letIn limit admitted window now) :
    time ∈ admitted ∨ time = now := by
  unfold letIn at member
  split at member
  · simpa using member
  · exact .inl member

/-- One more counts, if it is let in. -/
theorem countP_letIn (sees : τ → Bool) :
    (letIn limit admitted window now).countP sees ≤ admitted.countP sees + (if sees now then 1 else 0) := by
  unfold letIn
  split
  · rw [List.countP_append, List.countP_singleton]
  · exact Nat.le_add_right _ _

theorem countP_letIn_blind {sees : τ → Bool} (blind : sees now = false) :
    (letIn limit admitted window now).countP sees ≤ admitted.countP sees := by
  have more := @countP_letIn τ limit admitted window now sees
  rwa [blind, if_neg (by simp), Nat.add_zero] at more

end LetIn

variable [AddCommGroup τ] [LinearOrder τ]

def Window.arrive (width : τ) (window : Window τ) (now : τ) : Window τ :=
  if width ≤ now - window.start then ⟨now, 1⟩ else ⟨window.start, window.count + 1⟩

/-- The time is in the span of the width. -/
def inSpan (width since time : τ) : Bool := since ≤ time ∧ time < since + width

/-- What the window knows of the arrivals, and of those that were let in. -/
structure Counted (width : τ) (limit : Nat) (arrivals admitted : List τ) (window : Window τ) : Prop where
  recent : ∀ time ∈ arrivals, time < window.start + width
  among : ∀ time ∈ admitted, time ∈ arrivals
  counted : window.count ≤ arrivals.countP (inSpan width window.start)
  room : admitted.countP (window.start ≤ ·) ≤ window.count
  within : admitted.countP (window.start ≤ ·) ≤ limit
  /-- A span that reaches into the window has seen no more than the limit before. -/
  before : ∀ since, window.start < since + width →
    admitted.countP (fun time => since ≤ time ∧ time < window.start) ≤ limit

structure Limited (width : τ) (limit : Nat) (arrivals admitted : List τ) (window : Window τ) : Prop extends
    Counted width limit arrivals admitted window where
  admits : ∀ since, admitted.countP (inSpan width since) ≤ 2 * limit
  lets_in : (∀ since, arrivals.countP (inSpan width since) ≤ limit) → admitted = arrivals

section Rules

variable {width : τ} {limit : Nat} {arrivals admitted : List τ} {window : Window τ} {now : τ}

theorem Limited.start (width : τ) (limit : Nat) (time : τ) : Limited width limit [] [] ⟨time, 0⟩ where
  recent := by simp
  among := by simp
  counted := le_rfl
  room := le_rfl
  within := Nat.zero_le _
  before := by simp
  admits := by simp
  lets_in _ := rfl

/-- A span sees what comes before a time, and what comes after it. -/
theorem countP_span (times : List τ) (since start : τ) :
    times.countP (inSpan width since) ≤
      times.countP (fun time => since ≤ time ∧ time < start) + times.countP (start ≤ ·) := by
  induction times with
  | nil => simp
  | cons time times inductionHypothesis =>
    simp only [List.countP_cons, inSpan, decide_eq_true_eq]
    by_cases early : time < start
    · by_cases later : since ≤ time
      · simp only [later, early, and_self, if_true]
        split <;> omega
      · simp only [later, false_and, if_false]
        omega
    · have late : start ≤ time := not_lt.mp early
      simp only [late, if_true]
      split <;> omega

/-- An arrival in the window. -/
theorem Counted.same (counted : Counted width limit arrivals admitted window) (started : window.start ≤ now)
    (recent : now < window.start + width) :
    Counted width limit (arrivals ++ [now]) (letIn limit admitted ⟨window.start, window.count + 1⟩ now)
      ⟨window.start, window.count + 1⟩ where
  recent := by
    rw [List.forall_mem_append, List.forall_mem_singleton]
    exact ⟨counted.recent, recent⟩
  among time member := by
    obtain old | rfl := mem_letIn member
    · exact List.mem_append_left _ (counted.among time old)
    · exact List.mem_append_right _ (List.mem_singleton_self time)
  counted := by
    have seen : inSpan width window.start now = true := by simp [inSpan, started, recent]
    rw [List.countP_append, List.countP_singleton, seen, if_pos rfl]
    exact Nat.add_le_add_right counted.counted 1
  room := by
    refine (countP_letIn _).trans (Nat.add_le_add counted.room ?_)
    split <;> simp
  within := by
    unfold letIn
    split
    · next fits =>
      have room := counted.room
      rw [List.countP_append, List.countP_singleton]
      simp only at fits ⊢
      split <;> omega
    · exact counted.within
  before since reaches := by
    refine (countP_letIn_blind ?_).trans (counted.before since reaches)
    simp [started]

variable [IsOrderedAddMonoid τ]

theorem Window.arrive_new (past : window.start + width ≤ now) : window.arrive width now = ⟨now, 1⟩ := by
  rw [Window.arrive, if_pos (le_sub_iff_add_le'.mpr past)]

theorem Window.arrive_same (recent : now < window.start + width) :
    window.arrive width now = ⟨window.start, window.count + 1⟩ := by
  rw [Window.arrive, if_neg (not_le.mpr (sub_lt_iff_lt_add'.mpr recent))]

/-- An arrival that starts a window. -/
theorem Counted.new (counted : Counted width limit arrivals admitted window) (positive : 0 < width)
    (order : ∀ time ∈ arrivals, time ≤ now) (past : window.start + width ≤ now) :
    Counted width limit (arrivals ++ [now]) (letIn limit admitted ⟨now, 1⟩ now) ⟨now, 1⟩ := by
  have none : admitted.countP (now ≤ ·) = 0 := by
    rw [List.countP_eq_zero]
    intro time member
    have early := (counted.recent time (counted.among time member)).trans_le past
    simp [early]
  constructor
  · intro time member
    obtain old | new := List.mem_append.mp member
    · exact (order time old).trans_lt (lt_add_of_pos_right now positive)
    · exact List.mem_singleton.mp new ▸ lt_add_of_pos_right now positive
  · intro time member
    obtain old | rfl := mem_letIn member
    · exact List.mem_append_left _ (counted.among time old)
    · exact List.mem_append_right _ (List.mem_singleton_self time)
  · have seen : inSpan width now now = true := by simp [inSpan, positive]
    rw [List.countP_append, List.countP_singleton, seen, if_pos rfl]
    exact Nat.le_add_left 1 _
  · refine (countP_letIn _).trans ?_
    rw [none]
    split <;> simp
  · unfold letIn
    split
    · next fits =>
      rw [List.countP_append, none, List.countP_singleton]
      simpa using fits
    · rw [none]
      exact Nat.zero_le _
  · intro since reaches
    refine (countP_letIn_blind (by simp)).trans (le_trans ?_ counted.within)
    -- the span starts after the window that has ended
    have later : window.start < since := lt_of_add_lt_add_right (past.trans_lt reaches)
    refine List.countP_mono_left fun time _ sees => ?_
    simp only [decide_eq_true_eq] at sees ⊢
    exact later.le.trans sees.1

theorem Counted.arrive (counted : Counted width limit arrivals admitted window) (positive : 0 < width)
    (order : ∀ time ∈ arrivals, time ≤ now) (started : window.start ≤ now) :
    Counted width limit (arrivals ++ [now]) (letIn limit admitted (window.arrive width now) now)
      (window.arrive width now) := by
  obtain recent | past := lt_or_ge now (window.start + width)
  · rw [Window.arrive_same recent]
    exact counted.same started recent
  · rw [Window.arrive_new past]
    exact counted.new positive order past

/-- Arrivals come in the order of their times. -/
theorem Limited.arrive (limited : Limited width limit arrivals admitted window) (positive : 0 < width)
    (order : ∀ time ∈ arrivals, time ≤ now) (started : window.start ≤ now) :
    Limited width limit (arrivals ++ [now]) (letIn limit admitted (window.arrive width now) now)
      (window.arrive width now) where
  toCounted := limited.toCounted.arrive positive order started
  admits since := by
    have counted := limited.toCounted.arrive positive order started
    by_cases reaches : (window.arrive width now).start < since + width
    · have split := @countP_span τ _ _ width (letIn limit admitted (window.arrive width now) now) since
        (window.arrive width now).start
      have before := counted.before since reaches
      have within := counted.within
      omega
    -- the span has ended before the arrival
    · refine (countP_letIn_blind ?_).trans (limited.admits since)
      have ended : since + width ≤ now := by
        refine (not_lt.mp reaches).trans ?_
        unfold Window.arrive
        split
        · exact le_rfl
        · exact started
      simp [inSpan, ended]
  lets_in few := by
    have counted := (limited.toCounted.arrive positive order started).counted
    have earlier : admitted = arrivals := by
      refine limited.lets_in fun since => le_trans ?_ (few since)
      rw [List.countP_append]
      exact Nat.le_add_right _ _
    rw [letIn, if_pos (counted.trans (few _)), earlier]

/-- Twice the limit, in the last of one window and the first of the next. -/
example :
    let first : Window Int := Window.arrive 10 ⟨0, 0⟩ 9
    let second := first.arrive 10 10
    (letIn 1 (letIn 1 [] first 9) second 10).countP (inSpan 10 9) = 2 := by decide

end Rules

end FixedWindow
