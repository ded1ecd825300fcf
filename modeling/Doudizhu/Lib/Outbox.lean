import Mathlib.Data.List.Basic

/-! # Outboxes

An outbox hands its items to asynchronous transfers.  Its owner starts one for the front of
the queue when an item comes to an empty queue, and when a transfer has ended and others wait.
What is under way the owner does not keep: here it is kept beside the queue, for whatever
transfers the owner starts.

The rules of the module:

* `Outbox.Sound.turn` — whatever comes, at most one transfer is under way, and it is that of the
  front;
* `Outbox.Intact.turn` — until a transfer fails, one is under way exactly if the queue is not empty;
* `Outbox.Turn.fifo`, `Fifo.run_order` — an outbox does what a plain FIFO does, and that keeps the
  order of the items.
-/

namespace Transfer

variable {α : Type}

inductive Action (α : Type) where
  | push (item : α)
  /-- A transfer of the item is started. -/
  | start (item : α)
  | ended
  | failed
deriving DecidableEq

/-! ## The plain FIFO -/

structure Fifo (α : Type) where
  delivered : List α := []
  waiting : List α := []
deriving DecidableEq

/-- The items that are pushed. -/
def Action.pushed : Action α → List α
  | .push item => [item]
  | .start _ | .ended | .failed => []

namespace Fifo

/-- A transfer that fails delivers nothing. -/
def act (fifo : Fifo α) : Action α → Fifo α
  | .push item => { fifo with waiting := fifo.waiting ++ [item] }
  | .start _ => fifo
  | .ended => ⟨fifo.delivered ++ fifo.waiting.head?.toList, fifo.waiting.tail⟩
  | .failed => fifo

theorem act_order (fifo : Fifo α) (action : Action α) :
    (fifo.act action).delivered ++ (fifo.act action).waiting =
      fifo.delivered ++ fifo.waiting ++ action.pushed := by
  cases action with
  | push item => simp [act, Action.pushed]
  | ended =>
    obtain ⟨delivered, waiting⟩ := fifo
    cases waiting <;> simp [act, Action.pushed]
  | start | failed => simp [act, Action.pushed]

/-- What is delivered, and then what waits, is what was pushed. -/
theorem run_order (fifo : Fifo α) (actions : List (Action α)) :
    (actions.foldl act fifo).delivered ++ (actions.foldl act fifo).waiting =
      fifo.delivered ++ fifo.waiting ++ actions.flatMap Action.pushed := by
  induction actions generalizing fifo with
  | nil => simp
  | cons action actions inductionHypothesis =>
    rw [List.foldl_cons, inductionHypothesis, act_order, List.flatMap_cons, List.append_assoc]

end Fifo

/-! ## The outbox -/

structure Outbox (α : Type) where
  queue : List α := []
  /-- The items of the transfers that were started and have not ended, the oldest first. -/
  underway : List α := []
  delivered : List α := []
deriving DecidableEq

namespace Outbox

def act (box : Outbox α) : Action α → Outbox α
  | .push item => { box with queue := box.queue ++ [item] }
  | .start item => { box with underway := box.underway ++ [item] }
  | .ended =>
    { queue := box.queue.tail
      underway := box.underway.tail
      delivered := box.delivered ++ box.underway.head?.toList }
  | .failed => { box with underway := box.underway.tail }

/-- The front of the queue is under way. -/
def Intact (box : Outbox α) : Prop := box.underway = box.queue.head?.toList

/-- It is, or a transfer has failed, and none will be started again. -/
def Sound (box : Outbox α) : Prop := box.Intact ∨ (box.underway = [] ∧ box.queue ≠ [])

/-- The queue and what is delivered, as a FIFO. -/
def fifo (box : Outbox α) : Fifo α := ⟨box.delivered, box.queue⟩

/-! ## Turns of the owner -/

/-- An item comes: its transfer is started if it is the first of the queue. -/
def pushing (queue : List α) (item : α) : List (Action α) :=
  .push item :: if queue.isEmpty then [.start item] else []

/-- A transfer has ended: that of the next item is started. -/
def ending (queue : List α) : List (Action α) := .ended :: queue.tail.head?.toList.map .start

/-- What an owner does at once, if it starts the transfers as it should.  A transfer can end
    only if one is under way. -/
inductive Turn (box : Outbox α) : List (Action α) → Prop where
  | none : Turn box []
  | pushed (item : α) : Turn box (pushing box.queue item)
  | ended : box.underway ≠ [] → Turn box (ending box.queue)
  | failed : box.underway ≠ [] → Turn box [.failed]

variable {box : Outbox α} {actions : List (Action α)}

theorem sound_empty : Sound ({} : Outbox α) := .inl rfl

theorem pushing_acts (box : Outbox α) (item : α) : (pushing box.queue item).foldl act box =
    { box with
      queue := box.queue ++ [item]
      underway := box.underway ++ if box.queue.isEmpty then [item] else [] } := by
  rw [pushing]
  split <;> simp [act]

theorem ending_acts (box : Outbox α) : (ending box.queue).foldl act box =
    { queue := box.queue.tail
      underway := box.underway.tail ++ box.queue.tail.head?.toList
      delivered := box.delivered ++ box.underway.head?.toList } := by
  rw [ending]
  cases rest : box.queue.tail <;> simp [act, rest]

theorem Intact.pushing (intact : box.Intact) (item : α) :
    ((pushing box.queue item).foldl act box).Intact := by
  rw [pushing_acts, Intact, intact]
  cases box.queue <;> simp

theorem Intact.ending (intact : box.Intact) : ((ending box.queue).foldl act box).Intact := by
  rw [ending_acts, Intact, intact]
  cases box.queue <;> simp

theorem Intact.turn (intact : box.Intact) (turn : Turn box actions) :
    (actions.foldl act box).Intact ∨ actions = [.failed] := by
  cases turn with
  | none => exact .inl intact
  | pushed item => exact .inl (intact.pushing item)
  | ended => exact .inl intact.ending
  | failed => exact .inr rfl

theorem Sound.turn (sound : box.Sound) (turn : Turn box actions) : (actions.foldl act box).Sound := by
  cases turn with
  | none => exact sound
  | pushed item =>
    obtain intact | ⟨idle, waiting⟩ := sound
    · exact .inl (intact.pushing item)
    · right
      rw [pushing_acts]
      simp [idle, waiting]
  | ended busy =>
    obtain intact | ⟨idle, _⟩ := sound
    · exact .inl intact.ending
    · exact absurd idle busy
  | failed busy =>
    obtain intact | ⟨idle, _⟩ := sound
    · -- what fails is the front of the queue, which stays
      right
      obtain ⟨queue, underway, delivered⟩ := box
      obtain rfl : underway = queue.head?.toList := intact
      cases queue with
      | nil => exact absurd rfl busy
      | cons item rest => exact ⟨rfl, List.cons_ne_nil item rest⟩
    · exact absurd idle busy

/-- At most one transfer is under way. -/
theorem Sound.single (sound : box.Sound) : box.underway.length ≤ 1 := by
  obtain intact | ⟨none, _⟩ := sound
  · rw [intact]
    cases box.queue <;> simp
  · simp [none]

/-- It is that of the front. -/
theorem Sound.front (sound : box.Sound) {item : α} (member : item ∈ box.underway) :
    box.queue.head? = some item := by
  obtain intact | ⟨none, _⟩ := sound
  · rw [intact] at member
    simpa using member
  · rw [none] at member
    cases member

theorem Intact.underway_iff (intact : box.Intact) : box.underway ≠ [] ↔ box.queue ≠ [] := by
  rw [intact]
  cases box.queue <;> simp

/-! ## What each turn does -/

theorem pushing_underway (item : α) :
    ((pushing box.queue item).foldl act box).underway ≠ [] ↔ box.underway ≠ [] ∨ box.queue = [] := by
  rw [pushing_acts]
  cases box.queue <;> simp

/-- The only transfer has ended. -/
theorem Sound.ended (sound : box.Sound) : box.underway.tail = [] := by
  have single := sound.single
  rw [← List.length_eq_zero_iff, List.length_tail]
  omega

theorem ending_underway (sound : box.Sound) :
    ((ending box.queue).foldl act box).underway ≠ [] ↔ box.queue.tail ≠ [] := by
  rw [ending_acts, sound.ended]
  cases box.queue.tail <;> simp

/-- Each turn is one of the FIFO. -/
theorem Turn.fifo (turn : Turn box actions) (sound : box.Sound) :
    (actions.foldl act box).fifo = actions.foldl Fifo.act box.fifo := by
  cases turn with
  | none | failed => rfl
  | pushed item =>
    rw [Outbox.pushing]
    split <;> rfl
  | ended busy =>
    -- what has ended is the transfer of the front
    have front : box.underway.head?.toList = box.queue.head?.toList := by
      obtain intact | ⟨idle, _⟩ := sound
      · rw [intact]
        cases box.queue <;> rfl
      · exact absurd idle busy
    rw [ending_acts, Outbox.ending]
    cases rest : box.queue.tail <;> simp [Outbox.fifo, Fifo.act, front, rest]

end Outbox

end Transfer
