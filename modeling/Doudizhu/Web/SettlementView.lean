import Doudizhu.Web.HandView

/-! # The settlement on the page

The page takes a field that is not there for `null`, which is not 0, and reads only three
bits of a negative number.  So every game that was lost is shown as won, and a loss of more
than eight coins as a smaller one.
-/

namespace Doudizhu.Web

open Gateway Script Proto3

/-- The fields of a settlement. -/
def settleFields (win : Bool) (change : Int) : List (Nat × Content Bytes) :=
  uintFields 1 win.toNat ++ (uintFields 2 (change % 2 ^ 64).toNat ++ [])

theorem writeFields_settle (win : Bool) (change : Int) :
    writeFields id (settleFields win change) = WireFormat.serialize (.settleResult win change) := by
  simp [settleFields, WireFormat.serialize, boolField, intField]

theorem settle_upcoming (win : Bool) (change : Int) :
    Upcoming id (frame (.settleResult win change)) (frame (.settleResult win change)).length 6 []
      (settleFields win change) := by
  apply upcoming_frame (writeFields_settle win change)
  intro field member
  simp only [settleFields, List.mem_append, mem_uintFields, List.not_mem_nil, or_false] at member
  obtain ⟨_, rfl⟩ | ⟨_, rfl⟩ := member <;> simp

/-- What is read of a change of coins, an `int32`. -/
def shownChange (change : Int) : Int := if 0 ≤ change then change else change % 8 - 8

theorem wireNumber_int32 {change : Int} (low : -2 ^ 31 ≤ change) (high : change < 2 ^ 31) :
    wireNumber (change % 2 ^ 64).toNat = shownChange change := by
  unfold shownChange
  split
  next nonneg =>
    rw [wireNumber_small (by omega)]
    omega
  next negative =>
    rw [wireNumber_negative (by omega) (by omega)]
    omega

/-- Exactly the numbers from -8 on are shown as they are. -/
theorem shownChange_eq {change : Int} : shownChange change = change ↔ -8 ≤ change := by
  unfold shownChange
  split <;> omega

variable {browser : Browser} {fuel : Nat}

/-- The flag of a game that was lost is not written: what is read is not 0. -/
theorem readField_win {win : Bool} {change : Int}
    (enough : (frame (.settleResult win change)).length < fuel) :
    ∃ read, readField fuel (frame (.settleResult win change)) 1 = .returned read ∧ read ≠ some 0 := by
  refine ⟨_, readField_fields (settle_upcoming win change) enough, ?_⟩
  have one : wireNumber 1 = 1 := wireNumber_small (by decide)
  rw [settleFields, scan_number, scan_number, scan_nothing]
  cases win <;> simp [one]

theorem readField_change {win : Bool} {change : Int} (low : -2 ^ 31 ≤ change) (high : change < 2 ^ 31)
    (enough : (frame (.settleResult win change)).length < fuel) :
    ∃ read, readField fuel (frame (.settleResult win change)) 2 = .returned read ∧
      orElse read 0 = shownChange change := by
  refine ⟨_, readField_fields (settle_upcoming win change) enough, ?_⟩
  rw [settleFields, scan_number, scan_number, scan_nothing, wireNumber_int32 low high]
  by_cases none : (change % 2 ^ 64).toNat = 0
  · have zero : change = 0 := by omega
    simp [zero, orElse, shownChange]
  · have nonzero : shownChange change ≠ 0 := by
      unfold shownChange
      split <;> omega
    rw [if_neg (by simp), if_pos ⟨rfl, none⟩, orElse, if_neg nonzero]

/-- What the dialog says does not depend on who won. -/
theorem applySettlement_settles (win : Bool) (change : Int32)
    (enough : (frame (.settleResult win change.toInt)).length < fuel) :
    ∃ after, browser.applySettlement fuel (frame (.settleResult win change.toInt)) = .returned after ∧
      after.settlement = some (true, shownChange change.toInt) := by
  obtain ⟨readWin, isWin, notZero⟩ := readField_win enough
  obtain ⟨readChange, isChange, shown⟩ := readField_change change.le_toInt change.toInt_lt enough
  unfold Browser.applySettlement
  rw [isWin, returned_bind, isChange, returned_bind]
  refine ⟨_, rfl, ?_⟩
  rw [shown, decide_eq_true notZero]

/-- Exactly the games that were won, with a change of -8 coins at least, are shown as they
    are. -/
theorem settlement_read (win : Bool) (change : Int32)
    (enough : (frame (.settleResult win change.toInt)).length < fuel) :
    ∃ after, browser.applySettlement fuel (frame (.settleResult win change.toInt)) = .returned after ∧
      (after.settlement = some (win, change.toInt) ↔ win = true ∧ -8 ≤ change.toInt) := by
  obtain ⟨after, returned, shown⟩ := @applySettlement_settles browser _ win change enough
  refine ⟨after, returned, ?_⟩
  rw [shown, Option.some_inj, Prod.mk.injEq, shownChange_eq, eq_comm]

/-- A small loss is shown as it is to a player that is told to have won. -/
theorem settlement_read_small : ∃ after,
    Browser.applySettlement {} 32 (frame (.settleResult true (-8))) = .returned after ∧
      after.settlement = some (true, -8) := by
  obtain ⟨after, returned, shown⟩ := @settlement_read {} 32 true (-8) (by decide +kernel)
  exact ⟨after, returned, shown.mpr ⟨rfl, by decide⟩⟩

/-- What a farmer is sent who lost a game that nobody doubled: the page tells of a win. -/
theorem loss_shown_won : ∃ after,
    Browser.applySettlement {} 32 (frame (.settleResult false (-100))) = .returned after ∧
      after.settlement = some (true, -4) ∧ after.settlement ≠ some (false, -100) := by
  obtain ⟨after, returned, passes⟩ := returned_of_test
    (show (Browser.applySettlement {} 32 (frame (.settleResult false (-100)))).test (fun after =>
      decide (after.settlement = some (true, -4))) = true by decide +kernel)
  have shown := of_decide_eq_true passes
  refine ⟨after, returned, shown, ?_⟩
  rw [shown]
  decide

end Doudizhu.Web
