import ScriptFront.Cursor.Basic

/-!
# Runs of characters

The longest run of characters of one class from the current one on can be passed over
(`Cursor.skipWhile`) or read as a text (`Cursor.takeWhile`). A run ends at the end of the text at
the latest.
-/

namespace ScriptFront.Cursor

/-- Moves to the first character that is not in the class `p`. -/
def skipWhile (p : Char → Bool) (cur : Cursor) : Cursor :=
  match _h : cur.current with
  | some c => if p c then skipWhile p cur.advance else cur
  | none => cur
termination_by cur.remaining
decreasing_by exact remaining_advance_lt _h

/-- The run of characters of the class `p` from the current one on, and the cursor behind it. -/
def takeWhile (p : Char → Bool) (cur : Cursor) : String × Cursor :=
  let stop := cur.skipWhile p
  (stop.sliceFrom cur.position, stop)

theorem skipWhile_of_eq_none {p : Char → Bool} {cur : Cursor} (h : cur.current = none) :
    cur.skipWhile p = cur := by
  rw [skipWhile]
  split <;> simp_all

theorem skipWhile_of_neg {p : Char → Bool} {cur : Cursor} {c : Char} (h : cur.current = some c)
    (hc : p c = false) : cur.skipWhile p = cur := by
  rw [skipWhile]
  split <;> simp_all

theorem skipWhile_of_pos {p : Char → Bool} {cur : Cursor} {c : Char} (h : cur.current = some c)
    (hc : p c = true) : cur.skipWhile p = cur.advance.skipWhile p := by
  rw [skipWhile]
  split <;> simp_all

theorem remaining_skipWhile_le (p : Char → Bool) (cur : Cursor) :
    (cur.skipWhile p).remaining ≤ cur.remaining := by
  fun_induction skipWhile p cur with
  | case1 cur c h _ ih => exact Nat.le_trans ih (Nat.le_of_lt (remaining_advance_lt h))
  | case2 => exact Nat.le_refl _
  | case3 => exact Nat.le_refl _

/-- A run that is not empty leaves less behind it. -/
theorem remaining_skipWhile_lt {p : Char → Bool} {cur : Cursor} {c : Char}
    (h : cur.current = some c) (hc : p c = true) :
    (cur.skipWhile p).remaining < cur.remaining := by
  rw [skipWhile_of_pos h hc]
  exact Nat.lt_of_le_of_lt (remaining_skipWhile_le p _) (remaining_advance_lt h)

/-- Behind a run stands no character of its class. -/
theorem current_skipWhile (p : Char → Bool) (cur : Cursor) :
    (cur.skipWhile p).current.any p = false := by
  fun_induction skipWhile p cur with
  | case1 _ _ _ _ ih => exact ih
  | case2 _ _ h hc => simp [h, hc]
  | case3 _ h => simp [h]

/-- Behind a run there is nothing to pass over. -/
theorem skipWhile_skipWhile (p : Char → Bool) (cur : Cursor) :
    (cur.skipWhile p).skipWhile p = cur.skipWhile p := by
  cases hc : (cur.skipWhile p).current with
  | none => exact skipWhile_of_eq_none hc
  | some c =>
    have hstop := current_skipWhile p cur
    rw [hc] at hstop
    exact skipWhile_of_neg hc hstop

end ScriptFront.Cursor
