import Mathlib.Order.Bounds.Basic
import Sluice.Timer

/-!
# When a timer goes off

* `Timer.Expires since delay deadline`: a timer set at `since` goes off at `deadline`;
* `Timer.expires_deadline`: that is what `Timer.deadline` computes;
* `Timer.isLeast_deadline_iff`: a timer is exact if and only if its end is not beyond the last tick;
* `Timer.lt_deadline`: a timer for a positive delay does not go off at once.
-/

namespace Sluice.Timer

variable {since : ℕ} {delay : Duration}

/-- A timer that is set at `since` for the delay goes off at `deadline`. -/
structure Expires (since : ℕ) (delay : Duration) (deadline : ℕ) : Prop where
  /-- It goes off at the first whole millisecond that is not before the end of the delay. -/
  exact : since + delay.nanos ≤ lastTick →
    IsLeast {m | grain ∣ m ∧ since + delay.nanos ≤ m} deadline
  /-- If that end is beyond the last tick, it goes off at the last tick. -/
  last : since < lastTick → lastTick < since + delay.nanos →
    (since + delay.nanos) / 1000000000 ≤ longestSeconds → deadline = lastTick
  /-- If the clock cannot hold that end, it goes off in thirty years. -/
  cut : since + farFuture.nanos ≤ lastTick → longestSeconds < (since + delay.nanos) / 1000000000 →
    IsLeast {m | grain ∣ m ∧ since + farFuture.nanos ≤ m} deadline

/-! ## The end of a delay -/

/-- The clock can hold all instants until the last tick. -/
theorem due_of_le_lastTick (h : since + delay.nanos ≤ lastTick) :
    due since delay = since + delay.nanos := by
  refine if_neg (Nat.not_lt.2 ?_)
  exact (Nat.div_le_div_right h).trans (by decide)

/-- A delay is cut to thirty years at worst. -/
theorem add_min_le_due (since : ℕ) (delay : Duration) :
    since + min delay.nanos farFuture.nanos ≤ due since delay := by
  rw [due]
  split
  · exact Nat.add_le_add_left (Nat.min_le_right ..) _
  · exact Nat.add_le_add_left (Nat.min_le_left ..) _

theorem le_due (since : ℕ) (delay : Duration) : since ≤ due since delay :=
  (Nat.le_add_right ..).trans (add_min_le_due since delay)

theorem lt_due (h : 0 < delay.nanos) (since : ℕ) : since < due since delay :=
  (Nat.lt_add_of_pos_right (Nat.lt_min.2 ⟨h, by decide⟩)).trans_le (add_min_le_due since delay)

/-! ## Going off -/

theorem isLeast_roundUp (instant : ℕ) : IsLeast {m | grain ∣ m ∧ instant ≤ m} (roundUp instant) :=
  ⟨⟨grain_dvd_roundUp instant, le_roundUp instant⟩, fun _ h => (roundUp_le_iff h.1).2 h.2⟩

theorem deadline_of_due_le (h : due since delay ≤ lastTick) :
    deadline since delay = roundUp (due since delay) :=
  if_neg fun hlate => Nat.not_lt.2 h hlate.2

theorem deadline_of_lastTick_lt (hsince : since < lastTick) (h : lastTick < due since delay) :
    deadline since delay = lastTick :=
  if_pos ⟨hsince, h⟩

/-- No timer goes off after the last tick. -/
theorem deadline_le_lastTick (h : since < lastTick) (delay : Duration) :
    deadline since delay ≤ lastTick := by
  obtain hdue | hdue := Nat.lt_or_ge lastTick (due since delay)
  · exact (deadline_of_lastTick_lt h hdue).le
  · rw [deadline_of_due_le hdue]
    exact (roundUp_le_iff ⟨_, Nat.mul_comm _ _⟩).2 hdue

theorem expires_deadline (since : ℕ) (delay : Duration) :
    Expires since delay (deadline since delay) where
  exact h := by
    have hdue : due since delay = since + delay.nanos := due_of_le_lastTick h
    rw [deadline_of_due_le (hdue.trans_le h), hdue]
    exact isLeast_roundUp _
  last hsince h hholds := by
    have hdue : due since delay = since + delay.nanos := if_neg (Nat.not_lt.2 hholds)
    exact deadline_of_lastTick_lt hsince (h.trans_eq hdue.symm)
  cut h hcut := by
    have hdue : due since delay = since + farFuture.nanos := if_pos hcut
    rw [deadline_of_due_le (hdue.trans_le h), hdue]
    exact isLeast_roundUp _

/-- A timer goes off at the first whole millisecond that is not before the end of its delay exactly
when that end is not beyond the last tick. -/
theorem isLeast_deadline_iff (h : since < lastTick) (delay : Duration) :
    IsLeast {m | grain ∣ m ∧ since + delay.nanos ≤ m} (deadline since delay) ↔
      since + delay.nanos ≤ lastTick :=
  ⟨fun hleast => hleast.1.2.trans (deadline_le_lastTick h delay),
    (expires_deadline since delay).exact⟩

/-- A timer for a positive delay does not go off at once. -/
theorem lt_deadline (h : 0 < delay.nanos) (since : ℕ) : since < deadline since delay := by
  rw [deadline]
  split
  next hlate => exact hlate.1
  next => exact (lt_due h since).trans_le (le_roundUp _)

theorem le_deadline (since : ℕ) (delay : Duration) : since ≤ deadline since delay := by
  rw [deadline]
  split
  next hlate => exact hlate.1.le
  next => exact (le_due since delay).trans (le_roundUp _)

end Sluice.Timer
