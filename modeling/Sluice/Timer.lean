import Sluice.Duration

/-!
# Timers

Instants are counted in nanoseconds from the start of the program, at which the clock of the system
and that of the timers are both taken to begin. Timers tell only whole milliseconds apart: a timer
fires at the first whole millisecond that is not before its end.

Two kinds of ends are out of reach. The clock of the system counts seconds in a signed word, and a
delay whose end it cannot hold is cut to thirty years. The timers count milliseconds in an unsigned
word, and every end beyond their last tick, some 584 million years after the start, is cut to it.

* `roundUp t` is the first whole millisecond that is not before `t`.
* `due now delay` is the end that a timer set at `now` is given.
* `deadline now delay` is the instant at which a timer set at `now` fires.
-/

namespace Sluice.Timer

/-- The nanoseconds between two instants at which a timer can fire. -/
def grain : Nat := 1000000

/-- The first whole millisecond that is not before the instant. -/
def roundUp (instant : Nat) : Nat :=
  (instant + (grain - 1)) / grain * grain

/-- The last second that the clock of the system can hold. -/
def longestSeconds : Nat := 0x7fffffffffffffff

/-- The delay that stands for every delay too long for the clock. -/
def farFuture : Duration := .ofSeconds (86400 * 365 * 30)

/-- The last instant at which a timer can fire. The two largest words stand for timers that have
fired or are not set. -/
def lastTick : Nat := 0xfffffffffffffffd * grain

/-- The end of the delay of a timer set at `now`, as far as the clock can hold it. -/
def due (now : Nat) (delay : Duration) : Nat :=
  if longestSeconds < (now + delay.nanos) / 1000000000 then now + farFuture.nanos
  else now + delay.nanos

/-- The instant at which a timer set at `now` for the delay fires. No program lasts until the last
tick, so that it is of no consequence that timers set after it are not cut. -/
def deadline (now : Nat) (delay : Duration) : Nat :=
  if now < lastTick ∧ lastTick < due now delay then lastTick else roundUp (due now delay)

/-- Rounding never goes back. -/
theorem le_roundUp (t : Nat) : t ≤ roundUp t := by
  unfold roundUp grain
  omega

/-- Rounding goes less than one millisecond ahead. -/
theorem roundUp_lt (t : Nat) : roundUp t < t + grain := by
  unfold roundUp grain
  omega

/-- A rounded instant is a whole number of milliseconds. -/
theorem grain_dvd_roundUp (t : Nat) : grain ∣ roundUp t :=
  ⟨_, Nat.mul_comm _ _⟩

/-- A whole number of milliseconds is not before the first one after an instant exactly when it is
not before the instant. -/
theorem roundUp_le_iff {t later : Nat} (h : grain ∣ later) : roundUp t ≤ later ↔ t ≤ later := by
  refine ⟨Nat.le_trans (le_roundUp t), fun hle => ?_⟩
  obtain ⟨j, hj⟩ := grain_dvd_roundUp t
  obtain ⟨k, rfl⟩ := h
  -- less than one millisecond is added, so that the next whole one is not reached
  have hlt : grain * j < grain * (k + 1) := by
    rw [← hj, Nat.mul_succ]
    exact Nat.lt_of_lt_of_le (roundUp_lt t) (Nat.add_le_add_right hle _)
  rw [hj]
  exact Nat.mul_le_mul_left _ (Nat.le_of_lt_succ (Nat.lt_of_mul_lt_mul_left hlt))

end Sluice.Timer
