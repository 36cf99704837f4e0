import Mathlib.Algebra.Order.Floor.Semifield
import Mathlib.Data.Rat.Floor
import Sluice.Proofs.Limiter.Level
import Sluice.Proofs.Schedule

/-!
# The account of a limiter

How many bytes a limiter has granted is bounded by its burst and by the time that passed at each
rate. This file keeps the account of one limiter through requests, changes of the rate and pauses.

* `quota rate length` is what a rate lets through in a time;
* `allowance since rate changes last` adds up the quotas of the periods of constant rate;
* `Covered l now spent budget since`: the budget, with what the rate has let through since the
  instant `since`, covers the bytes spent so far and those left in the bucket.

A request (`Covered.debit`) and a pause (`Covered.wait`) keep the account. A change of the rate
closes a period (`Covered.setRate`): its quota, rounded down, goes into the budget, because only
whole tokens move to the next bucket.
-/

namespace Sluice.Limiter

/-- The bytes that a rate lets through in `length` nanoseconds. -/
def quota (rate : UInt64) (length : ℕ) : ℕ :=
  if rate = 0 then 0 else length / interval rate

/-- The sum of the quotas of the periods of constant rate from `since` to `last`, when the rate at
first is `rate` and `changes` tells the rate after each action. -/
def allowance (since : ℕ) (rate : UInt64) : Schedule UInt64 → ℕ → ℕ
  | [], last => quota rate (last - since)
  | (now, next) :: rest, last =>
    if next = rate then allowance since rate rest last
    else quota rate (now - since) + allowance now next rest last

/-- The budget, with what the rate has let through since the instant `since`, covers the bytes spent
and the tokens left. -/
structure Covered (l : Limiter) (now spent budget since : ℕ) : Prop where
  sound : l.Sound now
  since_le : since ≤ now
  covered : (spent : ℚ) + l.level now ≤ budget + ((now : ℚ) - since) / interval l.rate

variable {l after : Limiter} {now later n spent budget since : ℕ} {rate : UInt64}

/-- Rate `0` lets nothing through, whichever way it is computed. -/
theorem quota_eq (rate : UInt64) (length : ℕ) : quota rate length = length / interval rate := by
  unfold quota
  split
  next h => rw [h, interval_zero, Nat.div_zero]
  next => rfl

/-- Whole bytes within a bound are within the bound rounded down. -/
theorem le_add_div_of_le {m k d t : ℕ} (h : (m : ℚ) ≤ k + (d : ℚ) / t) : m ≤ k + d / t := by
  rcases le_total m k with hle | hle
  · exact Nat.le_add_right_of_le hle
  · -- the excess over `k` is a whole number below the quotient, hence below its floor
    have hsub : ((m - k : ℕ) : ℚ) ≤ (d : ℚ) / t := by
      rw [Nat.cast_sub hle]
      linarith
    have hfloor := Nat.le_floor hsub
    rw [Nat.floor_div_eq_div] at hfloor
    exact Nat.sub_le_iff_le_add'.1 hfloor

/-! ## Steps of the account -/

theorem Covered.wait (h : l.Covered now spent budget since) (hle : now ≤ later) :
    l.Covered later spent budget since where
  sound := h.sound.mono hle
  since_le := h.since_le.trans hle
  covered := by
    have hlevel := h.sound.level_le_add hle
    -- the pause prolongs the period by as much as the level can grow in it
    have hsplit : ((later : ℚ) - since) / interval l.rate =
        ((now : ℚ) - since) / interval l.rate + ((later : ℚ) - now) / interval l.rate := by
      rw [← add_div]
      ring
    have := h.covered
    linarith

theorem Covered.debit (h : l.Covered now spent budget since) (hd : l.Debits now n after) :
    after.Covered now (spent + n) budget since where
  sound := hd.sound h.sound
  since_le := h.since_le
  covered := by
    rw [hd.level_eq h.sound, hd.rate_eq]
    push_cast
    linarith [h.covered]

/-- Bytes that were not spent need no cover. -/
theorem Covered.anti {less : ℕ} (h : l.Covered now spent budget since) (hle : less ≤ spent) :
    l.Covered now less budget since where
  sound := h.sound
  since_le := h.since_le
  covered := by
    have : (less : ℚ) ≤ spent := by exact_mod_cast hle
    linarith [h.covered]

/-- What was spent, and any whole number of tokens left, is within the budget and the quota of the
period. -/
theorem Covered.add_le (h : l.Covered now spent budget since) {left : ℕ}
    (hleft : (left : ℚ) ≤ l.level now) : spent + left ≤ budget + quota l.rate (now - since) := by
  rw [quota_eq]
  apply le_add_div_of_le
  rw [Nat.cast_sub h.since_le]
  push_cast
  linarith [h.covered]

theorem Covered.spent_le (h : l.Covered now spent budget since) :
    spent ≤ budget + quota l.rate (now - since) := by
  have hzero : ((0 : ℕ) : ℚ) ≤ l.level now := by exact_mod_cast h.sound.level_nonneg
  exact h.add_le hzero

/-- A change of the rate closes a period, whose quota goes into the budget. -/
theorem Covered.setRate (h : l.Covered now spent budget since) (hne : l.rate ≠ rate) :
    (l.setRate now rate).Covered now spent (budget + quota l.rate (now - since)) now where
  sound := h.sound.setRate rate
  since_le := le_rfl
  covered := by
    rw [h.sound.level_setRate hne, sub_self, zero_div, add_zero]
    split
    · -- at rate `0` the tokens are lost, and the bytes spent need their cover only
      rw [add_zero]
      exact_mod_cast h.spent_le
    · -- whole tokens move on, so that rounding the quota down loses nothing
      exact_mod_cast h.add_le h.sound.available_le_level

end Sluice.Limiter
