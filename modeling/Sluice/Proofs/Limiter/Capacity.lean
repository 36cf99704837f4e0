import Mathlib.Data.Nat.Find
import Sluice.Proofs.Limiter.Waiting

/-!
# The capacity that a change of the rate keeps

When the rate is changed, the old bucket is drained by one request for its capacity, one for half of
it, one for a quarter of it and so on, and what they get moves to the next bucket. This file finds out
for which bursts they get all that is there.

* `Limiter.grantable l now`: the largest request that the limiter would grant. It is the number of
  whole tokens, by `Limiter.Sound.grantable_eq_floor`;
* `Bucket.exists_two_pow_of_drain`: a bucket that lacks one token is drained of all others only if its
  capacity is a power of two, because only then do the halvings lose nothing by rounding;
* `Crowd.keepsCapacity_iff`: a change of the rate keeps the capacity in every state exactly if the
  burst is a power of two.
-/

namespace Sluice

namespace Bucket

variable {b : Bucket} {now step : ℕ}

/-- The requests for a number of tokens and its halvings get less than twice that number. -/
theorem drainFrom_lt (b : Bucket) (now : ℕ) (hstep : 0 < step) :
    (b.drainFrom now step).1 < 2 * step := by
  fun_induction b.drainFrom now step with
  | case1 b => exact absurd rfl hstep.ne'
  | case2 b step hzero after hcheck taken rest hrest ih =>
    rw [hrest] at ih
    -- the halvings get less than the number itself, or there are none
    rcases (step / 2).eq_zero_or_pos with hhalf | hhalf
    · rw [hhalf, drainFrom, if_pos rfl] at hrest
      obtain ⟨rfl, -⟩ := Prod.mk.inj hrest
      omega
    · have := ih hhalf
      simp only at this ⊢
      omega
  | case3 b step hzero hcheck ih =>
    rcases (step / 2).eq_zero_or_pos with hhalf | hhalf
    · rw [hhalf, drainFrom, if_pos rfl]
      omega
    · have := ih hhalf
      omega

/-- They get so many tokens only if nothing is lost by rounding. -/
theorem exists_two_pow_of_drainFrom (hstep : 0 < step)
    (h : 2 * step ≤ (b.drainFrom now step).1 + 1) : ∃ k, step = 2 ^ k := by
  fun_induction b.drainFrom now step with
  | case1 b => exact absurd rfl hstep.ne'
  | case2 b step hzero after hcheck taken rest hrest ih =>
    rw [hrest] at ih
    rcases (step / 2).eq_zero_or_pos with hhalf | hhalf
    · exact ⟨0, by omega⟩
    · have hlt := after.drainFrom_lt now hhalf
      rw [hrest] at hlt
      simp only at h hlt ih
      -- an odd number is more than twice its half, and the halvings could not make up for it
      obtain ⟨k, hk⟩ := ih hhalf (by omega)
      exact ⟨k + 1, by rw [pow_succ, ← hk]; omega⟩
  | case3 b step hzero hcheck ih =>
    rcases (step / 2).eq_zero_or_pos with hhalf | hhalf
    · exact ⟨0, by omega⟩
    · have hlt := b.drainFrom_lt now hhalf
      omega

/-- A bucket that lacks one token is drained of all others only if its capacity is a power of two. -/
theorem exists_two_pow_of_drain (hb : b.Sound now) (hlevel : b.level now < b.capacity)
    (h : b.capacity ≤ (b.drain now).1 + 1) : ∃ k, b.capacity = 2 ^ k := by
  -- the first request, for the whole capacity, is refused
  have hrefused : b.drain now = b.drainFrom now (b.capacity / 2) := by
    rw [drain, drainFrom, if_neg hb.capacity_pos.ne']
    split
    next after hcheck =>
      have hle := (check_eq_granted_iff hb.interval_pos hb.capacity_pos).1 ⟨after, hcheck⟩
      exact absurd hlevel hle.not_gt
    next => rfl
  rw [hrefused] at h
  rcases (b.capacity / 2).eq_zero_or_pos with hhalf | hhalf
  · have := hb.capacity_pos
    exact ⟨0, by omega⟩
  · have hlt := b.drainFrom_lt now hhalf
    have hmost : 2 * (b.capacity / 2) ≤ (b.drainFrom now (b.capacity / 2)).1 + 1 := by omega
    obtain ⟨k, hk⟩ := exists_two_pow_of_drainFrom hhalf hmost
    exact ⟨k + 1, by rw [pow_succ, ← hk]; omega⟩

end Bucket

namespace Limiter

variable {l : Limiter} {now : ℕ} {rate : UInt64}

instance (l : Limiter) (now n : ℕ) : Decidable (l.Grants now n) :=
  match h : l.debit now n with
  | .granted after => .isTrue ⟨after, h⟩
  | .refused _ | .blocked | .oversized => .isFalse (by simp [Grants, h])

/-- The largest request, of a burst at most, that the limiter would grant now. -/
def grantable (l : Limiter) (now : ℕ) : ℕ := Nat.findGreatest (l.Grants now) l.burst

/-- All whole tokens can be granted at once, and no more. -/
theorem Sound.grantable_eq_floor (hl : l.Sound now) : l.grantable now = ⌊l.level now⌋₊ := by
  refine Nat.findGreatest_eq_iff.2 ⟨?_, fun hne => ?_, fun n hlt hle hgrants => ?_⟩
  · exact Nat.floor_le_of_le hl.level_le_burst
  · exact (hl.grants_iff (Nat.pos_of_ne_zero hne)).2 (Nat.floor_le hl.level_nonneg)
  · have hlevel := (hl.grants_iff (Nat.zero_lt_of_lt hlt)).1 hgrants
    exact hlt.not_ge (Nat.le_floor hlevel)

/-- After a change of the rate the tokens can be granted that moved to the next bucket. -/
theorem Sound.grantable_setRate (hl : l.Sound now) (hne : l.rate ≠ rate) (hrate : rate ≠ 0) :
    (l.setRate now rate).grantable now = l.available now := by
  rw [(hl.setRate rate).grantable_eq_floor, hl.level_setRate hne, if_neg hrate, Nat.floor_natCast]

/-- If a byte less than the burst is left, and all of it moves to the next bucket, then the burst is
a power of two. -/
theorem Sound.exists_two_pow_of_available (hl : l.Sound now) (hrate : l.rate ≠ 0)
    (hlevel : l.level now < l.burst) (h : l.burst ≤ l.available now + 1) :
    ∃ k, l.burst = 2 ^ k := by
  obtain ⟨b, hb⟩ := Option.ne_none_iff_exists'.1 fun hn => hrate (hl.bucket_eq_none_iff.1 hn)
  rw [← hl.capacity_eq b hb] at hlevel h ⊢
  simp only [level, available, hb, Option.elim_some] at hlevel h
  exact Bucket.exists_two_pow_of_drain (hl.bucket_sound b hb) hlevel h

end Limiter

namespace Crowd

/-- One byte of a new limiter is granted at once. -/
theorem exists_run_one (burst : UInt32) :
    ∃ crowd, Schedule.run step (make 0 1 burst) [(0, .start 1), (0, .turn 0 false)] = some crowd ∧
      crowd.limiter.Sound 0 ∧ crowd.limiter.rate = 1 ∧
      crowd.limiter.burst = max 1 burst.toNat ∧
      crowd.limiter.level 0 = ((max 1 burst.toNat - 1 : ℕ) : ℚ) := by
  have hsound := Limiter.sound_make 0 1 burst
  have hlevel := Limiter.level_make 0 1 burst
  rw [if_neg (by decide)] at hlevel
  have hone : ((1 : ℕ) : ℚ) ≤ (Limiter.make 0 1 burst).level 0 := by
    rw [hlevel]
    exact_mod_cast le_max_left _ _
  obtain ⟨after, hattempt, hdebits⟩ :=
    Acquire.attempt_of_le_level hsound Nat.one_pos (Limiter.make 0 1 burst).burst_pos hone
  refine ⟨⟨after, [none]⟩, ?_, hdebits.sound hsound, hdebits.rate_eq, hdebits.burst_eq, ?_⟩
  · simp [Schedule.run, step, acquire?, make, remains, hattempt]
  · rw [hdebits.level_eq hsound, hlevel, Nat.cast_sub (le_max_left _ _)]

/-- A change of the rate keeps the largest request that would be granted, in every state that a
limiter can get into, exactly if the burst is a power of two. -/
theorem keepsCapacity_iff (burst : UInt32) :
    (∀ (rate next : UInt64) (made now : ℕ) (actions : Schedule Action) (crowd : Crowd),
        Schedule.InOrder made actions now →
        Schedule.run step (make made rate burst) actions = some crowd →
        crowd.limiter.rate ≠ 0 → next ≠ 0 → next ≠ crowd.limiter.rate →
        (crowd.limiter.setRate now next).grantable now = crowd.limiter.grantable now) ↔
      ∃ k, max 1 burst.toNat = 2 ^ k := by
  constructor
  · intro h
    -- the state with one byte less than the burst decides
    obtain ⟨crowd, hrun, hsound, hrate, hburst, hlevel⟩ := exists_run_one burst
    have hone : crowd.limiter.rate ≠ 0 := by simp [hrate]
    have hkeeps := h 1 2 0 0 _ crowd (by simp [Schedule.InOrder]) hrun hone (by decide)
      (by simp [hrate])
    rw [hsound.grantable_setRate (by simp [hrate]) (by decide), hsound.grantable_eq_floor, hlevel,
      Nat.floor_natCast] at hkeeps
    rw [← hburst] at hlevel hkeeps ⊢
    refine hsound.exists_two_pow_of_available hone ?_ (by omega)
    rw [hlevel]
    exact_mod_cast Nat.sub_lt crowd.limiter.burst_pos Nat.one_pos
  · rintro ⟨k, hk⟩ rate next made now actions crowd ho hrun - hnext hne
    obtain ⟨hsound, hburst⟩ := sound_run ho hrun
    rw [hsound.grantable_setRate hne.symm hnext, hsound.grantable_eq_floor,
      hsound.available_eq_floor (hburst.trans hk)]

/-- Of a burst of three bytes one is spent. The rate is doubled, and one of the two bytes that are
left is lost: the halvings of three are three and one. -/
theorem loses_at_three :
    ∃ crowd, Schedule.InOrder 0 [(0, Action.start 1), (0, .turn 0 false)] 0 ∧
      Schedule.run step (make 0 1000 3) [(0, .start 1), (0, .turn 0 false)] = some crowd ∧
      crowd.limiter.rate ≠ 0 ∧ (2000 : UInt64) ≠ 0 ∧ 2000 ≠ crowd.limiter.rate ∧
      crowd.limiter.grantable 0 = 2 ∧ (crowd.limiter.setRate 0 2000).grantable 0 = 1 := by
  refine ⟨_, by simp [Schedule.InOrder], rfl, ?_⟩
  decide +kernel

end Crowd

end Sluice
