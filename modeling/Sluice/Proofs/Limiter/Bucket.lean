import Mathlib.Algebra.Order.Field.Rat
import Mathlib.Algebra.Order.Floor.Semiring
import Mathlib.Data.Nat.Digits.Defs
import Mathlib.Data.Rat.Floor
import Mathlib.Tactic.FieldSimp
import Mathlib.Tactic.Linarith
import Mathlib.Tactic.Positivity
import Mathlib.Tactic.Ring
import Sluice.Limiter.Bucket

/-!
# The level of a bucket

A bucket keeps no count of tokens. Its *debt* is the time until it is full again, and its *level* is
the number of tokens that this leaves, with the fraction of the token that it is gaining. In terms
of levels a bucket is a plain counter:

* `check_eq_granted_iff`: a request is granted exactly when the level covers it;
* `level_of_check`: a granted request takes its tokens off the level;
* `Sound.level_later`: in a pause the level grows by one token per interval until the bucket is
  full;
* `wait_of_check`: a refused request has to wait for the tokens that the level lacks;
* `level_drainFrom`: draining takes as many tokens off the level as it reports;
* `level_drain_lt`: draining leaves fewer tokens than the capacity has one bits, and so
  `drain_eq_floor`: if the capacity is a power of two, no whole token is left;
* `level_holding`: a full bucket emptied to `n` tokens has level `n`.
-/

namespace Sluice

/-! ## One bits -/

/-- The number of one bits of a number. -/
def ones (n : ℕ) : ℕ := (Nat.digits 2 n).count 1

@[simp] theorem ones_zero : ones 0 = 0 := by simp [ones]

/-- The last bit and those of the half. -/
theorem ones_eq (n : ℕ) : ones n = n % 2 + ones (n / 2) := by
  rcases n.eq_zero_or_pos with rfl | hpos
  · rfl
  rw [ones, Nat.digits_def' one_lt_two hpos, List.count_cons, ones, Nat.add_comm]
  rcases Nat.mod_two_eq_zero_or_one n with hbit | hbit <;> simp [hbit]

theorem ones_pos {n : ℕ} (h : 0 < n) : 0 < ones n := by
  induction n using Nat.strong_induction_on with
  | h n ih =>
    rw [ones_eq]
    rcases (n / 2).eq_zero_or_pos with hhalf | hhalf
    · omega
    · have := ih (n / 2) (by omega) hhalf
      omega

theorem ones_two_pow (k : ℕ) : ones (2 ^ k) = 1 := by
  induction k with
  | zero => simp [ones]
  | succ k ih =>
    rw [ones_eq, pow_succ, Nat.mul_mod_left, Nat.mul_div_cancel _ Nat.two_pos, ih]

namespace Bucket

/-- The time until the bucket is full again. -/
def debt (b : Bucket) (now : ℕ) : ℕ := b.base now - b.elapsed now

/-- The tokens in the bucket, with the fraction of the token that it is gaining. -/
def level (b : Bucket) (now : ℕ) : ℚ := b.capacity - b.debt now / b.interval

/-- The bucket exists, gains tokens, can hold one, and is never more than empty. -/
structure Sound (b : Bucket) (now : ℕ) : Prop where
  madeAt_le : b.madeAt ≤ now
  interval_pos : 0 < b.interval
  capacity_pos : 0 < b.capacity
  debt_le : b.debt now ≤ b.interval * b.capacity

variable {b after : Bucket} {now later n : ℕ}

/-! ## Time passes -/

theorem Sound.debt_later (hb : b.Sound now) (h : now ≤ later) :
    b.debt later = b.debt now - (later - now) := by
  have := hb.madeAt_le
  unfold debt base elapsed
  cases b.arrival <;> simp only [Option.getD_some, Option.getD_none] <;> omega

/-- A bucket that is never more than empty stays so while time passes. -/
theorem Sound.mono (hb : b.Sound now) (h : now ≤ later) : b.Sound later where
  madeAt_le := hb.madeAt_le.trans h
  interval_pos := hb.interval_pos
  capacity_pos := hb.capacity_pos
  debt_le := by
    rw [hb.debt_later h]
    exact (Nat.sub_le _ _).trans hb.debt_le

/-- In a pause the level grows by one token per interval, in proportion, until the bucket is
full. -/
theorem Sound.level_later (hb : b.Sound now) (h : now ≤ later) :
    b.level later =
      min (b.capacity : ℚ) (b.level now + ((later : ℚ) - now) / b.interval) := by
  have hi : (0 : ℚ) < b.interval := by exact_mod_cast hb.interval_pos
  have hsum : b.level now + ((later : ℚ) - now) / b.interval =
      b.capacity - ((b.debt now : ℚ) - (later - now)) / b.interval := by
    unfold level
    ring
  rw [hsum, level, hb.debt_later h, ← Nat.cast_sub h]
  -- either the bucket is not yet full, or the pause was longer than the debt
  rcases le_total (later - now) (b.debt now) with hle | hle
  · rw [Nat.cast_sub hle, min_eq_right]
    have : (0 : ℚ) ≤ ((b.debt now : ℚ) - (later - now : ℕ)) / b.interval := by
      rw [← Nat.cast_sub hle]
      positivity
    linarith
  · have hle' : (b.debt now : ℚ) ≤ (later - now : ℕ) := by exact_mod_cast hle
    rw [Nat.sub_eq_zero_of_le hle, Nat.cast_zero, zero_div, sub_zero, min_eq_left]
    have : ((b.debt now : ℚ) - (later - now : ℕ)) / b.interval ≤ 0 :=
      div_nonpos_of_nonpos_of_nonneg (by linarith) hi.le
    linarith

/-! ## The bounds of the level -/

theorem level_le_capacity (b : Bucket) (now : ℕ) : b.level now ≤ b.capacity := by
  have : (0 : ℚ) ≤ b.debt now / b.interval := by positivity
  unfold level
  linarith

/-- The level covers `n` tokens when paying for them leaves the bucket no more than empty. -/
theorem le_level_iff (hi : 0 < b.interval) :
    (n : ℚ) ≤ b.level now ↔ b.debt now + b.interval * n ≤ b.interval * b.capacity := by
  have hi' : (0 : ℚ) < b.interval := by exact_mod_cast hi
  unfold level
  rw [le_sub_iff_add_le', ← le_sub_iff_add_le, div_le_iff₀ hi', sub_mul, le_sub_iff_add_le,
    mul_comm (b.capacity : ℚ), mul_comm (n : ℚ)]
  exact_mod_cast Iff.rfl

theorem Sound.level_nonneg (hb : b.Sound now) : 0 ≤ b.level now := by
  have := (le_level_iff (n := 0) hb.interval_pos).2 (by simpa using hb.debt_le)
  exact_mod_cast this

/-! ## Requests -/

/-- A granted request delays the instant at which the bucket is full by one interval per token. -/
theorem debt_of_check (h : b.check now n = .granted after) :
    after.debt now = b.debt now + b.interval * n := by
  unfold check at h
  split at h
  · cases h
  · split at h
    · cases h
    · cases h
      simp only [debt, base, elapsed, Option.getD_some]
      omega

/-- A request is granted exactly when the level covers it. -/
theorem check_eq_granted_iff (hi : 0 < b.interval) (hn : 0 < n) :
    (∃ after, b.check now n = .granted after) ↔ (n : ℚ) ≤ b.level now := by
  rw [le_level_iff hi]
  have hsplit : b.interval * (n - 1) + b.interval = b.interval * n := by
    rw [← Nat.mul_succ, Nat.succ_eq_add_one, Nat.sub_add_cancel hn]
  by_cases hc : b.capacity < n
  · -- neither the verdict nor the level allows more than the capacity
    have : b.interval * b.capacity < b.interval * n := Nat.mul_lt_mul_of_pos_left hc hi
    constructor
    · rintro ⟨after, h⟩
      rw [check_eq_oversized_iff.2 hc] at h
      cases h
    · omega
  · have hcap : b.tolerance + b.interval = b.interval * b.capacity := by
      rw [tolerance, ← Nat.mul_succ, Nat.succ_eq_add_one, Nat.sub_add_cancel (by omega)]
    have hle : b.interval * n ≤ b.interval * b.capacity := Nat.mul_le_mul_left _ (by omega)
    unfold check
    rw [if_neg hc]
    unfold debt earliest
    split
    · simp only [reduceCtorEq, exists_false, false_iff]
      omega
    · simp only [Verdict.granted.injEq, exists_eq', true_iff]
      omega

/-- A granted request takes its tokens off the level. -/
theorem level_of_check (hi : 0 < b.interval) (h : b.check now n = .granted after) :
    after.level now = b.level now - n := by
  have hi' : (b.interval : ℚ) ≠ 0 := by exact_mod_cast hi.ne'
  obtain ⟨-, hinterval, hcapacity⟩ := check_granted h
  unfold level
  rw [debt_of_check h, hinterval, hcapacity]
  push_cast
  field_simp
  ring

/-- A refused request has to wait until the bucket has gained the tokens that the level lacks. -/
theorem wait_of_check {wait : ℕ} (hi : 0 < b.interval) (hn : 0 < n)
    (h : b.check now n = .refused wait) : (wait : ℚ) = (n - b.level now) * b.interval := by
  have hi' : (b.interval : ℚ) ≠ 0 := by exact_mod_cast hi.ne'
  unfold check at h
  split at h
  · cases h
  next hc =>
    split at h
    next hlt =>
      cases h
      -- in whole nanoseconds, what is waited for makes up for the debt beyond the other tokens
      have hsplit : b.interval * (n - 1) + b.interval = b.interval * n := by
        rw [← Nat.mul_succ, Nat.succ_eq_add_one, Nat.sub_add_cancel hn]
      have hcap : b.tolerance + b.interval = b.interval * b.capacity := by
        rw [tolerance, ← Nat.mul_succ, Nat.succ_eq_add_one, Nat.sub_add_cancel (by omega)]
      have hwait : b.earliest now n - b.elapsed now + b.interval * b.capacity =
          b.debt now + b.interval * n := by
        unfold debt
        unfold earliest at hlt ⊢
        have : b.elapsed now ≤ b.base now := by
          have hle : b.interval * n ≤ b.interval * b.capacity := Nat.mul_le_mul_left _ (by omega)
          omega
        omega
      have hwait' : ((b.earliest now n - b.elapsed now : ℕ) : ℚ) + b.interval * b.capacity =
          b.debt now + b.interval * n := by exact_mod_cast hwait
      have hlevel : (n - b.level now) * b.interval =
          b.debt now + b.interval * n - b.interval * b.capacity := by
        unfold level
        field_simp
        ring
      rw [hlevel, ← hwait', add_sub_cancel_right]
    next => cases h

/-- A granted request leaves the bucket no more than empty. -/
theorem Sound.check (hb : b.Sound now) (h : b.check now n = .granted after) :
    after.Sound now := by
  obtain ⟨hmade, hinterval, hcapacity⟩ := check_granted h
  refine ⟨hmade ▸ hb.madeAt_le, hinterval ▸ hb.interval_pos, hcapacity ▸ hb.capacity_pos, ?_⟩
  rw [debt_of_check h, hinterval, hcapacity]
  obtain rfl | hn := Nat.eq_zero_or_pos n
  · exact hb.debt_le
  · exact (le_level_iff hb.interval_pos).1 ((check_eq_granted_iff hb.interval_pos hn).1 ⟨after, h⟩)

/-! ## Draining and refilling -/

/-- Draining takes as many tokens off the level as it reports, and no more than there are. -/
theorem level_drainFrom (hb : b.Sound now) (step : ℕ) :
    (b.drainFrom now step).2.Sound now ∧
      (b.drainFrom now step).2.level now = b.level now - (b.drainFrom now step).1 := by
  -- the halving steps that are refused leave the bucket alone, the others take what they report
  fun_induction b.drainFrom now step with
  | case1 b => simpa using hb
  | case2 b step hstep after hcheck taken rest hrest ih =>
    obtain ⟨hsound, hlevel⟩ := ih (hb.check hcheck)
    rw [hrest] at hsound hlevel
    refine ⟨hsound, ?_⟩
    rw [hlevel, level_of_check hb.interval_pos hcheck]
    push_cast
    ring
  | case3 b step hstep hcheck ih => exact ih hb

/-- Draining never takes more than there is. -/
theorem drain_le_level (hb : b.Sound now) : ((b.drain now).1 : ℚ) ≤ b.level now := by
  obtain ⟨hsound, hlevel⟩ := level_drainFrom hb b.capacity
  have := hsound.level_nonneg
  rw [hlevel] at this
  exact sub_nonneg.1 this

/-- Granted or not, a request for about half of the level leaves about as many tokens as it asked
for. -/
theorem exists_drainFrom_half (hb : b.Sound now) {step lost : ℕ} (hstep : 0 < step)
    (h : b.level now < 2 * step + lost) :
    ∃ rest : Bucket, rest.Sound now ∧ rest.level now < step + lost ∧
      (b.drainFrom now step).2 = (rest.drainFrom now (step / 2)).2 := by
  rw [drainFrom, if_neg hstep.ne']
  split
  next after hcheck =>
    refine ⟨after, hb.check hcheck, ?_, rfl⟩
    rw [level_of_check hb.interval_pos hcheck]
    linarith
  next hcheck =>
    have hless : b.level now < step := not_le.1 fun hle => by
      obtain ⟨after, hgranted⟩ := (check_eq_granted_iff hb.interval_pos hstep).2 hle
      exact hcheck after hgranted
    have hlost : (0 : ℚ) ≤ lost := lost.cast_nonneg
    exact ⟨b, hb, by linarith, rfl⟩

/-- What requests for a number of tokens and its halvings leave: of about twice that number, one
token less than there are one bits in the number, beyond those that were `lost` before. -/
theorem level_drainFrom_lt (hb : b.Sound now) {step lost : ℕ}
    (h : b.level now < 2 * step + lost) :
    (b.drainFrom now step).2.level now < lost + ones step := by
  induction step using Nat.strong_induction_on generalizing b lost with
  | h step ih =>
    rcases step.eq_zero_or_pos with rfl | hstep
    · rw [drainFrom, if_pos rfl, ones_zero]
      simpa using h
    · obtain ⟨rest, hrest, hlevel, heq⟩ := exists_drainFrom_half hb hstep h
      -- to halve an odd number loses one more token
      have hhalves : (step : ℚ) = 2 * (step / 2 : ℕ) + (step % 2 : ℕ) := by
        exact_mod_cast (Nat.div_add_mod step 2).symm
      have hnext : rest.level now < 2 * (step / 2 : ℕ) + (lost + step % 2 : ℕ) := by
        push_cast at hhalves ⊢
        linarith
      have hleft := ih (step / 2) (by omega) hrest hnext
      rw [heq, ones_eq step]
      push_cast at hleft ⊢
      linarith

/-- Draining leaves fewer tokens than the capacity has one bits. -/
theorem level_drain_lt (hb : b.Sound now) : (b.drain now).2.level now < ones b.capacity := by
  have hle := b.level_le_capacity now
  have hpos : (0 : ℚ) < b.capacity := by exact_mod_cast hb.capacity_pos
  have hless : b.level now < 2 * b.capacity + (0 : ℕ) := by
    push_cast
    linarith
  simpa [drain] using level_drainFrom_lt hb hless

/-- A bucket whose capacity is a power of two is drained of all its whole tokens. -/
theorem drain_eq_floor (hb : b.Sound now) {k : ℕ} (hcapacity : b.capacity = 2 ^ k) :
    (b.drain now).1 = ⌊b.level now⌋₊ := by
  obtain ⟨hsound, hlevel⟩ := level_drainFrom hb b.capacity
  have hless := level_drain_lt hb
  rw [hcapacity, ones_two_pow, Nat.cast_one] at hless
  -- less than one token is left, and not less than none
  have hnonneg := hsound.level_nonneg
  rw [← drain] at hlevel hnonneg
  refine ((Nat.floor_eq_iff hb.level_nonneg).2 ⟨?_, ?_⟩).symm <;> linarith

/-- A bucket that was never used is full. -/
theorem level_of_unused (h : b.arrival = none) : b.level now = b.capacity := by
  simp [level, debt, base, h]

theorem sound_of_unused (hm : b.madeAt ≤ now) (hi : 0 < b.interval) (hc : 0 < b.capacity)
    (h : b.arrival = none) : b.Sound now where
  madeAt_le := hm
  interval_pos := hi
  capacity_pos := hc
  debt_le := by simp [debt, base, h]

/-- A request, granted or not, never changes when the bucket was made, how fast it fills and what it
holds. -/
theorem debited_keeps (b : Bucket) (now n : ℕ) :
    (b.debited now n).madeAt = b.madeAt ∧ (b.debited now n).interval = b.interval ∧
      (b.debited now n).capacity = b.capacity := by
  unfold debited
  split
  next after hcheck => exact check_granted hcheck
  next => exact ⟨rfl, rfl, rfl⟩

/-- Nor does emptying the bucket. -/
theorem holding_keeps (b : Bucket) (now n : ℕ) :
    (b.holding now n).madeAt = b.madeAt ∧ (b.holding now n).interval = b.interval ∧
      (b.holding now n).capacity = b.capacity := by
  unfold holding
  split
  next => exact debited_keeps ..
  next => exact ⟨rfl, rfl, rfl⟩

theorem Sound.debited (hb : b.Sound now) (n : ℕ) : (b.debited now n).Sound now := by
  unfold Bucket.debited
  split
  next after hcheck => exact hb.check hcheck
  next => exact hb

theorem Sound.holding (hb : b.Sound now) (n : ℕ) : (b.holding now n).Sound now := by
  unfold Bucket.holding
  split
  next => exact hb.debited _
  next => exact hb

/-- A full bucket emptied to `n` tokens has level `n`. -/
theorem level_holding (hi : 0 < b.interval) (h : b.arrival = none) (hn : n ≤ b.capacity) :
    (b.holding now n).level now = n := by
  unfold holding
  split
  next hlt =>
    have hfull : ((b.capacity - n : ℕ) : ℚ) ≤ b.level now := by
      rw [level_of_unused h]
      exact_mod_cast Nat.sub_le _ _
    obtain ⟨after, hcheck⟩ := (check_eq_granted_iff hi (by omega)).2 hfull
    rw [debited, hcheck]
    simp only
    rw [level_of_check hi hcheck, level_of_unused h, Nat.cast_sub hn]
    ring
  next hge => rw [level_of_unused h, le_antisymm hn (Nat.le_of_not_lt hge)]

end Bucket

end Sluice
