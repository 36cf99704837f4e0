import Sluice.Limiter.Basic
import Sluice.Proofs.Limiter.Bucket

/-!
# The level of a limiter

The level of a limiter is the level of its bucket, and `0` when its rate is `0`. This file says what
each operation does to it. A limiter is `Sound` when its bucket is the one for its rate and burst
and is never more than empty; every limiter that is made and then only used is sound.

* `level_make`: a new limiter has its burst to spend;
* `Debits.level_eq`: a debit takes its bytes off the level;
* `Sound.level_setRate` and `Sound.available_le_level`: a change of the rate keeps whole tokens at
  most, and rate `0` keeps none;
* `Sound.level_later`: in a pause the level grows at the rate until the burst is reached.
-/

namespace Sluice.Limiter

/-- The tokens left in the bucket. -/
def level (l : Limiter) (now : ℕ) : ℚ := l.bucket.elim 0 (·.level now)

/-- The bucket is the one for the rate and the burst, and never more than empty. -/
structure Sound (l : Limiter) (now : ℕ) : Prop where
  bucket_eq_none_iff : l.bucket = none ↔ l.rate = 0
  bucket_sound : ∀ b, l.bucket = some b → b.Sound now
  interval_eq : ∀ b, l.bucket = some b → b.interval = interval l.rate
  capacity_eq : ∀ b, l.bucket = some b → b.capacity = l.burst

/-- The limiter after a debit of `n` bytes; no bytes leave it as it is. -/
def Debits (l : Limiter) (now n : ℕ) (after : Limiter) : Prop :=
  n = 0 ∧ after = l ∨ 0 < n ∧ l.debit now n = .granted after

variable {l after : Limiter} {now later n : ℕ} {rate : UInt64}

/-! ## Rates -/

theorem toNat_min_maxRate (rate : UInt64) :
    (min rate maxRate).toNat = min rate.toNat 1000000000 := by
  change (if rate ≤ maxRate then rate else maxRate).toNat = _
  rw [Nat.min_def]
  simp only [UInt64.le_iff_toNat_le, show maxRate.toNat = 1000000000 from rfl]
  split <;> rfl

theorem interval_zero : interval 0 = 0 := by
  rw [interval, toNat_min_maxRate]
  simp

theorem interval_pos (h : rate ≠ 0) : 0 < interval rate := by
  have hpos : 0 < rate.toNat := Nat.pos_of_ne_zero fun hz => h (UInt64.toNat_inj.1 hz)
  rw [interval, toNat_min_maxRate]
  exact Nat.div_pos (Nat.min_le_right _ _) (by omega)

/-! ## Sound limiters -/

theorem Sound.mono (hl : l.Sound now) (h : now ≤ later) : l.Sound later :=
  { hl with bucket_sound := fun b hb => (hl.bucket_sound b hb).mono h }

theorem Sound.level_nonneg (hl : l.Sound now) : 0 ≤ l.level now := by
  unfold level
  cases hb : l.bucket with
  | none => exact le_rfl
  | some b => exact (hl.bucket_sound b hb).level_nonneg

theorem Sound.level_le_burst (hl : l.Sound now) : l.level now ≤ l.burst := by
  unfold level
  cases hb : l.bucket with
  | none => exact Nat.cast_nonneg _
  | some b => exact hl.capacity_eq b hb ▸ b.level_le_capacity now

/-- At rate `0` no tokens are left. -/
theorem Sound.level_of_rate_zero (hl : l.Sound now) (h : l.rate = 0) : l.level now = 0 := by
  rw [level, hl.bucket_eq_none_iff.2 h, Option.elim_none]

/-- In a pause the level grows at the rate until the burst is reached. -/
theorem Sound.level_later (hl : l.Sound now) (h : now ≤ later) :
    l.level later =
      if l.rate = 0 then 0
      else min (l.burst : ℚ) (l.level now + ((later : ℚ) - now) / interval l.rate) := by
  split
  next hr => exact (hl.mono h).level_of_rate_zero hr
  next hr =>
    obtain ⟨b, hb⟩ := Option.ne_none_iff_exists'.1 fun hn => hr (hl.bucket_eq_none_iff.1 hn)
    rw [level, level, hb, Option.elim_some, Option.elim_some,
      (hl.bucket_sound b hb).level_later h, hl.interval_eq b hb, hl.capacity_eq b hb]

/-- In a pause the level grows by what the rate lets through at most. -/
theorem Sound.level_le_add (hl : l.Sound now) (h : now ≤ later) :
    l.level later ≤ l.level now + ((later : ℚ) - now) / interval l.rate := by
  rw [hl.level_later h]
  split
  next hr => simp [hl.level_of_rate_zero hr, hr, interval_zero]
  next => exact min_le_right _ _

/-- A limiter with a bucket that was just made for its rate is sound. -/
theorem sound_of_bucket_eq {f : Bucket → Bucket}
    (hl : l.bucket = (fullBucket now l.rate l.burst).map f)
    (hf : ∀ b : Bucket, b.Sound now →
      (f b).Sound now ∧ (f b).interval = b.interval ∧ (f b).capacity = b.capacity) :
    l.Sound now := by
  by_cases h : l.rate = 0
  · rw [fullBucket, if_pos h, Option.map_none] at hl
    constructor <;> simp [hl, h]
  · rw [fullBucket, if_neg h, Option.map_some] at hl
    obtain ⟨hs, hi, hc⟩ := hf ⟨now, interval l.rate, l.burst, none⟩
      (Bucket.sound_of_unused le_rfl (interval_pos h) l.burst_pos rfl)
    constructor <;> simp [hl, h, hs, hi, hc]

theorem sound_make (now : ℕ) (rate : UInt64) (burst : UInt32) : (make now rate burst).Sound now :=
  sound_of_bucket_eq (f := id) (by rw [Option.map_id]; rfl) fun _ hb => ⟨hb, rfl, rfl⟩

theorem rate_make (now : ℕ) (rate : UInt64) (burst : UInt32) : (make now rate burst).rate = rate :=
  rfl

/-- A new limiter has its burst to spend, unless its rate is `0`. -/
theorem level_make (now : ℕ) (rate : UInt64) (burst : UInt32) :
    (make now rate burst).level now = if rate = 0 then 0 else ((max 1 burst.toNat : ℕ) : ℚ) := by
  unfold level make fullBucket
  split
  · rfl
  · exact Bucket.level_of_unused rfl

/-! ## Requests -/

/-- What a granted request changes. -/
theorem debit_eq_granted (h : l.debit now n = .granted after) :
    ∃ b b', l.bucket = some b ∧ b.check now n = .granted b' ∧
      after = { l with bucket := some b' } := by
  unfold debit at h
  split at h
  · cases h
  next b hb =>
    split at h
    next b' hcheck =>
      cases h
      exact ⟨b, b', hb, hcheck, rfl⟩
    · cases h
    · cases h

/-- A refused request has to wait. -/
theorem pos_of_debit_eq_refused {wait : ℕ} (h : l.debit now n = .refused wait) : 0 < wait := by
  unfold debit at h
  split at h
  · cases h
  next b hb =>
    split at h
    · cases h
    next after hcheck =>
      cases h
      unfold Bucket.check at hcheck
      split at hcheck
      · cases hcheck
      · split at hcheck <;> cases hcheck
        omega
    · cases h

/-- All that a limiter can answer to a request: at rate `0` it blocks, more than a burst is oversized,
less than the level is granted, and the rest has to wait for the tokens that the level lacks. -/
theorem Sound.debit_cases (hl : l.Sound now) (hn : 0 < n) :
    l.rate = 0 ∧ l.debit now n = .blocked ∨
      l.rate ≠ 0 ∧ l.burst < n ∧ l.debit now n = .oversized ∨
      l.rate ≠ 0 ∧ n ≤ l.burst ∧ n ≤ l.level now ∧ (∃ after, l.debit now n = .granted after) ∨
      l.rate ≠ 0 ∧ n ≤ l.burst ∧ l.level now < n ∧
        ∃ wait : ℕ, l.debit now n = .refused wait ∧
          (wait : ℚ) = (n - l.level now) * interval l.rate := by
  cases hb : l.bucket with
  | none => exact .inl ⟨hl.bucket_eq_none_iff.1 hb, by simp [debit, hb]⟩
  | some b =>
    have hr : l.rate ≠ 0 := fun hr => by simp [hl.bucket_eq_none_iff.2 hr] at hb
    have hi := (hl.bucket_sound b hb).interval_pos
    have hlevel : l.level now = b.level now := by rw [level, hb, Option.elim_some]
    have hgranted : (∃ after, b.check now n = .granted after) ↔ (n : ℚ) ≤ b.level now :=
      Bucket.check_eq_granted_iff hi hn
    have hoversized : b.check now n = .oversized ↔ b.capacity < n := Bucket.check_eq_oversized_iff
    rw [hl.capacity_eq b hb] at hoversized
    rw [hlevel, ← hl.interval_eq b hb]
    cases hcheck : b.check now n with
    | oversized => exact .inr (.inl ⟨hr, hoversized.1 hcheck, by simp [debit, hb, hcheck]⟩)
    | granted after =>
      have hle := hgranted.1 ⟨after, hcheck⟩
      have hburst : n ≤ l.burst := not_lt.1 fun hlt => by simp [hoversized.2 hlt] at hcheck
      exact .inr (.inr (.inl ⟨hr, hburst, hle, _, by simp [debit, hb, hcheck]; rfl⟩))
    | refused wait =>
      have hlt : b.level now < n := not_le.1 fun hle => by
        obtain ⟨after, hafter⟩ := hgranted.2 hle
        simp [hcheck] at hafter
      have hburst : n ≤ l.burst := not_lt.1 fun hlt => by simp [hoversized.2 hlt] at hcheck
      exact .inr (.inr (.inr ⟨hr, hburst, hlt, wait, by simp [debit, hb, hcheck],
        Bucket.wait_of_check hi hn hcheck⟩))

/-- A limiter whose level covers a request grants it. -/
theorem Sound.debit_of_le_level (hl : l.Sound now) (hn : 0 < n) (h : (n : ℚ) ≤ l.level now) :
    ∃ after, l.debit now n = .granted after := by
  cases hb : l.bucket with
  | none =>
    rw [level, hb, Option.elim_none] at h
    exact absurd h (by exact_mod_cast hn.not_ge)
  | some b =>
    rw [level, hb, Option.elim_some] at h
    obtain ⟨after, hcheck⟩ :=
      (Bucket.check_eq_granted_iff (hl.bucket_sound b hb).interval_pos hn).2 h
    exact ⟨_, by simp [debit, hb, hcheck]; rfl⟩

theorem Debits.burst_eq (h : l.Debits now n after) : after.burst = l.burst := by
  obtain ⟨-, rfl⟩ | ⟨-, h⟩ := h
  · rfl
  · obtain ⟨b, b', -, -, rfl⟩ := debit_eq_granted h
    rfl

theorem Debits.rate_eq (h : l.Debits now n after) : after.rate = l.rate := by
  obtain ⟨-, rfl⟩ | ⟨-, h⟩ := h
  · rfl
  · obtain ⟨b, b', -, -, rfl⟩ := debit_eq_granted h
    rfl

theorem Debits.revision_eq (h : l.Debits now n after) : after.revision = l.revision := by
  obtain ⟨-, rfl⟩ | ⟨-, h⟩ := h
  · rfl
  · obtain ⟨b, b', -, -, rfl⟩ := debit_eq_granted h
    rfl

theorem Sound.debit (hl : l.Sound now) (h : l.debit now n = .granted after) : after.Sound now := by
  obtain ⟨b, b', hb, hcheck, rfl⟩ := debit_eq_granted h
  obtain ⟨-, hi, hc⟩ := Bucket.check_granted hcheck
  have hrate : l.rate ≠ 0 := fun hr => by simp [hl.bucket_eq_none_iff.2 hr] at hb
  constructor <;>
    simp [hrate, hi, hc, hl.interval_eq b hb, hl.capacity_eq b hb, (hl.bucket_sound b hb).check hcheck]

theorem Debits.sound (hl : l.Sound now) (h : l.Debits now n after) : after.Sound now := by
  obtain ⟨-, rfl⟩ | ⟨-, h⟩ := h
  · exact hl
  · exact hl.debit h

/-- A debit takes its bytes off the level. -/
theorem Debits.level_eq (hl : l.Sound now) (h : l.Debits now n after) :
    after.level now = l.level now - n := by
  obtain ⟨rfl, rfl⟩ | ⟨-, h⟩ := h
  · simp
  · obtain ⟨b, b', hb, hcheck, rfl⟩ := debit_eq_granted h
    rw [level, level, hb, Option.elim_some, Option.elim_some,
      Bucket.level_of_check (hl.bucket_sound b hb).interval_pos hcheck]

/-! ## Changes of the rate -/

theorem setRate_of_ne (h : l.rate ≠ rate) (now : ℕ) :
    l.setRate now rate =
      { l with
        rate := rate
        bucket := (fullBucket now rate l.burst).map (·.holding now (l.available now))
        revision := l.revision + 1 } :=
  if_neg h

/-- No more tokens move to the next bucket than the old one holds. -/
theorem Sound.available_le_level (hl : l.Sound now) : (l.available now : ℚ) ≤ l.level now := by
  unfold available level
  cases hb : l.bucket with
  | none => exact_mod_cast le_rfl
  | some b => exact Bucket.drain_le_level (hl.bucket_sound b hb)

/-- If the burst is a power of two, all whole tokens move to the next bucket. -/
theorem Sound.available_eq_floor (hl : l.Sound now) {k : ℕ} (hburst : l.burst = 2 ^ k) :
    l.available now = ⌊l.level now⌋₊ := by
  unfold available level
  cases hb : l.bucket with
  | none => simp
  | some b =>
    exact Bucket.drain_eq_floor (hl.bucket_sound b hb) ((hl.capacity_eq b hb).trans hburst)

theorem Sound.available_le_burst (hl : l.Sound now) : l.available now ≤ l.burst := by
  exact_mod_cast hl.available_le_level.trans hl.level_le_burst

theorem Sound.setRate (hl : l.Sound now) (rate : UInt64) : (l.setRate now rate).Sound now := by
  by_cases h : l.rate = rate
  · rw [← h, setRate_rate]
    exact hl
  · rw [setRate_of_ne h]
    exact sound_of_bucket_eq rfl fun b hb => ⟨hb.holding _, (b.holding_keeps ..).2⟩

/-- At a new rate above `0` the tokens are those that moved to the next bucket. -/
theorem Sound.level_setRate (hl : l.Sound now) (h : l.rate ≠ rate) :
    (l.setRate now rate).level now = if rate = 0 then 0 else (l.available now : ℚ) := by
  rw [setRate_of_ne h, level, fullBucket]
  split
  next => rfl
  next hr => exact Bucket.level_holding (interval_pos hr) rfl hl.available_le_burst

end Sluice.Limiter
