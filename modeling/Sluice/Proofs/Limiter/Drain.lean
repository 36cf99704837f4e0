import Mathlib.Data.Nat.Size
import Sluice.Proofs.Limiter.Capacity

/-!
# What draining takes out and what it leaves

A bucket is drained by one request for its capacity and one for each of its halvings, which are
rounded down. Every odd number on the way costs one token at most, so that draining misses fewer
tokens than the capacity has one bits.

* `Bucket.drainAsks b now step`: the requests, each with the bucket that is asked. By
  `Bucket.length_drainAsks` there are as many as the number has bits, and by
  `Bucket.sum_gets_drainAsks` what they get is what draining takes out;
* `Bucket.drainInto? b now step total`: draining with a running total of 32 bits. By
  `Bucket.drainInto?_eq` it is draining, unless the total does not fit;
* `Limiter.drained l now`: the limiter with its old bucket after draining;
* `Limiter.Drains l now`: what is taken out is no more than could be granted and little less, and the
  rest can still be granted;
* `Crowd.draining_of_run`: this holds in every state that a limiter can get into.
-/

namespace Sluice

namespace Bucket

variable {b : Bucket} {now step : ℕ} {total : UInt32}

/-- The requests that take out tokens, for `step`, half of it, a quarter of it and so on down to
one, each with the bucket that is asked. -/
def drainAsks (b : Bucket) (now step : ℕ) : List (Bucket × ℕ) :=
  if step = 0 then [] else (b, step) :: (b.debited now step).drainAsks now (step / 2)
termination_by step
decreasing_by omega

/-- Draining makes as many requests as the number has bits. -/
theorem length_drainAsks (b : Bucket) (now step : ℕ) :
    (b.drainAsks now step).length = step.size := by
  fun_induction b.drainAsks now step with
  | case1 b => rfl
  | case2 b step hzero ih =>
    -- a halving drops the last bit
    rw [List.length_cons, ih]
    conv_rhs => rw [← Nat.bit_bodd_div2 step, Nat.size_bit (by rwa [Nat.bit_bodd_div2])]
    rw [Nat.div2_val]

/-- The tokens that a request gets. -/
def gets (now : ℕ) (ask : Bucket × ℕ) : ℕ :=
  match ask.1.check now ask.2 with
  | .granted _ => ask.2
  | _ => 0

/-- What draining takes out is what its requests get. -/
theorem sum_gets_drainAsks (b : Bucket) (now step : ℕ) :
    ((b.drainAsks now step).map (gets now)).sum = (b.drainFrom now step).1 := by
  fun_induction b.drainFrom now step with
  | case1 b =>
    rw [drainAsks, if_pos rfl]
    rfl
  | case2 b step hzero after hcheck taken rest hrest ih =>
    -- the request is granted
    rw [hrest] at ih
    have hdebited : b.debited now step = after := by rw [debited, hcheck]
    have hgets : gets now (b, step) = step := by simp only [gets, hcheck]
    rw [drainAsks, if_neg hzero, List.map_cons, List.sum_cons, hdebited, hgets, ih]
  | case3 b step hzero hcheck ih =>
    -- the request is refused, and the bucket stays as it is
    have hrefused : b.debited now step = b ∧ gets now (b, step) = 0 := by
      unfold debited gets
      cases hverdict : b.check now step with
      | granted after => exact absurd hverdict (hcheck after)
      | refused wait | oversized => exact ⟨rfl, rfl⟩
    rw [drainAsks, if_neg hzero, List.map_cons, List.sum_cons, hrefused.1, hrefused.2, ih,
      Nat.zero_add]

/-- Take out tokens by requests for `step` and its halvings. What has been taken out stands in a word
of 32 bits; there is no result if it ever outgrows the word. -/
def drainInto? (b : Bucket) (now step : ℕ) (total : UInt32) : Option (UInt32 × Bucket) :=
  if step = 0 then some (total, b)
  else
    match b.check now step with
    | .granted after =>
      if total.toNat + step < UInt32.size then
        after.drainInto? now (step / 2) (total + .ofNat step)
      else none
    | _ => b.drainInto? now (step / 2) total
termination_by step
decreasing_by all_goals omega

/-- A word holds the running total if it holds the total in the end. -/
theorem drainInto?_eq (hfits : total.toNat + (b.drainFrom now step).1 < UInt32.size) :
    b.drainInto? now step total =
      some (total + .ofNat (b.drainFrom now step).1, (b.drainFrom now step).2) := by
  fun_induction b.drainFrom now step generalizing total with
  | case1 b =>
    rw [drainInto?, if_pos rfl]
    simp
  | case2 b step hzero after hcheck taken rest hrest ih =>
    rw [hrest] at ih
    simp only at hfits ih
    -- the total after this request is no more than the total in the end
    have hstep : total.toNat + step < UInt32.size := by omega
    have hsum : (total + .ofNat step : UInt32).toNat = total.toNat + step := by
      rw [UInt32.toNat_add, UInt32.toNat_ofNat_of_lt' (by omega), Nat.mod_eq_of_lt hstep]
    rw [drainInto?, if_neg hzero, hcheck]
    simp only [if_pos hstep]
    rw [ih (by omega), UInt32.add_assoc, UInt32.ofNat_add]
  | case3 b step hzero hcheck ih =>
    rw [drainInto?, if_neg hzero]
    split
    next after hgranted => exact absurd hgranted (hcheck after)
    next => exact ih hfits

/-- Draining changes nothing about how fast a bucket fills and what it can hold. -/
theorem drainFrom_spec (b : Bucket) (now step : ℕ) :
    (b.drainFrom now step).2.interval = b.interval ∧
      (b.drainFrom now step).2.capacity = b.capacity := by
  fun_induction b.drainFrom now step with
  | case1 b => exact ⟨rfl, rfl⟩
  | case2 b step hzero after hcheck taken rest hrest ih =>
    rw [hrest] at ih
    obtain ⟨-, hinterval, hcapacity⟩ := check_granted hcheck
    exact ⟨ih.1.trans hinterval, ih.2.trans hcapacity⟩
  | case3 b step hzero hcheck ih => exact ih

end Bucket

namespace Limiter

variable {l : Limiter} {now : ℕ}

/-- The limiter with its bucket after draining. -/
def drained (l : Limiter) (now : ℕ) : Limiter :=
  { l with bucket := l.bucket.map fun b => (b.drain now).2 }

theorem Sound.drained (hl : l.Sound now) : (l.drained now).Sound now := by
  refine ⟨?_, ?_, ?_, ?_⟩
  · rw [Limiter.drained, Option.map_eq_none_iff]
    exact hl.bucket_eq_none_iff
  all_goals
    intro rest hrest
    obtain ⟨b, hb, rfl⟩ := Option.map_eq_some_iff.1 hrest
  · exact (Bucket.level_drainFrom (hl.bucket_sound b hb) b.capacity).1
  · exact (b.drainFrom_spec now b.capacity).1.trans (hl.interval_eq b hb)
  · exact (b.drainFrom_spec now b.capacity).2.trans (hl.capacity_eq b hb)

theorem level_drained (l : Limiter) (now : ℕ) :
    (l.drained now).level now = l.bucket.elim 0 fun b => (b.drain now).2.level now := by
  cases hb : l.bucket <;> simp [level, drained, hb]

/-- Draining takes off the level what it reports. -/
theorem Sound.level_drained_eq (hl : l.Sound now) :
    (l.drained now).level now = l.level now - l.available now := by
  rw [level_drained, level, available]
  cases hb : l.bucket with
  | none =>
    -- without a bucket, there is nothing to take out
    simp
  | some b => exact (Bucket.level_drainFrom (hl.bucket_sound b hb) b.capacity).2

/-- Draining leaves fewer tokens than the burst has one bits. -/
theorem Sound.level_drained_lt (hl : l.Sound now) : (l.drained now).level now < ones l.burst := by
  rw [level_drained]
  cases hb : l.bucket with
  | none => simpa using ones_pos l.burst_pos
  | some b =>
    rw [← hl.capacity_eq b hb]
    exact Bucket.level_drain_lt (hl.bucket_sound b hb)

/-- What draining takes out of a limiter's bucket and what it leaves. -/
structure Drains (l : Limiter) (now : ℕ) : Prop where
  /-- No more is taken out than could be granted. -/
  available_le : l.available now ≤ l.grantable now
  /-- Of what could be granted, less is missed than there are one bits in the burst. -/
  missed_le : l.grantable now - l.available now ≤ ones l.burst - 1
  /-- Nothing is missed if the burst is a power of two. -/
  available_eq : (∃ k, l.burst = 2 ^ k) → l.available now = l.grantable now
  /-- As many requests are made as the burst has bits, and what they get is taken out. -/
  asks : ∀ b, l.bucket = some b →
    (b.drainAsks now b.capacity).length = l.burst.size ∧
      ((b.drainAsks now b.capacity).map (Bucket.gets now)).sum = l.available now
  /-- A word of 32 bits holds what has been taken out, at any time. -/
  total : ∀ b, l.bucket = some b →
    b.drainInto? now b.capacity 0 = some (.ofNat (l.available now), (b.drain now).2) ∧
      (UInt32.ofNat (l.available now)).toNat = l.available now
  /-- What is missed can still be granted. -/
  grantable_drained :
    (l.drained now).grantable now = l.grantable now - l.available now

/-- Draining misses fewer tokens than the burst has one bits. -/
theorem Sound.drains (hl : l.Sound now) : l.Drains now := by
  have hgrantable := hl.grantable_eq_floor
  have hleft : (l.drained now).grantable now = l.grantable now - l.available now := by
    rw [hl.drained.grantable_eq_floor, hl.level_drained_eq, hgrantable, Nat.floor_sub_natCast]
  have havailable (b : Bucket) (hb : l.bucket = some b) :
      (b.drainFrom now b.capacity).1 = l.available now := by
    rw [available, hb]
    rfl
  have hfits : l.available now < UInt32.size := hl.available_le_burst.trans_lt l.burst_lt
  refine ⟨?_, ?_, ?_, fun b hb => ⟨?_, ?_⟩, fun b hb => ⟨?_, ?_⟩, hleft⟩
  · rw [hgrantable]
    apply Nat.le_floor
    exact hl.available_le_level
  · -- what is missed can be granted afterwards, and the one bits are more than that
    rw [← hleft, hl.drained.grantable_eq_floor]
    have hlt := (Nat.floor_lt hl.drained.level_nonneg).2 hl.level_drained_lt
    omega
  · -- a power of two has a single one bit
    rintro ⟨k, hk⟩
    rw [hgrantable, hl.available_eq_floor hk]
  · rw [Bucket.length_drainAsks, hl.capacity_eq b hb]
  · rw [Bucket.sum_gets_drainAsks, havailable b hb]
  · -- the total begins at zero, and in the end it is at most a burst
    rw [← havailable b hb] at hfits ⊢
    rw [Bucket.drainInto?_eq (by simpa using hfits), UInt32.zero_add]
    rfl
  · exact UInt32.toNat_ofNat_of_lt' hfits

end Limiter

namespace Crowd

variable {crowd : Crowd} {made now : ℕ} {rate : UInt64} {burst : UInt32} {actions : Schedule Action}

/-- In every state that a limiter can get into, draining takes out all that could be granted, but for
fewer bytes than there are one bits in the burst. -/
theorem draining_of_run (ho : Schedule.InOrder made actions now)
    (hrun : Schedule.run step (make made rate burst) actions = some crowd) :
    crowd.limiter.burst = max 1 burst.toNat ∧ crowd.limiter.Drains now := by
  obtain ⟨hsound, hburst⟩ := sound_run ho hrun
  exact ⟨hburst, hsound.drains⟩

/-- Of a burst of seven bytes one is spent. The halvings of seven are seven, three and one, and so
four of the six bytes that are left are taken out: one less than there are one bits in seven are
missed. -/
theorem draining_of_sixLeft :
    ∃ crowd, Schedule.InOrder 0 [(0, Action.start 1), (0, .turn 0 false)] 0 ∧
      Schedule.run step (make 0 1000 7) [(0, .start 1), (0, .turn 0 false)] = some crowd ∧
      crowd.limiter.Drains 0 ∧ crowd.limiter.grantable 0 = 6 ∧ crowd.limiter.available 0 = 4 ∧
      (crowd.limiter.drained 0).grantable 0 = 2 ∧ ones crowd.limiter.burst = 3 := by
  have ho : Schedule.InOrder 0 [(0, Action.start 1), (0, .turn 0 false)] 0 := by
    simp [Schedule.InOrder]
  refine ⟨_, ho, rfl, (draining_of_run ho rfl).2, ?_⟩
  decide +kernel

end Crowd

end Sluice
