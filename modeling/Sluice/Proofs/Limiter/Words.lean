import Sluice.Proofs.Limiter.Drain

/-!
# Buckets in words of 64 bits

A bucket reckons in nanoseconds. At the lowest rate and with the largest burst it takes more than four
times `10 ^ 18` of them to fill, so that two such times, added to an instant of the first 292 years
after the bucket was made, just fit into a word of 64 bits. That a request adds no more than two of
them is due to an invariant: the arrival is never later than an empty bucket takes to fill.

* `Bucket.grantAll? b now requests`: several requests at one instant, one after the other. By
  `Bucket.Sound.grantAll?_isSome_iff` the level covers their sum, or not all of them are granted;
* `Bucket.Rebuilds now rate burst n`: a new bucket for the rate is emptied until exactly `n` tokens
  are left;
* `Bucket.FitsWords b now n`: no number in a request outgrows a word;
* `Bucket.checkWords b now n`: the request with all sums and products in words, which wrap. By
  `Bucket.FitsWords.checkWords_eq` it has the same answer;
* `Crowd.asks crowd now action`: the requests that an action makes to buckets;
* `Crowd.words_of_run`: in every state that a limiter can get into, a change of the rate would hand
  over exactly the tokens that it takes out, and no request outgrows a word.
-/

namespace Sluice

namespace Bucket

variable {b after : Bucket} {now n : ℕ} {requests : List ℕ}

/-! ## Several requests at one instant -/

/-- The bucket after several requests at one instant, if all of them are granted. -/
def grantAll? (b : Bucket) (now : ℕ) : List ℕ → Option Bucket
  | [] => some b
  | n :: requests =>
    match b.check now n with
    | .granted after => after.grantAll? now requests
    | _ => none

/-- Several requests at one instant are granted exactly if the level covers all of them together. -/
theorem Sound.grantAll?_isSome_iff (hb : b.Sound now) (hpos : ∀ n ∈ requests, 0 < n) :
    (b.grantAll? now requests).isSome ↔ (requests.sum : ℚ) ≤ b.level now := by
  induction requests generalizing b with
  | nil => simpa [grantAll?] using hb.level_nonneg
  | cons n requests ih =>
    obtain ⟨hn, hrest⟩ := List.forall_mem_cons.1 hpos
    have hsum : ((n :: requests).sum : ℚ) = n + requests.sum := by
      rw [List.sum_cons, Nat.cast_add]
    have hnonneg : (0 : ℚ) ≤ (requests.sum : ℕ) := Nat.cast_nonneg _
    rw [grantAll?]
    cases hcheck : b.check now n with
    | granted after =>
      -- the other requests face a level that is lower by the first one
      rw [ih (hb.check hcheck) hrest, level_of_check hb.interval_pos hcheck, hsum]
      exact le_sub_iff_add_le'
    | refused wait | oversized =>
      -- the first request alone is more than the level
      have hless : ¬ (n : ℚ) ≤ b.level now := by
        rw [← check_eq_granted_iff hb.interval_pos hn]
        simp [hcheck]
      simp only [Option.isSome_none, Bool.false_eq_true, false_iff]
      intro hle
      exact hless (by linarith)

/-- A new bucket for the rate, made for a change of the rate with `n` tokens to hand over: the
request that empties it to `n` tokens succeeds, and afterwards any requests at the same instant are
granted exactly if they ask for no more than `n` tokens together. -/
def Rebuilds (now : ℕ) (rate : UInt64) (burst n : ℕ) : Prop :=
  ∃ full, Limiter.fullBucket now rate burst = some full ∧
    (n < burst → full.check now (burst - n) = .granted (full.holding now n)) ∧
    ∀ requests : List ℕ, (∀ m ∈ requests, 0 < m) →
      (((full.holding now n).grantAll? now requests).isSome ↔ requests.sum ≤ n)

/-- A change to a positive rate hands over exactly the tokens that are there to be handed over. -/
theorem rebuilds {rate : UInt64} {burst : ℕ} (hrate : rate ≠ 0) (hburst : 0 < burst)
    (hle : n ≤ burst) : Rebuilds now rate burst n := by
  have hfull : (Bucket.mk now (Limiter.interval rate) burst none).Sound now :=
    sound_of_unused le_rfl (Limiter.interval_pos hrate) hburst rfl
  refine ⟨_, if_neg hrate, ?_, ?_⟩
  · -- a full bucket grants any number of tokens up to its capacity
    intro hlt
    have hlevel : ((burst - n : ℕ) : ℚ) ≤
        (Bucket.mk now (Limiter.interval rate) burst none).level now := by
      rw [level_of_unused rfl]
      exact_mod_cast Nat.sub_le _ _
    obtain ⟨after, hcheck⟩ := (check_eq_granted_iff hfull.interval_pos (by omega)).2 hlevel
    rw [holding, if_pos hlt, debited]
    simp only
    rw [hcheck]
  · -- its level is then the tokens to hand over, and it covers just these
    intro requests hpos
    rw [(hfull.holding _).grantAll?_isSome_iff hpos, level_holding hfull.interval_pos rfl hle]
    exact Nat.cast_le

/-! ## The numbers in a request -/

/-- The arrival is never later than an empty bucket takes to fill. -/
theorem Sound.base_le (hb : b.Sound now) :
    b.base now ≤ b.elapsed now + b.interval * b.capacity := by
  have hdebt := hb.debt_le
  unfold debt at hdebt
  omega

/-- No sum and no product in a request outgrows a word of 64 bits. -/
structure FitsWords (b : Bucket) (now n : ℕ) : Prop where
  /-- The arrival, put off by all tokens of the request but one. -/
  others_lt : b.base now + b.interval * (n - 1) < UInt64.size
  /-- The arrival after the request. -/
  arrival_lt : max (b.base now) (b.elapsed now) + b.interval * n < UInt64.size
  /-- The time in which an empty bucket gains all tokens but one. -/
  tolerance_lt : b.tolerance < UInt64.size

/-- A request of at most a burst fits into words in the first 292 years of a bucket. -/
theorem Sound.fitsWords (hb : b.Sound now) (hinterval : b.interval ≤ 1000000000)
    (hcapacity : b.capacity < UInt32.size) (hn : n ≤ b.capacity)
    (helapsed : b.elapsed now < 2 ^ 63) : b.FitsWords now n := by
  -- the time in which the bucket fills
  have hfills : b.interval * b.capacity ≤ 1000000000 * 4294967295 :=
    Nat.mul_le_mul hinterval (Nat.le_of_lt_succ hcapacity)
  have htokens : b.interval * n ≤ b.interval * b.capacity := Nat.mul_le_mul_left _ hn
  have hothers : b.interval * (n - 1) ≤ b.interval * n := Nat.mul_le_mul_left _ (Nat.sub_le _ _)
  have htolerance : b.tolerance ≤ b.interval * b.capacity :=
    Nat.mul_le_mul_left _ (Nat.sub_le _ _)
  have hbase := hb.base_le
  have hsize : UInt64.size = 18446744073709551616 := rfl
  refine ⟨?_, ?_, ?_⟩ <;> omega

/-- A request with all numbers in words of 64 bits, in which sums and products wrap. -/
def checkWords (b : Bucket) (now n : ℕ) : Verdict :=
  let interval : UInt64 := .ofNat b.interval
  let elapsed : UInt64 := .ofNat (b.elapsed now)
  let base : UInt64 := .ofNat (b.base now)
  let others := base + interval * (.ofNat n - 1)
  let tolerance := interval * (.ofNat b.capacity - 1)
  let earliest := if others < tolerance then 0 else others - tolerance
  if b.capacity < n then .oversized
  else if elapsed < earliest then .refused (earliest - elapsed).toNat
  else .granted { b with arrival := some (max base elapsed + interval * .ofNat n).toNat }

/-- The difference of two words, or zero if the second one is larger. -/
theorem word_sub {x y : ℕ} (hx : x < UInt64.size) (hy : y < UInt64.size) :
    (if UInt64.ofNat x < .ofNat y then 0 else UInt64.ofNat x - .ofNat y) = .ofNat (x - y) := by
  have hiff := UInt64.ofNat_lt_iff_lt hx hy
  by_cases hlt : x < y
  · rw [if_pos (hiff.2 hlt), Nat.sub_eq_zero_of_le hlt.le]
    rfl
  · rw [if_neg fun h => hlt (hiff.1 h), UInt64.ofNat_sub (Nat.le_of_not_lt hlt)]

/-- The larger one of two words. -/
theorem word_max {x y : ℕ} (hx : x < UInt64.size) (hy : y < UInt64.size) :
    max (UInt64.ofNat x) (.ofNat y) = .ofNat (max x y) := by
  have hiff := UInt64.ofNat_le_iff_le hx hy
  change (if UInt64.ofNat x ≤ .ofNat y then UInt64.ofNat y else .ofNat x) = _
  by_cases hle : x ≤ y
  · rw [if_pos (hiff.2 hle), max_eq_right hle]
  · rw [if_neg fun h => hle (hiff.1 h), max_eq_left (Nat.le_of_not_le hle)]

/-- As long as no number outgrows its word, words have the same answer as numbers. -/
theorem FitsWords.checkWords_eq (h : b.FitsWords now n) (hn : 0 < n) (hle : n ≤ b.capacity) :
    b.checkWords now n = b.check now n := by
  obtain ⟨hothers, harrival, htolerance⟩ := h
  have hbase : b.base now < UInt64.size := (Nat.le_add_right _ _).trans_lt hothers
  have helapsed : b.elapsed now < UInt64.size :=
    (le_max_right _ _).trans_lt ((Nat.le_add_right _ _).trans_lt harrival)
  have hearliest : b.earliest now n < UInt64.size := (Nat.sub_le _ _).trans_lt hothers
  -- each word is the word of the number that it stands for
  have hothers_eq : UInt64.ofNat (b.base now) + .ofNat b.interval * (.ofNat n - 1) =
      .ofNat (b.base now + b.interval * (n - 1)) := by
    rw [UInt64.ofNat_add, UInt64.ofNat_mul, UInt64.ofNat_sub hn]
    rfl
  have htolerance_eq : UInt64.ofNat b.interval * (.ofNat b.capacity - 1) = .ofNat b.tolerance := by
    rw [tolerance, UInt64.ofNat_mul, UInt64.ofNat_sub (hn.trans_le hle)]
    rfl
  have harrival_eq : max (UInt64.ofNat (b.base now)) (.ofNat (b.elapsed now)) +
      .ofNat b.interval * .ofNat n =
        .ofNat (max (b.base now) (b.elapsed now) + b.interval * n) := by
    rw [word_max hbase helapsed, UInt64.ofNat_add, UInt64.ofNat_mul]
  simp only [checkWords]
  rw [hothers_eq, htolerance_eq, harrival_eq, word_sub hothers htolerance,
    ← earliest, UInt64.toNat_ofNat_of_lt' harrival]
  have hiff := UInt64.ofNat_lt_iff_lt helapsed hearliest
  rw [check, if_neg hle.not_gt, if_neg hle.not_gt]
  by_cases hearly : b.elapsed now < b.earliest now n
  · rw [if_pos (hiff.2 hearly), if_pos hearly, ← UInt64.ofNat_sub hearly.le,
      UInt64.toNat_ofNat_of_lt' ((Nat.sub_le _ _).trans_lt hearliest)]
  · rw [if_neg fun h => hearly (hiff.1 h), if_neg hearly]

/-! ## All requests of a change of the rate -/

/-- The request that empties a full bucket to `n` tokens, with the bucket. -/
def holdingAsks (b : Bucket) (n : ℕ) : List (Bucket × ℕ) :=
  if n < b.capacity then [(b, b.capacity - n)] else []

/-- A request that a bucket for the rate and the burst is right for. -/
structure Asked (now : ℕ) (burst : ℕ) (ask : Bucket × ℕ) : Prop where
  /-- The bucket is never more than empty. -/
  sound : ask.1.Sound now
  /-- No rate is lower than one token per second. -/
  interval_le : ask.1.interval ≤ 1000000000
  /-- The bucket holds a burst. -/
  capacity_eq : ask.1.capacity = burst
  /-- The request is for something, and for a burst at most. -/
  request_le : 0 < ask.2 ∧ ask.2 ≤ burst

variable {burst : ℕ}

theorem asked_of_mem_drainAsks (hb : b.Sound now) (hinterval : b.interval ≤ 1000000000)
    {step : ℕ} (hstep : step ≤ b.capacity) {ask : Bucket × ℕ} (hask : ask ∈ b.drainAsks now step) :
    Asked now b.capacity ask := by
  fun_induction b.drainAsks now step with
  | case1 b => cases hask
  | case2 b step hzero ih =>
    have hpos := Nat.pos_of_ne_zero hzero
    obtain rfl | hask := List.mem_cons.1 hask
    · exact ⟨hb, hinterval, rfl, hpos, hstep⟩
    · -- the bucket after the first request has the same interval and capacity
      obtain ⟨-, hi, hc⟩ := b.debited_keeps now step
      have hasked := ih (hb.debited step) (hi ▸ hinterval) (by rw [hc]; omega) hask
      rwa [hc] at hasked

/-- The request that empties a full bucket is right for the bucket. -/
theorem asked_of_mem_holdingAsks (hb : b.Sound now) (hinterval : b.interval ≤ 1000000000)
    {ask : Bucket × ℕ} (hask : ask ∈ b.holdingAsks n) : Asked now b.capacity ask := by
  unfold holdingAsks at hask
  split at hask
  next hlt =>
    obtain rfl := List.mem_singleton.1 hask
    exact ⟨hb, hinterval, rfl, Nat.sub_pos_of_lt hlt, Nat.sub_le _ _⟩
  next => cases hask

end Bucket

namespace Limiter

variable {l : Limiter} {now : ℕ} {ask : Bucket × ℕ}

/-- The requests of a change of the rate: those that drain the old bucket, and the one that empties
the new one. -/
def setRateAsks (l : Limiter) (now : ℕ) (rate : UInt64) : List (Bucket × ℕ) :=
  if l.rate = rate then []
  else
    (l.bucket.elim [] fun b => b.drainAsks now b.capacity) ++
      (fullBucket now rate l.burst).elim [] (·.holdingAsks (l.available now))

/-- No rate is lower than one token per second. -/
theorem interval_le (rate : UInt64) : interval rate ≤ 1000000000 := Nat.div_le_self _ _

/-- The rate of a bucket fits into a word of 32 bits. -/
theorem toNat_toUInt32_min_maxRate (rate : UInt64) :
    (min rate maxRate).toUInt32.toNat = (min rate maxRate).toNat := by
  have hle : (min rate maxRate).toNat ≤ 1000000000 := by
    rw [toNat_min_maxRate]
    exact Nat.min_le_right _ _
  rw [UInt64.toNat_toUInt32]
  exact Nat.mod_eq_of_lt (by omega)

theorem Sound.asked_of_mem_setRateAsks (hl : l.Sound now) {rate : UInt64}
    (hask : ask ∈ l.setRateAsks now rate) : Bucket.Asked now l.burst ask := by
  unfold setRateAsks at hask
  split at hask
  · cases hask
  rcases List.mem_append.1 hask with hask | hask
  · -- the old bucket
    cases hb : l.bucket with
    | none => simp [hb] at hask
    | some b =>
      rw [hb, Option.elim_some] at hask
      rw [← hl.capacity_eq b hb]
      exact Bucket.asked_of_mem_drainAsks (hl.bucket_sound b hb)
        (hl.interval_eq b hb ▸ interval_le l.rate) le_rfl hask
  · -- the new bucket
    unfold fullBucket at hask
    split at hask
    · cases hask
    next hrate =>
      have hfull : (Bucket.mk now (interval rate) l.burst none).Sound now :=
        Bucket.sound_of_unused le_rfl (interval_pos hrate) l.burst_pos rfl
      exact Bucket.asked_of_mem_holdingAsks hfull (interval_le rate) hask

end Limiter

namespace Acquire

/-- The request that an acquire makes, unless it has nothing to do. -/
def asks (a : Acquire) (l : Limiter) (cancelled : Bool) (now : ℕ) : List (Bucket × ℕ) :=
  if a.remaining = 0 ∨ cancelled = true ∨ a.isAwake l now = false then []
  else (l.bucket.map fun b => (b, a.chunk l)).toList

variable {a : Acquire} {l : Limiter} {cancelled : Bool} {now : ℕ} {ask : Bucket × ℕ}

theorem asked_of_mem_asks (hl : l.Sound now) (hask : ask ∈ a.asks l cancelled now) :
    Bucket.Asked now l.burst ask := by
  unfold asks at hask
  split at hask
  · cases hask
  next hbusy =>
    rw [not_or] at hbusy
    obtain ⟨b, hb, rfl⟩ := Option.map_eq_some_iff.1 (Option.mem_toList.1 hask)
    exact ⟨hl.bucket_sound b hb, hl.interval_eq b hb ▸ Limiter.interval_le l.rate,
      hl.capacity_eq b hb, chunk_pos (Nat.pos_of_ne_zero hbusy.1) l, Nat.min_le_right _ _⟩

/-- A chunk fits into a word of 32 bits. -/
theorem toNat_toUInt32_chunk (a : Acquire) (l : Limiter) :
    (a.chunk l).toUInt32.toNat = a.chunk l :=
  UInt32.toNat_ofNat_of_lt' ((Nat.min_le_right _ _).trans_lt l.burst_lt)

end Acquire

namespace Crowd

/-- The requests that an action makes to buckets. -/
def asks (crowd : Crowd) (now : ℕ) : Action → List (Bucket × ℕ)
  | .turn number cancelled =>
    (crowd.acquire? number).elim [] fun acquire => acquire.asks crowd.limiter cancelled now
  | .setRate rate => crowd.limiter.setRateAsks now rate
  | .start _ | .drop _ => []

variable {crowd : Crowd} {made now : ℕ} {rate : UInt64} {burst : UInt32} {actions : Schedule Action}
  {action : Action} {ask : Bucket × ℕ}

theorem asked_of_mem_asks (hl : crowd.limiter.Sound now) (hask : ask ∈ crowd.asks now action) :
    Bucket.Asked now crowd.limiter.burst ask := by
  cases action with
  | start bytes => cases hask
  | drop number => cases hask
  | setRate rate => exact hl.asked_of_mem_setRateAsks hask
  | turn number cancelled =>
    rw [asks] at hask
    cases hacquire : crowd.acquire? number with
    | none => simp [hacquire] at hask
    | some acquire =>
      rw [hacquire, Option.elim_some] at hask
      exact Acquire.asked_of_mem_asks hl hask

/-- All numbers of a limiter fit into words, whatever is done next. -/
structure InWords (crowd : Crowd) (now burst : ℕ) : Prop where
  /-- The bucket is the one for the rate and the burst, and its arrival is never later than an empty
  bucket takes to fill. -/
  base_le : ∀ b, crowd.limiter.bucket = some b →
    b.interval = Limiter.interval crowd.limiter.rate ∧ b.capacity = burst ∧
      b.base now ≤ b.elapsed now + b.interval * b.capacity
  /-- No request outgrows a word of 64 bits in the first 292 years of the bucket, and so words have
  the same answer as numbers. -/
  asks : ∀ action, ∀ ask ∈ crowd.asks now action, ask.1.elapsed now < 2 ^ 63 →
    ask.1.FitsWords now ask.2 ∧ ask.1.checkWords now ask.2 = ask.1.check now ask.2
  /-- The rate of a bucket fits into a word of 32 bits. -/
  rates : ∀ rate, (min rate maxRate).toUInt32.toNat = (min rate maxRate).toNat
  /-- Every chunk fits into a word of 32 bits. -/
  chunks : ∀ a : Acquire, (a.chunk crowd.limiter).toUInt32.toNat = a.chunk crowd.limiter

theorem inWords (hl : crowd.limiter.Sound now) : crowd.InWords now crowd.limiter.burst := by
  refine ⟨?_, ?_, Limiter.toNat_toUInt32_min_maxRate,
    fun a => a.toNat_toUInt32_chunk crowd.limiter⟩
  · intro b hb
    exact ⟨hl.interval_eq b hb, hl.capacity_eq b hb, (hl.bucket_sound b hb).base_le⟩
  · intro action ask hask helapsed
    obtain ⟨hsound, hinterval, hcapacity, hpos, hle⟩ := asked_of_mem_asks hl hask
    have hfits : ask.1.FitsWords now ask.2 :=
      hsound.fitsWords hinterval (hcapacity ▸ crowd.limiter.burst_lt) (hcapacity ▸ hle) helapsed
    exact ⟨hfits, hfits.checkWords_eq hpos (hcapacity ▸ hle)⟩

/-- In every state that a limiter can get into, a change to any positive rate would hand over exactly
the tokens that it takes out, and all numbers fit into words. -/
theorem words_of_run (ho : Schedule.InOrder made actions now)
    (hrun : Schedule.run step (make made rate burst) actions = some crowd) :
    (∀ next n, next ≠ 0 → n ≤ max 1 burst.toNat →
        Bucket.Rebuilds now next (max 1 burst.toNat) n) ∧
      crowd.InWords now (max 1 burst.toNat) := by
  obtain ⟨hsound, hburst⟩ := sound_run ho hrun
  rw [← hburst]
  refine ⟨?_, inWords hsound⟩
  intro next n hnext hle
  exact Bucket.rebuilds hnext crowd.limiter.burst_pos hle

/-- The slowest bucket with the largest burst, after almost 292 years. A burst is granted, and another
one is asked for at once: the numbers come close to the largest word. -/
theorem words_of_slowest :
    ∃ crowd, Schedule.InOrder 0 [(2 ^ 63 - 1, Action.start 4294967295),
        (2 ^ 63 - 1, .turn 0 false), (2 ^ 63 - 1, .start 4294967295)] (2 ^ 63 - 1) ∧
      Schedule.run step (make 0 1 4294967295) [(2 ^ 63 - 1, .start 4294967295),
        (2 ^ 63 - 1, .turn 0 false), (2 ^ 63 - 1, .start 4294967295)] = some crowd ∧
      crowd.InWords (2 ^ 63 - 1) 4294967295 ∧
      crowd.asks (2 ^ 63 - 1) (.turn 1 false) =
        [(⟨0, 1000000000, 4294967295, some 13518339331854775807⟩, 4294967295)] := by
  have ho : Schedule.InOrder 0 [(2 ^ 63 - 1, Action.start 4294967295),
      (2 ^ 63 - 1, .turn 0 false), (2 ^ 63 - 1, .start 4294967295)] (2 ^ 63 - 1) := by
    simp [Schedule.InOrder]
  exact ⟨_, ho, rfl, (words_of_run ho rfl).2, rfl⟩

end Crowd

end Sluice
