import Mathlib.Order.Bounds.Basic
import Sluice.Proofs.Limiter.Crowd

/-!
# Waiting no longer than necessary

An acquire that is refused sets its timer by the bucket that refused it. Meanwhile others are granted
bytes, the bucket is replaced, and time passes. This file shows that the timer is never late: an
acquire that sleeps was refused by the bucket that is still there, and its timer goes off before that
bucket could grant what the acquire waits for.

* `Limiter.Grants l now n`: the limiter would grant `n` bytes. `Limiter.Sound.grants_later_iff` says
  that a refused request is granted when the wait is over, and not before;
* `Acquire.OnTime a l now`: the acquire is not asleep for too long. Every action of a crowd keeps
  this for every acquire;
* `Crowd.lastPeriod`: the period of constant rate that the last change of the rate has begun.
  `Limiter.IsOf l period` says that the bucket of the limiter was made by this change;
* `Crowd.waits_of_run`: in a crowd in which nobody has anything to do, every acquire sleeps for the
  bucket that the last change of the rate has made, and not for too long.
-/

namespace Sluice

open Timer (grain roundUp)

namespace Limiter

variable {l after : Limiter} {now later n wait : ℕ}

/-- The limiter would grant `n` bytes. -/
def Grants (l : Limiter) (now n : ℕ) : Prop := ∃ after, l.debit now n = .granted after

theorem Sound.grants_iff (hl : l.Sound now) (hn : 0 < n) : l.Grants now n ↔ n ≤ l.level now := by
  refine ⟨fun ⟨after, h⟩ => ?_, hl.debit_of_le_level hn⟩
  rcases hl.debit_cases hn with ⟨-, h'⟩ | ⟨-, -, h'⟩ | ⟨-, -, hle, -⟩ | ⟨-, -, -, wait, h', -⟩
  · simp [h] at h'
  · simp [h] at h'
  · exact hle
  · simp [h] at h'

theorem Sound.rate_eq_zero_of_blocked (hl : l.Sound now) (hn : 0 < n)
    (h : l.debit now n = .blocked) : l.rate = 0 := by
  rcases hl.debit_cases hn with ⟨hr, -⟩ | ⟨-, -, h'⟩ | ⟨-, -, -, after, h'⟩ | ⟨-, -, -, wait, h', -⟩
  · exact hr
  all_goals simp [h] at h'

/-- A refused request is granted when the wait is over, and not before, if nothing else happens. -/
theorem Sound.grants_later_iff (hl : l.Sound now) (hn : 0 < n)
    (h : l.debit now n = .refused wait) (hle : now ≤ later) :
    l.Grants later n ↔ now + wait ≤ later := by
  rw [(hl.mono hle).grants_iff hn, hl.level_later hle]
  rcases hl.debit_cases hn with ⟨-, h'⟩ | ⟨-, -, h'⟩ | ⟨-, -, -, after, h'⟩ |
      ⟨hr, hburst, hlt, wait', h', hwait⟩
  · simp [h] at h'
  · simp [h] at h'
  · simp [h] at h'
  obtain rfl : wait = wait' := by simpa [h] using h'
  have hi : (0 : ℚ) < interval l.rate := by exact_mod_cast interval_pos hr
  have hburst' : (n : ℚ) ≤ l.burst := by exact_mod_cast hburst
  -- what the level lacks is gained in the wait, and the burst does not cut it off
  rw [if_neg hr, le_min_iff, and_iff_right hburst', ← sub_le_iff_le_add', le_div_iff₀ hi, ← hwait,
    le_sub_iff_add_le', ← Nat.cast_add, Nat.cast_le]

/-- What a limiter would grant after a debit it would grant without it. -/
theorem Debits.grants {m : ℕ} (hl : l.Sound now) (hd : l.Debits now m after) (hn : 0 < n)
    (hle : now ≤ later) (h : after.Grants later n) : l.Grants later n := by
  have hafter := hd.sound hl
  rw [(hafter.mono hle).grants_iff hn, hafter.level_later hle, hd.level_eq hl, hd.rate_eq,
    hd.burst_eq] at h
  rw [(hl.mono hle).grants_iff hn, hl.level_later hle]
  -- at every later instant the debited limiter is at the lower level
  refine h.trans ?_
  split
  · exact le_rfl
  · refine min_le_min le_rfl ?_
    have : (0 : ℚ) ≤ m := m.cast_nonneg
    linarith

end Limiter

namespace Acquire

variable {a next : Acquire} {l after : Limiter} {now later n : ℕ} {cancelled : Bool}

/-- An acquire that sleeps waits for some bytes, at this bucket or an earlier one. If it is this one,
then the acquire waits for another rate, or its timer goes off at the first whole millisecond after
some instant before which the limiter would not grant the next chunk. -/
structure OnTime (a : Acquire) (l : Limiter) (now : ℕ) : Prop where
  remaining_pos : a.sleep ≠ none → 0 < a.remaining
  revision_le : ∀ sleep, a.sleep = some sleep → sleep.revision ≤ l.revision
  current : ∀ sleep, a.sleep = some sleep → sleep.revision = l.revision →
    l.rate = 0 ∨ ∃ instant, sleep.deadline = some (roundUp instant) ∧
      ∀ later, now ≤ later → l.Grants later (a.chunk l) → instant ≤ later

/-- An acquire that is about to ask does not sleep. -/
theorem onTime_of_awake (remaining : ℕ) (l : Limiter) (now : ℕ) : OnTime ⟨remaining, none⟩ l now where
  remaining_pos h := absurd rfl h
  revision_le _ h := by cases h
  current _ h := by cases h

namespace OnTime

theorem mono (h : a.OnTime l now) (hle : now ≤ later) : a.OnTime l later where
  remaining_pos := h.remaining_pos
  revision_le := h.revision_le
  current sleep hsleep hrevision := by
    refine (h.current sleep hsleep hrevision).imp_right ?_
    rintro ⟨instant, hdeadline, hgrants⟩
    exact ⟨instant, hdeadline, fun t ht => hgrants t (hle.trans ht)⟩

/-- Bytes that are granted to somebody else only put off what the acquire waits for. -/
theorem debits (h : a.OnTime l now) (hl : l.Sound now) (hd : l.Debits now n after) :
    a.OnTime after now where
  remaining_pos := h.remaining_pos
  revision_le := by
    rw [hd.revision_eq]
    exact h.revision_le
  current sleep hsleep hrevision := by
    have hpos := h.remaining_pos (by simp [hsleep])
    have hchunk : a.chunk after = a.chunk l := by rw [chunk, chunk, hd.burst_eq]
    rw [hd.revision_eq] at hrevision
    rw [hd.rate_eq, hchunk]
    refine (h.current sleep hsleep hrevision).imp_right ?_
    rintro ⟨instant, hdeadline, hgrants⟩
    exact ⟨instant, hdeadline, fun t ht hgrant =>
      hgrants t ht (hd.grants hl (chunk_pos hpos l) ht hgrant)⟩

/-- A new bucket has a revision of its own, so that whoever sleeps for another one wakes up. -/
theorem setRate (h : a.OnTime l now) (rate : UInt64) : a.OnTime (l.setRate now rate) now := by
  by_cases hr : l.rate = rate
  · rw [← hr, Limiter.setRate_rate]
    exact h
  · have hrevision : (l.setRate now rate).revision = l.revision + 1 := by
      rw [Limiter.setRate_of_ne hr]
    refine ⟨h.remaining_pos, fun sleep hsleep => ?_, fun sleep hsleep hcurrent => ?_⟩
    · rw [hrevision]
      exact (h.revision_le sleep hsleep).trans (Nat.le_succ _)
    · -- the acquire sleeps for an earlier bucket, so that nothing is claimed about its timer
      have := h.revision_le sleep hsleep
      omega

/-- After a request an acquire that goes on is on time. -/
theorem attempt (h : a.OnTime l now) (hl : l.Sound now)
    (hnext : (a.attempt l cancelled now).1 = .waiting next) :
    next.OnTime (a.attempt l cancelled now).2 now := by
  rcases waiting_of_attempt hnext with ⟨-, -, rfl, hlimiter⟩ |
      ⟨-, -, after, hdebit, rfl, hlimiter⟩ | ⟨hpos, -, wait, hdebit, rfl, hlimiter⟩ |
      ⟨hpos, -, hdebit, rfl, hlimiter⟩
  all_goals rw [hlimiter]
  · exact h
  · exact onTime_of_awake ..
  · -- the wait is computed from the bucket that is there
    refine ⟨fun _ => hpos, ?_, ?_⟩
    · rintro _ ⟨⟩
      exact le_rfl
    · rintro _ ⟨⟩ -
      exact .inr ⟨now + wait, rfl, fun later hle hgrants =>
        (hl.grants_later_iff (chunk_pos hpos l) hdebit hle).1 hgrants⟩
  · refine ⟨fun _ => hpos, ?_, ?_⟩
    · rintro _ ⟨⟩
      exact le_rfl
    · rintro _ ⟨⟩ -
      exact .inl (hl.rate_eq_zero_of_blocked (chunk_pos hpos l) hdebit)

end OnTime

end Acquire

namespace Crowd

variable {crowd next : Crowd} {made now : ℕ} {action : Action} {a : Acquire}

theorem mem_of_acquire? {number : ℕ} (h : crowd.acquire? number = some a) :
    some a ∈ crowd.acquires :=
  List.mem_of_getElem? (Option.join_eq_some_iff.1 h)

/-- No acquire has anything to do. -/
def IsQuiet (crowd : Crowd) (now : ℕ) : Prop :=
  ∀ number a, crowd.acquire? number = some a → a.isAwake crowd.limiter now = false

instance (crowd : Crowd) (now : ℕ) : Decidable (crowd.IsQuiet now) :=
  decidable_of_iff
    (∀ acquire ∈ crowd.acquires, acquire.elim false (·.isAwake crowd.limiter now) = false) <| by
    constructor
    · exact fun h number a ha => h _ (mem_of_acquire? ha)
    · intro h acquire hmem
      obtain ⟨number, hnumber⟩ := List.mem_iff_getElem?.1 hmem
      cases acquire with
      | none => rfl
      | some a => exact h number a (by rw [acquire?, hnumber]; rfl)

/-- The limiter is sound, and no acquire sleeps for too long. -/
structure Punctual (crowd : Crowd) (now : ℕ) : Prop where
  sound : crowd.limiter.Sound now
  onTime : ∀ a, some a ∈ crowd.acquires → a.OnTime crowd.limiter now

/-- Every action leaves every acquire on time. -/
theorem Punctual.step (h : crowd.Punctual now) (hs : crowd.step now action = some next) :
    next.Punctual now where
  sound := ((change_step hs).sound h.sound).1
  onTime a ha := by
    cases action with
    | start bytes =>
      cases hs
      rcases List.mem_append.1 ha with ha | ha
      · exact h.onTime a ha
      · obtain rfl : a = ⟨bytes, none⟩ := by simpa using ha
        exact Acquire.onTime_of_awake ..
    | drop number =>
      cases hs
      have ha := (List.mem_or_eq_of_mem_set ha).resolve_right nofun
      exact h.onTime a ha
    | setRate rate =>
      cases hs
      exact (h.onTime a ha).setRate rate
    | turn number cancelled =>
      obtain ⟨asking, hasking, rfl⟩ := Option.map_eq_some_iff.1 hs
      have hdebits := asking.debits_attempt crowd.limiter cancelled now
      -- whoever asks is on time afterwards, and the others see at most a debit
      rcases List.mem_or_eq_of_mem_set ha with ha | hremains
      · exact (h.onTime a ha).debits h.sound hdebits
      · cases hprogress : (asking.attempt crowd.limiter cancelled now).1 with
        | waiting next =>
          simp only [hprogress, remains] at hremains
          cases hremains
          exact (h.onTime asking (mem_of_acquire? hasking)).attempt h.sound hprogress
        | granted => simp [hprogress, remains] at hremains
        | failed error => simp [hprogress, remains] at hremains

theorem Punctual.run {last : ℕ} {actions : Schedule Action} (h : crowd.Punctual now)
    (ho : Schedule.InOrder now actions last)
    (hrun : Schedule.run Crowd.step crowd actions = some next) : next.Punctual last :=
  Schedule.run_keeps (fun now crowd => crowd.Punctual now)
    (fun _ _ _ hle h => ⟨h.sound.mono hle, fun a ha => (h.onTime a ha).mono hle⟩)
    (fun _ _ _ _ h hs => h.step hs) ho h hrun

theorem punctual_make (now : ℕ) (rate : UInt64) (burst : UInt32) :
    (make now rate burst).Punctual now :=
  ⟨Limiter.sound_make now rate burst, by simp [make]⟩

/-! ## The last change of the rate -/

/-- A period of constant rate. -/
structure Period where
  /-- The instant at which it began. -/
  since : ℕ
  /-- The rate. -/
  rate : UInt64
  /-- The number of changes of the rate before. -/
  number : ℕ

/-- The period after an action. Only a call that sets another rate begins a new one. -/
def Period.after (period : Period) (now : ℕ) : Action → Period
  | .setRate rate => if period.rate = rate then period else ⟨now, rate, period.number + 1⟩
  | _ => period

/-- The period that goes on after a schedule, at a limiter made at `made` for `rate`. -/
def lastPeriod (made : ℕ) (rate : UInt64) (actions : Schedule Action) : Period :=
  actions.foldl (fun period x => period.after x.1 x.2) ⟨made, rate, 0⟩

end Crowd

namespace Limiter

variable {l after : Limiter} {now n : ℕ} {period : Crowd.Period}

/-- The rate and the bucket of the limiter are those of the period: the bucket was made when it
began. -/
structure IsOf (l : Limiter) (period : Crowd.Period) : Prop where
  rate_eq : l.rate = period.rate
  revision_eq : l.revision = period.number
  madeAt_eq : ∀ b, l.bucket = some b → b.madeAt = period.since
  interval_eq : ∀ b, l.bucket = some b → b.interval = interval period.rate

theorem isOf_make (made : ℕ) (rate : UInt64) (burst : UInt32) :
    (make made rate burst).IsOf ⟨made, rate, 0⟩ := by
  refine ⟨rfl, rfl, fun b hb => ?_, fun b hb => ?_⟩
  all_goals
    simp only [make, fullBucket] at hb
    split at hb <;> cases hb
    rfl

/-- A debit leaves the bucket in its place. -/
theorem IsOf.debits (h : l.IsOf period) (hd : l.Debits now n after) : after.IsOf period := by
  obtain ⟨-, rfl⟩ | ⟨-, hdebit⟩ := hd
  · exact h
  · obtain ⟨b, b', hb, hcheck, rfl⟩ := debit_eq_granted hdebit
    obtain ⟨hmade, hinterval, -⟩ := Bucket.check_granted hcheck
    refine ⟨h.rate_eq, h.revision_eq, ?_, ?_⟩
    · rintro _ ⟨⟩
      exact hmade.trans (h.madeAt_eq b hb)
    · rintro _ ⟨⟩
      exact hinterval.trans (h.interval_eq b hb)

/-- Another rate begins a new period with a bucket of its own. -/
theorem IsOf.setRate (h : l.IsOf period) (now : ℕ) (rate : UInt64) :
    (l.setRate now rate).IsOf (period.after now (.setRate rate)) := by
  rw [Crowd.Period.after, ← h.rate_eq]
  split
  next hr =>
    rw [← hr, setRate_rate]
    exact h
  next hr =>
    rw [setRate_of_ne hr]
    refine ⟨rfl, congrArg (· + 1) h.revision_eq, fun b hb => ?_, fun b hb => ?_⟩
    -- the new bucket is made full, and then emptied to what the old one held
    all_goals
      obtain ⟨full, hfull, rfl⟩ := Option.map_eq_some_iff.1 hb
      obtain ⟨hmade, hinterval, -⟩ := full.holding_keeps now (l.available now)
      rw [fullBucket] at hfull
      split at hfull <;> cases hfull
    · exact hmade
    · exact hinterval

end Limiter

namespace Crowd

variable {crowd next : Crowd} {made now : ℕ} {action : Action} {a : Acquire} {period : Period}

/-- Whatever is done, the bucket is the one of the period that goes on. -/
theorem isOf_step (h : crowd.limiter.IsOf period) (hs : crowd.step now action = some next) :
    next.limiter.IsOf (period.after now action) := by
  cases action with
  | start bytes | drop number =>
    cases hs
    exact h
  | setRate rate =>
    cases hs
    exact h.setRate now rate
  | turn number cancelled =>
    obtain ⟨asking, -, rfl⟩ := Option.map_eq_some_iff.1 hs
    exact h.debits (asking.debits_attempt crowd.limiter cancelled now)

theorem isOf_run {actions : Schedule Action} (h : crowd.limiter.IsOf period)
    (hrun : Schedule.run step crowd actions = some next) :
    next.limiter.IsOf (actions.foldl (fun period x => period.after x.1 x.2) period) := by
  induction actions generalizing crowd period with
  | nil =>
    cases hrun
    exact h
  | cons x rest ih =>
    rw [Schedule.run] at hrun
    split at hrun
    · cases hrun
    next after hafter => exact ih (isOf_step h hafter) hrun

/-- The bucket of a crowd is the one that the last change of the rate has made. -/
theorem isOf_lastPeriod {rate : UInt64} {burst : UInt32} {actions : Schedule Action}
    (hrun : Schedule.run step (make made rate burst) actions = some crowd) :
    crowd.limiter.IsOf (lastPeriod made rate actions) :=
  isOf_run (Limiter.isOf_make made rate burst) hrun

/-! ## Nobody oversleeps -/

/-- The acquire sleeps for the bucket that is there. At a rate above `0` this bucket refuses the next
chunk now, and the timer goes off no later than the first whole millisecond at which the bucket would
grant it. -/
structure Waits (l : Limiter) (now : ℕ) (a : Acquire) (sleep : Sleep) : Prop where
  sleep_eq : a.sleep = some sleep
  revision_eq : sleep.revision = l.revision
  remaining_pos : 0 < a.remaining
  due : l.rate = 0 ∨ ∃ wait deadline first, l.debit now (a.chunk l) = .refused wait ∧
    sleep.deadline = some deadline ∧
    IsLeast {later | now ≤ later ∧ grain ∣ later ∧ l.Grants later (a.chunk l)} first ∧
    deadline ≤ first

/-- Who has nothing to do waits for the bucket that is there, and not for too long. -/
theorem Punctual.waits (h : crowd.Punctual now) (hnow : grain ∣ now) (ha : some a ∈ crowd.acquires)
    (hasleep : a.isAwake crowd.limiter now = false) : ∃ sleep, Waits crowd.limiter now a sleep := by
  have honTime := h.onTime a ha
  unfold Acquire.isAwake at hasleep
  split at hasleep
  · cases hasleep
  next sleep hsleep =>
    simp only [Bool.or_eq_false_iff, bne_eq_false_iff_eq] at hasleep
    obtain ⟨hrevision, hlate⟩ := hasleep
    have hpos := honTime.remaining_pos (by simp [hsleep])
    have hpos' := Acquire.chunk_pos hpos crowd.limiter
    refine ⟨sleep, hsleep, hrevision, hpos, ?_⟩
    obtain hrate | ⟨instant, hdeadline, hgrants⟩ := honTime.current sleep hsleep hrevision
    · exact .inl hrate
    -- now is a whole millisecond before the timer goes off, so that nothing would be granted
    have hnot : ¬ crowd.limiter.Grants now (a.chunk crowd.limiter) := fun hgrant => by
      have hle := (Timer.roundUp_le_iff hnow).2 (hgrants now le_rfl hgrant)
      rw [hdeadline, Option.any_some] at hlate
      exact of_decide_eq_false hlate hle
    rcases h.sound.debit_cases hpos' with ⟨hrate, -⟩ | ⟨-, hburst, -⟩ | ⟨-, -, -, hgrant⟩ |
        ⟨-, -, -, wait, hdebit, -⟩
    · exact .inl hrate
    · exact absurd hburst (Nat.min_le_right _ _).not_gt
    · exact absurd hgrant hnot
    · have hgrants' := fun later (hle : now ≤ later) => h.sound.grants_later_iff hpos' hdebit hle
      have hle : now ≤ roundUp (now + wait) := (Nat.le_add_right _ _).trans (Timer.le_roundUp _)
      refine .inr ⟨wait, _, roundUp (now + wait), hdebit, hdeadline, ⟨?_, ?_⟩, ?_⟩
      · exact ⟨hle, Timer.grain_dvd_roundUp _, (hgrants' _ hle).2 (Timer.le_roundUp _)⟩
      · rintro later ⟨hlater, hdvd, hgrant⟩
        exact (Timer.roundUp_le_iff hdvd).2 ((hgrants' later hlater).1 hgrant)
      · exact (Timer.roundUp_le_iff (Timer.grain_dvd_roundUp _)).2
          (hgrants _ hle ((hgrants' _ hle).2 (Timer.le_roundUp _)))

/-- In every state of a run the bucket is the one that the last change of the rate has made. If no
acquire has anything to do, at a whole millisecond, each acquire that is still going on sleeps for
this bucket; at a rate above `0` the bucket refuses the next chunk, and the timer goes off no later
than the first whole millisecond at which the bucket would grant it. -/
theorem waits_of_run {rate : UInt64} {burst : UInt32} {actions : Schedule Action} {number : ℕ}
    (ho : Schedule.InOrder made actions now)
    (hrun : Schedule.run step (make made rate burst) actions = some crowd)
    (hnow : grain ∣ now) (hquiet : crowd.IsQuiet now) (ha : crowd.acquire? number = some a) :
    crowd.limiter.IsOf (lastPeriod made rate actions) ∧
      ∃ sleep, Waits crowd.limiter now a sleep := by
  have hpunctual := (punctual_make made rate burst).run ho hrun
  exact ⟨isOf_lastPeriod hrun, hpunctual.waits hnow (mem_of_acquire? ha) (hquiet number a ha)⟩

/-- Two acquires wait at 1000 bytes per second; then the rate is set to `0`, later to 4000, and each
time both ask again. -/
def pausedAndResumed : Schedule Action :=
  [(0, .start 800), (0, .start 100), (0, .turn 0 false), (0, .turn 0 false), (0, .turn 1 false),
    (10000000, .setRate 0), (10000000, .turn 1 false), (10000000, .turn 0 false),
    (50000000, .setRate 4000), (50000000, .turn 0 false), (50000000, .turn 1 false)]

theorem waits_of_pausedAndResumed :
    ∃ crowd a sleep, Schedule.InOrder 0 pausedAndResumed 60000000 ∧
      Schedule.run step (make 0 1000 500) pausedAndResumed = some crowd ∧
      crowd.IsQuiet 60000000 ∧ crowd.acquire? 1 = some a ∧
      crowd.limiter.IsOf ⟨50000000, 4000, 2⟩ ∧ Waits crowd.limiter 60000000 a sleep := by
  have ho : Schedule.InOrder 0 pausedAndResumed 60000000 := by
    simp [pausedAndResumed, Schedule.InOrder]
  have hquiet : (Schedule.run step (make 0 1000 500) pausedAndResumed).any (fun crowd =>
      decide (crowd.IsQuiet 60000000) && (crowd.acquire? 1).isSome) = true := by
    decide +kernel
  obtain ⟨crowd, hrun, hquiet⟩ := (Option.any_eq_true _ _).1 hquiet
  obtain ⟨hquiet, hsome⟩ := Bool.and_eq_true_iff.1 hquiet
  obtain ⟨a, ha⟩ := Option.isSome_iff_exists.1 hsome
  have hquiet := of_decide_eq_true hquiet
  obtain ⟨hcurrent, sleep, hwaits⟩ := waits_of_run ho hrun (by decide) hquiet ha
  exact ⟨crowd, a, sleep, ho, hrun, hquiet, ha, hcurrent, hwaits⟩

end Crowd

end Sluice
