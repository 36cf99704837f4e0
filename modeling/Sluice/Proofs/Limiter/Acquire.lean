import Sluice.Limiter.Acquire
import Sluice.Proofs.Limiter.Level

/-!
# What an acquire pays

One request of an acquire makes one debit at most, of as many bytes as the acquire has fewer to go
afterwards.

* `Acquire.paid a progress`: the bytes that a request paid for;
* `Acquire.debits_attempt`: they are what the limiter debited;
* `Acquire.waiting_of_attempt`: in which ways an acquire goes on after a request;
* `Acquire.attempt_of_le_level`: a request within the level is granted at once;
* `Acquire.effort a l now`: a bound on the requests that the acquire can make at the instant `now`,
  which `Acquire.effort_attempt` shows to sink with each of them.
-/

namespace Sluice.Acquire

/-- The bytes that a request paid for: those by which the acquire has fewer to go. -/
def paid (a : Acquire) : Progress → ℕ
  | .granted => a.remaining
  | .failed _ => 0
  | .waiting next => a.remaining - next.remaining

/-- A request debits at the limiter what it pays, and nothing else happens to the limiter. -/
theorem debits_attempt (a : Acquire) (l : Limiter) (cancelled : Bool) (now : ℕ) :
    l.Debits now (a.paid (a.attempt l cancelled now).1) (a.attempt l cancelled now).2 := by
  have hchunk : a.remaining ≠ 0 → 0 < a.chunk l := fun h =>
    Nat.lt_min.2 ⟨Nat.pos_of_ne_zero h, l.burst_pos⟩
  have hle : a.chunk l ≤ a.remaining := Nat.min_le_left _ _
  unfold attempt
  split
  next h => exact .inl ⟨h, rfl⟩
  next hne =>
    split
    · exact .inl ⟨rfl, rfl⟩
    · split
      · simp only
        split
        next after hdebit =>
          -- all that is left was paid for, or one chunk of it
          split
          next hall => exact .inr ⟨Nat.pos_of_ne_zero hne, by rwa [paid, hall]⟩
          next =>
            have hpaid : a.remaining - (a.remaining - a.chunk l) = a.chunk l := by omega
            exact .inr ⟨by rw [paid, hpaid]; exact hchunk hne, by rwa [paid, hpaid]⟩
        · exact .inl ⟨Nat.sub_self _, rfl⟩
        · exact .inl ⟨Nat.sub_self _, rfl⟩
        · exact .inl ⟨rfl, rfl⟩
      · exact .inl ⟨Nat.sub_self _, rfl⟩

/-- The next chunk is not empty. -/
theorem chunk_pos {a : Acquire} (h : 0 < a.remaining) (l : Limiter) : 0 < a.chunk l :=
  Nat.lt_min.2 ⟨h, l.burst_pos⟩

/-- An acquire that goes on after a request was asleep and stays so, or was granted one chunk of
several, or sleeps now: until the wait is over, or at rate `0` without end. -/
theorem waiting_of_attempt {a next : Acquire} {l : Limiter} {cancelled : Bool} {now : ℕ}
    (h : (a.attempt l cancelled now).1 = .waiting next) :
    cancelled = false ∧ a.isAwake l now = false ∧ next = a ∧ (a.attempt l cancelled now).2 = l ∨
      0 < a.remaining ∧ a.isAwake l now = true ∧ (∃ after,
        l.debit now (a.chunk l) = .granted after ∧ next = ⟨a.remaining - a.chunk l, none⟩ ∧
          (a.attempt l cancelled now).2 = after) ∨
      0 < a.remaining ∧ a.isAwake l now = true ∧ (∃ wait,
        l.debit now (a.chunk l) = .refused wait ∧
          next = ⟨a.remaining, some ⟨l.revision, some (Timer.roundUp (now + wait))⟩⟩ ∧
          (a.attempt l cancelled now).2 = l) ∨
      0 < a.remaining ∧ a.isAwake l now = true ∧ l.debit now (a.chunk l) = .blocked ∧
        next = ⟨a.remaining, some ⟨l.revision, none⟩⟩ ∧ (a.attempt l cancelled now).2 = l := by
  unfold attempt at h ⊢
  split at h
  · cases h
  next hremaining =>
    have hpos := Nat.pos_of_ne_zero hremaining
    rw [if_neg hremaining]
    split at h
    · cases h
    next hcancelled =>
      rw [if_neg hcancelled]
      split at h
      next hawake =>
        rw [if_pos hawake]
        simp only at h ⊢
        split at h
        next after hdebit =>
          split at h
          · cases h
          next hmore =>
            cases h
            rw [if_neg hmore]
            exact .inr (.inl ⟨hpos, hawake, after, hdebit, rfl, rfl⟩)
        next wait hdebit =>
          cases h
          exact .inr (.inr (.inl ⟨hpos, hawake, wait, hdebit, rfl, rfl⟩))
        next hdebit =>
          cases h
          exact .inr (.inr (.inr ⟨hpos, hawake, hdebit, rfl, rfl⟩))
        · cases h
      next hasleep =>
        rw [if_neg hasleep]
        cases h
        exact .inl ⟨by simpa using hcancelled, by simpa using hasleep, rfl, rfl⟩

/-- An acquire that goes on never has more bytes to go than before. -/
theorem remaining_le_of_attempt {a next : Acquire} {l : Limiter} {cancelled : Bool} {now : ℕ}
    (h : (a.attempt l cancelled now).1 = .waiting next) : next.remaining ≤ a.remaining := by
  rcases waiting_of_attempt h with ⟨-, -, rfl, -⟩ | ⟨-, -, _, -, rfl, -⟩ | ⟨-, -, _, -, rfl, -⟩ |
      ⟨-, -, -, rfl, -⟩
  · exact le_rfl
  · exact Nat.sub_le _ _
  · exact le_rfl
  · exact le_rfl

/-- An acquire that goes on has something left to be granted. -/
theorem remaining_pos_of_attempt {a next : Acquire} {l : Limiter} {cancelled : Bool} {now : ℕ}
    (h : (a.attempt l cancelled now).1 = .waiting next) : 0 < next.remaining := by
  unfold attempt at h
  split at h
  · cases h
  next hremaining =>
    have hpos := Nat.pos_of_ne_zero hremaining
    split at h
    · cases h
    · split at h
      · simp only at h
        split at h
        · split at h
          · cases h
          next hmore =>
            -- one chunk was granted, which is not all
            cases h
            have hle : a.chunk l ≤ a.remaining := Nat.min_le_left _ _
            simp only
            omega
        · cases h
          exact hpos
        · cases h
          exact hpos
        · cases h
      · cases h
        exact hpos

/-- An acquire that is cancelled with something left is granted nothing. -/
theorem attempt_of_cancelled {a : Acquire} (h : 0 < a.remaining) (l : Limiter) (now : ℕ) :
    a.attempt l true now = (.failed .cancelled, l) := by
  rw [attempt, if_neg h.ne', if_pos rfl]

/-- A request within the burst and the level is granted at once. -/
theorem attempt_of_le_level {l : Limiter} {now n : ℕ} (hl : l.Sound now) (hn : 0 < n)
    (hburst : n ≤ l.burst) (hlevel : (n : ℚ) ≤ l.level now) :
    ∃ after, (Acquire.mk n none).attempt l false now = (.granted, after) ∧
      l.Debits now n after := by
  obtain ⟨after, hdebit⟩ := hl.debit_of_le_level hn hlevel
  refine ⟨after, ?_, .inr ⟨hn, hdebit⟩⟩
  have hchunk : (Acquire.mk n none).chunk l = n := Nat.min_eq_left hburst
  simp [attempt, isAwake, hchunk, hdebit, hn.ne']

/-! ## Requests to come -/

/-- A bound on the requests that an acquire can make at an instant: two for each byte, of which one
is refused, and one more unless it is asleep. -/
def effort (a : Acquire) (l : Limiter) (now : ℕ) : ℕ :=
  2 * a.remaining + (a.isAwake l now).toNat

/-- Of a limiter, an acquire that sleeps knows the revision only. -/
theorem isAwake_congr (a : Acquire) {l l' : Limiter} (h : l'.revision = l.revision) (now : ℕ) :
    a.isAwake l' now = a.isAwake l now := by
  rw [isAwake, isAwake, h]

theorem effort_le (a : Acquire) (l l' : Limiter) (now : ℕ) :
    a.effort l' now ≤ a.effort l now + 1 := by
  have hle := Bool.toNat_le (a.isAwake l' now)
  simp only [effort]
  omega

/-- Until its deadline an acquire is asleep, as long as the limiter stays the same. -/
theorem isAwake_of_lt {l : Limiter} {now remaining deadline : ℕ} (h : now < deadline) :
    isAwake ⟨remaining, some ⟨l.revision, some deadline⟩⟩ l now = false := by
  simp [isAwake, h]

/-- After a request an acquire that goes on has fewer bytes to go, or was awake and is asleep. -/
theorem lt_or_asleep_of_attempt {a next : Acquire} {l : Limiter} {cancelled : Bool} {now : ℕ}
    (hawake : cancelled ∨ a.isAwake l now)
    (h : (a.attempt l cancelled now).1 = .waiting next) :
    next.remaining < a.remaining ∨ next.remaining = a.remaining ∧ a.isAwake l now = true ∧
      next.isAwake (a.attempt l cancelled now).2 now = false := by
  rcases waiting_of_attempt h with ⟨hcancelled, hasleep, -⟩ |
      ⟨hpos, -, after, -, rfl, -⟩ | ⟨-, hawake, wait, hdebit, rfl, hlimiter⟩ |
      ⟨-, hawake, -, rfl, hlimiter⟩
  · simp [hcancelled, hasleep] at hawake
  · -- one chunk is granted, which is not empty
    have hchunk := chunk_pos hpos l
    have hle : a.chunk l ≤ a.remaining := Nat.min_le_left _ _
    exact .inl (by simp only; omega)
  · -- the wait is not zero, so the timer goes off later
    have hlate : now < Timer.roundUp (now + wait) :=
      (Nat.lt_add_of_pos_right (Limiter.pos_of_debit_eq_refused hdebit)).trans_le
        (Timer.le_roundUp _)
    rw [hlimiter]
    exact .inr ⟨rfl, hawake, isAwake_of_lt hlate⟩
  · rw [hlimiter]
    exact .inr ⟨rfl, hawake, by simp [isAwake]⟩

/-- Every request of an acquire that goes on takes off effort. -/
theorem effort_attempt {a next : Acquire} {l : Limiter} {cancelled : Bool} {now : ℕ}
    (hawake : cancelled ∨ a.isAwake l now)
    (h : (a.attempt l cancelled now).1 = .waiting next) :
    next.effort (a.attempt l cancelled now).2 now < a.effort l now := by
  have hle := Bool.toNat_le (next.isAwake (a.attempt l cancelled now).2 now)
  rcases lt_or_asleep_of_attempt hawake h with hless | ⟨hsame, hbefore, hafter⟩
  · simp only [effort]
    omega
  · simp [effort, hsame, hbefore, hafter]

end Sluice.Acquire
