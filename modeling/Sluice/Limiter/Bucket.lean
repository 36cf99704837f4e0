/-!
# Token buckets

A bucket lets through one byte per `interval` nanoseconds on average and saves up at most `capacity`
bytes while it is not used. It keeps no count of tokens but one instant, the *arrival*: the time at
which it would be full again. A request is granted while the arrival is near enough.

* `Bucket.check b now n` asks for `n` bytes at the instant `now`. It grants and moves the arrival,
  or refuses and says how long to wait, or finds that no wait would ever suffice.
* `Bucket.drain b now` takes out what is left, by requests for the capacity, half of it, a quarter
  of it and so on.
* `Bucket.holding b now n` takes bytes out of a full bucket until `n` are left.
-/

namespace Sluice

/-- A bucket of tokens, one token for each byte. Instants are in nanoseconds. -/
structure Bucket where
  /-- The instant at which the bucket was made. -/
  madeAt : Nat
  /-- The time in which the bucket gains one token. -/
  interval : Nat
  /-- The number of tokens in the full bucket. -/
  capacity : Nat
  /-- The time from `madeAt` to the instant at which the bucket is full again, once it was used. -/
  arrival : Option Nat := none
deriving DecidableEq, Repr

namespace Bucket

/-- The answer to a request for tokens. -/
inductive Verdict where
  /-- The tokens were taken out, which leaves the bucket `after`. -/
  | granted (after : Bucket)
  /-- The bucket holds too little; it holds enough after `wait` nanoseconds without other use. -/
  | refused (wait : Nat)
  /-- Not even the full bucket holds enough. -/
  | oversized
deriving DecidableEq, Repr

/-- The time in which an empty bucket gains all tokens but one. -/
def tolerance (b : Bucket) : Nat :=
  b.interval * (b.capacity - 1)

/-- The time since the bucket was made. -/
def elapsed (b : Bucket) (now : Nat) : Nat :=
  now - b.madeAt

/-- The arrival as seen at the instant `now`; an unused bucket is full now. -/
def base (b : Bucket) (now : Nat) : Nat :=
  b.arrival.getD (b.elapsed now)

/-- The earliest time after `madeAt` at which `n` tokens can be taken, as seen at `now`. -/
def earliest (b : Bucket) (now n : Nat) : Nat :=
  b.base now + b.interval * (n - 1) - b.tolerance

/-- Ask for `n` tokens at the instant `now`. -/
def check (b : Bucket) (now n : Nat) : Verdict :=
  if b.capacity < n then .oversized
  else if b.elapsed now < b.earliest now n then .refused (b.earliest now n - b.elapsed now)
  else .granted { b with arrival := some (max (b.base now) (b.elapsed now) + b.interval * n) }

/-- The bucket after a request, which is the same bucket unless the request was granted. -/
def debited (b : Bucket) (now n : Nat) : Bucket :=
  match b.check now n with
  | .granted after => after
  | _ => b

/-- Take out tokens by requests for `step`, half of it, a quarter of it and so on down to one.
The result is the number of tokens taken and the bucket without them. -/
def drainFrom (b : Bucket) (now step : Nat) : Nat × Bucket :=
  if step = 0 then (0, b)
  else
    match b.check now step with
    | .granted after =>
      let (taken, rest) := after.drainFrom now (step / 2)
      (step + taken, rest)
    | _ => b.drainFrom now (step / 2)
termination_by step
decreasing_by all_goals omega

/-- Take out what is left in the bucket, by requests for the capacity and its halvings. -/
def drain (b : Bucket) (now : Nat) : Nat × Bucket :=
  b.drainFrom now b.capacity

/-- A full bucket after all tokens but `n` were taken out. -/
def holding (b : Bucket) (now n : Nat) : Bucket :=
  if n < b.capacity then b.debited now (b.capacity - n) else b

/-- A request never changes when the bucket was made, how fast it fills and what it holds. -/
theorem check_granted {b after : Bucket} {now n : Nat} (h : b.check now n = .granted after) :
    after.madeAt = b.madeAt ∧ after.interval = b.interval ∧ after.capacity = b.capacity := by
  unfold check at h
  split at h
  · cases h
  · split at h
    · cases h
    · cases h
      exact ⟨rfl, rfl, rfl⟩

/-- A request is oversized exactly when it is larger than the capacity. -/
theorem check_eq_oversized_iff {b : Bucket} {now n : Nat} :
    b.check now n = .oversized ↔ b.capacity < n := by
  unfold check
  split <;> rename_i h
  · simp [h]
  · split <;> simp [Nat.le_of_not_lt h]

end Bucket

end Sluice
