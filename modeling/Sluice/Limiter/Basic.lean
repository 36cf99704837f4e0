import Sluice.Limits
import Sluice.Limiter.Bucket

/-!
# Limiters

A limiter bounds the bytes per second by a bucket of tokens. Its rate can be changed at any time: the
tokens saved up so far move to a new bucket, so that a change of rate lets no extra burst through.
At rate `0` there is no bucket and nothing passes.

* `Limiter.make now rate burst` is a limiter with a full bucket.
* `Limiter.setRate l now rate` replaces the bucket unless the rate is the same.
* `Limiter.debit l now n` asks the current bucket for `n` bytes.
-/

namespace Sluice

/-- The bytes that a limiter lets through at once after a pause, if nothing else is said. It is also
the most that a forwarder reads at once. -/
def chunkSize : Nat := 32768

/-- A limit on the bytes per second that can be changed while it is in use. -/
structure Limiter where
  /-- The bytes per second. -/
  rate : UInt64
  /-- The bytes that pass at once after a long pause. -/
  burst : Nat
  /-- The bucket that is asked, or none at rate `0`. -/
  bucket : Option Bucket
  /-- How many times the bucket was replaced. -/
  revision : Nat
  /-- At least one byte can pass. -/
  burst_pos : 0 < burst
  /-- The burst is a number of 32 bits. -/
  burst_lt : burst < UInt32.size
deriving DecidableEq

namespace Limiter

/-- The nanoseconds that a bucket of the rate takes to gain one token. Rates above `maxRate` count
as `maxRate`. -/
def interval (rate : UInt64) : Nat :=
  1000000000 / (min rate maxRate).toNat

/-- A full bucket for the rate, or none for rate `0`. -/
def fullBucket (now : Nat) (rate : UInt64) (burst : Nat) : Option Bucket :=
  if rate = 0 then none else some ⟨now, interval rate, burst, none⟩

/-- A limiter with a full bucket. A burst of `0` counts as `1`. -/
def make (now : Nat) (rate : UInt64) (burst : UInt32) : Limiter where
  rate := rate
  burst := max 1 burst.toNat
  bucket := fullBucket now rate (max 1 burst.toNat)
  revision := 0
  burst_pos := by omega
  burst_lt := Nat.max_lt.2 ⟨by decide, burst.toNat_lt_size⟩

/-- A limiter whose burst is one chunk. -/
def ofRate (now : Nat) (rate : UInt64) : Limiter :=
  make now rate (.ofNat chunkSize)

/-- The tokens that move to the next bucket when this one is replaced. -/
def available (l : Limiter) (now : Nat) : Nat :=
  match l.bucket with
  | none => 0
  | some bucket => (bucket.drain now).1

/-- Change the rate. The tokens of the old bucket move to the new one; nothing happens when the rate
stays the same. The rate and the bucket change together: nothing is awaited in between, so that no
request meets the one without the other. -/
def setRate (l : Limiter) (now : Nat) (rate : UInt64) : Limiter :=
  if l.rate = rate then l
  else
    { l with
      rate := rate
      bucket := (fullBucket now rate l.burst).map (·.holding now (l.available now))
      revision := l.revision + 1 }

/-- The answer of a limiter to a request. -/
inductive Answer where
  /-- The bytes may pass; the limiter becomes `after`. -/
  | granted (after : Limiter)
  /-- The bytes may pass after `wait` nanoseconds if nothing else happens. -/
  | refused (wait : Nat)
  /-- The rate is `0`, so no wait helps. -/
  | blocked
  /-- The bytes can never pass at once. -/
  | oversized

/-- Ask for `n` bytes. -/
def debit (l : Limiter) (now n : Nat) : Answer :=
  match l.bucket with
  | none => .blocked
  | some bucket =>
    match bucket.check now n with
    | .granted after => .granted { l with bucket := some after }
    | .refused wait => .refused wait
    | .oversized => .oversized

/-- The limiter in words. -/
def text (l : Limiter) : String :=
  "RateLimiter \x7b bytes_per_second: " ++ toString l.rate.toNat ++ ", burst_size: " ++
    toString l.burst ++ " \x7d"

/-- The burst stays the same whatever the rate becomes. -/
@[simp] theorem burst_setRate (l : Limiter) (now : Nat) (rate : UInt64) :
    (l.setRate now rate).burst = l.burst := by
  unfold setRate
  split <;> rfl

/-- The rate is what it was last set to. -/
@[simp] theorem rate_setRate (l : Limiter) (now : Nat) (rate : UInt64) :
    (l.setRate now rate).rate = rate := by
  unfold setRate
  split
  · assumption
  · rfl

/-- Setting the same rate again changes nothing. -/
theorem setRate_rate (l : Limiter) (now : Nat) : l.setRate now l.rate = l := by
  simp [setRate]

end Limiter

end Sluice
