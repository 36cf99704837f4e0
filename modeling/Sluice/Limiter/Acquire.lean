import Sluice.Error
import Sluice.Limiter.Basic
import Sluice.Timer

/-!
# Waiting for a limiter

An acquire asks a limiter for some number of bytes and waits until all of them are granted. It pays
in chunks of at most one burst. When a chunk is refused it sleeps until the wait is over, until the
bucket of the limiter is replaced, or until it is cancelled, and then asks again.

* `Acquire.attempt` makes one request for one chunk.
* `Acquire.run` makes requests until the acquire ends or sleeps.
-/

namespace Sluice

/-- What an acquire waits for after a refusal. -/
structure Sleep where
  /-- The revision of the bucket that refused. -/
  revision : Nat
  /-- The instant at which the timer fires, or none when no wait would help. -/
  deadline : Option Nat
deriving DecidableEq, Repr

/-- An acquire that has not ended. -/
structure Acquire where
  /-- The bytes not yet granted. -/
  remaining : Nat
  /-- What the acquire sleeps for, or none when it is about to ask. -/
  sleep : Option Sleep := none
deriving DecidableEq, Repr

namespace Acquire

/-- What became of an acquire. -/
inductive Progress where
  /-- All bytes are granted. -/
  | granted
  /-- The acquire ended with an error. -/
  | failed (error : TunnelError)
  /-- The acquire goes on. -/
  | waiting (acquire : Acquire)
deriving DecidableEq, Repr

/-- The acquire has something to do: it is not asleep, or its timer fired, or the bucket that
refused is gone. -/
def isAwake (a : Acquire) (limiter : Limiter) (now : Nat) : Bool :=
  match a.sleep with
  | none => true
  | some sleep => sleep.revision != limiter.revision || sleep.deadline.any (· ≤ now)

/-- The bytes that the next request asks for. -/
def chunk (a : Acquire) (limiter : Limiter) : Nat :=
  min a.remaining limiter.burst

/-- The error for a request that no bucket can ever grant. -/
def oversized (n : Nat) : TunnelError :=
  .rateLimit s!"required number of cell {n} exceeds bucket's capacity"

/-- One request for one chunk. From the look at the canceller to the answer of the bucket nothing is
awaited, so that nothing else happens meanwhile. An acquire of no bytes is granted even if it is
cancelled. -/
def attempt (a : Acquire) (limiter : Limiter) (cancelled : Bool) (now : Nat) :
    Progress × Limiter :=
  if a.remaining = 0 then (.granted, limiter)
  else if cancelled then (.failed .cancelled, limiter)
  else if a.isAwake limiter now then
    let chunk := a.chunk limiter
    match limiter.debit now chunk with
    | .granted after =>
      if a.remaining = chunk then (.granted, after)
      else (.waiting ⟨a.remaining - chunk, none⟩, after)
    | .refused wait =>
      (.waiting ⟨a.remaining, some ⟨limiter.revision, some (Timer.roundUp (now + wait))⟩⟩, limiter)
    | .blocked => (.waiting ⟨a.remaining, some ⟨limiter.revision, none⟩⟩, limiter)
    | .oversized => (.failed (oversized chunk), limiter)
  else (.waiting a, limiter)

/-- Requests until the acquire ends or sleeps. -/
def run (a : Acquire) (limiter : Limiter) (cancelled : Bool) (now : Nat) : Progress × Limiter :=
  match a.attempt limiter cancelled now with
  | (.waiting next, limiter) =>
    if next.remaining < a.remaining then next.run limiter cancelled now
    else (.waiting next, limiter)
  | ended => ended
termination_by a.remaining

end Acquire

end Sluice
