import Sluice.Limiter.Acquire
import Sluice.Simulation.Timeline

/-!
# Acquires at a limiter

A gate is a limiter with the acquires that wait at it, on a virtual clock. Acquires get their turn in
the order in which they came.

* `Gate.ask` makes an acquire that does not wait.
* `Gate.start` lets an acquire wait in the background, `Gate.cancel` calls it off.
* `Gate.wait` waits in the foreground for a limited time.
* `Gate.setRate` changes the rate, `Gate.advance` lets time pass.
-/

namespace Sluice.Simulation

/-- An acquire that waits at a gate. -/
structure Waiter where
  /-- The name of a background acquire, or none for the one in the foreground. -/
  name : Option String
  /-- The acquire. -/
  acquire : Acquire
deriving DecidableEq, Repr

/-- The end of an acquire. -/
structure Ended where
  /-- The name of a background acquire, or none for the one in the foreground. -/
  name : Option String
  /-- The instant of the end. -/
  instant : Nat
  /-- The error that ended the acquire, or none if it was granted. -/
  error : Option TunnelError
deriving DecidableEq, Repr

/-- A limiter with the acquires that wait at it. -/
structure Gate where
  /-- The instant at which the gate stands. -/
  now : Nat
  /-- The limiter. -/
  limiter : Limiter
  /-- The acquires that wait, in the order in which they came. -/
  waiting : List Waiter
  /-- The acquires that ended, oldest first. -/
  ended : List Ended

namespace Gate

/-- A gate at which nobody waits. -/
def make (limiter : Limiter) : Gate := ⟨0, limiter, [], []⟩

/-- Give one acquire its turn and put it back in line if it goes on. -/
def turn (gate : Gate) (cancelled : Bool) (waiter : Waiter) : Gate :=
  match waiter.acquire.run gate.limiter cancelled gate.now with
  | (.granted, limiter) =>
    { gate with limiter, ended := gate.ended ++ [⟨waiter.name, gate.now, none⟩] }
  | (.failed error, limiter) =>
    { gate with limiter, ended := gate.ended ++ [⟨waiter.name, gate.now, some error⟩] }
  | (.waiting acquire, limiter) =>
    { gate with limiter, waiting := gate.waiting ++ [⟨waiter.name, acquire⟩] }

/-- Give every acquire its turn. -/
def settle (gate : Gate) : Gate :=
  gate.waiting.foldl (·.turn false ·) { gate with waiting := [] }

/-- The earliest timer of the acquires. -/
def due (gate : Gate) : Option Nat :=
  (gate.waiting.filterMap fun waiter => waiter.acquire.sleep.bind (·.deadline)).min?

/-- How time works at a gate. -/
def timeline : Timeline Gate where
  now := Gate.now
  setNow gate now := { gate with now }
  due := Gate.due
  settle := Gate.settle

/-- Make an acquire that is dropped if it cannot end at once. -/
def ask (gate : Gate) (bytes : Nat) (cancelled : Bool) : Acquire.Progress × Gate :=
  let (progress, limiter) := (Acquire.mk bytes none).run gate.limiter cancelled gate.now
  (progress, { gate with limiter })

/-- Start an acquire in the background. -/
def start (gate : Gate) (name : String) (bytes : Nat) : Gate :=
  gate.turn false ⟨some name, ⟨bytes, none⟩⟩

/-- Call off the background acquires of the name. -/
def cancel (gate : Gate) (name : String) : Gate :=
  let (called, waiting) := gate.waiting.partition (·.name = some name)
  called.foldl (·.turn true ·) { gate with waiting }

/-- Change the rate, upon which every acquire asks again. -/
def setRate (gate : Gate) (rate : UInt64) : Gate :=
  { gate with limiter := gate.limiter.setRate gate.now rate }.settle

/-- Let time pass. -/
def advance (gate : Gate) (delay : Duration) : Gate :=
  timeline.advance (gate.now + delay.nanos) gate

/-- Wait in the foreground until an acquire is granted, but no longer than `limit`. The first
component says whether it was granted. -/
def wait (gate : Gate) (bytes : Nat) (limit : Duration) : Bool × Gate :=
  let gate := gate.turn false ⟨none, ⟨bytes, none⟩⟩
  let inForeground (gate : Gate) : Bool := gate.waiting.any (·.name.isNone)
  let gate := timeline.advanceUntil (!inForeground ·) (gate.now + limit.nanos) gate
  (!inForeground gate,
    { gate with
      waiting := gate.waiting.filter (·.name.isSome)
      ended := gate.ended.filter (·.name.isSome) })

/-- The names of the background acquires that wait, in ascending order. -/
def names (gate : Gate) : List String :=
  (gate.waiting.filterMap (·.name)).mergeSort (· ≤ ·)

/-- The background acquires that ended since the last report, by time and name, and the gate with
an empty report. -/
def report (gate : Gate) : List Ended × Gate :=
  let before (a b : Ended) : Bool := a.instant < b.instant || (a.instant = b.instant && a.name.getD "" ≤ b.name.getD "")
  (gate.ended.mergeSort before, { gate with ended := [] })

end Gate

end Sluice.Simulation
