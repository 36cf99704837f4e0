import Sluice.Counters
import Sluice.Simulation.Script
import Sluice.Simulation.Timeline

/-!
# A forwarder between scripted streams

A line is one forwarder with its limiters, a scripted source, a scripted destination and counters, on
a virtual clock.

* `Line.step?` is the next thing that happens without time passing.
* `Line.settle` lets everything happen that can happen now.
* `Line.cancel`, `Line.setRate` and `Line.advance` are what the user of the line does.
-/

namespace Sluice.Simulation

/-- A forwarder with all that it uses. -/
structure Line where
  /-- The instant at which the line stands. -/
  now : Nat := 0
  /-- The forwarder. -/
  forward : Forward := {}
  /-- The limiters that the forwarder pays, in order. -/
  limiters : List Limiter
  /-- Where the bytes come from. -/
  source : Source
  /-- Where the bytes go. -/
  sink : Sink
  /-- The forwarder is cancelled. -/
  cancelled : Bool := false
  /-- The direction that the counters record. -/
  direction : Direction
  /-- The counters take note of the forwarder. -/
  counted : Bool := true
  /-- The counters. -/
  counters : Counters := {}
  /-- The instant at which the forwarder finished. -/
  finishedAt : Option Nat := none

namespace Line

/-- Let an action happen to the forwarder. -/
def act (line : Line) (action : Forward.Action) : Option Line := do
  let move ← line.forward.step line.limiters line.cancelled line.now action
  let counters :=
    if line.counted then line.counters.carried line.direction (.ofNat move.carried)
    else line.counters
  let finishedAt := if move.forward.outcome?.isSome then some line.now else none
  return { line with forward := move.forward, limiters := move.limiters, counters, finishedAt }

/-- The next thing that happens without time passing. A forwarder that is cancelled notices it
before anything else. -/
def step? (line : Line) : Option Line :=
  match line.forward.stage with
  | .reading =>
    if line.cancelled then line.act .heed
    else
      match line.source.poll line.now chunkSize with
      | (.ready bytes, source) => { line with source }.act (.received bytes)
      | (.failed fault, source) => { line with source }.act (.readFailed fault)
      | (.pending, _) => none
  | .paying .. =>
    if line.forward.isAboutToPay line.limiters line.cancelled line.now then line.act .pay else none
  | .writing _ rest =>
    if line.cancelled then line.act .heed
    else
      match line.sink.poll line.now rest with
      | (.ready count, sink) => { line with sink }.act (.took count)
      | (.failed fault, sink) => { line with sink }.act (.writeFailed fault)
      | (.pending, _) => none
  | .closing _ =>
    let (fault, sink) := line.sink.shut line.now
    { line with sink }.act (.shut fault)
  | .finished .. => none

/-- The line with the streams told what the forwarder waits for, which begins their pauses. -/
def await (line : Line) : Line :=
  match line.forward.stage with
  | .reading => { line with source := (line.source.poll line.now chunkSize).2 }
  | .writing _ rest => { line with sink := (line.sink.poll line.now rest).2 }
  | _ => line

/-- At most `fuel` things happen, and then the line waits. -/
def settleWithin : Nat → Line → Line
  | 0, line => line
  | fuel + 1, line =>
    match line.step? with
    | some next => settleWithin fuel next
    | none => line.await

/-- A bound on the number of things that can happen without time passing: each byte is read, paid
for at each limiter and written, and each limiter refuses at most once. -/
def bound (line : Line) : Nat :=
  (line.source.size + line.forward.held + 2) * (2 * line.limiters.length + 4)

/-- Let everything happen that can happen now. -/
def settle (line : Line) : Line :=
  line.settleWithin line.bound

/-- The earliest timer of the line. -/
def due (line : Line) : Option Nat :=
  match line.forward.stage with
  | .reading => line.source.due
  | .writing .. => line.sink.due
  | _ => line.forward.due

/-- How time works on a line. -/
def timeline : Timeline Line where
  now := Line.now
  setNow line now := { line with now }
  due := Line.due
  settle := Line.settle

/-- Cancel the forwarder. -/
def cancel (line : Line) : Line :=
  { line with cancelled := true }.settle

/-- Change the rate of a limiter. -/
def setRate (line : Line) (index : Nat) (rate : UInt64) : Line :=
  { line with limiters := line.limiters.modify index (·.setRate line.now rate) }.settle

/-- Let time pass. -/
def advance (line : Line) (delay : Duration) : Line :=
  timeline.advance (line.now + delay.nanos) line

end Line

end Sluice.Simulation
