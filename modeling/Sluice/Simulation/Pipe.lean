import Sluice.Simulation.Script

/-!
# Pipes in memory

A pipe holds a bounded number of bytes between its writer and its reader. Two pipes in opposite
directions make a socket with a far end. A port is a socket of a connection: such a pair of pipes, or
a scripted source and destination.

* `Pipe.offer` and `Pipe.take` are one write and one read.
* `Port.read`, `Port.write`, `Port.shut` and `Port.release` are what a connection does.
* `FarEnd` is what a user at the far end does.
-/

namespace Sluice.Simulation

open Net (IoFault)

/-- A pipe in memory. -/
structure Pipe where
  /-- The number of bytes that the pipe holds at most. -/
  capacity : Nat
  /-- The bytes written and not yet read, oldest first. -/
  buffer : List UInt8 := []
  /-- Nothing more can be written. -/
  closed : Bool := false
deriving Repr

namespace Pipe

/-- Offer bytes to the pipe. The answer is the number of bytes taken. -/
def offer (pipe : Pipe) (bytes : List UInt8) : Answer Nat × Pipe :=
  if pipe.closed then (.failed .brokenPipe, pipe)
  else
    let room := pipe.capacity - pipe.buffer.length
    if room = 0 then (.pending, pipe)
    else
      let count := min room bytes.length
      (.ready count, { pipe with buffer := pipe.buffer ++ bytes.take count })

/-- Ask the pipe for at most `room` bytes. No bytes mean that the pipe is at its end. -/
def take (pipe : Pipe) (room : Nat) : Answer (List UInt8) × Pipe :=
  if pipe.buffer.isEmpty then (if pipe.closed then .ready [] else .pending, pipe)
  else (.ready (pipe.buffer.take room), { pipe with buffer := pipe.buffer.drop room })

/-- Let nothing more be written. -/
def close (pipe : Pipe) : Pipe := { pipe with closed := true }

end Pipe

/-- A socket of a connection. -/
inductive Port where
  /-- What is read and written goes by a script. -/
  | scripted (source : Source) (sink : Sink)
  /-- What is read comes from the far end and what is written goes there, if it is still there. -/
  | piped (inbound outbound : Pipe) (hasFarEnd : Bool)

namespace Port

/-- A socket with a far end and pipes of the given capacity. -/
def pair (capacity : Nat) : Port := .piped { capacity } { capacity } true

/-- Ask for at most `room` bytes. -/
def read (now room : Nat) : Port → Answer (List UInt8) × Port
  | .scripted source sink =>
    let (answer, source) := source.poll now room
    (answer, .scripted source sink)
  | .piped inbound outbound hasFarEnd =>
    let (answer, inbound) := inbound.take room
    (answer, .piped inbound outbound hasFarEnd)

/-- Offer bytes. The answer is the number of bytes taken. -/
def write (now : Nat) (bytes : List UInt8) : Port → Answer Nat × Port
  | .scripted source sink =>
    let (answer, sink) := sink.poll now bytes
    (answer, .scripted source sink)
  | .piped inbound outbound hasFarEnd =>
    let (answer, outbound) := outbound.offer bytes
    (answer, .piped inbound outbound hasFarEnd)

/-- Close the way out. -/
def shut (now : Nat) : Port → Option IoFault × Port
  | .scripted source sink =>
    let (fault, sink) := sink.shut now
    (fault, .scripted source sink)
  | .piped inbound outbound hasFarEnd => (none, .piped inbound outbound.close hasFarEnd)

/-- Give the socket up, which closes both ways. -/
def release : Port → Port
  | .scripted source sink => .scripted source sink
  | .piped inbound outbound hasFarEnd => .piped inbound.close outbound.close hasFarEnd

/-- The instant at which a pause of the source ends. -/
def readDue : Port → Option Nat
  | .scripted source _ => source.due
  | .piped .. => none

/-- The instant at which a pause of the destination ends. -/
def writeDue : Port → Option Nat
  | .scripted _ sink => sink.due
  | .piped .. => none

/-- A bound on the number of reads that can succeed from now on. -/
def size : Port → Nat
  | .scripted source _ => source.size
  | .piped inbound _ _ => inbound.buffer.length + 1

/-- The record of a scripted destination. -/
def record : Port → Option Sink
  | .scripted _ sink => some sink
  | .piped .. => none

end Port

/-! ## The far end -/

namespace FarEnd

/-- What a read at the far end finds after the bytes. -/
inductive Rest where
  /-- More may come. -/
  | more
  /-- Nothing more comes. -/
  | nothing
deriving DecidableEq, Repr

/-- Offer bytes at the far end, if it is there. -/
def write (bytes : List UInt8) : Port → Option (Answer Nat) × Port
  | .piped inbound outbound true =>
    let (answer, inbound) := inbound.offer bytes
    (some answer, .piped inbound outbound true)
  | port => (none, port)

/-- Read all that is there at the far end, if it is there. -/
def read : Port → Option (List UInt8 × Rest) × Port
  | .piped inbound outbound true =>
    (some (outbound.buffer, if outbound.closed then .nothing else .more),
      .piped inbound { outbound with buffer := [] } true)
  | port => (none, port)

/-- Let nothing more be written at the far end. -/
def shut : Port → Port
  | .piped inbound outbound true => .piped inbound.close outbound true
  | port => port

/-- Give the far end up. -/
def drop : Port → Port
  | .piped inbound outbound true => .piped inbound.close outbound.close false
  | port => port

end FarEnd

end Sluice.Simulation
