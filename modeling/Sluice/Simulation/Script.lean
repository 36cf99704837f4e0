import Sluice.Forward

/-!
# Scripted streams

Sources and destinations that behave as a script says. A source delivers bytes, pauses, fails or
never answers; a destination takes some of the bytes offered, pauses, fails or never answers. A pause
begins when the user of the stream gets there.

* `Source.poll` asks a source for bytes, `Sink.poll` offers bytes to a destination.
* `Answer` is what a stream answers when it is polled.
-/

namespace Sluice.Simulation

open Net (IoFault)

/-- A scripted pause: it has not begun, or it lasts until an instant. -/
inductive Pause where
  | unbegun (length : Duration)
  | lasting (last : Nat)
deriving DecidableEq, Repr

/-- The pause as it is at `now`, or none if it is over. -/
def Pause.begin (now : Nat) (pause : Pause) : Option Nat :=
  let last :=
    match pause with
    | .unbegun length => Timer.deadline now length
    | .lasting last => last
  if last ≤ now then none else some last

/-- What a stream answers. -/
inductive Answer (α : Type) where
  /-- The stream does its work. -/
  | ready (value : α)
  /-- The stream fails. -/
  | failed (fault : IoFault)
  /-- The stream does not answer yet. -/
  | pending
deriving Repr

/-- One entry in the script of a source. -/
inductive ReadCue where
  /-- The source delivers these bytes, over several reads if need be. -/
  | data (bytes : List UInt8)
  /-- The source delivers nothing for a while. -/
  | pause (pause : Pause)
  /-- One read fails. -/
  | fault (fault : IoFault)
  /-- The source never answers again. -/
  | hang
deriving Repr

/-- A scripted source; it is at its end when no cue is left. -/
structure Source where
  /-- What the source will do. -/
  cues : List ReadCue
deriving Repr

namespace Source

/-- Ask a script for at most `room` bytes. No bytes mean that the source is at its end. -/
def pollCues (now room : Nat) : List ReadCue → Answer (List UInt8) × List ReadCue
  | [] => (.ready [], [])
  | .data bytes :: cues =>
    if bytes.isEmpty then pollCues now room cues
    else if bytes.length ≤ room then (.ready bytes, cues)
    else (.ready (bytes.take room), .data (bytes.drop room) :: cues)
  | .pause pause :: cues =>
    match pause.begin now with
    | none => pollCues now room cues
    | some last => (.pending, .pause (.lasting last) :: cues)
  | .fault fault :: cues => (.failed fault, cues)
  | .hang :: cues => (.pending, .hang :: cues)

/-- Ask a source for at most `room` bytes. -/
def poll (source : Source) (now room : Nat) : Answer (List UInt8) × Source :=
  let (answer, cues) := pollCues now room source.cues
  (answer, ⟨cues⟩)

/-- The instant at which a pause of the source ends. -/
def due (source : Source) : Option Nat :=
  match source.cues with
  | .pause (.lasting last) :: _ => some last
  | _ => none

/-- A bound on the number of answers that the source can still give. -/
def size (source : Source) : Nat :=
  source.cues.foldl (fun n cue => n + match cue with | .data bytes => bytes.length | _ => 1) 1

end Source

/-- One entry in the script of a destination. -/
inductive WriteCue where
  /-- One write takes at most so many bytes. -/
  | accept (count : Nat)
  /-- The destination takes nothing for a while. -/
  | pause (pause : Pause)
  /-- One write fails. -/
  | fault (fault : IoFault)
  /-- The destination never answers again. -/
  | hang
deriving Repr

/-- A scripted destination with a record of what it took. It takes whole writes when no cue is
left. -/
structure Sink where
  /-- What the destination will do. -/
  cues : List WriteCue
  /-- The fault with which closing fails. -/
  shutFault : Option IoFault := none
  /-- The writes so far with their instants, oldest first. -/
  writes : List (Nat × List UInt8) := []
  /-- The instant at which the destination was closed. -/
  shutAt : Option Nat := none
deriving Repr

namespace Sink

/-- Offer `count` bytes to a script. The answer is the number of bytes taken. -/
def pollCues (now count : Nat) : List WriteCue → Answer Nat × List WriteCue
  | [] => (.ready count, [])
  | .accept most :: cues => (.ready (min most count), cues)
  | .pause pause :: cues =>
    match pause.begin now with
    | none => pollCues now count cues
    | some last => (.pending, .pause (.lasting last) :: cues)
  | .fault fault :: cues => (.failed fault, cues)
  | .hang :: cues => (.pending, .hang :: cues)

/-- Offer bytes to a destination. The answer is the number of bytes taken. -/
def poll (sink : Sink) (now : Nat) (bytes : List UInt8) : Answer Nat × Sink :=
  match pollCues now bytes.length sink.cues with
  | (.ready count, cues) =>
    (.ready count, { sink with cues, writes := sink.writes ++ [(now, bytes.take count)] })
  | (answer, cues) => (answer, { sink with cues })

/-- Close the destination. -/
def shut (sink : Sink) (now : Nat) : Option IoFault × Sink :=
  (sink.shutFault, { sink with shutAt := some now })

/-- The bytes taken so far. -/
def written (sink : Sink) : List UInt8 :=
  sink.writes.flatMap (·.2)

/-- The instant at which a pause of the destination ends. -/
def due (sink : Sink) : Option Nat :=
  match sink.cues with
  | .pause (.lasting last) :: _ => some last
  | _ => none

end Sink

end Sluice.Simulation
