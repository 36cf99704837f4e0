import Sluice.Limiter.Acquire

/-!
# Forwarding in one direction

A forwarder reads a chunk from its source, pays for it at each of its limiters in turn, writes it to
its destination, and starts again, until the source ends, something fails, or it is cancelled. It
then closes the destination, whatever the outcome.

A forwarder is a machine with five stages. What its source, its destination and its canceller do to
it is an `Action`; `Forward.step` is the whole machine, with no choice of which action comes first.

* `Forward.step` gives the forwarder after an action, with the limiters that it pays, the bytes that
  the action handed to the destination and the bytes that count as carried.
* `Forward.outcome?` is how a finished forwarder ended.
-/

namespace Sluice

open Net (IoFault)

/-- How forwarding ended: with the number of bytes carried to the end of the source, or with an
error. -/
abbrev Outcome := Except TunnelError Nat

/-- What a forwarder is busy with. -/
inductive Stage where
  /-- It waits for bytes from the source. -/
  | reading
  /-- It has paid for the chunk at the first `paid` limiters and is paying at the next one. -/
  | paying (chunk : List UInt8) (paid : Nat) (acquire : Acquire)
  /-- It has paid for a chunk of `size` bytes, of which the destination has not yet taken `rest`. -/
  | writing (size : Nat) (rest : List UInt8)
  /-- It has to close the destination. -/
  | closing (outcome : Outcome)
  /-- It has closed the destination, which may have failed. -/
  | finished (outcome : Outcome) (closeFault : Option IoFault)

/-- A forwarder. -/
structure Forward where
  /-- The bytes carried so far. -/
  total : Nat := 0
  /-- What the forwarder is busy with. -/
  stage : Stage := .reading

namespace Forward

/-- What can happen to a forwarder. -/
inductive Action where
  /-- The source delivered bytes; no bytes mean that it is at its end. -/
  | received (bytes : List UInt8)
  /-- The source failed. -/
  | readFailed (fault : IoFault)
  /-- The forwarder asks the next limiter once. -/
  | pay
  /-- The destination took so many bytes. -/
  | took (count : Nat)
  /-- The destination failed. -/
  | writeFailed (fault : IoFault)
  /-- The forwarder notices that it is cancelled. -/
  | heed
  /-- The destination is closed, which may have failed. -/
  | shut (fault : Option IoFault)

/-- The result of an action. -/
structure Move where
  /-- The forwarder after the action. -/
  forward : Forward
  /-- The limiters after the action. -/
  limiters : List Limiter
  /-- The bytes that the destination took. -/
  delivered : List UInt8 := []
  /-- The bytes that count as carried from now on. -/
  carried : Nat := 0

/-- The stage of a forwarder that has paid for the chunk at `paid` of `count` limiters. -/
def payingFrom (chunk : List UInt8) (paid count : Nat) : Stage :=
  if paid < count then .paying chunk paid ⟨chunk.length, none⟩ else .writing chunk.length chunk

/-- The forwarder after an action, or none if the action cannot happen now. A forwarder that is
cancelled pays no more, and it may notice that it is cancelled while it reads or writes. -/
def step (f : Forward) (limiters : List Limiter) (cancelled : Bool) (now : Nat) :
    Action → Option Move
  | .received bytes =>
    match f.stage with
    | .reading =>
      if bytes.isEmpty then some ⟨⟨f.total, .closing (.ok f.total)⟩, limiters, [], 0⟩
      else if bytes.length ≤ chunkSize then
        some ⟨⟨f.total, payingFrom bytes 0 limiters.length⟩, limiters, [], 0⟩
      else none
    | _ => none
  | .readFailed fault =>
    match f.stage with
    | .reading => some ⟨⟨f.total, .closing (.error (.io fault))⟩, limiters, [], 0⟩
    | _ => none
  | .pay =>
    match f.stage with
    | .paying chunk paid acquire =>
      match limiters[paid]? with
      | none => none
      | some limiter =>
        let (progress, limiter) := acquire.attempt limiter cancelled now
        let stage :=
          match progress with
          | .granted => payingFrom chunk (paid + 1) limiters.length
          | .failed error => .closing (.error error)
          | .waiting acquire => .paying chunk paid acquire
        some ⟨⟨f.total, stage⟩, limiters.set paid limiter, [], 0⟩
    | _ => none
  | .took count =>
    match f.stage with
    | .writing size rest =>
      if count = 0 then some ⟨⟨f.total, .closing (.error (.io .writeZero))⟩, limiters, [], 0⟩
      else if count < rest.length then
        some ⟨⟨f.total, .writing size (rest.drop count)⟩, limiters, rest.take count, 0⟩
      else if count = rest.length then some ⟨⟨f.total + size, .reading⟩, limiters, rest, size⟩
      else none
    | _ => none
  | .writeFailed fault =>
    match f.stage with
    | .writing _ _ => some ⟨⟨f.total, .closing (.error (.io fault))⟩, limiters, [], 0⟩
    | _ => none
  | .heed =>
    if cancelled then
      match f.stage with
      | .reading | .writing _ _ => some ⟨⟨f.total, .closing (.error .cancelled)⟩, limiters, [], 0⟩
      | _ => none
    else none
  | .shut fault =>
    match f.stage with
    | .closing outcome => some ⟨⟨f.total, .finished outcome fault⟩, limiters, [], 0⟩
    | _ => none

/-- How a finished forwarder ended, and the fault with which its destination was closed. -/
def outcome? (f : Forward) : Option (Outcome × Option IoFault) :=
  match f.stage with
  | .finished outcome fault => some (outcome, fault)
  | _ => none

/-- The number of bytes read and not yet taken by the destination. -/
def held (f : Forward) : Nat :=
  match f.stage with
  | .paying chunk .. => chunk.length
  | .writing _ rest => rest.length
  | _ => 0

/-- The instant at which a timer of the forwarder fires. -/
def due (f : Forward) : Option Nat :=
  match f.stage with
  | .paying _ _ acquire => acquire.sleep.bind (·.deadline)
  | _ => none

/-- The forwarder has a request to make at its next limiter. -/
def isAboutToPay (f : Forward) (limiters : List Limiter) (cancelled : Bool) (now : Nat) : Bool :=
  match f.stage with
  | .paying _ paid acquire =>
    cancelled || limiters[paid]?.any fun limiter => acquire.isAwake limiter now
  | _ => false

end Forward

end Sluice
