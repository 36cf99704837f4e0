import Sluice.Error

/-!
# The queue of notices

The directions of all connections report their ends to the owner through one queue of bounded
capacity. A direction that finds the queue full waits for its turn.

* `NoticeQueue.push` puts a notice into a queue with room.
* `NoticeQueue.take` takes the oldest notice out.
* `NoticeQueue.hangUp` is what remains when the owner takes no more notices.
-/

namespace Sluice

/-- The report that a direction of a connection has ended. -/
structure Notice where
  /-- The number of the connection. -/
  id : Nat
  /-- The error that ended the direction, or none if it reached the end of its source. -/
  error : Option TunnelError
deriving DecidableEq, Repr

/-- A queue of notices. -/
structure NoticeQueue where
  /-- The number that tells the queue from others. -/
  number : Nat := 0
  /-- The number of notices that the queue holds at most. -/
  capacity : Nat
  /-- The owner takes notices from the queue. -/
  isOpen : Bool := true
  /-- The notices in the queue, oldest first. -/
  notices : List Notice := []
  /-- How many directions have begun to wait for the queue. -/
  turns : Nat := 0
deriving DecidableEq, Repr

namespace NoticeQueue

/-- The queue takes another notice. -/
def hasRoom (queue : NoticeQueue) : Bool :=
  queue.isOpen && queue.notices.length < queue.capacity

/-- The queue with one more notice, or none if it has no room. -/
def push (queue : NoticeQueue) (notice : Notice) : Option NoticeQueue :=
  if queue.hasRoom then some { queue with notices := queue.notices ++ [notice] } else none

/-- The oldest notice and the queue without it. -/
def take (queue : NoticeQueue) : Option (Notice × NoticeQueue) :=
  match queue.notices with
  | [] => none
  | notice :: rest => some (notice, { queue with notices := rest })

/-- The queue after its owner has turned away. -/
def hangUp (queue : NoticeQueue) : NoticeQueue :=
  { queue with isOpen := false, notices := [] }

/-- An empty queue that takes the place of this one. -/
def renew (queue : NoticeQueue) : NoticeQueue :=
  { number := queue.number + 1, capacity := queue.capacity }

end NoticeQueue

end Sluice
