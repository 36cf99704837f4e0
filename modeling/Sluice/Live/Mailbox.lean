import Std.Async.Signal
import Std.Async.Timer
import Std.Sync.Channel
import Sluice.Live.Sockets
import Sluice.Timer

/-!
# News for a running service

Sockets, clocks and signals work side by side with the service. Whatever they have to tell goes into
one mailbox, from which the service takes letter after letter.

* `Letter` is a piece of news.
* `Wait` is something at a socket that was begun and has not ended.
* `Mailbox.wakeAfter` and `Mailbox.listenFor` send letters about the time and about signals.
-/

namespace Sluice.Live

open Net (IoFault)
open Std.Async (Async Signal)
open Std.Async.TCP.Socket (Server Client)

/-- What came of something at a socket. -/
inductive News where
  /-- A client connected, or the listener failed. -/
  | client (result : Except IoFault Client)
  /-- The remote answered, or it could not be reached. -/
  | remote (result : Except IoFault Client)
  /-- Bytes arrived, none at the end of the source, or reading failed. -/
  | bytes (result : Except IoFault ByteArray)
  /-- So many bytes were written, or writing failed. -/
  | written (result : Except IoFault Nat)

/-- A piece of news for a service. -/
inductive Letter where
  /-- Something at a socket has ended. -/
  | news (ticket : Nat) (news : News)
  /-- Some time has passed. -/
  | time
  /-- The signal to reload. -/
  | reload
  /-- The signal to stop. -/
  | stop

instance : Inhabited Letter := ⟨.time⟩

/-- Something at a socket that was begun and has not ended. -/
structure Wait where
  /-- The number under which its end is reported. -/
  ticket : Nat
  /-- The name of the tunnel. -/
  tunnel : String
  /-- What the tunnel waits for. -/
  demand : Demand
  /-- Call it off. -/
  cancel : IO Unit

/-- Where letters arrive. -/
abbrev Mailbox := Std.Channel Letter

namespace Mailbox

/-- Send a letter. -/
def post (mailbox : Mailbox) (letter : Letter) : BaseIO Unit :=
  discard (mailbox.send letter)

/-- Take the next letter, and wait for it if there is none. -/
def take (mailbox : Mailbox) : BaseIO Letter := do
  IO.wait (← mailbox.recv)

/-- Begin something at a socket and report what comes of it. -/
def await (mailbox : Mailbox) (ticket : Nat) (action : Async News) : IO Unit :=
  discard <| Async.toIO do
    mailbox.post (.news ticket (← action))

/-- The longest sleep in milliseconds; whoever has to wait longer sleeps again. -/
def longestSleep : Nat := 3600000

/-- Send a letter when at least `delay` nanoseconds have passed, or an hour. -/
def wakeAfter (mailbox : Mailbox) (delay : Nat) : IO Unit :=
  discard <| Async.toIO do
    Std.Async.sleep (.ofNat (min longestSleep (delay / Timer.grain + 1)))
    mailbox.post .time

/-- Send a letter for each signal that the waiter gets. -/
partial def forwardSignals (mailbox : Mailbox) (waiter : Signal.Waiter) (letter : Letter) :
    Async Unit := do
  let signal ← waiter.wait
  discard (Std.Async.await signal)
  mailbox.post letter
  forwardSignals mailbox waiter letter

/-- Send a letter for each signal of a kind from now on. -/
def listenFor (mailbox : Mailbox) (signal : Signal) (letter : Letter) : IO Unit := do
  let waiter ← Signal.Waiter.mk signal true
  discard (Async.toIO (forwardSignals mailbox waiter letter))

end Mailbox

end Sluice.Live
