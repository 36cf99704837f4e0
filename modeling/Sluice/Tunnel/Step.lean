import Sluice.Tunnel.Basic

/-!
# What happens to a tunnel

What can happen to a tunnel is an `Action`. Each action is a step of one party or an answer from
outside: a client, the remote, the system that listens, the user. `Tunnel.step` is the whole machine,
with no choice of which action comes first, and `Tunnel.run` is a sequence of actions at given
instants.
-/

namespace Sluice

open Net (SocketAddress IoFault)

namespace Tunnel

/-- Report an event. -/
def emit (t : Tunnel) (event : Event) : Tunnel :=
  { t with relay := t.relay.emit event }

/-! ## The user -/

/-- Ask for new limits. The call has the number of calls before it. When the owner is gone it is
answered at once. -/
def requestUpdate (t : Tunnel) (limits : Limits) : Option Tunnel :=
  if t.isShut then none
  else if t.owner = .stopped then
    some { t with calls := t.calls + 1, answers := t.answers ++ [(t.calls, some .tunnelClosed)] }
  else some { t with calls := t.calls + 1, requests := t.requests ++ [⟨some t.calls, limits⟩] }

/-- Give up waiting for the answer to a call. A request that is handed over stays so. -/
def giveUp (t : Tunnel) (call : Nat) : Tunnel :=
  { t with
    requests := t.requests.filter (·.call ≠ some call)
    update := t.update.map fun u => if u.call = some call then { u with call := none } else u }

/-- Ask for the end of the tunnel and wait for it. -/
def shutDown (t : Tunnel) : Option Tunnel :=
  if t.isShut then none else some { t with handle := .closing }

/-- Give the tunnel up. -/
def drop (t : Tunnel) : Option Tunnel :=
  if t.isShut then none else some { t with handle := .dropped }

/-- The wait for the end of the tunnel is over. -/
def finish (t : Tunnel) : Option Tunnel :=
  if t.handle = .closing && t.isFinished then some { t.emit .stopped with handle := .closed }
  else none

/-- Hand the oldest request over. -/
def handUpdate (t : Tunnel) : Option Tunnel :=
  match t.update, t.requests with
  | none, u :: rest => some { t with update := some u, requests := rest }
  | _, _ => none

/-! ## The acceptor -/

/-- Take an arrival from the listener. -/
def arrive (t : Tunnel) (arrival : Arrival) : Option Tunnel :=
  match t.acceptor with
  | .accepting => some { t with acceptor := .handing arrival }
  | _ => none

/-- What the acceptor does after it has handed an arrival over. -/
def afterHanding : Arrival → Acceptor
  | .ok _ => .accepting
  | .error _ => .ended

/-- Hand the arrival over, or leave when nobody takes arrivals any more. -/
def handArrival (t : Tunnel) : Option Tunnel :=
  match t.acceptor with
  | .handing arrival =>
    if !t.isReceiving then some { t with acceptor := .ended }
    else if t.arrival.isSome then none
    else some { t with arrival := some arrival, acceptor := afterHanding arrival }
  | _ => none

/-- The acceptor notices that it is not needed any more. -/
def retire (t : Tunnel) : Option Tunnel :=
  if t.isShut || !t.isReceiving then
    match t.acceptor with
    | .ended => none
    | _ => some { t with acceptor := .ended }
  else none

/-! ## The owner -/

/-- Put a listener into service. -/
def serve (t : Tunnel) (inService : Option SocketAddress) : Tunnel :=
  { t with
    phase := (inService.map .listening).getD t.phase
    owner := .serving
    acceptor := .accepting
    arrival := none
    relay := { t.relay with queue := t.relay.queue.renew } }

/-- Put the first listener into service. -/
def openFirst (t : Tunnel) : Option Tunnel :=
  match t.owner with
  | .opening inService => some (t.serve inService)
  | _ => none

/-- Close all that belongs to the listener in service. -/
def clear (t : Tunnel) (reason : CloseReason) : Tunnel :=
  { t with arrival := none, relay := (t.relay.closeAll reason).hangUp }

/-- Wait to listen again. -/
def awaitRetry (t : Tunnel) (now : Nat) : Tunnel :=
  { t.emit (.listenRetryScheduled t.plan.retryInterval) with
    phase := .retrying
    owner := .retrying (Timer.deadline now t.plan.retryInterval) }

/-- Announce a client and dial the remote for it. -/
def announce (t : Tunnel) (now : Nat) (peer : SocketAddress) : Tunnel :=
  { t.emit (.connectionAccepted (t.accepted + 1) peer) with
    arrival := none
    accepted := t.accepted + 1
    owner := .dialing (t.accepted + 1) (Timer.deadline now t.plan.connectTimeout) }

/-- The listener in service stopped working. -/
def loseListener (t : Tunnel) (now : Nat) (fault : IoFault) : Tunnel :=
  ((t.emit (.acceptFailed fault.text)).clear .listenerLost).awaitRetry now

/-- Take an arrival. -/
def takeArrival (t : Tunnel) (now : Nat) : Option Tunnel :=
  match t.owner, t.arrival with
  | .serving, some (.ok peer) => some (t.announce now peer)
  | .serving, some (.error fault) => some (t.loseListener now fault)
  | _, _ => none

/-- The remote could not be reached. -/
def failDial (t : Tunnel) (id : Nat) (error : TunnelError) : Tunnel :=
  { t.emit (.dialFailed id t.plan.connectTo error.message) with owner := .serving }

/-- The remote answers. -/
def endDial (t : Tunnel) (now : Nat) (result : Except IoFault Unit) : Option Tunnel :=
  match t.owner, result with
  | .dialing id _, .ok _ =>
    some { t with owner := .serving, relay := t.relay.openConnection now id }
  | .dialing id _, .error fault => some (t.failDial id (.connectionFailed t.plan.connectTo fault))
  | _, _ => none

/-- The time for reaching the remote is over. -/
def timeOutDial (t : Tunnel) (now : Nat) : Option Tunnel :=
  match t.owner with
  | .dialing id deadline =>
    if deadline ≤ now then some (t.failDial id (.timeout t.plan.connectTimeout)) else none
  | _ => none

/-- Notice while dialing that the user has asked for the end. -/
def abandonDial (t : Tunnel) : Option Tunnel :=
  match t.owner with
  | .dialing id _ => if t.isShut then some (t.failDial id .cancelled) else none
  | _ => none

/-- The reason for closing a connection of which a direction has reported its end. -/
def reasonOf (notice : Notice) : CloseReason :=
  match notice.error with
  | none => .completed
  | some error => .failed error.message

/-- Take a notice and close its connection. -/
def takeNotice (t : Tunnel) : Option Tunnel :=
  match t.owner, t.relay.takeNotice with
  | .serving, some (notice, relay) =>
    some { t with relay := relay.close notice.id (reasonOf notice) }
  | _, _ => none

/-- Put new limits into force. Each connection gets the same rate, so that their order makes no
difference. -/
def apply (t : Tunnel) (now : Nat) (u : Update) : Tunnel :=
  let relay := (t.relay.setTunnelRate now u.limits.tunnel).setDefaultRate u.limits.connection
  let relay := relay.active.foldl (·.setConnectionRate now · u.limits.connection) relay
  { t with
    limits := u.limits
    update := none
    answers := t.answers ++ (u.call.map fun call => (call, none)).toList
    relay := relay.emit (.limitsUpdated u.limits relay.active.length) }

/-- Take a request for new limits. -/
def takeUpdate (t : Tunnel) (now : Nat) : Option Tunnel :=
  match t.owner, t.update with
  | .serving, some u | .retrying _, some u => some (t.apply now u)
  | _, _ => none

/-- Notice that the user has asked for the end. -/
def heed (t : Tunnel) : Option Tunnel :=
  match t.owner with
  | .serving | .retrying _ =>
    if t.isShut then
      some { t.emit .shutdownStarted with phase := .shuttingDown, owner := .ending }
    else none
  | _ => none

/-- The answers to calls that nobody will ever answer otherwise. -/
def refusals (updates : List Update) : List (Nat × Option TunnelError) :=
  updates.filterMap fun u => u.call.map fun call => (call, some .tunnelClosed)

/-- Close all that is left and leave. -/
def stop (t : Tunnel) : Option Tunnel :=
  match t.owner with
  | .ending =>
    some { t.clear .shutdown with
      phase := .stopped
      owner := .stopped
      update := none
      requests := []
      answers := t.answers ++ refusals (t.update.toList ++ t.requests) }
  | _ => none

/-- The wait to listen again is over. -/
def wake (t : Tunnel) (now : Nat) : Option Tunnel :=
  match t.owner with
  | .retrying deadline => if deadline ≤ now then some { t with owner := .binding } else none
  | _ => none

/-- The attempt to listen ends. -/
def bound (t : Tunnel) (now : Nat) (result : Except IoFault Listener) : Option Tunnel :=
  match t.owner, result with
  | .binding, .ok listener =>
    some { (t.emit (.listenStarted listener.address)).serve listener.inService with
      address := listener.address }
  | .binding, .error fault => some ((t.emit (.listenFailed fault.text)).awaitRetry now)
  | _, _ => none

/-! ## All parties -/

/-- What can happen to a tunnel. -/
inductive Action where
  /-- The user asks for new limits. -/
  | requestUpdate (limits : Limits)
  /-- The user gives up waiting for the answer to a call. -/
  | giveUp (call : Nat)
  /-- The user asks for the end and waits for it. -/
  | shutDown
  /-- The user gives the tunnel up. -/
  | drop
  /-- The wait for the end is over. -/
  | finish
  /-- The oldest request for new limits is handed over. -/
  | handUpdate
  /-- The listener delivers an arrival. -/
  | arrive (arrival : Arrival)
  /-- The acceptor hands its arrival over. -/
  | handArrival
  /-- The acceptor leaves. -/
  | retire
  /-- The owner puts the first listener into service. -/
  | openFirst
  /-- The owner takes an arrival. -/
  | takeArrival
  /-- The remote answers. -/
  | endDial (result : Except IoFault Unit)
  /-- The time for reaching the remote is over. -/
  | timeOutDial
  /-- The owner notices while dialing that the user has asked for the end. -/
  | abandonDial
  /-- The owner takes a notice. -/
  | takeNotice
  /-- The owner takes a request for new limits. -/
  | takeUpdate
  /-- The owner notices that the user has asked for the end. -/
  | heed
  /-- The owner leaves. -/
  | stop
  /-- The wait to listen again is over. -/
  | wake
  /-- The attempt to listen ends. -/
  | bound (result : Except IoFault Listener)
  /-- A direction of a connection works. -/
  | work (id : Nat) (direction : Direction) (work : Relay.Work)

/-- The action is one of the user. -/
def Action.isOfUser : Action → Bool
  | .requestUpdate _ | .giveUp _ | .shutDown | .drop => true
  | _ => false

/-- The tunnel after an action at the instant `now`, or none if the action cannot happen now. -/
def step (t : Tunnel) (now : Nat) : Action → Option Tunnel
  | .requestUpdate limits => t.requestUpdate limits
  | .giveUp call => some (t.giveUp call)
  | .shutDown => t.shutDown
  | .drop => t.drop
  | .finish => t.finish
  | .handUpdate => t.handUpdate
  | .arrive arrival => t.arrive arrival
  | .handArrival => t.handArrival
  | .retire => t.retire
  | .openFirst => t.openFirst
  | .takeArrival => t.takeArrival now
  | .endDial result => t.endDial now result
  | .timeOutDial => t.timeOutDial now
  | .abandonDial => t.abandonDial
  | .takeNotice => t.takeNotice
  | .takeUpdate => t.takeUpdate now
  | .heed => t.heed
  | .stop => t.stop
  | .wake => t.wake now
  | .bound result => t.bound now result
  | .work id direction work =>
    (t.relay.work now id direction work).map fun relay => { t with relay }

/-- The tunnel after a sequence of actions at given instants, or none if one of them cannot happen. -/
def run (t : Tunnel) (actions : List (Nat × Action)) : Option Tunnel :=
  actions.foldlM (fun t (now, action) => t.step now action) t

end Tunnel

end Sluice
