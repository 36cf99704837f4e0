import Sluice.CommandLine.Path
import Sluice.CommandLine.Run
import Sluice.Live.Files
import Sluice.Live.Mailbox
import Sluice.Manager.Initiative

/-!
# A running service

The command `run` with sockets of the operating system. The service decides what happens; here its
decisions are carried out at the sockets, and what comes of them is reported back to it. Between two
letters everything happens that can happen by itself.

* `Running` is the service with its sockets.
* `serve` runs the service to its end.
-/

namespace Sluice.Live

open CommandLine (Service CommandError)
open Manager (Place)
open Net (IoFault)
open Std.Async (Async)

/-- What a running service works with. -/
structure Surroundings where
  /-- Where letters arrive. -/
  mailbox : Mailbox
  /-- The reading of the clock at which the service began. -/
  origin : Nat
  /-- The wording of faults of the document. -/
  wording : DocumentFault → String
  /-- Write a line to the log. -/
  log : LogLine → IO Unit

/-- The instant at which the service stands. -/
def Surroundings.now (around : Surroundings) : IO Nat := do
  return (← IO.monoNanosNow) - around.origin

/-- A service with its sockets. -/
structure Running where
  /-- The service. -/
  service : Service
  /-- The sockets of each tunnel, by its name. -/
  sockets : List (String × Sockets) := []
  /-- What was begun at the sockets. -/
  waits : List Wait := []
  /-- How many things were begun so far. -/
  tickets : Nat := 0
  /-- The instant at which the next letter about the time is sent. -/
  alarm : Option Nat := none
  /-- The signals that came while the manager was busy, oldest first. -/
  signals : List Letter := []

namespace Running

/-- The manager of the service. -/
def manager (running : Running) : Manager := running.service.manager

/-- The service with another state of its manager. -/
def setManager (running : Running) (manager : Manager) : Running :=
  { running with service := { running.service with manager } }

/-- The name under which the sockets of the tunnel at a place are kept, if it has sockets. -/
def nameAt? (running : Running) : Place → Option String
  | .running name => some name
  | .inHand => running.manager.hand.map (·.managed.config.name)
  | .orphaned _ => none

/-- The place of the tunnel of the given name. -/
def place (running : Running) (name : String) : Place :=
  if running.manager.hand.any (·.managed.config.name = name) then .inHand else .running name

/-- The tunnel of the given name. -/
def tunnel? (running : Running) (name : String) : Option Tunnel :=
  running.manager.tunnelAt? (running.place name)

/-- The sockets of a tunnel. -/
def socketsOf (running : Running) (name : String) : Sockets :=
  (running.sockets.lookup name).getD {}

/-- Change the sockets of a tunnel. -/
def setSockets (running : Running) (name : String) (sockets : Sockets) : Running :=
  { running with sockets := (name, sockets) :: running.sockets.filter (·.1 ≠ name) }

/-! ## What happens by itself -/

/-- Let a tunnel do something. Its sockets follow: a client that is announced gets its number, and
sockets that are not used any more are given up. -/
def act (running : Running) (now : Nat) (place : Place) (action : Tunnel.Action) : Running :=
  match running.manager.tunnelAt? place, running.manager.act now place action with
  | some before, some manager =>
    let after := running.setManager manager
    match running.nameAt? place, manager.tunnelAt? place with
    | some name, some tunnel =>
      let sockets := after.socketsOf name
      let sockets :=
        if before.accepted < tunnel.accepted then sockets.announce tunnel.accepted else sockets
      after.setSockets name (sockets.keepFor tunnel)
    | _, _ => after
  | _, _ => running

/-- Listen for a tunnel and keep the listener. -/
def listen (running : Running) (name : Option String) (address : String) :
    IO (Except IoFault Listener × Running) := do
  match name, ← listenAt address with
  | _, .error fault => return (.error fault, running)
  | none, .ok (_, listener) => return (.ok listener, running)
  | some name, .ok (server, listener) =>
    let sockets := { running.socketsOf name with listener := some server }
    return (.ok listener, running.setSockets name sockets)

/-- Close the destination of a direction. A destination that still has bytes to write is given up
instead. -/
def shut (running : Running) (name : Option String) (id : Nat) (direction : Direction) :
    IO (Option IoFault) := do
  let writes : Demand := .destination id direction
  let socket? := do
    let pair ← (running.socketsOf (← name)).pair? id
    pair.socket? direction.destination
  match socket? with
  | none => return none
  | some socket =>
    if running.waits.any fun wait => wait.tunnel ∈ name ∧ wait.demand = writes then return none
    match ← attempt (Async.block socket.shutdown) with
    | .ok () => return none
    | .error fault => return some fault

/-- Carry out what happens next. -/
def carryOut (running : Running) (now : Nat) : Manager.Next → IO Running
  | .act place (.work id direction (.forward (.shut _))) => do
    let fault ← running.shut (running.nameAt? place) id direction
    return running.act now place (.work id direction (.forward (.shut fault)))
  | .act place action => return running.act now place action
  | .listen place address => do
    let (result, running) ← running.listen (running.nameAt? place) address
    return running.act now place (.bound result)
  | .launch config => do
    let (result, running) ← running.listen (some config.name) config.listenAt
    return running.setManager ((running.manager.bound now result).getD running.manager)
  | .proceed => return running.setManager (running.manager.proceed.getD running.manager)

/-- Let everything happen that can happen by itself. -/
partial def settle (running : Running) (around : Surroundings) : IO Running := do
  let now ← around.now
  match running.manager.next? now with
  | none => return running
  | some next => (← running.carryOut now next).settle around

/-- Write the reports to the log and forget them. -/
def flush (running : Running) (around : Surroundings) : IO Running := do
  for report in running.manager.reports do
    around.log report.logLine
  return running.setManager running.manager.forget

/-! ## What goes on at the sockets -/

/-- What the tunnels wait for, each with the name of its tunnel. -/
def demands (running : Running) : List (String × Demand) :=
  let names := running.manager.names ++
    (running.manager.hand.map (·.managed.config.name)).toList
  names.flatMap fun name =>
    match running.tunnel? name with
    | none => []
    | some tunnel => tunnel.demands.map (name, ·)

/-- What comes of something at a socket, where every error is a fault. -/
def outcome {α : Type} (action : Async α) : Async (Except IoFault α) := do
  try return .ok (← action)
  catch error => return .error (faultOf error)

/-- What has to be done for a demand, and how it is called off. -/
def errand (running : Running) (name : String) : Demand → Option (Async News × IO Unit)
  | .client => do
    let server ← (running.socketsOf name).listener
    return (.client <$> outcome server.accept, Async.block server.acceptSelector.unregisterFn)
  | .remote _ => do
    let tunnel ← running.tunnel? name
    return (.remote <$> dial tunnel.plan.connectTo, pure ())
  | .source id direction => do
    let pair ← (running.socketsOf name).pair? id
    let socket ← pair.socket? direction.source
    let read := socket.recv? chunkSize.toUInt64
    return (.bytes <$> outcome ((·.getD .empty) <$> read),
      Async.block (socket.recvSelector 1).unregisterFn)
  | .destination id direction => do
    let pair ← (running.socketsOf name).pair? id
    let socket ← pair.socket? direction.destination
    let tunnel ← running.tunnel? name
    let bytes := tunnel.unwritten id direction
    let write := socket.send ⟨bytes.toArray⟩
    return (.written <$> outcome ((fun _ => bytes.length) <$> write), pure ())

/-- Begin at the sockets what the tunnels wait for, and call off what they do not wait for any
more. -/
def attend (running : Running) (around : Surroundings) : IO Running := do
  let demands := running.demands
  let (kept, idle) := running.waits.partition fun wait => (wait.tunnel, wait.demand) ∈ demands
  for wait in idle do
    wait.cancel
  let names := demands.map (·.1)
  let mut running : Running :=
    { running with
      waits := kept
      sockets := running.sockets.filter fun (name, _) =>
        name ∈ names || (running.tunnel? name).isSome }
  for (name, demand) in demands do
    if !kept.any fun wait => wait.tunnel = name ∧ wait.demand = demand then
      if let some (action, cancel) := running.errand name demand then
        let ticket := running.tickets
        around.mailbox.await ticket action
        running :=
          { running with
            tickets := ticket + 1
            waits := ⟨ticket, name, demand, cancel⟩ :: running.waits }
  return running

/-- Have a letter sent when a tunnel has something to do by itself. -/
def setAlarm (running : Running) (around : Surroundings) : IO Running := do
  match running.manager.due with
  | none => return running
  | some due =>
    if running.alarm.any (· ≤ due) then return running
    let now ← around.now
    around.mailbox.wakeAfter (due - now)
    return { running with alarm := some due }

/-! ## What letters bring -/

/-- Tell a tunnel what came of something that it waits for. -/
def tell (running : Running) (now : Nat) (wait : Wait) (news : News) : IO Running := do
  let place := running.place wait.tunnel
  let sockets := running.socketsOf wait.tunnel
  match wait.demand, news with
  | .client, .client (.ok client) =>
    match ← attempt client.getPeerName with
    | .error fault => return running.act now place (.arrive (.error fault))
    | .ok peer =>
      let sockets := { sockets with unannounced := sockets.unannounced ++ [client] }
      let running := running.setSockets wait.tunnel sockets
      return running.act now place (.arrive (.ok (ofSystem peer)))
  | .client, .client (.error fault) => return running.act now place (.arrive (.error fault))
  | .remote id, .remote (.ok client) =>
    let running := running.setSockets wait.tunnel (sockets.join id client)
    return running.act now place (.endDial (.ok ()))
  | .remote _, .remote (.error fault) => return running.act now place (.endDial (.error fault))
  | .source id direction, .bytes result =>
    let action : Forward.Action :=
      match result with
      | .ok bytes => .received bytes.toList
      | .error fault => .readFailed fault
    return running.act now place (.work id direction (.forward action))
  | .destination id direction, .written result =>
    let action : Forward.Action :=
      match result with
      | .ok count => .took count
      | .error fault => .writeFailed fault
    return running.act now place (.work id direction (.forward action))
  | _, _ => return running

/-- Heed a signal while the manager is idle. -/
def heed (running : Running) (around : Surroundings) : Letter → IO Running
  | .reload => do
    let content ← readText running.service.path
    return { running with service := running.service.reload around.wording content }
  | .stop => return { running with service := running.service.stop }
  | _ => return running

/-- Read a letter. -/
def read (running : Running) (around : Surroundings) (letter : Letter) : IO Running := do
  match letter with
  | .news ticket news =>
    match running.waits.find? (·.ticket = ticket) with
    | none => return running
    | some wait =>
      let waits := running.waits.filter (·.ticket ≠ ticket)
      let running : Running := { running with waits }
      running.tell (← around.now) wait news
  | .time => return { running with alarm := none }
  | signal => return { running with signals := running.signals ++ [signal] }

/-- Take the oldest signal if the manager is idle, and the next letter otherwise. -/
def next (running : Running) (around : Surroundings) : IO Running := do
  match running.manager.task, running.signals with
  | .idle, signal :: rest =>
    let running : Running := { running with signals := rest }
    running.heed around signal
  | _, _ => running.read around (← around.mailbox.take)

end Running

/-- Run a service to its end. The result is the error with which it ends, if there is one. -/
partial def serve (around : Surroundings) (running : Running) : IO (Option CommandError) := do
  let running ← running.settle around
  match running.service.conclude with
  | some (error, service) =>
    let running : Running := { running with service }
    discard (running.flush around)
    return error
  | none =>
    let running ← (← (← running.flush around).attend around).setAlarm around
    serve around (← running.next around)

end Sluice.Live
