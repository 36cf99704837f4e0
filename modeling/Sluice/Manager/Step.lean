import Sluice.Manager.Basic

/-!
# What happens to a manager

The user of a manager begins a reload or a shutdown when the manager is idle. Then the manager goes on
by itself, `Manager.proceed` by `Manager.proceed`, but for two kinds of waits: an attempt to listen
ends with an answer from outside, and a tunnel in hand has to do what was asked of it. All the time
the tunnels work by themselves.

When a configuration is replaced, tunnels that are not configured any more are shut down first. Then
each configured tunnel is compared with the one that runs under its name: if its addresses are the
same it goes on, with new limits where they differ; if not, it is shut down. At the end the tunnels
that do not run are started, so that all addresses that became free can be used again.

* `Manager.step` is the manager after an action.
* `Manager.run` is a sequence of actions at given instants.
-/

namespace Sluice

open Net (IoFault)

namespace Manager

/-! ## Tunnels -/

/-- The tunnels without the one under a name. -/
def erase (m : Manager) (name : String) : Manager :=
  { m with tunnels := m.tunnels.filter (·.config.name ≠ name) }

/-- A tunnel that is given up. -/
def dropped (t : Tunnel) : Tunnel := t.drop.getD t

/-- Put a tunnel in place of the one under the same name, which is given up. -/
def insert (m : Manager) (managed : Managed) : Manager :=
  let old := m.tunnels.filter (·.config.name = managed.config.name)
  { m.erase managed.config.name with
    tunnels := (m.erase managed.config.name).tunnels ++ [managed]
    orphans := m.orphans ++ old.map (dropped ·.tunnel) }

/-- Take a tunnel in hand and ask for its end. -/
def shutDown (m : Manager) (managed : Managed) (errand : Errand) : Manager :=
  { m.erase managed.config.name with
    hand := some ⟨{ managed with tunnel := managed.tunnel.shutDown.getD managed.tunnel }, errand⟩ }

/-- Take a tunnel in hand and ask for the limits configured. -/
def update (m : Manager) (managed : Managed) (config : TunnelConfig) : Manager :=
  { m.erase managed.config.name with
    hand := some
      ⟨{ managed with
          tunnel := (managed.tunnel.requestUpdate config.limits).getD managed.tunnel },
        .update config managed.tunnel.calls⟩ }

/-! ## What the user asks for -/

/-- Begin to replace the configuration. The table of a real manager has no order, and the tunnels that
are not configured any more may be removed in any; here they are in that of the list. -/
def reload (m : Manager) (config : Config) : Option Manager :=
  match m.task with
  | .idle =>
    some
      { m with
        settings := config.settings
        summary := none
        task := .reloading {
          removals := m.names.filter fun name => !config.tunnels.any (·.name = name)
          ahead := config.tunnels } }
  | _ => none

/-- Begin to shut all tunnels down. -/
def shutDownAll (m : Manager) : Option Manager :=
  match m.task with
  | .idle => some { m with task := .closing none }
  | _ => none

/-! ## Attempts to listen -/

/-- The log line for a tunnel that could not be started. -/
def startFailure (config : TunnelConfig) (error : TunnelError) : Report :=
  .line ⟨.error, s!"Failed to start tunnel '{config.name}': {error.message}"⟩

/-- The error of a tunnel that could not be started. -/
def startError (config : TunnelConfig) (fault : IoFault) : TunnelError :=
  .listenFailed config.listenAt fault

/-- A tunnel could not be started. -/
def reportFailure (m : Manager) (config : TunnelConfig) (fault : IoFault) : Manager :=
  m.report [.event config.name (.listenFailed fault.text),
    startFailure config (startError config fault)]

/-- A tunnel is started. -/
def launch (m : Manager) (now : Nat) (config : TunnelConfig) (listener : Listener) : Manager :=
  let tunnel := Tunnel.start (config.plan m.settings m.env) now listener
  (m.insert ⟨config, tunnel⟩).report (tunnel.events.map (.event config.name))

/-- The tunnel that is to be started next. -/
def launching? (m : Manager) : Option TunnelConfig :=
  match m.hand, m.task with
  | none, .starting (config :: _) => some config
  | none, .reloading ⟨[], [], (config, _) :: _, _⟩ => some config
  | _, _ => none

/-- The attempt to listen of the tunnel that is to be started ends. -/
def bound (m : Manager) (now : Nat) (result : Except IoFault Listener) : Option Manager :=
  match m.hand, m.task, result with
  | none, .starting (config :: rest), .ok listener =>
    some { m.launch now config listener with task := .starting rest }
  | none, .starting (config :: _), .error fault =>
    some { m.reportFailure config fault with task := .closing (some (startError config fault)) }
  | none, .reloading ⟨[], [], (config, ran) :: rest, summary⟩, .ok listener =>
    let summary :=
      if ran then { summary with restarted := summary.restarted ++ [config.name] }
      else { summary with added := summary.added ++ [config.name] }
    some { m.launch now config listener with task := .reloading ⟨[], [], rest, summary⟩ }
  | none, .reloading ⟨[], [], (config, _) :: rest, summary⟩, .error fault =>
    let summary := { summary with failed := summary.failed ++ [config.name] }
    some { m.reportFailure config fault with task := .reloading ⟨[], [], rest, summary⟩ }
  | _, _, _ => none

/-! ## What the manager does by itself -/

/-- The log line for the end of a reload. -/
def summaryLine (s : ReloadSummary) : String :=
  s!"Configuration reloaded: {s.updated.length} updated, {s.restarted.length} restarted, " ++
    s!"{s.added.length} added, {s.removed.length} removed, {s.failed.length} failed"

/-- Remove the next tunnel that is not configured any more. -/
def removeNext (m : Manager) (name : String) (r : Reload) : Manager :=
  match m.find? name with
  | some managed =>
    { (m.log .info s!"Removing tunnel '{name}'").shutDown managed .remove with task := .reloading r }
  | none => { m with task := .reloading r }

/-- Compare the next configured tunnel with the one that runs under its name. -/
def compareNext (m : Manager) (config : TunnelConfig) (r : Reload) : Manager :=
  match m.find? config.name with
  | some managed =>
    if managed.config.sameEndpoints config then
      if managed.config.limits ≠ config.limits then
        { m.update managed config with task := .reloading r }
      else
        { (m.erase config.name).insert { managed with config } with task := .reloading r }
    else
      let m := m.log .info
        s!"Restarting tunnel '{config.name}': {config.listenAt} -> {config.connectTo}"
      { m.shutDown managed (.restart config) with task := .reloading r }
  | none => { m with task := .reloading { r with launches := r.launches ++ [(config, false)] } }

/-- Go on with the task while no tunnel is in hand. To shut all tunnels down any
order may be taken too; here it is that of the list. -/
def proceedFree (m : Manager) : Option Manager :=
  match m.task with
  | .starting [] => some { m.log .info s!"Started {m.tunnels.length} tunnel(s)" with task := .idle }
  | .reloading ⟨name :: names, ahead, launches, summary⟩ =>
    some (m.removeNext name ⟨names, ahead, launches, summary⟩)
  | .reloading ⟨[], config :: ahead, launches, summary⟩ =>
    some (m.compareNext config ⟨[], ahead, launches, summary⟩)
  | .reloading ⟨[], [], [], summary⟩ =>
    some { m.log .info (summaryLine summary) with task := .idle, summary := some summary }
  | .closing error =>
    match m.tunnels, error with
    | managed :: _, _ =>
      some ((m.log .info s!"Shutting down tunnel '{managed.config.name}'").shutDown managed .close)
    | [], none => some { m with task := .idle }
    | [], some error => some { m with task := .failed error }
  | _ => none

/-- The task with a change to the reload that it is. -/
def Task.mapReload (f : Reload → Reload) : Task → Task
  | .reloading r => .reloading (f r)
  | task => task

/-- The limits of the tunnel in hand are answered for. -/
def endUpdate (m : Manager) (managed : Managed) (config : TunnelConfig)
    (error : Option TunnelError) : Manager :=
  let m := { m with hand := none }
  let kept (m : Manager) : Manager := m.insert { managed with config }
  match error with
  | none =>
    { kept m with
      task := Task.mapReload
        (fun r => { r with summary.updated := r.summary.updated ++ [config.name] }) m.task }
  | some error =>
    kept (m.log .warn s!"Failed to update limits of tunnel '{config.name}': {error.message}")

/-- Go on with the tunnel in hand once it has done what was asked of it. -/
def proceedHand (m : Manager) (hand : Hand) : Option Manager :=
  let tunnel := hand.managed.tunnel
  match hand.errand with
  | .update config call =>
    (tunnel.answers.lookup call).map fun error => m.endUpdate hand.managed config error
  | .remove =>
    if tunnel.handle = .closed then
      some
        { m with
          hand := none
          task := Task.mapReload
            (fun r => { r with summary.removed := r.summary.removed ++ [hand.managed.config.name] })
            m.task }
    else none
  | .restart config =>
    if tunnel.handle = .closed then
      some
        { m with
          hand := none
          task := Task.mapReload
            (fun r => { r with launches := r.launches ++ [(config, true)] }) m.task }
    else none
  | .close => if tunnel.handle = .closed then some { m with hand := none } else none

/-- Go on by oneself. -/
def proceed (m : Manager) : Option Manager :=
  match m.hand with
  | none => m.proceedFree
  | some hand => m.proceedHand hand

/-! ## What the tunnels do -/

/-- Where a tunnel of a manager is. -/
inductive Place where
  /-- It runs under a name. -/
  | running (name : String)
  /-- The manager has it in hand. -/
  | inHand
  /-- It was given up. -/
  | orphaned (index : Nat)
deriving DecidableEq, Repr

/-- The tunnel at a place, with its name. -/
def tunnelAt? (m : Manager) : Place → Option Tunnel
  | .running name => (m.find? name).map (·.tunnel)
  | .inHand => m.hand.map (·.managed.tunnel)
  | .orphaned index => m.orphans[index]?

/-- Change the tunnel at a place. -/
def setTunnelAt (m : Manager) (place : Place) (tunnel : Tunnel) : Manager :=
  match place with
  | .running name =>
    { m with
      tunnels := m.tunnels.map fun managed =>
        if managed.config.name = name then { managed with tunnel } else managed }
  | .inHand =>
    { m with
      hand := m.hand.map fun hand => { hand with managed := { hand.managed with tunnel } } }
  | .orphaned index => { m with orphans := m.orphans.set index tunnel }

/-- A tunnel does something by itself, and its new events are reported. -/
def act (m : Manager) (now : Nat) (place : Place) (action : Tunnel.Action) : Option Manager := do
  let before ← m.tunnelAt? place
  if action.isOfUser then none
  else
    let after ← before.step now action
    let news := after.events.drop before.events.length
    return (m.setTunnelAt place after).report (news.map (.event after.plan.name))

/-! ## All together -/

/-- What can happen to a manager. -/
inductive Action where
  /-- The user replaces the configuration. -/
  | reload (config : Config)
  /-- The user shuts all tunnels down. -/
  | shutDownAll
  /-- The manager goes on by itself. -/
  | proceed
  /-- The attempt to listen of the tunnel that is to be started ends. -/
  | bound (result : Except IoFault Listener)
  /-- A tunnel does something by itself. -/
  | act (place : Place) (action : Tunnel.Action)

/-- The manager after an action at the instant `now`, or none if the action cannot happen now. -/
def step (m : Manager) (now : Nat) : Action → Option Manager
  | .reload config => m.reload config
  | .shutDownAll => m.shutDownAll
  | .proceed => m.proceed
  | .bound result => m.bound now result
  | .act place action => m.act now place action

/-- The manager after a sequence of actions at given instants, or none if one of them cannot
happen. -/
def run (m : Manager) (actions : List (Nat × Action)) : Option Manager :=
  actions.foldlM (fun m (now, action) => m.step now action) m

end Manager

end Sluice
