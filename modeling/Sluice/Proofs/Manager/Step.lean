import Sluice.Manager.Step
import Sluice.Proofs.Tunnel.Step

/-!
# What one action does to a manager

* `Manager.Stepped m now action m'` lists every way in which an action happens, with the conditions
  under which it can happen and the manager that it leaves;
* `Manager.stepped_of_step`: there is no other way;
* `Manager.run_keeps`: what every action of a run keeps is kept by the run.
-/

namespace Sluice

open Net (IoFault)

namespace Manager

/-- The manager `m'` is what the action leaves of the manager `m` at the instant `now`. -/
inductive Stepped (m : Manager) (now : ℕ) : Action → Manager → Prop
  -- the user
  | reload {config : Config} (htask : m.task = .idle) :
      Stepped m now (.reload config)
        { m with
          settings := config.settings
          summary := none
          task := .reloading {
            removals := m.names.filter fun name => !config.tunnels.any (·.name = name)
            ahead := config.tunnels } }
  | shutDownAll (htask : m.task = .idle) :
      Stepped m now .shutDownAll { m with task := .closing none }
  -- the first configuration
  | startNext {config : TunnelConfig} {rest : List TunnelConfig} {listener : Listener}
      (hhand : m.hand = none) (htask : m.task = .starting (config :: rest)) :
      Stepped m now (.bound (.ok listener))
        { m.launch now config listener with task := .starting rest }
  | failStart {config : TunnelConfig} {rest : List TunnelConfig} {fault : IoFault}
      (hhand : m.hand = none) (htask : m.task = .starting (config :: rest)) :
      Stepped m now (.bound (.error fault))
        { m.reportFailure config fault with task := .closing (some (startError config fault)) }
  | endStart (hhand : m.hand = none) (htask : m.task = .starting []) :
      Stepped m now .proceed
        { m.log .info s!"Started {m.tunnels.length} tunnel(s)" with task := .idle }
  -- tunnels that are not configured any more
  | remove {name : String} {names : List String} {ahead : List TunnelConfig}
      {launches : List (TunnelConfig × Bool)} {summary : ReloadSummary} {managed : Managed}
      (hhand : m.hand = none)
      (htask : m.task = .reloading ⟨name :: names, ahead, launches, summary⟩)
      (hfind : m.find? name = some managed) :
      Stepped m now .proceed
        { (m.log .info s!"Removing tunnel '{name}'").shutDown managed .remove with
          task := .reloading ⟨names, ahead, launches, summary⟩ }
  | skip {name : String} {names : List String} {ahead : List TunnelConfig}
      {launches : List (TunnelConfig × Bool)} {summary : ReloadSummary} (hhand : m.hand = none)
      (htask : m.task = .reloading ⟨name :: names, ahead, launches, summary⟩)
      (hfind : m.find? name = none) :
      Stepped m now .proceed
        { m with task := .reloading ⟨names, ahead, launches, summary⟩ }
  -- configured tunnels
  | update {config : TunnelConfig} {ahead : List TunnelConfig}
      {launches : List (TunnelConfig × Bool)} {summary : ReloadSummary} {managed : Managed}
      (hhand : m.hand = none)
      (htask : m.task = .reloading ⟨[], config :: ahead, launches, summary⟩)
      (hfind : m.find? config.name = some managed)
      (hsame : managed.config.sameEndpoints config)
      (hlimits : managed.config.limits ≠ config.limits) :
      Stepped m now .proceed
        { m.update managed config with task := .reloading ⟨[], ahead, launches, summary⟩ }
  | keep {config : TunnelConfig} {ahead : List TunnelConfig}
      {launches : List (TunnelConfig × Bool)} {summary : ReloadSummary} {managed : Managed}
      (hhand : m.hand = none)
      (htask : m.task = .reloading ⟨[], config :: ahead, launches, summary⟩)
      (hfind : m.find? config.name = some managed)
      (hsame : managed.config.sameEndpoints config)
      (hlimits : managed.config.limits = config.limits) :
      Stepped m now .proceed
        { (m.erase config.name).insert { managed with config } with
          task := .reloading ⟨[], ahead, launches, summary⟩ }
  | restart {config : TunnelConfig} {ahead : List TunnelConfig}
      {launches : List (TunnelConfig × Bool)} {summary : ReloadSummary} {managed : Managed}
      (hhand : m.hand = none)
      (htask : m.task = .reloading ⟨[], config :: ahead, launches, summary⟩)
      (hfind : m.find? config.name = some managed)
      (hother : managed.config.sameEndpoints config = false) :
      Stepped m now .proceed
        { (m.log .info
              s!"Restarting tunnel '{config.name}': {config.listenAt} -> {config.connectTo}").shutDown
            managed (.restart config) with
          task := .reloading ⟨[], ahead, launches, summary⟩ }
  | add {config : TunnelConfig} {ahead : List TunnelConfig}
      {launches : List (TunnelConfig × Bool)} {summary : ReloadSummary} (hhand : m.hand = none)
      (htask : m.task = .reloading ⟨[], config :: ahead, launches, summary⟩)
      (hfind : m.find? config.name = none) :
      Stepped m now .proceed
        { m with task := .reloading ⟨[], ahead, launches ++ [(config, false)], summary⟩ }
  -- tunnels that do not run
  | launchNext {config : TunnelConfig} {ran : Bool} {rest : List (TunnelConfig × Bool)}
      {summary : ReloadSummary} {listener : Listener} (hhand : m.hand = none)
      (htask : m.task = .reloading ⟨[], [], (config, ran) :: rest, summary⟩) :
      Stepped m now (.bound (.ok listener))
        { m.launch now config listener with
          task := .reloading ⟨[], [], rest,
            if ran then { summary with restarted := summary.restarted ++ [config.name] }
            else { summary with added := summary.added ++ [config.name] }⟩ }
  | failLaunch {config : TunnelConfig} {ran : Bool} {rest : List (TunnelConfig × Bool)}
      {summary : ReloadSummary} {fault : IoFault} (hhand : m.hand = none)
      (htask : m.task = .reloading ⟨[], [], (config, ran) :: rest, summary⟩) :
      Stepped m now (.bound (.error fault))
        { m.reportFailure config fault with
          task := .reloading ⟨[], [], rest,
            { summary with failed := summary.failed ++ [config.name] }⟩ }
  | endReload {summary : ReloadSummary} (hhand : m.hand = none)
      (htask : m.task = .reloading ⟨[], [], [], summary⟩) :
      Stepped m now .proceed
        { m.log .info (summaryLine summary) with task := .idle, summary := some summary }
  -- the shutdown
  | close {error : Option TunnelError} {managed : Managed} {rest : List Managed}
      (hhand : m.hand = none) (htask : m.task = .closing error)
      (htunnels : m.tunnels = managed :: rest) :
      Stepped m now .proceed
        ((m.log .info s!"Shutting down tunnel '{managed.config.name}'").shutDown managed .close)
  | endClose (hhand : m.hand = none) (htask : m.task = .closing none) (htunnels : m.tunnels = []) :
      Stepped m now .proceed { m with task := .idle }
  | endFailure {error : TunnelError} (hhand : m.hand = none)
      (htask : m.task = .closing (some error)) (htunnels : m.tunnels = []) :
      Stepped m now .proceed { m with task := .failed error }
  -- the tunnel in hand
  | updated {managed : Managed} {config : TunnelConfig} {call : ℕ}
      (hhand : m.hand = some ⟨managed, .update config call⟩)
      (hanswer : managed.tunnel.answers.lookup call = some none) :
      Stepped m now .proceed
        { insert { m with hand := none } { managed with config } with
          task := Task.mapReload
            (fun r => { r with summary.updated := r.summary.updated ++ [config.name] }) m.task }
  | updateFailed {managed : Managed} {config : TunnelConfig} {call : ℕ} {error : TunnelError}
      (hhand : m.hand = some ⟨managed, .update config call⟩)
      (hanswer : managed.tunnel.answers.lookup call = some (some error)) :
      Stepped m now .proceed
        ((log { m with hand := none } .warn
            s!"Failed to update limits of tunnel '{config.name}': {error.message}").insert
          { managed with config })
  | removed {managed : Managed} (hhand : m.hand = some ⟨managed, .remove⟩)
      (hclosed : managed.tunnel.handle = .closed) :
      Stepped m now .proceed
        { m with
          hand := none
          task := Task.mapReload
            (fun r => { r with summary.removed := r.summary.removed ++ [managed.config.name] })
            m.task }
  | halted {managed : Managed} {config : TunnelConfig}
      (hhand : m.hand = some ⟨managed, .restart config⟩)
      (hclosed : managed.tunnel.handle = .closed) :
      Stepped m now .proceed
        { m with
          hand := none
          task := Task.mapReload
            (fun r => { r with launches := r.launches ++ [(config, true)] }) m.task }
  | closed {managed : Managed} (hhand : m.hand = some ⟨managed, .close⟩)
      (hclosed : managed.tunnel.handle = .closed) :
      Stepped m now .proceed { m with hand := none }
  -- the tunnels
  | act {place : Place} {action : Tunnel.Action} {t t' : Tunnel}
      (hplace : m.tunnelAt? place = some t) (howner : action.isOfUser = false)
      (hstep : t.Stepped now action t') :
      Stepped m now (.act place action)
        ((m.setTunnelAt place t').report
          ((t'.events.drop t.events.length).map (.event t'.plan.name)))

variable {m m' : Manager} {now : ℕ} {action : Action}

/-- While no tunnel is in hand, a manager goes on in one of the ways that `Stepped` lists. -/
theorem stepped_of_proceedFree (hhand : m.hand = none) (h : m.proceedFree = some m') :
    m.Stepped now .proceed m' := by
  unfold proceedFree at h
  split at h
  next htask =>
    cases h
    exact .endStart hhand htask
  next name names ahead launches summary htask =>
    unfold removeNext at h
    cases h
    split
    next managed hfind => exact .remove hhand htask hfind
    next hfind => exact .skip hhand htask hfind
  next config ahead launches summary htask =>
    unfold compareNext at h
    cases h
    split
    next managed hfind =>
      split
      next hsame =>
        split
        next hlimits => exact .update hhand htask hfind hsame hlimits
        next hlimits => exact .keep hhand htask hfind hsame (not_ne_iff.1 hlimits)
      next hother => exact .restart hhand htask hfind (Bool.eq_false_iff.2 hother)
    next hfind => exact .add hhand htask hfind
  next summary htask =>
    cases h
    exact .endReload hhand htask
  next error htask =>
    split at h
    next managed rest htunnels =>
      cases h
      exact .close hhand htask htunnels
    next htunnels =>
      cases h
      exact .endClose hhand htask htunnels
    next error htunnels =>
      cases h
      exact .endFailure hhand htask htunnels
  next => cases h

/-- With a tunnel in hand, a manager goes on in one of the ways that `Stepped` lists. -/
theorem stepped_of_proceedHand {hand : Hand} (hhand : m.hand = some hand)
    (h : m.proceedHand hand = some m') : m.Stepped now .proceed m' := by
  obtain ⟨managed, errand⟩ := hand
  cases errand with
  | update config call =>
    obtain ⟨error, hanswer, heq⟩ := Option.map_eq_some_iff.1 h
    subst heq
    cases error with
    | none => exact .updated hhand hanswer
    | some error => exact .updateFailed hhand hanswer
  | remove =>
    obtain ⟨hclosed, h⟩ := Option.ite_none_right_eq_some.1 h
    cases h
    exact .removed hhand hclosed
  | restart config =>
    obtain ⟨hclosed, h⟩ := Option.ite_none_right_eq_some.1 h
    cases h
    exact .halted hhand hclosed
  | close =>
    obtain ⟨hclosed, h⟩ := Option.ite_none_right_eq_some.1 h
    cases h
    exact .closed hhand hclosed

/-- An action happens in one of the ways that `Stepped` lists. -/
theorem stepped_of_step (h : m.step now action = some m') : m.Stepped now action m' := by
  cases action with
  | reload config =>
    simp only [step, Manager.reload] at h
    split at h
    next htask =>
      cases h
      exact .reload htask
    next => cases h
  | shutDownAll =>
    simp only [step, Manager.shutDownAll] at h
    split at h
    next htask =>
      cases h
      exact .shutDownAll htask
    next => cases h
  | proceed =>
    simp only [step, Manager.proceed] at h
    split at h
    next hhand => exact stepped_of_proceedFree hhand h
    next hand hhand => exact stepped_of_proceedHand hhand h
  | bound result =>
    simp only [step, Manager.bound] at h
    split at h
    next config rest listener hhand htask =>
      cases h
      exact .startNext hhand htask
    next config rest fault hhand htask =>
      cases h
      exact .failStart hhand htask
    next config ran rest summary listener hhand htask =>
      cases h
      exact .launchNext hhand htask
    next config ran rest summary fault hhand htask =>
      cases h
      exact .failLaunch hhand htask
    next => cases h
  | act place action =>
    obtain ⟨t, hplace, h⟩ := Option.bind_eq_some_iff.1 h
    simp only [Option.ite_none_left_eq_some, Bool.not_eq_true] at h
    obtain ⟨howner, h⟩ := h
    obtain ⟨t', hstep, h⟩ := Option.bind_eq_some_iff.1 h
    cases h
    exact .act hplace howner (Tunnel.stepped_of_step hstep)

/-- A run is the run of a schedule. -/
theorem run_eq (m : Manager) (actions : Schedule Action) :
    m.run actions = Schedule.run step m actions := by
  induction actions generalizing m with
  | nil => rfl
  | cons head rest ih =>
    simp only [run, List.foldlM_cons, Schedule.run]
    cases m.step head.1 head.2 with
    | none => rfl
    | some next => exact ih next

/-- What every action of a run keeps is kept by the run. -/
theorem run_keeps {motive : Manager → Prop} {actions : Schedule Action}
    (hstep : ∀ m now action m', (now, action) ∈ actions → motive m → Stepped m now action m' →
      motive m') (h : motive m) (hrun : m.run actions = some m') : motive m' := by
  rw [run_eq] at hrun
  exact Schedule.run_keeps_of_mem
    (fun _ _ _ _ hmem h hnext => hstep _ _ _ _ hmem h (stepped_of_step hnext)) h hrun

end Manager

end Sluice
