import Sluice.Proofs.Manager.Mirror

/-!
# The same configuration again

A manager that gets the configuration again that it has leaves every tunnel as it is, and attempts
once more to start those that could not be started.

* `Annals.Quiet a tunnels r failed`: what holds meanwhile;
* `Annals.Repeating a m failed n`: it is over, or goes on for `n` steps of the manager at most;
* `Annals.Repeating.step`: every action takes off from the steps that are left.
-/

namespace Sluice

open Manager (Underway namesOf missing)

namespace Manager

/-- The action is one of the user. -/
def Action.isOfUser : Action → Bool
  | .reload _ | .shutDownAll => true
  | _ => false

/-- The steps of the manager itself that the action takes. -/
def Action.cost : Action → ℕ
  | .act .. => 0
  | _ => 1

end Manager

namespace Annals

/-- The tunnels in `failed` are attempted again, and nothing else happens. -/
structure Quiet (a : Annals) (tunnels : List Managed) (r : Reload) (failed : List String) :
    Prop where
  /-- No tunnel is removed. -/
  removals : r.removals = []
  /-- No tunnel is replaced. -/
  launches : ∀ launch ∈ r.launches, launch.2 = false
  /-- Every tunnel is configured as before. -/
  known : ∀ x ∈ tunnels, x.config ∈ a.accepted.tunnels
  /-- The summary tells nothing else. -/
  summary : r.summary.updated = [] ∧ r.summary.restarted = [] ∧ r.summary.removed = []
  /-- What is attempted, and what will be, is what could not be started before. -/
  retried : a.attempted ++ r.launches.map (·.1.name) ++
    missing (r.ahead.map (·.name)) (namesOf tunnels) = failed
  /-- Every attempt succeeds or fails. -/
  outcome : (r.summary.added ++ r.summary.failed).Perm a.attempted

/-- The tunnels in `failed` were attempted again, and nothing else happened. -/
structure Retried (a : Annals) (m : Manager) (failed : List String) : Prop where
  /-- Each of them was attempted once, in the same order. -/
  attempted : a.attempted = failed
  /-- The summary tells which of them run now, and nothing else. -/
  summary : ∃ summary, m.summary = some summary ∧ summary.updated = [] ∧ summary.restarted = [] ∧
    summary.removed = [] ∧ (summary.added ++ summary.failed).Perm failed

/-- The manager has the same configuration again, and `n` steps to take at most. -/
inductive Repeating (a : Annals) (m : Manager) (failed : List String) : ℕ → Prop
  | reloading {r : Reload} (hhand : m.hand = none) (htask : m.task = .reloading r)
      (h : a.Quiet m.tunnels r failed) :
      Repeating a m failed (2 * r.ahead.length + r.launches.length + 1)
  | ended (hhand : m.hand = none) (htask : m.task = .idle) (h : a.Retried m failed) :
      Repeating a m failed 0

variable {a : Annals} {m m' : Manager} {now n : ℕ} {action : Manager.Action} {failed : List String}
  {tunnels : List Managed} {ahead : List TunnelConfig} {config : TunnelConfig} {managed x : Managed}
  {launches : List (TunnelConfig × Bool)} {summary : ReloadSummary} {r : Reload}

namespace Quiet

theorem drifts (h : a.Quiet m.tunnels r failed) (hdrifts : m.Drifts m') :
    a.Quiet m'.tunnels r failed := by
  refine { h with known := fun y hy => ?_, retried := ?_ }
  · obtain ⟨x, hx, hconfig, -⟩ := hdrifts.exists_of_mem hy
    rw [hconfig]
    exact h.known x hx
  · rw [namesOf, ← Manager.names, hdrifts.names_eq]
    exact h.retried

/-- What runs under a configured name is configured that way. -/
theorem config_eq (h : a.Quiet tunnels r failed) (hnames : a.accepted.names.Nodup)
    (hmem : managed ∈ tunnels) (hconfig : config ∈ a.accepted.tunnels)
    (hname : managed.config.name = config.name) : managed.config = config :=
  List.inj_on_of_nodup_map hnames (h.known managed hmem) hconfig hname

/-- The next tunnel goes on as it is. -/
theorem keep (h : a.Quiet tunnels ⟨[], x.config :: ahead, launches, summary⟩ failed)
    (hconfig : x.config ∈ a.accepted.tunnels) (hrunning : x.config.name ∈ namesOf tunnels) :
    a.Quiet (tunnels.filter (·.config.name ≠ x.config.name) ++ [x]) ⟨[], ahead, launches, summary⟩
      failed := by
  refine { h with known := List.forall_mem_append.2 ⟨fun y hy => ?_, ?_⟩, retried := ?_ }
  · exact h.known y (List.mem_of_mem_filter hy)
  · simpa using hconfig
  · have hsame : ∀ name, name ∈ (namesOf tunnels).filter (· ≠ x.config.name) ++ [x.config.name] ↔
        name ∈ namesOf tunnels := by
      intro name
      by_cases hname : name = x.config.name <;> simp [hname, hrunning]
    have hretried := h.retried
    rw [List.map_cons, missing, List.filter_cons_of_neg (by simpa using hrunning)] at hretried
    rw [Manager.namesOf_concat, Manager.namesOf_filter,
      Manager.missing_congr fun name _ => hsame name]
    exact hretried

/-- The next tunnel does not run. -/
theorem add (h : a.Quiet tunnels ⟨[], config :: ahead, launches, summary⟩ failed)
    (hname : config.name ∉ namesOf tunnels) :
    a.Quiet tunnels ⟨[], ahead, launches ++ [(config, false)], summary⟩ failed := by
  refine { h with
    launches := List.forall_mem_append.2 ⟨h.launches, by simp⟩
    retried := ?_ }
  have hretried := h.retried
  rw [List.map_cons, missing, List.filter_cons_of_pos (by simpa using hname)] at hretried
  rw [List.map_append, ← List.append_assoc, List.append_assoc _ _ (missing _ _)]
  exact hretried

/-- An attempt to start the next tunnel ends. -/
theorem attempt (a' : Annals) {tunnels' : List Managed} {summary' : ReloadSummary}
    {rest : List (TunnelConfig × Bool)} {ran : Bool}
    (h : a.Quiet tunnels ⟨[], [], (config, ran) :: rest, summary⟩ failed)
    (haccepted : a'.accepted = a.accepted)
    (hattempted : a'.attempted = a.attempted ++ [config.name])
    (hknown : ∀ x ∈ tunnels', x ∈ tunnels ∨ x.config ∈ a.accepted.tunnels)
    (hsummary : summary'.updated = summary.updated ∧ summary'.restarted = summary.restarted ∧
      summary'.removed = summary.removed)
    (houtcome : (summary'.added ++ summary'.failed).Perm
      (summary.added ++ summary.failed ++ [config.name])) :
    a'.Quiet tunnels' ⟨[], [], rest, summary'⟩ failed where
  removals := rfl
  launches := (List.forall_mem_cons.1 h.launches).2
  known x hx := by
    rw [haccepted]
    exact (hknown x hx).elim (h.known x) id
  summary := by
    obtain ⟨hupdated, hrestarted, hremoved⟩ := hsummary
    rw [hupdated, hrestarted, hremoved]
    exact h.summary
  retried := by
    rw [hattempted, ← h.retried]
    simp [missing]
  outcome := by
    rw [hattempted]
    exact houtcome.trans (h.outcome.append_right _)

end Quiet

/-- The attempt that ends is on record. -/
theorem attempted_note {ran : Bool} {rest : List (TunnelConfig × Bool)} (a : Annals)
    (hhand : m.hand = none) (htask : m.task = .reloading ⟨[], [], (config, ran) :: rest, summary⟩)
    (result : Except Net.IoFault Listener) :
    (a.note m (.bound result)).attempted = a.attempted ++ [config.name] := by
  simp [note, Manager.launching?, hhand, htask]

namespace Repeating

/-- The manager accepts the configuration again that it has. -/
theorem begin (h : a.Standing m) (htask : m.task = .idle)
    (hs : m.Stepped now (.reload a.accepted) m') :
    Repeating (a.note m (.reload a.accepted)) m' a.failed (2 * a.accepted.tunnels.length + 1) := by
  obtain ⟨hhand, -, hunderway⟩ := h.of_idle htask
  have hknown : ∀ x ∈ m.tunnels, x.config ∈ a.accepted.tunnels := fun x hx => by
    simpa using hunderway.known x hx
  -- all that runs is configured
  have hremovals : m.names.filter (fun name => !a.accepted.tunnels.any (·.name = name)) = [] := by
    refine List.filter_eq_nil_iff.2 fun name hname => ?_
    obtain ⟨x, hx, rfl⟩ := List.mem_map.1 hname
    simpa using ⟨x.config, hknown x hx, rfl⟩
  have hquiet :
      Quiet { accepted := a.accepted } m.tunnels ⟨[], a.accepted.tunnels, [], {}⟩ a.failed :=
    ⟨rfl, by simp, hknown, ⟨rfl, rfl, rfl⟩, (h.failed_eq htask).symm, .nil⟩
  cases hs with
  | reload =>
    rw [hremovals]
    exact .reloading (r := ⟨[], a.accepted.tunnels, [], {}⟩) hhand rfl hquiet

/-- When the manager is idle it is over. -/
theorem retried (h : a.Repeating m failed n) (htask : m.task = .idle) : a.Retried m failed := by
  cases h with
  | reloading _ hreloading =>
    rw [htask] at hreloading
    cases hreloading
  | ended _ _ h => exact h

/-- As long as it is not over the manager can go on, or attempts to start a tunnel. -/
theorem goes_on (h : a.Repeating m failed n) (htask : m.task ≠ .idle) :
    m.proceed.isSome ∨ m.launching?.isSome := by
  cases h with
  | ended _ hidle => exact absurd hidle htask
  | @reloading r hhand hreloading h =>
    obtain ⟨removals, ahead, launches, summary⟩ := r
    obtain rfl : removals = [] := h.removals
    -- nothing is in hand, so that only attempts to listen are waited for
    cases ahead with
    | cons config ahead => simp [Manager.proceed, Manager.proceedFree, hhand, hreloading]
    | nil =>
      cases launches with
      | nil => simp [Manager.proceed, Manager.proceedFree, hhand, hreloading]
      | cons launch rest => exact .inr (by simp [Manager.launching?, hhand, hreloading])

/-- What tunnels do by themselves takes no step of the manager. -/
theorem drifts (h : a.Repeating m failed n) (hdrifts : m.Drifts m') : a.Repeating m' failed n := by
  cases h with
  | reloading hhand htask h =>
    exact .reloading (hdrifts.hand_eq_none hhand) (hdrifts.task.trans htask) (h.drifts hdrifts)
  | ended hhand htask h =>
    refine .ended (hdrifts.hand_eq_none hhand) (hdrifts.task.trans htask) ⟨h.attempted, ?_⟩
    rw [hdrifts.summary]
    exact h.summary

/-- Every action takes off from the steps that are left. -/
theorem step (h : a.Repeating m failed n) (hstanding : a.Standing m)
    (hnames : a.accepted.names.Nodup) (huser : action.isOfUser = false)
    (hs : m.Stepped now action m') :
    ∃ left, left + action.cost ≤ n ∧ (a.note m action).Repeating m' failed left := by
  cases h with
  | ended hhand htask h =>
    -- an idle manager waits for its user
    cases hs with
    | act hplace howner hstep =>
      have hnodup := (hstanding.of_idle htask).2.2.nodup_names
      have hdrifts := (Manager.Stepped.act hplace howner hstep).drifts hnodup
      exact ⟨0, le_rfl, (Repeating.ended hhand htask h).drifts hdrifts⟩
    | _ => simp_all [Manager.Action.isOfUser]
  | @reloading r hhand htask h =>
    obtain ⟨-, done, kept, halted, hunderway⟩ := hstanding.of_reloading hhand htask
    cases hs with
    | act hplace howner hstep =>
      have hdrifts := (Manager.Stepped.act hplace howner hstep).drifts hunderway.nodup_names
      exact ⟨_, le_rfl, (Repeating.reloading hhand htask h).drifts hdrifts⟩
    | shutDownAll | reload => cases huser
    | remove _ htask' | skip _ htask' =>
      rw [htask] at htask'
      cases htask'
      cases h.removals
    | update _ htask' hfind hsame hlimits =>
      rw [htask] at htask'
      cases htask'
      obtain ⟨hmem, hname⟩ := Manager.find?_eq_some hfind
      -- the limits are the same
      have heq := h.config_eq hnames hmem (hunderway.next hnames).1 hname
      exact absurd (congrArg _ heq) hlimits
    | restart _ htask' hfind hother =>
      rw [htask] at htask'
      cases htask'
      obtain ⟨hmem, hname⟩ := Manager.find?_eq_some hfind
      -- the addresses are the same
      rw [h.config_eq hnames hmem (hunderway.next hnames).1 hname] at hother
      simp [TunnelConfig.sameEndpoints] at hother
    | @keep config ahead launches summary managed _ htask' hfind hsame hlimits =>
      rw [htask] at htask'
      cases htask'
      obtain ⟨hmem, hname⟩ := Manager.find?_eq_some hfind
      have hrunning : config.name ∈ namesOf m.tunnels := hname ▸ Manager.name_mem_namesOf hmem
      have hkeep := h.keep (x := { managed with config }) (hunderway.next hnames).1 hrunning
      rw [m.insert_erase { managed with config }]
      refine ⟨_, ?_, .reloading (r := ⟨[], _, _, _⟩) hhand rfl hkeep⟩
      simp only [Manager.Action.cost, List.length_cons]
      omega
    | add _ htask' hfind =>
      rw [htask] at htask'
      cases htask'
      have hadd := h.add (Manager.find?_eq_none.1 hfind)
      refine ⟨_, ?_, .reloading (r := ⟨[], _, _, _⟩) hhand rfl hadd⟩
      simp only [Manager.Action.cost, List.length_cons, List.length_append, List.length_nil]
      omega
    | @launchNext config ran launches summary listener _ htask' =>
      have hattempted := a.attempted_note hhand htask' (.ok listener)
      rw [htask] at htask'
      cases htask'
      obtain ⟨rfl, -⟩ := List.forall_mem_cons.1 h.launches
      obtain ⟨hconfig, -⟩ := List.forall_mem_cons.1 hunderway.launches
      obtain ⟨reports, hlaunch⟩ :=
        Manager.launch_of_not_mem now listener hunderway.not_mem_of_launch
      rw [hlaunch]
      refine ⟨_, ?_, .reloading (r := ⟨[], [], _, _⟩) hhand rfl
        (h.attempt _ rfl hattempted (fun x hx => ?_) ⟨rfl, rfl, rfl⟩ ?_)⟩
      · simp only [Manager.Action.cost, List.length_cons]
        omega
      · refine (List.mem_append.1 hx).imp_right fun hnew => ?_
        rw [List.mem_singleton.1 hnew]
        exact hconfig
      · simp only [Bool.false_eq_true, if_false, List.append_assoc]
        exact List.perm_append_comm.append_left _
    | @failLaunch config ran launches summary fault _ htask' =>
      have hattempted := a.attempted_note hhand htask' (.error fault)
      rw [htask] at htask'
      cases htask'
      refine ⟨_, ?_, .reloading (r := ⟨[], [], _, _⟩) hhand rfl
        (h.attempt _ rfl hattempted (fun x => .inl) ⟨rfl, rfl, rfl⟩ ?_)⟩
      · simp only [Manager.Action.cost, List.length_cons]
        omega
      · simp only [List.append_assoc]
        exact .refl _
    | endReload _ htask' =>
      rw [htask] at htask'
      cases htask'
      have hretried : a.attempted = failed := by simpa [missing] using h.retried
      refine ⟨0, Nat.le_add_left _ _, .ended hhand rfl ⟨hretried, _, rfl, ?_⟩⟩
      obtain ⟨hupdated, hrestarted, hremoved⟩ := h.summary
      exact ⟨hupdated, hrestarted, hremoved, hretried ▸ h.outcome⟩
    | startNext _ htask' | failStart _ htask' | endStart _ htask' | close _ htask'
    | endClose _ htask' | endFailure _ htask' =>
      rw [htask] at htask'
      cases htask'
    | updated hhand' | updateFailed hhand' | removed hhand' | halted hhand' | closed hhand' =>
      rw [hhand] at hhand'
      cases hhand'

end Repeating

end Annals

end Sluice
