import Sluice.Proofs.Manager.Partition
import Sluice.Proofs.Tunnel.Upkeep

/-!
# Tunnels that a reload leaves alone

A tunnel whose addresses are configured as before goes on while the manager replaces its
configuration, whatever becomes of the other tunnels. It gets the limits that are configured if they
are other ones, and nothing else happens to it than what it does by itself.

* `Manager.workOf name m actions`: what the tunnel under a name does by itself;
* `Manager.subject? m`: the tunnel with which the manager deals, and `Stepped.frame` says that it
  leaves all others alone;
* `Manager.Spared x c own m`: what became so far of the tunnel `x` that is configured as `c` now;
* `Manager.undisturbed_of_run`: the tunnel goes on at any time of a reload and afterwards.
-/

namespace Sluice

open Event (startedAddress?)

namespace Manager

/-- What the action is for the tunnel that runs under the name, or that is in hand to run under it
with other limits. -/
def workOf? (name : String) (m : Manager) : Action → Option Tunnel.Action
  | .act (.running other) work => if other = name then some work else none
  | .act .inHand work => if name ∈ m.hand.toList.flatMap (·.errand.kept) then some work else none
  | _ => none

/-- What the tunnel under the name does by itself that is not about limits. -/
def workOf (name : String) (m : Manager) (actions : Schedule Action) : Schedule Tunnel.Action :=
  Schedule.part step (fun m action => (m.workOf? name action).filter (!·.isOfLimits)) m actions

/-- The configured tunnels that are still to be compared. -/
def ahead (m : Manager) : List TunnelConfig :=
  match m.task with
  | .reloading r => r.ahead
  | _ => []

/-- The name of the tunnel with which the manager deals next during a reload. -/
def subject? (m : Manager) : Option String :=
  match m.hand, m.task with
  | some ⟨_, .update config _⟩, _ => some config.name
  | none, .reloading ⟨name :: _, _, _, _⟩ => some name
  | none, .reloading ⟨[], config :: _, _, _⟩ => some config.name
  | none, .reloading ⟨[], [], (config, _) :: _, _⟩ => some config.name
  | _, _ => none

/-- What became so far of the tunnel `x`, which is configured as `c` now, while it did `own` by
itself. -/
inductive Spared (x : Managed) (c : TunnelConfig) (own : Schedule Tunnel.Action) (m : Manager) : Prop
  | waiting {t : Tunnel} (hahead : c ∈ m.ahead) (hmem : ⟨x.config, t⟩ ∈ m.tunnels)
      (h : x.tunnel.Kept own [] [] t)
  | inHand {t : Tunnel} {call : ℕ} {done : List Tunnel.Action} {reports : List Event}
      (hahead : c ∉ m.ahead) (hhand : m.hand = some ⟨⟨x.config, t⟩, .update c call⟩)
      (hlimits : x.config.limits ≠ c.limits) (h : x.tunnel.Kept own done reports t)
      (hatt : t.Attending c.limits done reports)
  | settled {t : Tunnel} {done : List Tunnel.Action} {reports : List Event} (hahead : c ∉ m.ahead)
      (hmem : ⟨c, t⟩ ∈ m.tunnels) (h : x.tunnel.Kept own done reports t)
      (hdone : Tunnel.UpkeepDone x.config.limits c.limits done reports)

variable {m m' : Manager} {now : ℕ} {action : Action} {c : Config} {config : TunnelConfig}
  {x y : Managed} {own : Schedule Tunnel.Action} {name : String} {place : Place}
  {work : Tunnel.Action}

/-! ## What the manager does -/

theorem mem_insert_of_ne (hy : y ∈ m.tunnels) (hne : y.config.name ≠ x.config.name) :
    y ∈ (m.insert x).tunnels :=
  List.mem_append_left _ (List.mem_filter.2 ⟨hy, decide_eq_true hne⟩)

theorem mem_erase_of_ne (hy : y ∈ m.tunnels) (hne : y.config.name ≠ name) :
    y ∈ (m.erase name).tunnels :=
  List.mem_filter.2 ⟨hy, decide_eq_true hne⟩

/-- During a reload a manager that goes on leaves all tunnels alone but the one with which it
deals. -/
theorem Stepped.frame (hs : m.Stepped now action m') (htask : m.task.IsOfReload)
    (hsteady : m.Steady) (huser : action.isOfUser = false)
    (hact : ∀ place work, action ≠ .act place work) (hother : m.subject? ≠ some config.name) :
    (∀ y ∈ m.tunnels, y.config.name = config.name → y ∈ m'.tunnels) ∧
      (config ∈ m'.ahead ↔ config ∈ m.ahead) := by
  cases hs with
  | reload | shutDownAll => cases huser
  | act => exact absurd rfl (hact _ _)
  | startNext _ htask' | failStart _ htask' | endStart _ htask' | close _ htask' | endClose _ htask'
  | endFailure _ htask' =>
    rw [htask'] at htask
    cases htask
  -- no tunnel is dealt with
  | closed => exact ⟨fun y hy _ => hy, .rfl⟩
  | removed hhand | halted hhand =>
    obtain ⟨r, htask'⟩ := hsteady.exists_reload htask hhand
    exact ⟨fun y hy _ => hy, by simp [ahead, htask', Task.mapReload]⟩
  | skip hhand htask' | failLaunch hhand htask' | endReload hhand htask' =>
    exact ⟨fun y hy _ => hy, by simp [ahead, htask']⟩
  -- it is another one
  | updated hhand =>
    obtain ⟨r, htask'⟩ := hsteady.exists_reload htask hhand
    simp only [subject?, hhand, ne_eq, Option.some.injEq] at hother
    refine ⟨fun y hy hname => mem_insert_of_ne hy ?_, by simp [ahead, htask', Task.mapReload]⟩
    exact hname ▸ Ne.symm hother
  | updateFailed hhand =>
    simp only [subject?, hhand, ne_eq, Option.some.injEq] at hother
    exact ⟨fun y hy hname => mem_insert_of_ne hy (hname ▸ Ne.symm hother), .rfl⟩
  | launchNext hhand htask' =>
    simp only [subject?, hhand, htask', ne_eq, Option.some.injEq] at hother
    refine ⟨fun y hy hname => mem_insert_of_ne hy ?_, by simp [ahead, htask']⟩
    exact hname ▸ Ne.symm hother
  | remove hhand htask' hfind =>
    obtain ⟨-, rfl⟩ := find?_eq_some hfind
    simp only [subject?, hhand, htask', ne_eq, Option.some.injEq] at hother
    refine ⟨fun y hy hname => mem_erase_of_ne hy ?_, by simp [ahead, htask']⟩
    exact hname ▸ Ne.symm hother
  | add hhand htask' =>
    simp only [subject?, hhand, htask', ne_eq, Option.some.injEq] at hother
    refine ⟨fun y hy _ => hy, ?_⟩
    simp [ahead, htask', ne_of_apply_ne TunnelConfig.name (Ne.symm hother)]
  | update hhand htask' hfind | restart hhand htask' hfind =>
    obtain ⟨-, heq⟩ := find?_eq_some hfind
    simp only [subject?, hhand, htask', ne_eq, Option.some.injEq] at hother
    refine ⟨fun y hy hname => mem_erase_of_ne hy ?_, ?_⟩
    · rw [heq, hname]
      exact Ne.symm hother
    · simp [ahead, htask', ne_of_apply_ne TunnelConfig.name (Ne.symm hother)]
  | @keep _ _ _ _ managed hhand htask' hfind =>
    simp only [subject?, hhand, htask', ne_eq, Option.some.injEq] at hother
    refine ⟨fun y hy hname => ?_, ?_⟩
    · have hne := hname ▸ Ne.symm hother
      exact mem_insert_of_ne (mem_erase_of_ne hy hne) hne
    · simp [ahead, htask', ne_of_apply_ne TunnelConfig.name (Ne.symm hother)]

/-- A configured tunnel that runs is dealt with only when it is compared. -/
theorem Replaces.comparing (h : m.Replaces c) (hnames : c.names.Nodup) (hconfig : config ∈ c.tunnels)
    (hrunning : config.name ∈ m.names) (hsubject : m.subject? = some config.name) :
    m.hand = none ∧ ∃ ahead launches summary,
      m.task = .reloading ⟨[], config :: ahead, launches, summary⟩ := by
  obtain ⟨removals, ahead, launches, summary, htask⟩ | hidle : (∃ removals ahead launches summary,
      m.task = .reloading ⟨removals, ahead, launches, summary⟩) ∨ m.task = .idle := by
    have htask := h.task
    cases hreload : m.task with
    | reloading r => exact .inl ⟨_, _, _, _, rfl⟩
    | idle => exact .inr rfl
    | _ =>
      rw [hreload] at htask
      cases htask
  · obtain ⟨done, kept, halted, hunderway⟩ := h.underway htask
    cases hhand : m.hand with
    | some hand =>
      -- under the name of the tunnel in hand none runs
      obtain ⟨y, errand⟩ := hand
      cases errand with
      | update other call =>
        simp only [subject?, hhand, Option.some.injEq] at hsubject
        exact absurd hrunning (h.steady.not_mem_names_of_kept (by simp [hhand, Errand.kept, hsubject]))
      | _ => simp [subject?, hhand] at hsubject
    | none =>
      rw [hhand] at hunderway
      refine ⟨rfl, ?_⟩
      cases removals with
      | cons name names =>
        simp only [subject?, hhand, htask, Option.some.injEq] at hsubject
        have hother := hunderway.removals name List.mem_cons_self
        exact absurd (hsubject ▸ List.mem_map_of_mem hconfig) hother
      | nil =>
        cases ahead with
        | cons other ahead =>
          simp only [subject?, hhand, htask, Option.some.injEq] at hsubject
          obtain ⟨hother, -⟩ := hunderway.next hnames
          obtain rfl := List.inj_on_of_nodup_map hnames hother hconfig hsubject
          exact ⟨_, _, _, htask⟩
        | nil =>
          cases launches with
          | cons launch rest =>
            simp only [subject?, hhand, htask, Option.some.injEq] at hsubject
            exact absurd (hsubject ▸ hrunning) hunderway.not_mem_of_launch
          | nil => simp [subject?, hhand, htask] at hsubject
  · simp [subject?, hidle, h.steady.hand_eq_none hidle] at hsubject

/-! ## What the tunnels do -/

/-- What a tunnel does by itself changes the tunnel and is reported. -/
theorem exists_of_act (h : m.step now (.act place work) = some m') :
    ∃ t t' reports, m.tunnelAt? place = some t ∧ work.isOfUser = false ∧ t.step now work = some t' ∧
      m' = (m.setTunnelAt place t').report reports := by
  obtain ⟨t, hplace, h⟩ := Option.bind_eq_some_iff.1 h
  simp only [Option.ite_none_left_eq_some, Bool.not_eq_true] at h
  obtain ⟨huser, h⟩ := h
  obtain ⟨t', hstep, h⟩ := Option.bind_eq_some_iff.1 h
  cases h
  exact ⟨t, t', _, hplace, huser, hstep, rfl⟩

/-- A tunnel that runs goes on by what it does itself, and by nothing else. -/
theorem runs_of_act (h : m.step now (.act place work) = some m') (hsteady : m.Steady)
    (hy : y ∈ m.tunnels) :
    m.workOf? y.config.name (.act place work) = none ∧ y ∈ m'.tunnels ∨
      m.workOf? y.config.name (.act place work) = some work ∧ work.isOfUser = false ∧
        ∃ t, y.tunnel.step now work = some t ∧ { y with tunnel := t } ∈ m'.tunnels := by
  obtain ⟨t, t', reports, hplace, huser, hstep, rfl⟩ := exists_of_act h
  cases place with
  | running name =>
    obtain ⟨x, hfind, rfl⟩ := Option.map_eq_some_iff.1 hplace
    by_cases hname : name = y.config.name
    · obtain rfl := eq_of_find? hsteady.nodup_names hfind hy hname.symm
      refine .inr ⟨if_pos hname, huser, t', hstep, List.mem_map.2 ⟨y, hy, ?_⟩⟩
      exact if_pos hname.symm
    · refine .inl ⟨if_neg hname, List.mem_map.2 ⟨y, hy, ?_⟩⟩
      exact if_neg (Ne.symm hname)
  | inHand =>
    -- no tunnel is in hand to run under the same name
    refine .inl ⟨if_neg fun hmem => ?_, hy⟩
    exact hsteady.not_mem_names_of_kept hmem (name_mem_namesOf hy)
  | orphaned index => exact .inl ⟨rfl, hy⟩

/-- So does the tunnel that is in hand to get other limits. -/
theorem inHand_of_act {call : ℕ} (h : m.step now (.act place work) = some m') (hsteady : m.Steady)
    (hhand : m.hand = some ⟨y, .update config call⟩) :
    m.workOf? config.name (.act place work) = none ∧ m'.hand = m.hand ∨
      m.workOf? config.name (.act place work) = some work ∧ work.isOfUser = false ∧
        ∃ t, y.tunnel.step now work = some t ∧
          m'.hand = some ⟨{ y with tunnel := t }, .update config call⟩ := by
  obtain ⟨t, t', reports, hplace, huser, hstep, rfl⟩ := exists_of_act h
  have hkept : m.hand.toList.flatMap (·.errand.kept) = [config.name] := by simp [hhand, Errand.kept]
  cases place with
  | running name =>
    obtain ⟨x, hfind, rfl⟩ := Option.map_eq_some_iff.1 hplace
    obtain ⟨hx, rfl⟩ := find?_eq_some hfind
    refine .inl ⟨if_neg fun heq => ?_, rfl⟩
    refine hsteady.not_mem_names_of_kept ?_ (name_mem_namesOf hx)
    exact hkept ▸ List.mem_singleton.2 heq
  | inHand =>
    rw [tunnelAt?, hhand, Option.map_some, Option.some.injEq] at hplace
    subst hplace
    refine .inr ⟨if_pos (hkept ▸ List.mem_singleton_self _), huser, t', hstep, ?_⟩
    simp [report, setTunnelAt, hhand]
  | orphaned index => exact .inl ⟨rfl, rfl⟩

namespace Spared

/-- What tunnels do by themselves. -/
theorem act (h : Spared x config own m) (hsteady : m.Steady) (hname : x.config.name = config.name)
    (hnext : m.step now (.act place work) = some m') :
    Spared x config (own ++ (((m.workOf? config.name (.act place work)).filter
      (!·.isOfLimits)).map (now, ·)).toList) m' := by
  have htask : m'.ahead = m.ahead := by
    have hs := stepped_of_step hnext
    rw [ahead, ahead, (hs.drifts hsteady.nodup_names).task]
  cases h with
  | @waiting t hahead hmem h =>
    rw [← htask] at hahead
    have hact := runs_of_act hnext hsteady hmem
    simp only [hname] at hact
    rcases hact with ⟨hnone, hmem'⟩ | ⟨hwork, huser, t', hstep, hmem'⟩
    · rw [hnone]
      exact .waiting hahead hmem' (by simpa using h)
    · obtain ⟨hlimits, h'⟩ := h.step_of_inUse_nil (hsteady.runs _ hmem).inUse huser hstep
      rw [hwork]
      exact .waiting hahead hmem' (by simpa [hlimits, Option.filter_some] using h')
  | @inHand t call done reports hahead hhand hlimits h hatt =>
    rw [← htask] at hahead
    rcases inHand_of_act hnext hsteady hhand with ⟨hnone, hhand'⟩ | ⟨hwork, huser, t', hstep, hhand'⟩
    · rw [hnone]
      exact .inHand hahead (hhand'.trans hhand) hlimits (by simpa using h) hatt
    · obtain ⟨done', reports', h', hatt'⟩ := h.step hatt huser hstep
      rw [hwork]
      refine .inHand hahead hhand' hlimits ?_ hatt'
      cases hlimits : work.isOfLimits <;> simpa [hlimits, Option.filter_some] using h'
  | @settled t done reports hahead hmem h hdone =>
    rw [← htask] at hahead
    rcases runs_of_act hnext hsteady hmem with ⟨hnone, hmem'⟩ | ⟨hwork, huser, t', hstep, hmem'⟩
    · rw [hnone]
      exact .settled hahead hmem' (by simpa using h) hdone
    · obtain ⟨hlimits, h'⟩ := h.step_of_inUse_nil (hsteady.runs _ hmem).inUse huser hstep
      rw [hwork]
      exact .settled hahead hmem' (by simpa [hlimits, Option.filter_some] using h') hdone

/-- The tunnel is compared: it goes on with the same limits, or is taken in hand to get others. -/
theorem compared {t : Tunnel} {ahead : List TunnelConfig} {launches : List (TunnelConfig × Bool)}
    {summary : ReloadSummary} (hreplaces : m.Replaces c) (hnames : c.names.Nodup)
    (hname : x.config.name = config.name) (hsame : x.config.sameEndpoints config)
    (hhand : m.hand = none) (htask : m.task = .reloading ⟨[], config :: ahead, launches, summary⟩)
    (hmem : ⟨x.config, t⟩ ∈ m.tunnels) (h : x.tunnel.Kept own [] [] t)
    (hs : m.Stepped now action m') (hact : ∀ place work, action ≠ .act place work) :
    Spared x config own m' := by
  -- no other tunnel has this name, neither one that runs nor one that is configured
  have hfound {y : Managed} (hfind : m.find? config.name = some y) : y = ⟨x.config, t⟩ :=
    (eq_of_find? hreplaces.steady.nodup_names hfind hmem hname).symm
  obtain ⟨done, kept, halted, hunderway⟩ := hreplaces.underway htask
  have hahead : config ∉ ahead := fun hmem =>
    (hunderway.next hnames).2.2 (List.mem_map_of_mem hmem)
  cases hs with
  | act => exact absurd rfl (hact _ _)
  | update _ htask' hfind _ hlimits =>
    cases htask.symm.trans htask'
    obtain rfl := hfound hfind
    obtain ⟨t', hrequest, h', hatt⟩ :=
      h.ask (hreplaces.steady.runs _ hmem).inUse config.limits
    have hhand' : (m.update ⟨x.config, t⟩ config).hand =
        some ⟨⟨x.config, t'⟩, .update config t.calls⟩ := by simp [hrequest]
    exact .inHand hahead hhand' hlimits h' hatt
  | keep _ htask' hfind _ hlimits =>
    cases htask.symm.trans htask'
    obtain rfl := hfound hfind
    refine .settled hahead (List.mem_append_right _ (List.mem_singleton_self _)) h ?_
    exact (if_pos hlimits).mpr ⟨rfl, rfl⟩
  | restart _ htask' hfind hother =>
    cases htask.symm.trans htask'
    obtain rfl := hfound hfind
    simp [hsame] at hother
  | add _ htask' hfind =>
    cases htask.symm.trans htask'
    exact absurd (List.mem_map.2 ⟨_, hmem, hname⟩) (find?_eq_none.1 hfind)
  | _ => simp_all

/-- The manager goes on. -/
theorem goes_on (h : Spared x config own m) (hreplaces : m.Replaces c) (hnames : c.names.Nodup)
    (hconfig : config ∈ c.tunnels) (hname : x.config.name = config.name)
    (hsame : x.config.sameEndpoints config) (huser : action.isOfUser = false)
    (hact : ∀ place work, action ≠ .act place work) (hs : m.Stepped now action m') :
    Spared x config own m' := by
  cases h with
  | waiting hahead hmem h =>
    by_cases hsubject : m.subject? = some config.name
    · obtain ⟨hhand, _, _, _, htask⟩ :=
        hreplaces.comparing hnames hconfig (List.mem_map.2 ⟨_, hmem, hname⟩) hsubject
      exact compared hreplaces hnames hname hsame hhand htask hmem h hs hact
    · obtain ⟨htunnels, hahead'⟩ := hs.frame hreplaces.task hreplaces.steady huser hact hsubject
      exact .waiting (hahead'.2 hahead) (htunnels _ hmem hname) h
  | settled hahead hmem h hdone =>
    have hsubject : m.subject? ≠ some config.name := by
      intro hsubject
      obtain ⟨-, ahead', _, _, htask⟩ :=
        hreplaces.comparing hnames hconfig (name_mem_namesOf hmem) hsubject
      exact hahead (by simp [ahead, htask])
    obtain ⟨htunnels, hahead'⟩ := hs.frame hreplaces.task hreplaces.steady huser hact hsubject
    exact .settled (mt hahead'.1 hahead) (htunnels _ hmem rfl) h hdone
  | inHand hahead hhand hlimits h hatt =>
    obtain ⟨r, htask⟩ := hreplaces.steady.exists_reload hreplaces.task hhand
    have hahead' : config ∉ r.ahead := by simpa [ahead, htask] using hahead
    cases hs with
    | updated hhand' hanswer =>
      cases hhand.symm.trans hhand'
      have hinUse := (hreplaces.steady.runs_of_answer hhand hanswer).inUse
      refine .settled ?_ (List.mem_append_right _ (List.mem_singleton_self _)) h
        (hatt.upkeepDone hinUse hlimits)
      simpa [ahead, htask, Task.mapReload] using hahead'
    | updateFailed hhand' hanswer =>
      cases hhand.symm.trans hhand'
      have hinUse := (hreplaces.steady.runs_of_answer hhand hanswer).inUse
      exact .settled hahead (List.mem_append_right _ (List.mem_singleton_self _)) h
        (hatt.upkeepDone hinUse hlimits)
    | act => exact absurd rfl (hact _ _)
    | reload | shutDownAll => cases huser
    | close hhand' | _ => simp_all

/-- Every action spares the tunnel. -/
theorem step (h : Spared x config own m) (hreplaces : m.Replaces c) (hnames : c.names.Nodup)
    (hconfig : config ∈ c.tunnels) (hname : x.config.name = config.name)
    (hsame : x.config.sameEndpoints config) (huser : action.isOfUser = false)
    (hnext : m.step now action = some m') :
    Spared x config (own ++ (((m.workOf? config.name action).filter
      (!·.isOfLimits)).map (now, ·)).toList) m' := by
  have hs := stepped_of_step hnext
  cases action with
  | act place work => exact h.act hreplaces.steady hname hnext
  | _ =>
    simpa [workOf?] using h.goes_on hreplaces hnames hconfig hname hsame huser (by simp) hs

/-- A reload begins. -/
theorem begin (hs : m.Stepped now (.reload c) m') (hx : x ∈ m.tunnels)
    (hconfig : config ∈ c.tunnels) : Spared x config [] m' := by
  cases hs with
  | reload => exact .waiting hconfig hx .refl

end Spared

/-- The tunnel `x`, which is configured as `config` now, is the tunnel `y` after it did `own` by
itself. It goes on, and nothing else happened to it than that `done` was done about its limits, which
was reported by `reports`. -/
structure Undisturbed (x : Managed) (config : TunnelConfig) (own : Schedule Tunnel.Action)
    (done : List Tunnel.Action) (reports : List Event) (y : Managed) : Prop where
  name : y.config.name = config.name
  kept : x.tunnel.Kept own done reports y.tunnel
  /-- Nothing is done about limits that are the same, and nothing is done twice. -/
  upkeep : done <+: if x.config.limits = config.limits then [] else Tunnel.upkeep config.limits
  reported : reports = [] ∨ ∃ active, reports = [.limitsUpdated config.limits active]
  /-- Nobody has asked for the end, and no end has been reported. -/
  held : y.tunnel.handle = .held
  going : .shutdownStarted ∉ y.tunnel.events ∧ .stopped ∉ y.tunnel.events
  /-- The tunnel listens again only where its own attempts to listen succeed. -/
  events : ∃ news, y.tunnel.events = x.tunnel.events ++ news ∧
    news.filterMap startedAddress? = own.filterMap (·.2.startedAddress?) ∧
    news.filterMap Event.limitsUpdated? = reports.filterMap Event.limitsUpdated?

/-- A tunnel that was spared goes on, and in the end all is done about its limits. -/
theorem Spared.undisturbed (h : Spared x config own m) (hsound : m.IsSound)
    (hname : x.config.name = config.name) :
    ∃ y ∈ m.managed, ∃ done reports, Undisturbed x config own done reports y ∧
      (m.task = .idle → y ∈ m.tunnels ∧ y.config = config ∧
        Tunnel.UpkeepDone x.config.limits config.limits done reports) := by
  obtain ⟨hsteady, hsound⟩ := hsound
  cases h with
  | @waiting t hahead hmem h =>
    have hmem' := List.mem_append_left (m.hand.toList.map (·.managed)) hmem
    have hinUse := (hsteady.runs _ hmem).inUse
    refine ⟨⟨x.config, t⟩, hmem', [], [], ⟨hname, h, List.nil_prefix, .inl rfl, hinUse.held,
      (hsound _ hmem').going hinUse, h.events⟩, fun hidle => ?_⟩
    simp [ahead, hidle] at hahead
  | @inHand t call done reports hahead hhand hlimits h hatt =>
    have hmem' : ⟨x.config, t⟩ ∈ m.managed := by simp [managed, hhand]
    obtain ⟨hdone, hreported, waiting, hinUse⟩ := hatt.so_far
    refine ⟨_, hmem', done, reports, ⟨hname, h, ?_, hreported, hinUse.held,
      (hsound _ hmem').going hinUse, h.events⟩, fun hidle => ?_⟩
    · rwa [if_neg hlimits]
    · rw [hsteady.hand_eq_none hidle] at hhand
      cases hhand
  | @settled t done reports hahead hmem h hdone =>
    have hmem' := List.mem_append_left (m.hand.toList.map (·.managed)) hmem
    have hinUse := (hsteady.runs _ hmem).inUse
    refine ⟨⟨config, t⟩, hmem', done, reports, ⟨rfl, h, ?_, ?_, hinUse.held,
      (hsound _ hmem').going hinUse, h.events⟩, fun _ => ⟨hmem, rfl, hdone⟩⟩
    · unfold Tunnel.UpkeepDone at hdone
      split at hdone <;> simp [*]
    · unfold Tunnel.UpkeepDone at hdone
      split at hdone <;> simp [*]

/-- In whatever state of whatever run a manager replaces its configuration: a tunnel whose addresses
are configured as before goes on all the time, whatever becomes of the other tunnels, and in the end it
has got the limits that are configured, if they are other ones, and nothing else happened to it. -/
theorem undisturbed_of_run {env : Environment} {first : Config} {before later : Schedule Action}
    {m₀ : Manager} (hnames : c.names.Nodup) (hrun : (start env first).run before = some m)
    (hreload : m.step now (.reload c) = some m₀) (hquiet : IsQuiet later)
    (hlater : m₀.run later = some m') (hx : x ∈ m.tunnels) (hconfig : config ∈ c.tunnels)
    (hname : x.config.name = config.name) (hsame : x.config.sameEndpoints config) :
    ∃ y ∈ m'.managed, ∃ done reports,
      Undisturbed x config (m₀.workOf config.name later) done reports y ∧
      (m'.task = .idle → y ∈ m'.tunnels ∧ y.config = config ∧
        Tunnel.UpkeepDone x.config.limits config.limits done reports) := by
  have hsound := isSound_of_run hrun
  have hs := stepped_of_step hreload
  have hsound₀ := hsound.step hs
  have hbegin : m₀.Replaces c ∧ Spared x config [] m₀ :=
    ⟨.begin hsound.1 hs, .begin hs hx hconfig⟩
  have hend : m'.Replaces c ∧ Spared x config (m₀.workOf config.name later) m' := by
    rw [run_eq] at hlater
    refine Schedule.part_keeps (fun own m => m.Replaces c ∧ Spared x config own m) ?_ hbegin hlater
    rintro own m now action m' hmem ⟨hreplaces, h⟩ hnext
    have huser := hquiet _ hmem
    exact ⟨hreplaces.step hnames huser (stepped_of_step hnext),
      h.step hreplaces hnames hconfig hname hsame huser hnext⟩
  exact hend.2.undisturbed (hsound₀.run hlater) hname

/-- The tunnel `b` gets a client, who sends three bytes. -/
def clientServed : Schedule Action :=
  threeStarted ++
    [(0, .act (.running "b") .openFirst),
      (0, .act (.running "b") (.arrive (.ok ⟨.v4 10 0 0 1, 4000, 0⟩))),
      (0, .act (.running "b") .handArrival), (0, .act (.running "b") .takeArrival),
      (0, .act (.running "b") (.endDial (.ok ()))),
      (0, .act (.running "b") (.work 1 .upstream (.forward (.received [1, 2, 3]))))]

/-- The tunnel `a` is removed, `b` gets its limit, `c` cannot be started again, `d` is added, and `e`
cannot be started. -/
def changeWhileServed : Schedule Action :=
  (1, .proceed) :: handEnds ++
    [(2, .proceed), (2, .act .inHand .handUpdate), (2, .act .inHand .takeUpdate), (2, .proceed),
      (2, .proceed)] ++ handEnds ++
    [(3, .proceed), (3, .act (.running "b") (.work 1 .upstream (.forward .pay))), (3, .proceed),
      (3, .bound (.error (.plain .addrInUse))),
      (3, .bound (.ok (.stable ⟨.v4 127 0 0 1, 83, 0⟩))),
      (3, .bound (.error (.plain .addrInUse))), (3, .proceed)]

/-- The connection of the tunnel `b` stays open. -/
theorem undisturbed_of_changeWhileServed :
    ∃ m m₀ m' x y active, (start ⟨[], "", ""⟩ three).run clientServed = some m ∧
      m.step 1 (.reload four) = some m₀ ∧ m₀.run changeWhileServed = some m' ∧
      x ∈ m.tunnels ∧ y ∈ m'.tunnels ∧ y.tunnel.relay.active = [1] ∧
      Undisturbed x ⟨"b", "j", "o", 9, 3⟩ (m₀.workOf "b" changeWhileServed)
        (Tunnel.upkeep ⟨9, 3⟩) [.limitsUpdated ⟨9, 3⟩ active] y := by
  -- the run is evaluated once
  have hany : ((start ⟨[], "", ""⟩ three).run clientServed).any fun m =>
      ⟨"b", "j", "o", 9, 5⟩ ∈ m.configs && (m.step 1 (.reload four)).any fun m₀ =>
        (m₀.run changeWhileServed).any fun m' => m'.task.isIdle &&
          m'.tunnels.all fun y => y.config.name ≠ "b" || y.tunnel.relay.active = [1] := by
    decide +kernel
  obtain ⟨m, hrun, hm⟩ := (Option.any_eq_true _ _).1 hany
  obtain ⟨hconfigs, hm⟩ := Bool.and_eq_true_iff.1 hm
  obtain ⟨m₀, hreload, hm₀⟩ := (Option.any_eq_true _ _).1 hm
  obtain ⟨m', hlater, hm'⟩ := (Option.any_eq_true _ _).1 hm₀
  obtain ⟨hidle, hactive⟩ := Bool.and_eq_true_iff.1 hm'
  obtain ⟨⟨config, t⟩, hx, rfl⟩ := List.mem_map.1 (of_decide_eq_true hconfigs)
  have hfour : ⟨"b", "j", "o", 9, 3⟩ ∈ four.tunnels := by decide
  obtain ⟨y, -, done, reports, h, hend⟩ :=
    undisturbed_of_run (x := ⟨⟨"b", "j", "o", 9, 5⟩, t⟩) (by decide) hrun hreload (by decide) hlater
      hx hfour rfl (by simp [TunnelConfig.sameEndpoints])
  obtain ⟨hy, hconfig, hdone⟩ := hend (Task.isIdle_iff.1 hidle)
  obtain ⟨rfl, active, rfl⟩ := (if_neg (by simp [TunnelConfig.limits])).mp hdone
  have hlast := List.all_eq_true.1 hactive y hy
  rw [hconfig] at hlast
  exact ⟨m, m₀, m', _, y, active, hrun, hreload, hlater, hx, hy, by simpa using hlast, h⟩

end Manager

end Sluice
