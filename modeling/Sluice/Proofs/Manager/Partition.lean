import Sluice.Proofs.Manager.Progress

/-!
# The summary of a reload

A manager that replaces its configuration says in the end what became of its tunnels. Each tunnel that
ran or is configured now stands in the list in which it belongs, once, or in none if nothing changed.

* `TunnelConfig.change old config`: how a configured tunnel differs from the one before;
* `ReloadSummary.Partitions s old new`: the summary tells what became of the tunnels `old` when those
  in `new` were configured;
* `Manager.Sorting`: what holds meanwhile. What is in the summary so far and what remains to be done
  are together what is to be done, so that nothing is lost and nothing done twice;
* `Manager.partition_of_run`: a reload comes to its end with such a summary.
-/

namespace Sluice

/-- How a configured tunnel differs from the one that ran under its name. -/
inductive TunnelConfig.Change where
  /-- None ran under its name. -/
  | new
  /-- An address is another one. -/
  | moved
  /-- The addresses are the same, and a limit is another one. -/
  | limited
  /-- Nothing differs. -/
  | unchanged
deriving DecidableEq

/-- How a configured tunnel differs from the one of its name among the old ones. -/
def TunnelConfig.change (old : List TunnelConfig) (config : TunnelConfig) : TunnelConfig.Change :=
  match old.find? (·.name = config.name) with
  | none => .new
  | some before =>
    if before.sameEndpoints config then
      if before.limits = config.limits then .unchanged else .limited
    else .moved

/-- The names of the configured tunnels that differ in the given way from the old ones, in order. -/
def TunnelConfig.changed (old configs : List TunnelConfig) (change : TunnelConfig.Change) :
    List String :=
  (configs.filter (·.change old = change)).map (·.name)

/-- The summary tells what became of the tunnels `old` when those in `new` were configured. -/
structure ReloadSummary.Partitions (s : ReloadSummary) (old new : List TunnelConfig) : Prop where
  /-- The tunnels are removed that are not configured any more. -/
  mem_removed : ∀ name, name ∈ s.removed ↔ name ∈ old.map (·.name) ∧ name ∉ new.map (·.name)
  /-- Those are updated of which only limits changed, in the order in which they are configured. -/
  updated : s.updated = TunnelConfig.changed old new .limited
  /-- Those of which an address changed are restarted, unless they failed, -/
  restarted : s.restarted = (TunnelConfig.changed old new .moved).filter (· ∉ s.failed)
  /-- and the new ones are added, unless they failed. -/
  added : s.added = (TunnelConfig.changed old new .new).filter (· ∉ s.failed)
  /-- Those that failed are listed in the order in which they are configured, and are new or were to
  be restarted. -/
  failed : s.failed.Sublist (new.map (·.name))
  changed_of_failed : ∀ name ∈ s.failed,
    name ∈ TunnelConfig.changed old new .moved ∨ name ∈ TunnelConfig.changed old new .new
  /-- Those that did not change are not mentioned. -/
  unchanged : ∀ name ∈ TunnelConfig.changed old new .unchanged,
    name ∉ s.removed ++ s.updated ++ s.restarted ++ s.added ++ s.failed
  /-- No name is mentioned twice. -/
  nodup : (s.removed ++ s.updated ++ s.restarted ++ s.added ++ s.failed).Nodup

/-- How a configured tunnel is to be started, if it is: the flag tells whether one ran under its
name. -/
def TunnelConfig.launch? (old : List TunnelConfig) (config : TunnelConfig) :
    Option (TunnelConfig × Bool) :=
  match config.change old with
  | .new => some (config, false)
  | .moved => some (config, true)
  | .limited | .unchanged => none

namespace Manager

/-- The configurations with which the tunnels run. -/
def configs (m : Manager) : List TunnelConfig := m.tunnels.map (·.config)

/-- The name of the tunnel in hand that is removed. -/
def leaving : Option Hand → List String
  | some ⟨x, .remove⟩ => [x.config.name]
  | _ => []

/-- The name of the tunnel in hand that gets other limits. -/
def limiting : Option Hand → List String
  | some ⟨_, .update config _⟩ => [config.name]
  | _ => []

/-- The tunnel in hand that is to be started again. -/
def halting : Option Hand → List (TunnelConfig × Bool)
  | some ⟨_, .restart config⟩ => [(config, true)]
  | _ => []

/-- The names of the tunnels that were attempted, of those that ran before or of the others. -/
def attempted (tried : List (TunnelConfig × Bool)) (ran : Bool) : List String :=
  (tried.filter (·.2 = ran)).map (·.1.name)

/-- What holds while the tunnels of `c` take the place of the tunnels `old`. The tunnels that run are
configured as in `configs`, those in `done` are compared, and those in `tried` were attempted to be
started. -/
structure Sorts (old : List TunnelConfig) (c : Config) (configs : List TunnelConfig)
    (hand : Option Hand) (r : Reload) (done : List TunnelConfig)
    (tried : List (TunnelConfig × Bool)) : Prop where
  /-- The other tunnels are still to be compared, -/
  split : c.tunnels = done ++ r.ahead
  /-- and those that run under their names run as before. -/
  ahead : ∀ t ∈ r.ahead, configs.find? (·.name = t.name) = old.find? (·.name = t.name)
  /-- What is still to be removed runs. -/
  present : ∀ name ∈ r.removals, name ∈ configs.map (·.name)
  /-- What is not configured was removed, or is in hand, or is to be removed. -/
  removed : r.summary.removed ++ leaving hand ++ r.removals = missing (old.map (·.name)) c.names
  /-- What has other limits got them, or is in hand. -/
  updated : r.summary.updated ++ limiting hand = TunnelConfig.changed old done .limited
  /-- What is to be started was attempted, or will be, or is in hand. -/
  started : tried ++ r.launches ++ halting hand = done.filterMap (·.launch? old)
  /-- What was attempted succeeded or failed. -/
  restarted : r.summary.restarted = missing (attempted tried true) r.summary.failed
  added : r.summary.added = missing (attempted tried false) r.summary.failed
  failed : r.summary.failed.Sublist (tried.map (·.1.name))

variable {old configs configs' done ahead : List TunnelConfig} {c : Config} {hand hand' : Option Hand}
  {r : Reload} {tried launches : List (TunnelConfig × Bool)} {summary : ReloadSummary}
  {config : TunnelConfig} {name : String} {names : List String} {x : Managed} {ran : Bool}

/-! ## Names and differences -/

theorem attempted_concat (tried : List (TunnelConfig × Bool)) (config : TunnelConfig)
    (ran flag : Bool) : attempted (tried ++ [(config, flag)]) ran =
      attempted tried ran ++ if flag = ran then [config.name] else [] := by
  by_cases hflag : flag = ran <;> simp [attempted, hflag]

theorem attempted_subset : attempted tried ran ⊆ tried.map (·.1.name) := by
  intro name hname
  obtain ⟨launch, hlaunch, rfl⟩ := List.mem_map.1 hname
  exact List.mem_map_of_mem (List.mem_of_mem_filter hlaunch)

/-- Under other names everything is as it was. -/
theorem find?_filter_name {other : String} (hne : name ≠ other) :
    (configs.filter (·.name ≠ other)).find? (·.name = name) = configs.find? (·.name = name) := by
  rw [List.find?_filter]
  congr 1
  funext t
  by_cases ht : t.name = name <;> simp [ht, hne]

theorem find?_filter_name_concat (hne : name ≠ config.name) :
    (configs.filter (·.name ≠ config.name) ++ [config]).find? (·.name = name) =
      configs.find? (·.name = name) := by
  rw [List.find?_append, find?_filter_name hne]
  simp [hne.symm]

theorem changed_concat (old done : List TunnelConfig) (config : TunnelConfig)
    (change : TunnelConfig.Change) : TunnelConfig.changed old (done ++ [config]) change =
      TunnelConfig.changed old done change ++
        if config.change old = change then [config.name] else [] := by
  by_cases hchange : config.change old = change <;> simp [TunnelConfig.changed, hchange]

/-- What is to be started is configured. -/
theorem launches_sublist (old configs : List TunnelConfig) :
    ((configs.filterMap (·.launch? old)).map (·.1.name)).Sublist (configs.map (·.name)) := by
  induction configs with
  | nil => exact .slnil
  | cons config rest ih =>
    cases hchange : config.change old with
    | new | moved => simpa [TunnelConfig.launch?, hchange] using ih
    | limited | unchanged => simpa [TunnelConfig.launch?, hchange] using ih.cons _

/-- What is to be started is new, or ran with another address. -/
theorem attempted_launches (old configs : List TunnelConfig) :
    attempted (configs.filterMap (·.launch? old)) true = TunnelConfig.changed old configs .moved ∧
      attempted (configs.filterMap (·.launch? old)) false =
        TunnelConfig.changed old configs .new := by
  induction configs with
  | nil => exact ⟨rfl, rfl⟩
  | cons config rest ih =>
    cases hchange : config.change old with
    | new =>
      have hlaunch : config.launch? old = some (config, false) := by
        simp [TunnelConfig.launch?, hchange]
      simpa [attempted, TunnelConfig.changed, hlaunch, hchange] using ih
    | moved =>
      have hlaunch : config.launch? old = some (config, true) := by
        simp [TunnelConfig.launch?, hchange]
      simpa [attempted, TunnelConfig.changed, hlaunch, hchange] using ih
    | limited | unchanged =>
      have hlaunch : config.launch? old = none := by simp [TunnelConfig.launch?, hchange]
      simpa [attempted, TunnelConfig.changed, hlaunch, hchange] using ih

theorem mem_names_of_changed {change : TunnelConfig.Change}
    (h : name ∈ TunnelConfig.changed old configs change) : name ∈ configs.map (·.name) := by
  obtain ⟨t, ht, rfl⟩ := List.mem_map.1 h
  exact List.mem_map_of_mem (List.mem_of_mem_filter ht)

/-- No tunnel differs in two ways. -/
theorem changed_inj {change change' : TunnelConfig.Change} (hnames : (configs.map (·.name)).Nodup)
    (h : name ∈ TunnelConfig.changed old configs change)
    (h' : name ∈ TunnelConfig.changed old configs change') : change = change' := by
  obtain ⟨t, ht, rfl⟩ := List.mem_map.1 h
  obtain ⟨t', ht', heq⟩ := List.mem_map.1 h'
  obtain ⟨hmem, hchange⟩ := List.mem_filter.1 ht
  obtain ⟨hmem', hchange'⟩ := List.mem_filter.1 ht'
  obtain rfl := List.inj_on_of_nodup_map hnames hmem' hmem heq
  exact (of_decide_eq_true hchange).symm.trans (of_decide_eq_true hchange')

theorem changed_nodup (hnames : (configs.map (·.name)).Nodup) (change : TunnelConfig.Change) :
    (TunnelConfig.changed old configs change).Nodup :=
  (List.filter_sublist.map _).nodup hnames

/-! ## What the manager does -/

namespace Sorts

theorem drifts (h : Sorts old c configs hand r done tried)
    (hdrifts : Option.Rel Hand.Drifts hand hand') : Sorts old c configs hand' r done tried := by
  cases hdrifts with
  | none => exact h
  | @some hand hand' hdrift =>
    obtain ⟨⟨config, t⟩, errand⟩ := hand
    obtain ⟨⟨config', t'⟩, errand'⟩ := hand'
    obtain ⟨herrand, hconfig, -⟩ := hdrift
    cases herrand
    cases hconfig
    cases errand <;> exact { h with }

/-- The replacement begins. -/
theorem begin (old : List TunnelConfig) (c : Config) :
    Sorts old c old none
      { removals := (old.map (·.name)).filter fun name => !c.tunnels.any (·.name = name)
        ahead := c.tunnels } [] [] := by
  refine ⟨rfl, fun _ _ => rfl, fun name hname => List.mem_of_mem_filter hname, ?_, rfl, rfl, rfl, rfl,
    .slnil⟩
  refine List.filter_congr fun name _ => ?_
  rw [Bool.eq_iff_iff]
  simp [Config.names]

/-! ### Tunnels that are not configured any more -/

theorem not_mem_of_removal (h : Sorts old c configs hand ⟨name :: names, ahead, launches, summary⟩
    done tried) : name ∉ c.names := by
  have hmem : name ∈ missing (old.map (·.name)) c.names := by
    rw [← h.removed]
    simp
  exact (mem_missing.1 hmem).2

/-- Such a tunnel is taken in hand to be removed. -/
theorem remove (h : Sorts old c configs none ⟨name :: names, ahead, launches, summary⟩ done tried)
    (hname : x.config.name = name) (hold : (old.map (·.name)).Nodup) :
    Sorts old c (configs.filter (·.name ≠ name)) (some ⟨x, .remove⟩)
      ⟨names, ahead, launches, summary⟩ done tried := by
  subst hname
  refine { h with ahead := fun t ht => ?_, present := fun name hname => ?_, removed := ?_ }
  · -- what is configured has another name
    have hconfigured : t.name ∈ c.names := by
      rw [Config.names, h.split, List.map_append]
      exact List.mem_append_right _ (List.mem_map_of_mem ht)
    rw [find?_filter_name (ne_of_mem_of_not_mem hconfigured h.not_mem_of_removal), h.ahead t ht]
  · -- so has what is still to be removed
    have hnodup : (missing (old.map (·.name)) c.names).Nodup := hold.filter _
    rw [← h.removed] at hnodup
    have hother : x.config.name ∉ names := (List.nodup_cons.1 (List.nodup_append.1 hnodup).2.1).1
    obtain ⟨t, ht, rfl⟩ := List.mem_map.1 (h.present name (List.mem_cons_of_mem _ hname))
    refine List.mem_map_of_mem (List.mem_filter.2 ⟨ht, ?_⟩)
    exact decide_eq_true (ne_of_mem_of_not_mem hname hother)
  · rw [← h.removed]
    simp [leaving]

/-- The tunnel is removed. -/
theorem gone (h : Sorts old c configs (some ⟨x, .remove⟩) r done tried) :
    Sorts old c configs none { r with summary.removed := r.summary.removed ++ [x.config.name] }
      done tried where
  split := h.split
  ahead := h.ahead
  present := h.present
  removed := by
    rw [← h.removed]
    simp [leaving]
  updated := h.updated
  started := h.started
  restarted := h.restarted
  added := h.added
  failed := h.failed

/-! ### Configured tunnels -/

/-- The next tunnel is compared. It differs from the one before in some way, and is dealt with
accordingly. -/
theorem compared (h : Sorts old c configs none ⟨[], config :: ahead, launches, summary⟩ done tried)
    (hahead : ∀ t ∈ ahead, configs'.find? (·.name = t.name) = configs.find? (·.name = t.name))
    (hleaving : leaving hand' = [])
    (hlimiting : limiting hand' = if config.change old = .limited then [config.name] else [])
    {launches' : List (TunnelConfig × Bool)}
    (hlaunch : launches' ++ halting hand' = launches ++ (config.launch? old).toList) :
    Sorts old c configs' hand' ⟨[], ahead, launches', summary⟩ (done ++ [config]) tried where
  split := by simp [h.split]
  ahead t ht := (hahead t ht).trans (h.ahead t (List.mem_cons_of_mem _ ht))
  present := by simp
  removed := by
    rw [hleaving]
    exact h.removed
  updated := by
    have hupdated := h.updated
    simp only [limiting, List.append_nil] at hupdated
    rw [changed_concat, ← hupdated, hlimiting]
  started := by
    have hstarted := h.started
    simp only [halting, List.append_nil] at hstarted
    rw [List.append_assoc, hlaunch, ← List.append_assoc, hstarted, List.filterMap_append]
    cases hnew : config.launch? old <;> simp [hnew]
  restarted := h.restarted
  added := h.added
  failed := h.failed

/-- The names of the tunnels that are compared later are other ones. -/
theorem next (h : Sorts old c configs hand ⟨[], config :: ahead, launches, summary⟩ done tried)
    (hnames : c.names.Nodup) : ∀ t ∈ ahead, t.name ≠ config.name := by
  rw [Config.names, h.split, List.map_append, List.map_cons] at hnames
  have hother : config.name ∉ ahead.map (·.name) :=
    (List.nodup_cons.1 (List.nodup_append.1 hnames).2.1).1
  exact fun t ht => ne_of_mem_of_not_mem (List.mem_map_of_mem ht) hother

/-- How the next tunnel differs is told by the one that runs under its name. -/
theorem change_eq (h : Sorts old c configs hand ⟨[], config :: ahead, launches, summary⟩ done tried)
    {found : Option TunnelConfig} (hfind : configs.find? (·.name = config.name) = found) :
    config.change old = config.change found.toList := by
  rw [h.ahead config List.mem_cons_self] at hfind
  cases found with
  | none => simp [TunnelConfig.change, hfind]
  | some before =>
    have hname := List.find?_some hfind
    simp [TunnelConfig.change, hfind, of_decide_eq_true hname]

/-- The tunnel in hand has got its limits, and runs again. -/
theorem granted {call : ℕ} (h : Sorts old c configs (some ⟨x, .update config call⟩) r done tried)
    (hnames : c.names.Nodup) :
    Sorts old c (configs.filter (·.name ≠ config.name) ++ [config]) none
      { r with summary.updated := r.summary.updated ++ [config.name] } done tried := by
  refine { h with ahead := fun t ht => ?_, present := fun name hname => ?_, updated := ?_ }
  · -- the tunnel in hand is compared already
    have hdone : config.name ∈ done.map (·.name) := by
      have hmem : config.name ∈ TunnelConfig.changed old done .limited := by
        rw [← h.updated]
        simp [limiting]
      obtain ⟨t, ht, heq⟩ := List.mem_map.1 hmem
      exact heq ▸ List.mem_map_of_mem (List.mem_of_mem_filter ht)
    rw [Config.names, h.split, List.map_append] at hnames
    have hne := (List.nodup_append.1 hnames).2.2 _ hdone _ (List.mem_map_of_mem ht)
    exact (find?_filter_name_concat hne.symm).trans (h.ahead t ht)
  · by_cases heq : name = config.name
    · simp [heq]
    · obtain ⟨t, ht, rfl⟩ := List.mem_map.1 (h.present name hname)
      rw [List.map_append]
      exact List.mem_append_left _ (List.mem_map_of_mem (List.mem_filter.2 ⟨ht, by simpa using heq⟩))
  · rw [← h.updated]
    simp [limiting]

/-- The tunnel in hand is shut down and can be started again. -/
theorem halted (h : Sorts old c configs (some ⟨x, .restart config⟩) r done tried) :
    Sorts old c configs none { r with launches := r.launches ++ [(config, true)] } done tried := by
  refine { h with started := ?_ }
  rw [← h.started]
  simp [halting]

/-! ### Tunnels that do not run -/

/-- The next tunnel to be started was not attempted before. -/
theorem not_mem_tried
    (h : Sorts old c configs none ⟨[], [], (config, ran) :: launches, summary⟩ done tried)
    (hnames : c.names.Nodup) : config.name ∉ tried.map (·.1.name) := by
  have hnodup : ((done.filterMap (·.launch? old)).map (·.1.name)).Nodup := by
    refine (launches_sublist old done).nodup ?_
    rw [Config.names, h.split, List.map_append] at hnames
    exact (List.nodup_append.1 hnames).1
  have hstarted := h.started
  simp only [halting, List.append_nil] at hstarted
  rw [← hstarted, List.map_append, List.map_cons] at hnodup
  have hfresh := (List.nodup_middle.1 hnodup).notMem
  exact fun hmem => hfresh (List.mem_append_left _ hmem)

/-- The attempt to start the next tunnel is over. -/
theorem attempt {summary' : ReloadSummary}
    (h : Sorts old c configs none ⟨[], [], (config, ran) :: launches, summary⟩ done tried)
    (configs' : List TunnelConfig)
    (hremoved : summary'.removed = summary.removed) (hupdated : summary'.updated = summary.updated)
    (hrestarted : summary'.restarted =
      missing (attempted (tried ++ [(config, ran)]) true) summary'.failed)
    (hadded : summary'.added =
      missing (attempted (tried ++ [(config, ran)]) false) summary'.failed)
    (hfailed : summary'.failed.Sublist ((tried ++ [(config, ran)]).map (·.1.name))) :
    Sorts old c configs' none ⟨[], [], launches, summary'⟩ done (tried ++ [(config, ran)]) where
  split := h.split
  ahead := by simp
  present := by simp
  removed := by
    rw [hremoved]
    exact h.removed
  updated := by
    rw [hupdated]
    exact h.updated
  started := by
    rw [← h.started]
    simp [halting]
  restarted := hrestarted
  added := hadded
  failed := hfailed

/-- The next tunnel is started. -/
theorem launch (h : Sorts old c configs none ⟨[], [], (config, ran) :: launches, summary⟩ done tried)
    (hnames : c.names.Nodup) (configs' : List TunnelConfig) :
    Sorts old c configs' none
      ⟨[], [], launches,
        if ran then { summary with restarted := summary.restarted ++ [config.name] }
        else { summary with added := summary.added ++ [config.name] }⟩
      done (tried ++ [(config, ran)]) := by
  have hfresh : config.name ∉ summary.failed := fun hmem =>
    h.not_mem_tried hnames (h.failed.subset hmem)
  have hfailed : summary.failed.Sublist ((tried ++ [(config, ran)]).map (·.1.name)) := by
    rw [List.map_append]
    exact h.failed.trans (List.sublist_append_left ..)
  have hrestarted := h.restarted
  have hadded := h.added
  cases ran with
  | true =>
    refine h.attempt configs' rfl rfl ?_ ?_ hfailed
    · simp [attempted_concat, missing_concat hfresh, ← hrestarted]
    · simpa [attempted_concat] using hadded
  | false =>
    refine h.attempt configs' rfl rfl ?_ ?_ hfailed
    · simpa [attempted_concat] using hrestarted
    · simp [attempted_concat, missing_concat hfresh, ← hadded]

/-- The next tunnel cannot be started. -/
theorem fail (h : Sorts old c configs none ⟨[], [], (config, ran) :: launches, summary⟩ done tried)
    (hnames : c.names.Nodup) :
    Sorts old c configs none
      ⟨[], [], launches, { summary with failed := summary.failed ++ [config.name] }⟩
      done (tried ++ [(config, ran)]) := by
  have hfresh := h.not_mem_tried hnames
  -- what was attempted before is told as before
  have hsame (flag : Bool) : missing (attempted (tried ++ [(config, ran)]) flag)
      (summary.failed ++ [config.name]) = missing (attempted tried flag) summary.failed := by
    have hnew : config.name ∉ attempted tried flag := fun hmem => hfresh (attempted_subset hmem)
    rw [attempted_concat]
    split
    · exact missing_concat_concat hnew
    · rw [List.append_nil]
      refine missing_congr fun name hname => ?_
      simp [ne_of_mem_of_not_mem hname hnew]
  refine h.attempt configs rfl rfl (h.restarted.trans (hsame true).symm)
    (h.added.trans (hsame false).symm) ?_
  rw [List.map_append]
  exact h.failed.append (.refl _)

/-- When nothing remains to be done the summary is complete. -/
theorem partitions (h : Sorts old c configs none ⟨[], [], [], summary⟩ done tried)
    (hold : (old.map (·.name)).Nodup) (hnames : c.names.Nodup) :
    summary.Partitions old c.tunnels := by
  have hdone : c.tunnels = done := by simpa using h.split
  have hremoved : summary.removed = missing (old.map (·.name)) c.names := by
    simpa [leaving] using h.removed
  have hupdated : summary.updated = TunnelConfig.changed old c.tunnels .limited := by
    simpa [limiting, hdone] using h.updated
  have htried : tried = c.tunnels.filterMap (·.launch? old) := by
    simpa [halting, hdone] using h.started
  obtain ⟨hmoved, hnew⟩ := attempted_launches old c.tunnels
  rw [← htried] at hmoved hnew
  have hrestarted : summary.restarted = missing (TunnelConfig.changed old c.tunnels .moved)
      summary.failed := hmoved ▸ h.restarted
  have hadded : summary.added = missing (TunnelConfig.changed old c.tunnels .new)
      summary.failed := hnew ▸ h.added
  have hfailed : summary.failed.Sublist c.names :=
    h.failed.trans (htried ▸ launches_sublist old c.tunnels)
  have hchanged : ∀ name ∈ summary.failed, name ∈ TunnelConfig.changed old c.tunnels .moved ∨
      name ∈ TunnelConfig.changed old c.tunnels .new := by
    intro name hname
    obtain ⟨launch, hlaunch, rfl⟩ := List.mem_map.1 (h.failed.subset hname)
    rw [← hmoved, ← hnew]
    cases hran : launch.2 with
    | true => exact .inl (List.mem_map_of_mem (List.mem_filter.2 ⟨hlaunch, by simpa using hran⟩))
    | false => exact .inr (List.mem_map_of_mem (List.mem_filter.2 ⟨hlaunch, by simpa using hran⟩))
  -- the lists have nothing in common, as no tunnel differs in two ways
  have hinj : ∀ name change change', name ∈ TunnelConfig.changed old c.tunnels change →
      name ∈ TunnelConfig.changed old c.tunnels change' → change = change' :=
    fun _ _ _ => changed_inj hnames
  have hgone : ∀ name ∈ summary.removed, ∀ change,
      name ∉ TunnelConfig.changed old c.tunnels change := fun name hname change hmem =>
    (mem_missing.1 (hremoved ▸ hname)).2 (mem_names_of_changed hmem)
  have hmem_restarted : ∀ name ∈ summary.restarted,
      name ∈ TunnelConfig.changed old c.tunnels .moved ∧ name ∉ summary.failed :=
    fun name hname => mem_missing.1 (hrestarted ▸ hname)
  have hmem_added : ∀ name ∈ summary.added,
      name ∈ TunnelConfig.changed old c.tunnels .new ∧ name ∉ summary.failed :=
    fun name hname => mem_missing.1 (hadded ▸ hname)
  refine ⟨fun name => hremoved ▸ mem_missing, hupdated, hrestarted, hadded, hfailed, hchanged, ?_, ?_⟩
  · intro name hname hmem
    grind
  · have hnodup (change : TunnelConfig.Change) :
        (TunnelConfig.changed old c.tunnels change).Nodup := changed_nodup hnames change
    have h₁ : summary.removed.Nodup := hremoved ▸ hold.filter _
    have h₂ : summary.updated.Nodup := hupdated ▸ hnodup _
    have h₃ : summary.restarted.Nodup := hrestarted ▸ (hnodup _).filter _
    have h₄ : summary.added.Nodup := hadded ▸ (hnodup _).filter _
    have h₅ : summary.failed.Nodup := hfailed.nodup hnames
    refine ((((h₁.append h₂ ?_).append h₃ ?_).append h₄ ?_).append h₅ ?_) <;>
      (intro name hname hmem; grind)

end Sorts

/-! ## The whole reload -/

/-- The manager replaces the tunnels `old` by those of `c`, or is done with it. -/
inductive Sorting (old : List TunnelConfig) (c : Config) (m : Manager) : Prop
  | reloading {r : Reload} {done : List TunnelConfig} {tried : List (TunnelConfig × Bool)}
      (htask : m.task = .reloading r) (h : Sorts old c m.configs m.hand r done tried)
  | ended {s : ReloadSummary} (htask : m.task = .idle) (hsummary : m.summary = some s)
      (h : s.Partitions old c.tunnels)

variable {m m' : Manager} {now : ℕ} {action : Action} {managed : Managed}

theorem configs_filter (tunnels : List Managed) (name : String) :
    (tunnels.filter (·.config.name ≠ name)).map (·.config) =
      (tunnels.map (·.config)).filter (·.name ≠ name) := by
  rw [List.filter_map]
  rfl

theorem configs_replace (tunnels : List Managed) (x : Managed) :
    (tunnels.filter (·.config.name ≠ x.config.name) ++ [x]).map (·.config) =
      (tunnels.map (·.config)).filter (·.name ≠ x.config.name) ++ [x.config] := by
  rw [List.map_append, configs_filter]
  rfl

theorem find?_configs {found : Option Managed} (h : m.find? name = found) :
    m.configs.find? (·.name = name) = found.map (·.config) := by
  rw [configs, List.find?_map, ← h]
  rfl

namespace Sorting

theorem of_eq {m : Manager} (htask : m.task = .reloading r) (hconfigs : m.configs = configs)
    (hhand : m.hand = hand) (h : Sorts old c configs hand r done tried) : Sorting old c m := by
  subst hconfigs hhand
  exact .reloading htask h

/-- Every action keeps what holds during a reload. -/
theorem step (h : Sorting old c m) (hsteady : m.Steady) (hold : (old.map (·.name)).Nodup)
    (hnames : c.names.Nodup) (huser : action.isOfUser = false) (hs : m.Stepped now action m') :
    Sorting old c m' := by
  cases h with
  | ended htask hsummary h =>
    -- an idle manager waits for its user
    have hhand := hsteady.hand_eq_none htask
    cases hs with
    | act hplace howner hstep =>
      have hdrifts := (Stepped.act hplace howner hstep).drifts hsteady.nodup_names
      exact .ended (hdrifts.task.trans htask) (hdrifts.summary.trans hsummary) h
    | _ => simp_all [Action.isOfUser]
  | @reloading r done tried htask h =>
    cases hs with
    | shutDownAll | reload => cases huser
    | act hplace howner hstep =>
      have hdrifts := (Stepped.act hplace howner hstep).drifts hsteady.nodup_names
      exact .of_eq (hdrifts.task.trans htask) hdrifts.configs_eq rfl (h.drifts hdrifts.hand)
    | startNext _ htask' | failStart _ htask' | endStart _ htask' | close _ htask'
    | endClose _ htask' | endFailure _ htask' =>
      rw [htask] at htask'
      cases htask'
    -- tunnels that are not configured any more
    | remove hhand htask' hfind =>
      cases htask.symm.trans htask'
      rw [hhand] at h
      obtain ⟨-, rfl⟩ := find?_eq_some hfind
      refine .of_eq rfl (configs_filter _ _) rfl (h.remove ?_ hold)
      rfl
    | skip hhand htask' hfind =>
      cases htask.symm.trans htask'
      -- what is to be removed runs
      have hname := h.present _ List.mem_cons_self
      rw [configs, List.map_map] at hname
      exact absurd hname (find?_eq_none.1 hfind)
    -- configured tunnels
    | @update config _ _ _ managed hhand htask' hfind hsame hlimits =>
      cases htask.symm.trans htask'
      rw [hhand] at h
      obtain ⟨-, hname⟩ := find?_eq_some hfind
      have hchange : config.change old = .limited := by
        rw [h.change_eq (find?_configs hfind)]
        simp [TunnelConfig.change, hname, hsame, hlimits]
      refine .of_eq rfl (configs_filter _ _) rfl (h.compared (fun t ht => ?_) rfl ?_ ?_)
      · exact find?_filter_name (hname ▸ h.next hnames t ht)
      · exact (if_pos hchange).symm
      · simp [halting, TunnelConfig.launch?, hchange]
    | @keep config _ _ _ managed hhand htask' hfind hsame hlimits =>
      cases htask.symm.trans htask'
      rw [hhand] at h
      obtain ⟨-, hname⟩ := find?_eq_some hfind
      have hchange : config.change old = .unchanged := by
        rw [h.change_eq (find?_configs hfind)]
        simp [TunnelConfig.change, hname, hsame, hlimits]
      rw [m.insert_erase { managed with config }]
      refine .of_eq rfl (configs_replace _ _) hhand (h.compared (fun t ht => ?_) rfl ?_ ?_)
      · exact find?_filter_name_concat (h.next hnames t ht)
      · simp [limiting, hchange]
      · simp [halting, TunnelConfig.launch?, hchange]
    | @restart config _ _ _ managed hhand htask' hfind hother =>
      cases htask.symm.trans htask'
      rw [hhand] at h
      obtain ⟨-, hname⟩ := find?_eq_some hfind
      have hchange : config.change old = .moved := by
        rw [h.change_eq (find?_configs hfind)]
        simp [TunnelConfig.change, hname, hother]
      refine .of_eq rfl (configs_filter _ _) rfl (h.compared (fun t ht => ?_) rfl ?_ ?_)
      · exact find?_filter_name (hname ▸ h.next hnames t ht)
      · simp [limiting, hchange]
      · simp [halting, TunnelConfig.launch?, hchange]
    | @add config _ _ _ hhand htask' hfind =>
      cases htask.symm.trans htask'
      rw [hhand] at h
      have hchange : config.change old = .new := by
        rw [h.change_eq (find?_configs hfind)]
        rfl
      refine .of_eq rfl rfl hhand (h.compared (fun t ht => rfl) rfl ?_ ?_)
      · simp [limiting, hchange]
      · simp [halting, TunnelConfig.launch?, hchange]
    -- tunnels that do not run
    | launchNext hhand htask' =>
      cases htask.symm.trans htask'
      rw [hhand] at h
      exact .of_eq rfl rfl hhand (h.launch hnames _)
    | failLaunch hhand htask' =>
      cases htask.symm.trans htask'
      rw [hhand] at h
      exact .of_eq rfl rfl hhand (h.fail hnames)
    | endReload hhand htask' =>
      cases htask.symm.trans htask'
      rw [hhand] at h
      exact .ended rfl rfl (h.partitions hold hnames)
    -- the tunnel in hand
    | updated hhand hanswer =>
      rw [hhand] at h
      rw [htask]
      exact .of_eq rfl (configs_replace _ _) rfl (h.granted hnames)
    | updateFailed hhand hanswer =>
      have hserves := hsteady.hand _ hhand
      rw [htask] at hserves
      -- limits are not refused
      cases hserves with
      | update _ hcall => cases (hcall.eq_none hanswer).1
    | removed hhand hclosed =>
      rw [hhand] at h
      rw [htask]
      exact .of_eq rfl rfl rfl h.gone
    | halted hhand hclosed =>
      rw [hhand] at h
      rw [htask]
      exact .of_eq rfl rfl rfl h.halted
    | closed hhand hclosed =>
      have hserves := hsteady.hand _ hhand
      rw [htask] at hserves
      cases hserves

/-- A reload begins. -/
theorem begin (hsteady : m.Steady) (hs : m.Stepped now (.reload c) m') :
    Sorting m.configs c m' := by
  cases hs with
  | reload htask =>
    have hbegin := Sorts.begin m.configs c
    rw [configs, List.map_map] at hbegin
    exact .of_eq rfl rfl (hsteady.hand_eq_none htask) hbegin

theorem run {later : Schedule Action} (h : Sorting old c m) (hsteady : m.Steady)
    (hold : (old.map (·.name)).Nodup) (hnames : c.names.Nodup) (hquiet : IsQuiet later)
    (hrun : m.run later = some m') : Sorting old c m' := by
  have hboth : m'.Steady ∧ Sorting old c m' := by
    refine run_keeps (motive := fun m => m.Steady ∧ Sorting old c m) ?_ ⟨hsteady, h⟩ hrun
    rintro m now action m' hmem ⟨hsteady, h⟩ hs
    exact ⟨hs.steady hsteady, h.step hsteady hold hnames (hquiet _ hmem) hs⟩
  exact hboth.2

/-- When the manager is idle, its summary is complete. -/
theorem partitions (h : Sorting old c m) (htask : m.task = .idle) :
    ∃ s, m.summary = some s ∧ s.Partitions old c.tunnels := by
  cases h with
  | reloading htask' =>
    rw [htask] at htask'
    cases htask'
  | ended _ hsummary h => exact ⟨_, hsummary, h⟩

end Sorting

/-- The steps that a manager has to take for a reload at most. -/
theorem stepsLeft_reload_le (hsteady : m.Steady) (hs : m.Stepped now (.reload c) m') :
    m'.stepsLeft ≤ 2 * m.tunnels.length + 3 * c.tunnels.length + 1 := by
  cases hs with
  | reload htask =>
    have hle := m.names.length_filter_le fun name => !c.tunnels.any (·.name = name)
    rw [names, List.length_map] at hle
    simp only [stepsLeft, hsteady.hand_eq_none htask, Option.map_none, Option.getD_none,
      List.length_nil, names]
    omega

/-- In whatever state of whatever run a manager replaces its configuration by one in which no name is
used twice: it takes a limited number of steps, it can always come to the end, and in the end the
summary tells of each tunnel what became of it, once. -/
theorem partition_of_run {env : Environment} {first config : Config}
    {before later : Schedule Action} {m₀ : Manager} (hnames : config.names.Nodup)
    (hrun : (start env first).run before = some m) (hreload : m.step now (.reload config) = some m₀)
    (hquiet : IsQuiet later) (hlater : m₀.run later = some m') :
    cost later ≤ 2 * m.tunnels.length + 3 * config.tunnels.length + 1 ∧
      (∀ instant, Attains (·.task = .idle) instant m') ∧
      (m'.task = .idle →
        ∃ s, m'.summary = some s ∧ s.Partitions m.configs config.tunnels) := by
  have hsound := isSound_of_run hrun
  have hs := stepped_of_step hreload
  have hsound₀ := hsound.step hs
  have htask₀ : m₀.task.IsOfReload := by
    cases hs
    trivial
  obtain ⟨htask, hcost⟩ := cost_add_stepsLeft_le hsound₀.1 htask₀ hquiet hlater
  refine ⟨?_, (hsound₀.run hlater).attains_idle htask, fun hidle => ?_⟩
  · have hleft := stepsLeft_reload_le hsound.1 hs
    omega
  · have hold : (m.configs.map (·.name)).Nodup := by
      rw [configs, List.map_map]
      exact hsound.1.nodup_names
    exact ((Sorting.begin hsound.1 hs).run hsound₀.1 hold hnames hquiet hlater).partitions hidle

/-- A configuration with the tunnels `a`, `b` and `c`. -/
def three : Config := ⟨{}, [⟨"a", "i", "o", 9, 5⟩, ⟨"b", "j", "o", 9, 5⟩, ⟨"c", "k", "o", 9, 5⟩]⟩

/-- A configuration without the tunnel `a`, with another limit for `b`, another address for `c`, and
with the tunnels `d` and `e`. -/
def four : Config :=
  ⟨{}, [⟨"b", "j", "o", 9, 3⟩, ⟨"c", "i", "o", 9, 5⟩, ⟨"d", "k", "o", 9, 5⟩, ⟨"e", "l", "o", 9, 5⟩]⟩

/-- The tunnels `a`, `b` and `c` are started. -/
def threeStarted : Schedule Action :=
  [(0, .bound (.ok (.stable ⟨.v4 127 0 0 1, 81, 0⟩))),
    (0, .bound (.ok (.stable ⟨.v4 127 0 0 1, 82, 0⟩))),
    (0, .bound (.ok (.stable ⟨.v4 127 0 0 1, 83, 0⟩))), (0, .proceed)]

/-- The tunnel in hand comes to its end, and the manager goes on. -/
def handEnds : Schedule Action :=
  [(2, .act .inHand .openFirst), (2, .act .inHand .heed), (2, .act .inHand .stop),
    (2, .act .inHand .retire), (2, .act .inHand .finish), (2, .proceed)]

/-- The tunnel `a` is removed, `b` gets its limit, `c` is started again, `d` is added, and `e` cannot
be started. -/
def everyChange : Schedule Action :=
  (1, .proceed) :: handEnds ++
    [(2, .proceed), (2, .act .inHand .openFirst), (2, .act .inHand .handUpdate),
      (2, .act .inHand .takeUpdate), (2, .proceed), (2, .proceed)] ++ handEnds ++
    [(3, .proceed), (3, .proceed), (3, .bound (.ok (.stable ⟨.v4 127 0 0 1, 81, 0⟩))),
      (3, .bound (.ok (.stable ⟨.v4 127 0 0 1, 83, 0⟩))),
      (3, .bound (.error (.plain .addrInUse))), (3, .proceed)]

theorem partition_of_everyChange :
    ∃ m m₀ m', (start ⟨[], "", ""⟩ three).run threeStarted = some m ∧
      m.step 1 (.reload four) = some m₀ ∧ m₀.run everyChange = some m' ∧
      (∀ instant, Attains (·.task = .idle) instant m') ∧
      m'.summary = some ⟨["b"], ["c"], ["d"], ["a"], ["e"]⟩ ∧
      ReloadSummary.Partitions ⟨["b"], ["c"], ["d"], ["a"], ["e"]⟩ three.tunnels four.tunnels := by
  -- the run is evaluated once
  have hany : ((start ⟨[], "", ""⟩ three).run threeStarted).any fun m =>
      m.configs = three.tunnels && (m.step 1 (.reload four)).any fun m₀ =>
        (m₀.run everyChange).any fun m' =>
          m'.summary = some ⟨["b"], ["c"], ["d"], ["a"], ["e"]⟩ && m'.task.isIdle := by
    decide +kernel
  obtain ⟨m, hrun, hm⟩ := (Option.any_eq_true _ _).1 hany
  obtain ⟨hconfigs, hm⟩ := Bool.and_eq_true_iff.1 hm
  obtain ⟨m₀, hreload, hm₀⟩ := (Option.any_eq_true _ _).1 hm
  obtain ⟨m', hlater, hm'⟩ := (Option.any_eq_true _ _).1 hm₀
  obtain ⟨hsummary, hidle⟩ := Bool.and_eq_true_iff.1 hm'
  obtain ⟨-, hattains, hpartitions⟩ :=
    partition_of_run (by decide) hrun hreload (by decide) hlater
  obtain ⟨s, hs, h⟩ := hpartitions (Task.isIdle_iff.1 hidle)
  rw [of_decide_eq_true hconfigs] at h
  rw [of_decide_eq_true hsummary] at hs
  cases hs
  exact ⟨m, m₀, m', hrun, hreload, hlater, hattains, of_decide_eq_true hsummary, h⟩

end Manager

end Sluice
