import Sluice.Proofs.Config.Validation
import Sluice.Proofs.Manager.Roster

/-!
# What holds while a configuration is replaced

While a manager replaces its configuration, each configured tunnel runs as it is configured, is
compared later, is in hand, waits to be started, or could not be started.

* `Manager.missing wanted running`: the wanted names that do not run;
* `Manager.Engaged c hand kept halted`: what the tunnel in hand is there for;
* `Manager.Underway c m r done kept halted`: what holds while the configuration `c` is put in place,
  with one lemma for each thing that the manager does then.
-/

namespace Sluice.Manager

/-! ## Names that do not run -/

/-- The wanted names that do not run. -/
def missing (wanted running : List String) : List String := wanted.filter (· ∉ running)

variable {wanted running running' before after : List String} {name : String}

theorem mem_missing : name ∈ missing wanted running ↔ name ∈ wanted ∧ name ∉ running := by
  simp [missing]

theorem missing_congr (h : ∀ name ∈ wanted, name ∈ running' ↔ name ∈ running) :
    missing wanted running' = missing wanted running :=
  List.filter_congr fun name hname => decide_eq_decide.2 (not_congr (h name hname))

/-- A name that is not wanted may be taken off. -/
theorem missing_erase (h : name ∉ wanted) :
    missing wanted (running.filter (· ≠ name)) = missing wanted running := by
  refine missing_congr fun other hother => ?_
  have hne : other ≠ name := ne_of_mem_of_not_mem hother h
  simp [hne]

/-- One more name is wanted, and does not run. -/
theorem missing_concat (h : name ∉ running) :
    missing (wanted ++ [name]) running = missing wanted running ++ [name] := by
  simp [missing, h]

/-- One more name is wanted, and runs. -/
theorem missing_concat_concat (h : name ∉ wanted) :
    missing (wanted ++ [name]) (running ++ [name]) = missing wanted running := by
  have hsame : missing wanted (running ++ [name]) = missing wanted running := by
    refine missing_congr fun other hother => ?_
    have hne : other ≠ name := ne_of_mem_of_not_mem hother h
    simp [hne]
  rw [← hsame]
  simp [missing]

/-- A missing name runs at last. -/
theorem missing_of_start (hnodup : wanted.Nodup)
    (h : missing wanted running = before ++ name :: after) :
    missing wanted (running ++ [name]) = before ++ after := by
  -- the name is missing at one place only
  have hsublist : (before ++ name :: after).Nodup := h ▸ hnodup.filter _
  have hfresh : name ∉ before ++ after := (List.nodup_middle.1 hsublist).notMem
  calc missing wanted (running ++ [name])
      = (missing wanted running).filter (· ≠ name) := by
        simp only [missing, List.filter_filter, List.mem_append, List.mem_singleton, not_or]
        exact List.filter_congr fun other _ => by simp [and_comm]
    _ = before ++ after := by
        rw [h, List.filter_append, List.filter_cons_of_neg (by simp), ← List.filter_append]
        exact List.filter_eq_self.2 fun other hother =>
          decide_eq_true (ne_of_mem_of_not_mem hother hfresh)

theorem nodup_concat_of_erase (h : running.Nodup) :
    (running.filter (· ≠ name) ++ [name]).Nodup := by
  have hfresh : name ∉ running.filter (· ≠ name) := by simp
  exact List.nodup_append.2 ⟨h.filter _, List.nodup_singleton _, by grind⟩

/-! ## The tunnel in hand -/

/-- What the tunnel in hand is there for while the configuration `c` is put in place. It goes on
under a name in `kept`, or is started again under a name in `halted`. -/
inductive Engaged (c : Config) : Option Hand → List String → List String → Prop
  | free : Engaged c none [] []
  | remove {managed : Managed} : Engaged c (some ⟨managed, .remove⟩) [] []
  | restart {managed : Managed} {config : TunnelConfig} (hconfig : config ∈ c.tunnels) :
      Engaged c (some ⟨managed, .restart config⟩) [] [config.name]
  | update {managed : Managed} {config : TunnelConfig} {call : ℕ} (hconfig : config ∈ c.tunnels)
      (hplan : managed.tunnel.plan.Fits config)
      (hcall : managed.tunnel.Updating config.limits call) :
      Engaged c (some ⟨managed, .update config call⟩) [config.name] []

variable {c : Config} {tunnels : List Managed} {hand hand' : Option Hand} {r : Reload}
  {kept halted : List String}

theorem Engaged.drifts (h : Engaged c hand kept halted)
    (hdrifts : Option.Rel Hand.Drifts hand hand') : Engaged c hand' kept halted := by
  cases hdrifts with
  | none => exact h
  | @some hand hand' hdrifts =>
    obtain ⟨herrand, -, htunnel⟩ := hdrifts
    obtain ⟨managed, errand⟩ := hand'
    cases herrand
    cases h with
    | remove => exact .remove
    | restart hconfig => exact .restart hconfig
    | update hconfig hplan hcall =>
      exact .update hconfig (htunnel.plan_eq ▸ hplan) (hcall.drifts htunnel)

/-! ## The replacement -/

/-- What holds of the tunnels while the configuration `c` is put in place, of which the tunnels
`done` are compared already. -/
structure Underway (c : Config) (tunnels : List Managed) (hand : Option Hand) (r : Reload)
    (done : List TunnelConfig) (kept halted : List String) : Prop where
  /-- The tunnel in hand is there for a purpose. -/
  hand : Engaged c hand kept halted
  /-- The other tunnels are still to be compared. -/
  split : c.tunnels = done ++ r.ahead
  /-- No name is used twice. -/
  nodup : (namesOf tunnels ++ kept).Nodup
  /-- Every tunnel runs as it is configured, -/
  runs : ∀ x ∈ tunnels, x.Runs
  /-- be it by the configuration before until it is removed or compared. -/
  known : ∀ x ∈ tunnels, x.config.name ∈ r.removals ∨ x.config.name ∈ r.ahead.map (·.name) ∨
    x.config ∈ c.tunnels
  /-- What is removed is not configured. -/
  removals : ∀ name ∈ r.removals, name ∉ c.names
  /-- What is started is configured. -/
  launches : ∀ launch ∈ r.launches, launch.1 ∈ c.tunnels
  /-- What is compared and does not run could not be started, or is to be started. -/
  missing : missing (done.map (·.name)) (namesOf tunnels ++ kept) =
    r.summary.failed ++ r.launches.map (·.1.name) ++ halted

namespace Underway

variable {done ahead : List TunnelConfig} {config : TunnelConfig} {managed x : Managed}
  {launches rest : List (TunnelConfig × Bool)} {summary : ReloadSummary} {names : List String}
  {ran : Bool} {call : ℕ}

theorem drifts {m m' : Manager} (h : Underway c m.tunnels m.hand r done kept halted)
    (hdrifts : m.Drifts m') : Underway c m'.tunnels m'.hand r done kept halted where
  hand := h.hand.drifts hdrifts.hand
  split := h.split
  nodup := by
    rw [namesOf, ← names, hdrifts.names_eq]
    exact h.nodup
  runs y hy := by
    obtain ⟨x, hx, hxy⟩ := hdrifts.exists_of_mem hy
    exact (h.runs x hx).drifts hxy
  known y hy := by
    obtain ⟨x, hx, hconfig, -⟩ := hdrifts.exists_of_mem hy
    rw [hconfig]
    exact h.known x hx
  removals := h.removals
  launches := h.launches
  missing := by
    rw [namesOf, ← names, hdrifts.names_eq]
    exact h.missing

/-- The replacement begins. -/
theorem begin (hnodup : (namesOf tunnels).Nodup) (hruns : ∀ x ∈ tunnels, x.Runs) (c : Config) :
    Underway c tunnels none
      { removals := (namesOf tunnels).filter fun name => !c.tunnels.any (·.name = name)
        ahead := c.tunnels } [] [] [] := by
  refine ⟨.free, rfl, ?_, hruns, fun x hx => ?_, fun name hname => ?_, by simp, rfl⟩
  · rwa [List.append_nil]
  · -- what runs is removed or compared, as its name is configured or not
    by_cases hname : x.config.name ∈ c.names
    · exact .inr (.inl hname)
    · refine .inl (List.mem_filter.2 ⟨name_mem_namesOf hx, ?_⟩)
      simpa [Config.names] using hname
  · simpa [Config.names] using (List.mem_filter.1 hname).2

/-! ### Tunnels that are not configured any more -/

/-- Such a tunnel is taken in hand to be removed. -/
theorem remove (h : Underway c tunnels none ⟨name :: names, ahead, launches, summary⟩ done kept
    halted) :
    Underway c (tunnels.filter (·.config.name ≠ name)) (some ⟨managed, .remove⟩)
      ⟨names, ahead, launches, summary⟩ done [] [] := by
  obtain ⟨hand, hsplit, hnodup, hruns, hknown, hremovals, hlaunches, hmissing⟩ := h
  cases hand
  obtain ⟨hother, hremovals⟩ := List.forall_mem_cons.1 hremovals
  rw [List.append_nil] at hnodup hmissing
  refine ⟨.remove, hsplit, ?_, fun x hx => hruns x (List.mem_of_mem_filter hx), fun x hx => ?_,
    hremovals, hlaunches, ?_⟩
  · rw [namesOf_filter, List.append_nil]
    exact hnodup.filter _
  · obtain ⟨hx, hname⟩ := List.mem_filter.1 hx
    rcases hknown x hx with hremoval | hknown
    · exact .inl (List.mem_of_ne_of_mem (of_decide_eq_true hname) hremoval)
    · exact .inr hknown
  · -- the name is not configured, so that it is not missed
    rw [namesOf_filter, List.append_nil, ← hmissing]
    refine missing_erase fun hdone => hother ?_
    rw [Config.names, hsplit, List.map_append]
    exact List.mem_append_left _ hdone

/-- Such a tunnel does not run. -/
theorem skip (h : Underway c tunnels hand ⟨name :: names, ahead, launches, summary⟩ done kept
    halted) (hname : name ∉ namesOf tunnels) :
    Underway c tunnels hand ⟨names, ahead, launches, summary⟩ done kept halted := by
  refine { h with known := fun x hx => ?_, removals := (List.forall_mem_cons.1 h.removals).2 }
  have hne : x.config.name ≠ name := ne_of_mem_of_not_mem (name_mem_namesOf hx) hname
  rcases h.known x hx with hremoval | hknown
  · exact .inl (List.mem_of_ne_of_mem hne hremoval)
  · exact .inr hknown

/-- The tunnel is removed. -/
theorem removed (h : Underway c tunnels (some ⟨managed, .remove⟩) r done kept halted) :
    Underway c tunnels none { r with summary.removed := r.summary.removed ++ [name] } done kept
      halted := by
  obtain ⟨hand, hsplit, hnodup, hruns, hknown, hremovals, hlaunches, hmissing⟩ := h
  cases hand
  exact ⟨.free, hsplit, hnodup, hruns, hknown, hremovals, hlaunches, hmissing⟩

/-! ### Configured tunnels -/

/-- The next tunnel to be compared is configured, and no other one has its name. -/
theorem next (h : Underway c tunnels hand ⟨[], config :: ahead, launches, summary⟩ done kept halted)
    (hnames : c.names.Nodup) :
    config ∈ c.tunnels ∧ config.name ∉ done.map (·.name) ∧ config.name ∉ ahead.map (·.name) := by
  rw [Config.names, h.split, List.map_append, List.map_cons] at hnames
  have hother := (List.nodup_middle.1 hnames).notMem
  rw [List.mem_append, not_or] at hother
  exact ⟨by simp [h.split], hother⟩

theorem nodup_names (h : Underway c tunnels hand r done kept halted) :
    (namesOf tunnels).Nodup :=
  (List.nodup_append.1 h.nodup).1

/-- The next tunnel is compared. Afterwards it runs, or it is in hand, or its name is one of those,
`extra`, that do not run. -/
theorem compared {tunnels' : List Managed} {launches' : List (TunnelConfig × Bool)}
    {kept' halted' : List String} (extra : List String)
    (h : Underway c tunnels none ⟨[], config :: ahead, launches, summary⟩ done kept halted)
    (hnames : c.names.Nodup) (hhand : Engaged c hand' kept' halted')
    (hnodup : (namesOf tunnels' ++ kept').Nodup)
    (htunnels : ∀ x ∈ tunnels', x ∈ tunnels ∧ x.config.name ≠ config.name ∨
      x.config = config ∧ x.Runs)
    (hlaunches : ∀ launch ∈ launches', launch ∈ launches ∨ launch.1 = config)
    (hmissing : Manager.missing (done.map (·.name) ++ [config.name]) (namesOf tunnels' ++ kept') =
      Manager.missing (done.map (·.name)) (namesOf tunnels) ++ extra)
    (hextra : launches'.map (·.1.name) ++ halted' = launches.map (·.1.name) ++ extra) :
    Underway c tunnels' hand' ⟨[], ahead, launches', summary⟩ (done ++ [config]) kept' halted' := by
  obtain ⟨hconfig, -⟩ := h.next hnames
  obtain ⟨hfree, hsplit, -, hruns, hknown, hremovals, hlaunches', hmissing'⟩ := h
  cases hfree
  refine ⟨hhand, by simp [hsplit], hnodup, fun x hx => ?_, fun x hx => ?_, hremovals,
    fun launch hlaunch => ?_, ?_⟩
  · rcases htunnels x hx with ⟨hold, -⟩ | ⟨-, hruns⟩
    · exact hruns x hold
    · exact hruns
  · rcases htunnels x hx with ⟨hold, hne⟩ | ⟨rfl, -⟩
    · rcases hknown x hold with hremoval | hahead | hconfig
      · cases hremoval
      · exact .inr (.inl (List.mem_of_ne_of_mem hne hahead))
      · exact .inr (.inr hconfig)
    · exact .inr (.inr hconfig)
  · rcases hlaunches launch hlaunch with hold | rfl
    · exact hlaunches' launch hold
    · exact hconfig
  · rw [List.append_nil, List.append_nil] at hmissing'
    calc Manager.missing ((done ++ [config]).map (·.name)) (namesOf tunnels' ++ kept')
        = Manager.missing (done.map (·.name)) (namesOf tunnels) ++ extra := by
          rw [List.map_append]
          exact hmissing
      _ = summary.failed ++ (launches.map (·.1.name) ++ extra) := by
          rw [hmissing', List.append_assoc]
      _ = summary.failed ++ launches'.map (·.1.name) ++ halted' := by
          rw [← hextra, List.append_assoc]

/-- A tunnel runs as the next configuration says, in the place of the one before. -/
theorem adopt
    (h : Underway c tunnels none ⟨[], x.config :: ahead, launches, summary⟩ done kept halted)
    (hnames : c.names.Nodup) (hruns : x.Runs) :
    Underway c (tunnels.filter (·.config.name ≠ x.config.name) ++ [x]) none
      ⟨[], ahead, launches, summary⟩ (done ++ [x.config]) [] [] := by
  obtain ⟨-, hnew, -⟩ := h.next hnames
  refine h.compared [] hnames .free ?_ (fun y hy => ?_) (fun _ => .inl) ?_ rfl
  · rw [namesOf_concat, namesOf_filter, List.append_nil]
    exact nodup_concat_of_erase h.nodup_names
  · rcases List.mem_append.1 hy with hy | hy
    · exact .inl (mem_filter_name hy)
    · obtain rfl := List.mem_singleton.1 hy
      exact .inr ⟨rfl, hruns⟩
  · rw [namesOf_concat, namesOf_filter, List.append_nil, List.append_nil]
    exact (missing_concat_concat hnew).trans (missing_erase hnew)

/-- A tunnel with other limits is taken in hand to get them. -/
theorem update
    (h : Underway c tunnels none ⟨[], config :: ahead, launches, summary⟩ done kept halted)
    (hnames : c.names.Nodup) (hplan : managed.tunnel.plan.Fits config)
    (hcall : managed.tunnel.Updating config.limits call) :
    Underway c (tunnels.filter (·.config.name ≠ config.name)) (some ⟨managed, .update config call⟩)
      ⟨[], ahead, launches, summary⟩ (done ++ [config]) [config.name] [] := by
  obtain ⟨hconfig, hnew, -⟩ := h.next hnames
  refine h.compared [] hnames (.update hconfig hplan hcall) ?_
    (fun x hx => .inl (mem_filter_name hx)) (fun _ => .inl) ?_ rfl
  · rw [namesOf_filter]
    exact nodup_concat_of_erase h.nodup_names
  · rw [namesOf_filter, List.append_nil]
    exact (missing_concat_concat hnew).trans (missing_erase hnew)

/-- A tunnel with other addresses is taken in hand to be started again. -/
theorem restart (h : Underway c tunnels none ⟨[], config :: ahead, launches, summary⟩ done kept
    halted) (hnames : c.names.Nodup) :
    Underway c (tunnels.filter (·.config.name ≠ config.name)) (some ⟨managed, .restart config⟩)
      ⟨[], ahead, launches, summary⟩ (done ++ [config]) [] [config.name] := by
  obtain ⟨hconfig, hnew, -⟩ := h.next hnames
  refine h.compared [config.name] hnames (.restart hconfig) ?_
    (fun x hx => .inl (mem_filter_name hx)) (fun _ => .inl) ?_ rfl
  · rw [namesOf_filter, List.append_nil]
    exact h.nodup_names.filter _
  · rw [namesOf_filter, List.append_nil, ← missing_erase hnew]
    exact missing_concat (by simp)

/-- A tunnel that does not run is to be started. -/
theorem add (h : Underway c tunnels none ⟨[], config :: ahead, launches, summary⟩ done kept halted)
    (hnames : c.names.Nodup) (hname : config.name ∉ namesOf tunnels) :
    Underway c tunnels none ⟨[], ahead, launches ++ [(config, ran)], summary⟩ (done ++ [config]) []
      [] := by
  refine h.compared [config.name] hnames .free ?_ (fun x hx => ?_) (fun launch hlaunch => ?_) ?_ ?_
  · rw [List.append_nil]
    exact h.nodup_names
  · exact .inl ⟨hx, ne_of_mem_of_not_mem (name_mem_namesOf hx) hname⟩
  · exact (List.mem_append.1 hlaunch).imp_right fun hnew => by rw [List.mem_singleton.1 hnew]
  · rw [List.append_nil]
    exact missing_concat hname
  · rw [List.append_nil, List.map_append]
    rfl

/-- The limits are answered for: they are in force, and the tunnel goes on with its new
configuration. -/
theorem updated {error : Option TunnelError}
    (h : Underway c tunnels (some ⟨managed, .update config call⟩) r done kept halted)
    (hanswer : managed.tunnel.answers.lookup call = some error) :
    error = none ∧ config.name ∉ namesOf tunnels ∧
      Underway c (tunnels ++ [{ managed with config }]) none
        { r with summary.updated := r.summary.updated ++ [config.name] } done [] [] := by
  obtain ⟨hhand, hsplit, hnodup, hruns, hknown, hremovals, hlaunches, hmissing⟩ := h
  cases hhand with
  | update hconfig hplan hcall =>
    -- a tunnel in use refuses no limits
    obtain ⟨hnone, hinUse, hlimits⟩ := hcall.eq_none hanswer
    have hruns' : Managed.Runs { managed with config } := ⟨hinUse, hlimits, hplan⟩
    refine ⟨hnone, ?_, .free, hsplit, ?_, List.forall_mem_append.2 ⟨hruns, by simpa using hruns'⟩,
      List.forall_mem_append.2 ⟨hknown, by simp [hconfig]⟩, hremovals, hlaunches, ?_⟩
    · -- the name was kept for the tunnel while it was in hand
      exact fun hmem => (List.nodup_append.1 hnodup).2.2 _ hmem _ (by simp) rfl
    · rw [namesOf_concat, List.append_nil]
      exact hnodup
    · rw [namesOf_concat, List.append_nil (_ ++ [_])]
      exact hmissing

/-- The tunnel in hand is shut down and can be started again. -/
theorem stopped (h : Underway c tunnels (some ⟨managed, .restart config⟩) r done kept halted) :
    Underway c tunnels none { r with launches := r.launches ++ [(config, true)] } done [] [] := by
  obtain ⟨hhand, hsplit, hnodup, hruns, hknown, hremovals, hlaunches, hmissing⟩ := h
  cases hhand with
  | restart hconfig =>
    refine ⟨.free, hsplit, hnodup, hruns, hknown, hremovals,
      List.forall_mem_append.2 ⟨hlaunches, by simp [hconfig]⟩, ?_⟩
    rw [hmissing, List.map_append, List.append_nil, List.append_assoc]
    rfl

/-! ### Tunnels that do not run -/

/-- The next tunnel to be started does not run. -/
theorem not_mem_of_launch
    (h : Underway c tunnels none ⟨[], [], (config, ran) :: rest, summary⟩ done kept halted) :
    config.name ∉ namesOf tunnels := by
  have hmem : config.name ∈ Manager.missing (done.map (·.name)) (namesOf tunnels ++ kept) := by
    simp [h.missing]
  exact fun hname => (mem_missing.1 hmem).2 (List.mem_append_left _ hname)

/-- The next tunnel is started. -/
theorem launch {settings : Settings} {env : Environment} {now : ℕ} {listener : Listener}
    {summary' : ReloadSummary}
    (h : Underway c tunnels none ⟨[], [], (config, ran) :: rest, summary⟩ done kept halted)
    (hnames : c.names.Nodup) (hsummary : summary'.failed = summary.failed) :
    Underway c (tunnels ++ [⟨config, .start (config.plan settings env) now listener⟩]) none
      ⟨[], [], rest, summary'⟩ done [] [] := by
  have hname := h.not_mem_of_launch
  obtain ⟨hhand, hsplit, hnodup, hruns, hknown, hremovals, hlaunches, hmissing⟩ := h
  cases hhand
  rw [List.append_nil] at hnodup hmissing
  have hruns' := Managed.runs_start config settings env now listener
  obtain ⟨hconfig, hrest⟩ := List.forall_mem_cons.1 hlaunches
  refine ⟨.free, hsplit, ?_, List.forall_mem_append.2 ⟨hruns, by simpa using hruns'⟩,
    List.forall_mem_append.2 ⟨hknown, by simpa using hconfig⟩, hremovals, hrest, ?_⟩
  · rw [namesOf_concat, List.append_nil]
    exact hnodup.append (List.nodup_singleton _) (by simpa using hname)
  · rw [namesOf_concat, List.append_nil, List.append_nil, hsummary]
    refine missing_of_start ?_ ?_
    · rw [Config.names, hsplit, List.map_append] at hnames
      exact (List.nodup_append.1 hnames).1
    · simpa using hmissing

/-- The next tunnel cannot be started. -/
theorem fail
    (h : Underway c tunnels none ⟨[], [], (config, ran) :: rest, summary⟩ done kept halted) :
    Underway c tunnels none
      ⟨[], [], rest, { summary with failed := summary.failed ++ [config.name] }⟩ done kept
      halted := by
  refine { h with launches := (List.forall_mem_cons.1 h.launches).2, missing := ?_ }
  rw [h.missing]
  simp

end Underway

end Sluice.Manager
