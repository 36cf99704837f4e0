import Sluice.Proofs.Manager.Reload

/-!
# Tunnels and configuration

Whenever a manager is idle, its tunnels are those of the configuration that it accepted last, but
for those that could not be started.

* `Annals` is the record of the configuration and of the attempts to start its tunnels;
* `Annals.Mirrors a m`: the tunnels are those that the annals tell;
* `Annals.Standing a m`: what holds at any time, and `Annals.Standing.step` says that every action
  keeps it.
-/

namespace Sluice

open Manager (Engaged Underway namesOf)

/-- What is on record of a manager since it accepted its configuration. -/
structure Annals where
  /-- The configuration that was accepted last. -/
  accepted : Config
  /-- The names of the tunnels that it attempted to start since then, oldest first. -/
  attempted : List String := []
  /-- The names of those that could not be started. -/
  failed : List String := []
deriving DecidableEq

namespace Annals

/-- Note an action that happens to the manager. -/
def note (a : Annals) (m : Manager) : Manager.Action → Annals
  | .reload config => { accepted := config }
  | .bound result =>
    let name := (m.launching?.map (·.name)).toList
    { a with
      attempted := a.attempted ++ name
      failed :=
        match result with
        | .ok _ => a.failed
        | .error _ => a.failed ++ name }
  | _ => a

/-- The tunnels are those of the configuration that was accepted last, but for those that could not
be started. -/
structure Mirrors (a : Annals) (m : Manager) : Prop where
  /-- No name is used twice. -/
  nodup : m.names.Nodup
  /-- The names are the configured ones, but for those of tunnels that could not be started. -/
  names : ∀ name, name ∈ m.names ↔ name ∈ a.accepted.names ∧ name ∉ a.failed
  /-- Each tunnel is configured, and runs with the addresses and the limits configured. -/
  tunnels : ∀ x ∈ m.tunnels, x.config ∈ a.accepted.tunnels ∧ x.Runs
  /-- The tunnels that could not be started are known. -/
  failed : (m.summary.getD {}).failed = a.failed

/-- What a manager has still to do that is not about to end. -/
inductive Stage (m : Manager) : Reload → Prop
  | starting {rest : List TunnelConfig} (hhand : m.hand = none) (htask : m.task = .starting rest)
      (hsummary : m.summary = none)
      (hfresh : ∀ name ∈ m.names, name ∉ rest.map (·.name)) : Stage m ⟨[], rest, [], {}⟩
  | reloading {r : Reload} (htask : m.task = .reloading r) : Stage m r
  | idle {summary : ReloadSummary} (hhand : m.hand = none) (htask : m.task = .idle)
      (hsummary : m.summary.getD {} = summary) : Stage m ⟨[], [], [], summary⟩

/-- What holds of a manager at any time, unless its user shuts it down. -/
inductive Standing (a : Annals) (m : Manager) : Prop
  | running {r : Reload} {done : List TunnelConfig} {kept halted : List String}
      (hstage : Stage m r) (h : Underway a.accepted m.tunnels m.hand r done kept halted)
      (hfailed : a.failed = r.summary.failed)
  | failing {error : TunnelError} (htask : m.task = .closing (some error) ∨ m.task = .failed error)

variable {a : Annals} {m m' : Manager} {now : ℕ} {action : Manager.Action}
  {rest ahead : List TunnelConfig} {r : Reload} {hand : Hand} {managed : Managed}
  {config : TunnelConfig} {launches : List (TunnelConfig × Bool)} {summary : ReloadSummary}

namespace Standing

/-! ### What the task tells -/

theorem of_starting (h : a.Standing m) (htask : m.task = .starting rest) :
    m.summary = none ∧ a.failed = [] ∧ (∀ name ∈ m.names, name ∉ rest.map (·.name)) ∧
      ∃ done kept halted,
        Underway a.accepted m.tunnels none ⟨[], rest, [], {}⟩ done kept halted := by
  cases h with
  | running hstage h hfailed =>
    cases hstage with
    | starting hhand htask' hsummary hfresh =>
      rw [htask] at htask'
      cases htask'
      rw [hhand] at h
      exact ⟨hsummary, hfailed, hfresh, _, _, _, h⟩
    | reloading htask' | idle _ htask' =>
      rw [htask] at htask'
      cases htask'
  | failing htask' => simp [htask] at htask'

theorem of_reloading {inHand : Option Hand} (h : a.Standing m) (hhand : m.hand = inHand)
    (htask : m.task = .reloading r) :
    a.failed = r.summary.failed ∧ ∃ done kept halted,
      Underway a.accepted m.tunnels inHand r done kept halted := by
  subst hhand
  cases h with
  | running hstage h hfailed =>
    cases hstage with
    | reloading htask' =>
      rw [htask] at htask'
      cases htask'
      exact ⟨hfailed, _, _, _, h⟩
    | starting _ htask' | idle _ htask' =>
      rw [htask] at htask'
      cases htask'
  | failing htask' => simp [htask] at htask'

theorem of_idle (h : a.Standing m) (htask : m.task = .idle) :
    m.hand = none ∧ a.failed = (m.summary.getD {}).failed ∧
      Underway a.accepted m.tunnels none ⟨[], [], [], m.summary.getD {}⟩ a.accepted.tunnels []
        [] := by
  cases h with
  | running hstage h hfailed =>
    cases hstage with
    | idle hhand _ hsummary =>
      rw [hhand] at h
      rw [hsummary]
      -- all that is configured is compared
      have hsplit := h.split
      rw [List.append_nil] at hsplit
      cases hsplit
      cases h.hand
      exact ⟨hhand, hfailed, h⟩
    | starting _ htask' | reloading htask' =>
      rw [htask] at htask'
      cases htask'
  | failing htask' => simp [htask] at htask'

/-- Of the configured names those are missing whose tunnels could not be started. -/
theorem failed_eq (h : a.Standing m) (htask : m.task = .idle) :
    a.failed = Manager.missing a.accepted.names m.names := by
  obtain ⟨-, hfailed, hunderway⟩ := h.of_idle htask
  have hmissing := hunderway.missing
  simp only [List.append_nil, List.map_nil] at hmissing
  rw [hfailed, ← hmissing]
  rfl

/-- A tunnel is in hand only during a reload, or when all is shut down because of an error. -/
theorem of_hand (h : a.Standing m) (hhand : m.hand = some hand) :
    (∃ r, m.task = .reloading r) ∨
      ∃ error, m.task = .closing (some error) ∨ m.task = .failed error := by
  cases h with
  | running hstage h hfailed =>
    cases hstage with
    | reloading htask => exact .inl ⟨_, htask⟩
    | starting hhand' | idle hhand' =>
      rw [hhand] at hhand'
      cases hhand'
  | failing htask => exact .inr ⟨_, htask⟩

/-- Whenever the manager is idle its tunnels are those of the configuration. -/
theorem mirrors (h : a.Standing m) (htask : m.task = .idle) : a.Mirrors m := by
  obtain ⟨-, hfailed, hunderway⟩ := h.of_idle htask
  have hknown : ∀ x ∈ m.tunnels, x.config ∈ a.accepted.tunnels := fun x hx => by
    simpa using hunderway.known x hx
  refine ⟨hunderway.nodup_names, fun name => ⟨fun hname => ?_, fun hname => ?_⟩,
    fun x hx => ⟨hknown x hx, hunderway.runs x hx⟩, hfailed.symm⟩
  · obtain ⟨x, hx, rfl⟩ := List.mem_map.1 hname
    refine ⟨List.mem_map_of_mem (hknown x hx), ?_⟩
    rw [h.failed_eq htask, Manager.mem_missing, not_and_not_right]
    exact fun _ => hname
  · rw [h.failed_eq htask, Manager.mem_missing, not_and_not_right] at hname
    exact hname.2 hname.1

/-! ### What actions keep -/

theorem drifts (h : a.Standing m) (hdrifts : m.Drifts m') : a.Standing m' := by
  cases h with
  | running hstage h hfailed =>
    refine .running ?_ (h.drifts hdrifts) hfailed
    cases hstage with
    | starting hhand htask hsummary hfresh =>
      rw [← hdrifts.names_eq] at hfresh
      exact .starting (hdrifts.hand_eq_none hhand) (hdrifts.task.trans htask)
        (hdrifts.summary.trans hsummary) hfresh
    | reloading htask => exact .reloading (hdrifts.task.trans htask)
    | idle hhand htask hsummary =>
      rw [← hdrifts.summary] at hsummary
      exact .idle (hdrifts.hand_eq_none hhand) (hdrifts.task.trans htask) hsummary
  | failing htask =>
    rw [← hdrifts.task] at htask
    exact .failing htask

/-- What tunnels do by themselves is of no account. -/
theorem act {place : Manager.Place} {work : Tunnel.Action} (h : a.Standing m)
    (hs : m.Stepped now (.act place work) m') : a.Standing m' := by
  cases h with
  | running hstage h hfailed =>
    exact (Standing.running hstage h hfailed).drifts (hs.drifts h.nodup_names)
  | failing htask =>
    cases hs with
    | @act place _ t t' => cases place <;> exact .failing htask

/-- All is shut down because of an error only. -/
theorem of_closing {error : Option TunnelError} (h : a.Standing m)
    (htask : m.task = .closing error) : ∃ e, error = some e := by
  cases h with
  | running hstage =>
    cases hstage with
    | starting _ htask' | reloading htask' | idle _ htask' =>
      rw [htask] at htask'
      cases htask'
  | failing htask' =>
    rw [htask] at htask'
    rcases htask' with htask' | htask' <;> cases htask'
    exact ⟨_, rfl⟩

/-- Only a reload changes what is left of it. -/
theorem failing_mapReload {error : TunnelError} (f : Reload → Reload)
    (htask : m.task = .closing (some error) ∨ m.task = .failed error) :
    Manager.Task.mapReload f m.task = .closing (some error) ∨
      Manager.Task.mapReload f m.task = .failed error := by
  rcases htask with htask | htask <;> rw [htask]
  · exact .inl rfl
  · exact .inr rfl

theorem of_free {done : List TunnelConfig} {kept halted : List String} (hhand : m.hand = none)
    (hstage : Stage m r) (h : Underway a.accepted m.tunnels none r done kept halted)
    (hfailed : a.failed = r.summary.failed) : a.Standing m := by
  rw [← hhand] at h
  exact .running hstage h hfailed

/-- The next tunnel of the first configuration is started. -/
theorem startNext {config : TunnelConfig} (listener : Listener) (h : a.Standing m)
    (hnames : a.accepted.names.Nodup) (hhand : m.hand = none)
    (htask : m.task = .starting (config :: rest)) :
    (a.note m (.bound (.ok listener))).Standing
      { m.launch now config listener with task := .starting rest } := by
  obtain ⟨hsummary, hfailed, hfresh, done, kept, halted, hunderway⟩ := h.of_starting htask
  have hname : config.name ∉ m.names := fun hmem => hfresh _ hmem (by simp)
  obtain ⟨-, -, hahead⟩ := hunderway.next hnames
  have hadopt := hunderway.adopt hnames (Managed.runs_start config m.settings m.env now listener)
  rw [Manager.filter_name_eq_self hname] at hadopt
  obtain ⟨reports, hlaunch⟩ := Manager.launch_of_not_mem now listener hname
  rw [hlaunch]
  refine .of_free hhand (.starting hhand rfl hsummary ?_) hadopt hfailed
  rw [Manager.names, ← namesOf, Manager.namesOf_concat, List.forall_mem_append]
  refine ⟨fun other hother => ?_, by simpa using hahead⟩
  have hlater := hfresh other hother
  rw [List.map_cons, List.mem_cons, not_or] at hlater
  exact hlater.2

/-- The next configured tunnel goes on with the same limits. -/
theorem keep (h : a.Standing m) (hnames : a.accepted.names.Nodup) (hhand : m.hand = none)
    (htask : m.task = .reloading ⟨[], config :: ahead, launches, summary⟩)
    (hfind : m.find? config.name = some managed) (hsame : managed.config.sameEndpoints config)
    (hlimits : managed.config.limits = config.limits) :
    a.Standing { (m.erase config.name).insert { managed with config } with
      task := .reloading ⟨[], ahead, launches, summary⟩ } := by
  obtain ⟨hfailed, done, kept, halted, hunderway⟩ := h.of_reloading hhand htask
  obtain ⟨hmem, hname⟩ := Manager.find?_eq_some hfind
  obtain ⟨hinUse, hlimits', hplan⟩ := hunderway.runs managed hmem
  have hruns : Managed.Runs { managed with config } :=
    ⟨hinUse, hlimits'.trans hlimits, hplan.congr hname hsame⟩
  rw [m.insert_erase { managed with config }]
  exact .of_free hhand (.reloading rfl) (hunderway.adopt hnames hruns) hfailed

/-- The next configured tunnel is asked to get new limits. -/
theorem update (h : a.Standing m) (hnames : a.accepted.names.Nodup) (hhand : m.hand = none)
    (htask : m.task = .reloading ⟨[], config :: ahead, launches, summary⟩)
    (hfind : m.find? config.name = some managed) (hsame : managed.config.sameEndpoints config) :
    a.Standing { m.update managed config with
      task := .reloading ⟨[], ahead, launches, summary⟩ } := by
  obtain ⟨hfailed, done, kept, halted, hunderway⟩ := h.of_reloading hhand htask
  obtain ⟨hmem, hname⟩ := Manager.find?_eq_some hfind
  have hruns := hunderway.runs managed hmem
  obtain ⟨t, hrequest, hplan, hcall⟩ := hruns.inUse.requestUpdate config.limits
  have hfits : t.plan.Fits config := hplan ▸ hruns.plan.congr hname hsame
  simp only [Manager.update, hrequest, Option.getD_some, Manager.erase, hname]
  exact .running (.reloading rfl) (hunderway.update hnames hfits hcall) hfailed

/-- The next tunnel that does not run is started. -/
theorem launchNext {ran : Bool} {launches : List (TunnelConfig × Bool)} {summary' : ReloadSummary}
    (listener : Listener) (h : a.Standing m) (hnames : a.accepted.names.Nodup)
    (hhand : m.hand = none)
    (htask : m.task = .reloading ⟨[], [], (config, ran) :: launches, summary⟩)
    (hsummary : summary'.failed = summary.failed) :
    (a.note m (.bound (.ok listener))).Standing
      { m.launch now config listener with task := .reloading ⟨[], [], launches, summary'⟩ } := by
  obtain ⟨hfailed, done, kept, halted, hunderway⟩ := h.of_reloading hhand htask
  obtain ⟨reports, hlaunch⟩ := Manager.launch_of_not_mem now listener hunderway.not_mem_of_launch
  rw [hlaunch]
  exact .of_free hhand (.reloading rfl) (hunderway.launch hnames hsummary)
    (hfailed.trans hsummary.symm)

/-- The tunnel in hand has got its limits. There is no other answer. -/
theorem updated {call : ℕ} {error : Option TunnelError} (h : a.Standing m)
    (htask : m.task = .reloading r) (hhand : m.hand = some ⟨managed, .update config call⟩)
    (hanswer : managed.tunnel.answers.lookup call = some error) :
    error = none ∧ a.Standing
      { Manager.insert { m with hand := none } { managed with config } with
        task := .reloading { r with summary.updated := r.summary.updated ++ [config.name] } } := by
  obtain ⟨hfailed, done, kept, halted, hunderway⟩ := h.of_reloading hhand htask
  obtain ⟨hnone, hnew, hupdated⟩ := hunderway.updated hanswer
  refine ⟨hnone, ?_⟩
  -- no tunnel took the name in the meantime
  have hnew' : config.name ∉ Manager.names { m with hand := none } := hnew
  rw [Manager.insert_of_not_mem hnew']
  exact .of_free rfl (.reloading rfl) hupdated hfailed

/-- Every action keeps what holds of a manager. -/
theorem step (h : a.Standing m) (hnames : a.accepted.names.Nodup) (haction : action ≠ .shutDownAll)
    (hs : m.Stepped now action m') : (a.note m action).Standing m' := by
  cases hs with
  | shutDownAll => exact absurd rfl haction
  | act hplace howner hstep => exact h.act (.act hplace howner hstep)
  -- the first configuration
  | startNext hhand htask => exact h.startNext _ hnames hhand htask
  -- a manager that could not start never becomes idle
  | failStart hhand htask => exact .failing (.inl rfl)
  | endStart hhand htask =>
    obtain ⟨hsummary, hfailed, -, done, kept, halted, hunderway⟩ := h.of_starting htask
    have hnone : m.summary.getD {} = {} := by rw [hsummary, Option.getD_none]
    exact .of_free hhand (.idle hhand rfl hnone) hunderway hfailed
  -- the reload
  | @reload config htask =>
    obtain ⟨hhand, -, hunderway⟩ := h.of_idle htask
    exact .of_free hhand (.reloading rfl) (.begin hunderway.nodup_names hunderway.runs config) rfl
  | remove hhand htask hfind =>
    obtain ⟨hfailed, done, kept, halted, hunderway⟩ := h.of_reloading hhand htask
    obtain ⟨-, rfl⟩ := Manager.find?_eq_some hfind
    exact .running (.reloading rfl) hunderway.remove hfailed
  | skip hhand htask hfind =>
    obtain ⟨hfailed, done, kept, halted, hunderway⟩ := h.of_reloading hhand htask
    have hname := Manager.find?_eq_none.1 hfind
    exact .of_free hhand (.reloading rfl) (hunderway.skip hname) hfailed
  | update hhand htask hfind hsame hlimits => exact h.update hnames hhand htask hfind hsame
  | keep hhand htask hfind hsame hlimits => exact h.keep hnames hhand htask hfind hsame hlimits
  | restart hhand htask hfind hother =>
    obtain ⟨hfailed, done, kept, halted, hunderway⟩ := h.of_reloading hhand htask
    obtain ⟨-, hname⟩ := Manager.find?_eq_some hfind
    simp only [Manager.shutDown, Manager.erase, hname]
    exact .running (.reloading rfl) (hunderway.restart hnames) hfailed
  | add hhand htask hfind =>
    obtain ⟨hfailed, done, kept, halted, hunderway⟩ := h.of_reloading hhand htask
    have hname := Manager.find?_eq_none.1 hfind
    exact .of_free hhand (.reloading rfl) (hunderway.add hnames hname) hfailed
  | @launchNext config ran launches summary listener hhand htask =>
    refine h.launchNext listener hnames hhand htask ?_
    split <;> rfl
  | failLaunch hhand htask =>
    obtain ⟨hfailed, done, kept, halted, hunderway⟩ := h.of_reloading hhand htask
    refine .of_free hhand (.reloading rfl) hunderway.fail ?_
    simp [note, Manager.launching?, hhand, htask, hfailed]
  | endReload hhand htask =>
    obtain ⟨hfailed, done, kept, halted, hunderway⟩ := h.of_reloading hhand htask
    exact .of_free hhand (.idle hhand rfl rfl) hunderway hfailed
  -- the end
  | close hhand htask htunnels =>
    obtain ⟨error, rfl⟩ := h.of_closing htask
    exact .failing (.inl htask)
  | endClose hhand htask htunnels =>
    obtain ⟨error, heq⟩ := h.of_closing htask
    cases heq
  | endFailure hhand htask htunnels => exact .failing (.inr rfl)
  -- the tunnel in hand
  | updated hhand hanswer =>
    rcases h.of_hand hhand with ⟨r, htask⟩ | ⟨error, htask⟩
    · rw [htask]
      exact (h.updated htask hhand hanswer).2
    · exact .failing (failing_mapReload _ htask)
  | updateFailed hhand hanswer =>
    rcases h.of_hand hhand with ⟨r, htask⟩ | ⟨error, htask⟩
    · -- limits are not refused
      cases (h.updated htask hhand hanswer).1
    · exact .failing htask
  | removed hhand hclosed =>
    rcases h.of_hand hhand with ⟨r, htask⟩ | ⟨error, htask⟩
    · obtain ⟨hfailed, done, kept, halted, hunderway⟩ := h.of_reloading hhand htask
      rw [htask]
      exact .of_free rfl (.reloading rfl) hunderway.removed hfailed
    · exact .failing (failing_mapReload _ htask)
  | halted hhand hclosed =>
    rcases h.of_hand hhand with ⟨r, htask⟩ | ⟨error, htask⟩
    · obtain ⟨hfailed, done, kept, halted, hunderway⟩ := h.of_reloading hhand htask
      rw [htask]
      exact .of_free rfl (.reloading rfl) hunderway.stopped hfailed
    · exact .failing (failing_mapReload _ htask)
  | closed hhand hclosed =>
    rcases h.of_hand hhand with ⟨r, htask⟩ | ⟨error, htask⟩
    · obtain ⟨-, done, kept, halted, hunderway⟩ := h.of_reloading hhand htask
      cases hunderway.hand
    · exact .failing htask

end Standing

end Annals

end Sluice
