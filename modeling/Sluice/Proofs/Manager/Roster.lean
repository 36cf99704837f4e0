import Mathlib.Data.Option.Basic
import Sluice.Proofs.Manager.Step
import Sluice.Proofs.Tunnel.InUse

/-!
# The tunnels of a manager

* `Manager.find?_eq_some`, `Manager.insert_of_not_mem` and the like: names and the tunnels that run
  under them;
* `Managed.Runs`: a tunnel runs as it is configured;
* `Manager.Drifts m m'`: tunnels work by themselves while the manager does nothing, and
  `Manager.Stepped.drifts` says that this is all that they do to it.
-/

namespace Sluice

/-- The tunnel is built for the name and the addresses of the configuration. -/
structure TunnelPlan.Fits (plan : TunnelPlan) (config : TunnelConfig) : Prop where
  name : plan.name = config.name
  listenAt : plan.listenAt = config.listenAt
  connectTo : plan.connectTo = config.connectTo

/-- The tunnel is the one before, or what it became by something that it does by itself. -/
def Tunnel.Drifts (t t' : Tunnel) : Prop :=
  t' = t ∨ ∃ now action, action.isOfUser = false ∧ t.Stepped now action t'

namespace Managed

/-- The tunnel runs as it is configured. -/
structure Runs (x : Managed) : Prop where
  /-- The tunnel goes on, and no request for other limits waits. -/
  inUse : x.tunnel.InUse []
  /-- The limits are those of the configuration. -/
  limits : x.tunnel.limits = x.config.limits
  /-- The addresses are those of the configuration. -/
  plan : x.tunnel.plan.Fits x.config

/-- The configuration is the same, and the tunnel works by itself. -/
def Drifts (x y : Managed) : Prop := y.config = x.config ∧ x.tunnel.Drifts y.tunnel

end Managed

/-- The errand is the same, and the tunnel works by itself. -/
def Hand.Drifts (hand hand' : Hand) : Prop :=
  hand'.errand = hand.errand ∧ hand.managed.Drifts hand'.managed

/-- Tunnels work by themselves, and the manager does nothing. -/
structure Manager.Drifts (m m' : Manager) : Prop where
  task : m'.task = m.task
  summary : m'.summary = m.summary
  tunnels : ∃ f : Managed → Managed, m'.tunnels = m.tunnels.map f ∧ ∀ x ∈ m.tunnels, x.Drifts (f x)
  hand : Option.Rel Hand.Drifts m.hand m'.hand

variable {m m' : Manager} {now : ℕ} {name : String} {x y : Managed}

/-- A tunnel built for one configuration fits another one with the same name and addresses. -/
theorem TunnelPlan.Fits.congr {plan : TunnelPlan} {config config' : TunnelConfig}
    (h : plan.Fits config) (hname : config.name = config'.name)
    (hsame : config.sameEndpoints config') : plan.Fits config' := by
  simp only [TunnelConfig.sameEndpoints, Bool.and_eq_true, decide_eq_true_eq] at hsame
  exact ⟨h.name.trans hname, h.listenAt.trans hsame.1, h.connectTo.trans hsame.2⟩

theorem Tunnel.Drifts.refl (t : Tunnel) : t.Drifts t := .inl rfl

theorem Managed.Drifts.refl (x : Managed) : x.Drifts x := ⟨rfl, .refl _⟩

theorem Tunnel.Drifts.plan_eq {t t' : Tunnel} (h : t.Drifts t') : t'.plan = t.plan := by
  rcases h with rfl | ⟨now, action, -, hs⟩
  · rfl
  · exact hs.plan_eq

/-- A tunnel that works by itself goes on with a call. -/
theorem Tunnel.Updating.drifts {t t' : Tunnel} {limits : Limits} {call : ℕ}
    (h : t.Updating limits call) (hdrifts : t.Drifts t') : t'.Updating limits call := by
  rcases hdrifts with rfl | ⟨now, action, howner, hs⟩
  · exact h
  · exact h.step hs howner

/-- A tunnel that works by itself goes on running as it is configured. -/
theorem Managed.Runs.drifts (h : x.Runs) (hdrifts : x.Drifts y) : y.Runs := by
  obtain ⟨hconfig, hdrifts⟩ := hdrifts
  have hfits : y.tunnel.plan.Fits y.config := by
    rw [hdrifts.plan_eq, hconfig]
    exact h.plan
  -- without requests a tunnel in use keeps its limits
  rcases hdrifts with heq | ⟨now, action, howner, hs⟩
  · exact ⟨heq ▸ h.inUse, by rw [heq, hconfig, h.limits], hfits⟩
  · obtain ⟨hinUse, hlimits⟩ := hs.inUse_nil howner h.inUse
    exact ⟨hinUse, by rw [hlimits, hconfig, h.limits], hfits⟩

/-- A tunnel runs as it is configured when it is started. -/
theorem Managed.runs_start (config : TunnelConfig) (settings : Settings) (env : Environment)
    (now : ℕ) (listener : Listener) :
    (Managed.mk config (Tunnel.start (config.plan settings env) now listener)).Runs :=
  ⟨Tunnel.inUse_start .., rfl, rfl, rfl, rfl⟩

namespace Manager

/-! ## Names -/

theorem find?_eq_some (h : m.find? name = some x) : x ∈ m.tunnels ∧ x.config.name = name :=
  ⟨List.mem_of_find?_eq_some h, by simpa using List.find?_some h⟩

theorem find?_eq_none : m.find? name = none ↔ name ∉ m.names := by
  simp [find?, names]

/-- Under a name no other tunnel runs than the one that is found. -/
theorem eq_of_find? (hnodup : m.names.Nodup) (h : m.find? name = some x) (hy : y ∈ m.tunnels)
    (hname : y.config.name = name) : y = x := by
  obtain ⟨hx, hxname⟩ := find?_eq_some h
  exact List.inj_on_of_nodup_map hnodup hy hx (hname.trans hxname.symm)

/-- The names under which tunnels run. -/
def namesOf (tunnels : List Managed) : List String := tunnels.map (·.config.name)

theorem name_mem_namesOf {tunnels : List Managed} (hx : x ∈ tunnels) :
    x.config.name ∈ namesOf tunnels :=
  List.mem_map_of_mem hx

theorem mem_filter_name {tunnels : List Managed} (hx : x ∈ tunnels.filter (·.config.name ≠ name)) :
    x ∈ tunnels ∧ x.config.name ≠ name :=
  (List.mem_filter.1 hx).imp_right of_decide_eq_true

theorem namesOf_filter (tunnels : List Managed) (name : String) :
    namesOf (tunnels.filter (·.config.name ≠ name)) = (namesOf tunnels).filter (· ≠ name) := by
  rw [namesOf, namesOf, List.filter_map]
  rfl

theorem namesOf_concat (tunnels : List Managed) (x : Managed) :
    namesOf (tunnels ++ [x]) = namesOf tunnels ++ [x.config.name] :=
  List.map_append ..

theorem filter_name_eq_self {tunnels : List Managed} (h : name ∉ namesOf tunnels) :
    tunnels.filter (·.config.name ≠ name) = tunnels :=
  List.filter_eq_self.2 fun _ hx => decide_eq_true (ne_of_mem_of_not_mem (name_mem_namesOf hx) h)

/-- A tunnel under a new name displaces no other. -/
theorem insert_of_not_mem (h : x.config.name ∉ m.names) :
    m.insert x = { m with tunnels := m.tunnels ++ [x] } := by
  -- nobody is displaced, so that nobody becomes an orphan
  have hnone : m.tunnels.filter (·.config.name = x.config.name) = [] := by
    refine List.filter_eq_nil_iff.2 fun y hy heq => h ?_
    rw [← of_decide_eq_true heq]
    exact List.mem_map_of_mem hy
  simp only [insert, erase, filter_name_eq_self h, hnone, List.map_nil, List.append_nil]

/-- A tunnel takes the place of the one under its name that was taken off. -/
theorem insert_erase (m : Manager) (x : Managed) :
    (m.erase x.config.name).insert x =
      { m with tunnels := m.tunnels.filter (·.config.name ≠ x.config.name) ++ [x] } := by
  have hnew : x.config.name ∉ (m.erase x.config.name).names := by
    rw [names, ← namesOf, erase, namesOf_filter]
    simp
  rw [insert_of_not_mem hnew]
  rfl

/-- A tunnel that is started under a new name joins those that run. -/
theorem launch_of_not_mem {config : TunnelConfig} (now : ℕ) (listener : Listener)
    (h : config.name ∉ m.names) :
    ∃ reports, m.launch now config listener =
      { m with
        tunnels :=
          m.tunnels ++ [⟨config, Tunnel.start (config.plan m.settings m.env) now listener⟩]
        reports := reports } := by
  let x : Managed := ⟨config, Tunnel.start (config.plan m.settings m.env) now listener⟩
  have hname : x.config.name ∉ m.names := h
  refine ⟨m.reports ++ x.tunnel.events.map (.event config.name), ?_⟩
  rw [launch, insert_of_not_mem hname]
  rfl

/-! ## Tunnels that work -/

namespace Drifts

/-- What a manager writes to the log is of no account. -/
theorem of_eq (htask : m'.task = m.task) (hsummary : m'.summary = m.summary)
    (htunnels : m'.tunnels = m.tunnels) (hhand : m'.hand = m.hand) : m.Drifts m' where
  task := htask
  summary := hsummary
  tunnels := ⟨id, by rw [htunnels, List.map_id], fun x _ => .refl x⟩
  hand := by
    rw [hhand]
    cases m.hand with
    | none => exact .none
    | some hand => exact .some ⟨rfl, .refl _⟩

theorem configs_eq (h : m.Drifts m') :
    m'.tunnels.map (·.config) = m.tunnels.map (·.config) := by
  obtain ⟨f, heq, hf⟩ := h.tunnels
  rw [heq, List.map_map]
  exact List.map_congr_left fun x hx => (hf x hx).1

theorem names_eq (h : m.Drifts m') : m'.names = m.names := by
  have hmap (m : Manager) : m.names = (m.tunnels.map (·.config)).map (·.name) :=
    (List.map_map ..).symm
  rw [hmap, hmap, h.configs_eq]

theorem hand_eq_none (h : m.Drifts m') (hhand : m.hand = none) : m'.hand = none := by
  have hrel := h.hand
  rw [hhand] at hrel
  generalize m'.hand = hand' at hrel ⊢
  cases hrel
  rfl

/-- Every tunnel that runs afterwards has run before. -/
theorem exists_of_mem (h : m.Drifts m') (hy : y ∈ m'.tunnels) : ∃ x ∈ m.tunnels, x.Drifts y := by
  obtain ⟨f, heq, hf⟩ := h.tunnels
  rw [heq] at hy
  obtain ⟨x, hx, rfl⟩ := List.mem_map.1 hy
  exact ⟨x, hx, hf x hx⟩

end Drifts

/-- What a tunnel does by itself changes nothing else. -/
theorem Stepped.drifts {place : Place} {action : Tunnel.Action}
    (hs : m.Stepped now (.act place action) m') (hnodup : m.names.Nodup) : m.Drifts m' := by
  cases hs with
  | @act _ _ t t' hplace howner hstep =>
    have hdrifts : t.Drifts t' := .inr ⟨now, action, howner, hstep⟩
    cases place with
    | running name =>
      obtain ⟨x, hfind, rfl⟩ := Option.map_eq_some_iff.1 hplace
      refine ⟨rfl, rfl, ⟨_, rfl, fun y hy => ?_⟩, (Drifts.of_eq rfl rfl rfl rfl).hand⟩
      split
      next hname =>
        -- no other tunnel has this name
        obtain rfl := eq_of_find? hnodup hfind hy hname
        exact ⟨rfl, hdrifts⟩
      next => exact .refl y
    | inHand =>
      obtain ⟨hand, hhand, rfl⟩ := Option.map_eq_some_iff.1 hplace
      refine ⟨rfl, rfl, (Drifts.of_eq rfl rfl rfl rfl).tunnels, ?_⟩
      simp only [report, setTunnelAt, hhand, Option.map_some]
      exact .some ⟨rfl, rfl, hdrifts⟩
    -- orphans are not managed any more
    | orphaned index => exact .of_eq rfl rfl rfl rfl

end Manager

end Sluice
