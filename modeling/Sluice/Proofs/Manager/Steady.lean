import Sluice.Proofs.Manager.Reload
import Sluice.Proofs.Tunnel.Shutdown

/-!
# What holds of a manager at any time

Whatever its user asks for and in whatever order, each tunnel of a manager is its only one under its
name, runs as it is configured, and is in hand only for what the manager is busy with.

* `Manager.managed m`: the tunnels that run, and the one in hand;
* `Tunnel.Lasting P`: every tunnel has the property `P` at the start and keeps it. Then
  `Manager.every_of_run` says that all tunnels of a manager have it at any time;
* `Hand.Serves`: what a tunnel in hand is there for, as the task of the manager has it;
* `Manager.Steady m`: the rest of what holds at any time, by `Manager.steady_of_run`.
-/

namespace Sluice

namespace Manager

/-- The tunnels that run, and the one in hand. -/
def managed (m : Manager) : List Managed := m.tunnels ++ m.hand.toList.map (·.managed)

/-- Each tunnel that runs or is in hand has the property. -/
def Every (P : Tunnel → Prop) (m : Manager) : Prop := ∀ x ∈ m.managed, P x.tunnel

end Manager

/-- Every tunnel has the property at the start, and every action keeps it. -/
structure Tunnel.Lasting (P : Tunnel → Prop) : Prop where
  start : ∀ plan now listener, P (Tunnel.start plan now listener)
  step : ∀ t now action t', P t → t.Stepped now action t' → P t'

/-- What the tunnel in hand is there for, as the task has it. A tunnel that is to end was asked to. -/
inductive Hand.Serves : Hand → Task → Prop
  | remove {x : Managed} {r : Reload}
      (hshut : x.tunnel.handle = .closing ∨ x.tunnel.handle = .closed) :
      Serves ⟨x, .remove⟩ (.reloading r)
  | restart {x : Managed} {config : TunnelConfig} {r : Reload}
      (hshut : x.tunnel.handle = .closing ∨ x.tunnel.handle = .closed) :
      Serves ⟨x, .restart config⟩ (.reloading r)
  | close {x : Managed} {error : Option TunnelError}
      (hshut : x.tunnel.handle = .closing ∨ x.tunnel.handle = .closed) :
      Serves ⟨x, .close⟩ (.closing error)
  | update {x : Managed} {config : TunnelConfig} {call : ℕ} {r : Reload}
      (hplan : x.tunnel.plan.Fits config) (hcall : x.tunnel.Updating config.limits call) :
      Serves ⟨x, .update config call⟩ (.reloading r)

/-- The name under which the tunnel in hand is to go on. -/
def Errand.kept : Errand → List String
  | .update config _ => [config.name]
  | _ => []

/-- What holds of a manager at any time. -/
structure Manager.Steady (m : Manager) : Prop where
  /-- The tunnel in hand is there for the task. -/
  hand : ∀ hand, m.hand = some hand → hand.Serves m.task
  /-- No name is used twice. -/
  nodup : (m.names ++ m.hand.toList.flatMap (·.errand.kept)).Nodup
  /-- Every tunnel runs as it is configured. -/
  runs : ∀ x ∈ m.tunnels, x.Runs

variable {P : Tunnel → Prop} {m m' : Manager} {now : ℕ} {action : Manager.Action}
  {x y : Managed} {tunnels : List Managed} {errand : Errand}

theorem Tunnel.lasting_sound : Tunnel.Lasting Tunnel.Sound where
  start := Tunnel.sound_start
  step _ _ _ _ h hs := h.step hs

namespace Manager

/-! ## The tunnel in hand -/

@[simp] theorem hand_erase (m : Manager) (name : String) : (m.erase name).hand = m.hand := rfl

@[simp] theorem hand_insert (m : Manager) (x : Managed) : (m.insert x).hand = m.hand := rfl

@[simp] theorem hand_launch (m : Manager) (now : ℕ) (config : TunnelConfig) (listener : Listener) :
    (m.launch now config listener).hand = m.hand := rfl

@[simp] theorem hand_reportFailure (m : Manager) (config : TunnelConfig) (fault : Net.IoFault) :
    (m.reportFailure config fault).hand = m.hand := rfl

@[simp] theorem hand_shutDown (m : Manager) (x : Managed) (errand : Errand) :
    (m.shutDown x errand).hand =
      some ⟨{ x with tunnel := x.tunnel.shutDown.getD x.tunnel }, errand⟩ := rfl

@[simp] theorem hand_update (m : Manager) (x : Managed) (config : TunnelConfig) :
    (m.update x config).hand =
      some ⟨{ x with tunnel := (x.tunnel.requestUpdate config.limits).getD x.tunnel },
        .update config x.tunnel.calls⟩ := rfl

/-! ## What all tunnels have -/

theorem every_iff :
    m.Every P ↔
      (∀ x ∈ m.tunnels, P x.tunnel) ∧ ∀ hand, m.hand = some hand → P hand.managed.tunnel := by
  cases hhand : m.hand with
  | none => simp [Every, managed, hhand]
  | some hand => simp [Every, managed, hhand, or_imp, forall_and]

/-- Whoever runs after a tunnel took its place has run before, or is that tunnel. -/
theorem mem_tunnels_insert (h : y ∈ (m.insert x).tunnels) : y ∈ m.tunnels ∨ y = x := by
  rcases List.mem_append.1 h with h | h
  · exact .inl (List.mem_of_mem_filter h)
  · exact .inr (List.mem_singleton.1 h)

namespace Every

/-- A tunnel takes its place. -/
theorem insert (h : m.Every P) (hx : P x.tunnel) : (m.insert x).Every P := by
  obtain ⟨htunnels, hhand⟩ := every_iff.1 h
  refine every_iff.2 ⟨fun y hy => ?_, hhand⟩
  rcases mem_tunnels_insert hy with hy | rfl
  · exact htunnels y hy
  · exact hx

theorem launch (h : m.Every P) (hP : Tunnel.Lasting P) (now : ℕ) (config : TunnelConfig)
    (listener : Listener) : (m.launch now config listener).Every P :=
  h.insert (x := ⟨config, _⟩) (hP.start _ _ _)

/-- A tunnel is taken in hand, and something is asked of it. -/
theorem take (h : m.Every P) (hP : Tunnel.Lasting P) (hx : x ∈ m.tunnels) (now : ℕ)
    (request : Tunnel.Action) :
    Every P { m.erase x.config.name with
      hand := some ⟨{ x with tunnel := (x.tunnel.step now request).getD x.tunnel }, errand⟩ } := by
  obtain ⟨htunnels, -⟩ := every_iff.1 h
  refine every_iff.2 ⟨fun y hy => htunnels y (List.mem_of_mem_filter hy), fun hand hhand => ?_⟩
  cases hhand
  cases hstep : x.tunnel.step now request with
  | none => exact htunnels x hx
  | some t => exact hP.step _ _ _ _ (htunnels x hx) (Tunnel.stepped_of_step hstep)

/-- The tunnel in hand is let go of. -/
theorem release (h : m.Every P) : Every P { m with hand := none } :=
  every_iff.2 ⟨(every_iff.1 h).1, by simp⟩

theorem act {place : Place} {work : Tunnel.Action} (h : m.Every P) (hP : Tunnel.Lasting P)
    (hs : m.Stepped now (.act place work) m') : m'.Every P := by
  obtain ⟨htunnels, hhand⟩ := every_iff.1 h
  cases hs with
  | @act _ _ t t' hplace _ hstep =>
    cases place with
    | running name =>
      obtain ⟨x, hfind, rfl⟩ := Option.map_eq_some_iff.1 hplace
      refine every_iff.2 ⟨fun y hy => ?_, hhand⟩
      obtain ⟨z, hz, rfl⟩ := List.mem_map.1 hy
      split
      · exact hP.step _ _ _ _ (htunnels x (find?_eq_some hfind).1) hstep
      · exact htunnels z hz
    | inHand =>
      obtain ⟨hand, hhand', rfl⟩ := Option.map_eq_some_iff.1 hplace
      refine every_iff.2 ⟨htunnels, fun hand' heq => ?_⟩
      simp only [report, setTunnelAt, hhand', Option.map_some, Option.some.injEq] at heq
      subst heq
      exact hP.step _ _ _ _ (hhand _ hhand') hstep
    | orphaned index => exact every_iff.2 ⟨htunnels, hhand⟩

end Every

/-- Every action of a manager keeps a lasting property of its tunnels. -/
theorem Stepped.every (hs : m.Stepped now action m') (hP : Tunnel.Lasting P) (h : m.Every P) :
    m'.Every P := by
  cases hs with
  | startNext | launchNext => exact h.launch hP now _ _
  | remove _ _ hfind | restart _ _ hfind =>
    exact h.take hP (find?_eq_some hfind).1 now .shutDown
  | close _ _ htunnels =>
    have hx : _ ∈ m.tunnels := htunnels ▸ List.mem_cons_self
    exact h.take hP hx now .shutDown
  | @update config _ _ _ _ _ _ hfind =>
    exact h.take hP (find?_eq_some hfind).1 now (.requestUpdate config.limits)
  | @keep config _ _ _ managed _ _ hfind =>
    have herase : (m.erase config.name).Every P := by
      obtain ⟨htunnels, hhand⟩ := every_iff.1 h
      exact every_iff.2 ⟨fun y hy => htunnels y (List.mem_of_mem_filter hy), hhand⟩
    have hx := (every_iff.1 h).1 managed (find?_eq_some hfind).1
    exact herase.insert (x := { managed with config }) hx
  | @updated managed config call hhand =>
    exact h.release.insert (x := { managed with config }) ((every_iff.1 h).2 _ hhand)
  | @updateFailed managed config call error hhand =>
    have hrelease : Every P ({ m with hand := none }.log .warn
        s!"Failed to update limits of tunnel '{config.name}': {error.message}") := h.release
    exact hrelease.insert (x := { managed with config }) ((every_iff.1 h).2 _ hhand)
  | removed | halted | closed => exact h.release
  | act hplace howner hstep => exact h.act hP (.act hplace howner hstep)
  | _ => exact h

theorem every_start (P : Tunnel → Prop) (env : Environment) (config : Config) :
    (start env config).Every P := by
  simp [Every, managed, start]

end Manager

/-! ## What else holds -/

/-- Whoever waits for the end of a tunnel goes on waiting until it is reported. -/
theorem Tunnel.Drifts.handle_closing {t t' : Tunnel} (h : t.Drifts t')
    (hshut : t.handle = .closing ∨ t.handle = .closed) :
    t'.handle = .closing ∨ t'.handle = .closed := by
  rcases h with rfl | ⟨now, action, -, hs⟩
  · exact hshut
  · exact hs.handle_closing hshut

theorem Hand.Serves.drifts {hand hand' : Hand} {task : Task} (h : hand.Serves task)
    (hdrifts : hand.Drifts hand') : hand'.Serves task := by
  obtain ⟨herrand, -, htunnel⟩ := hdrifts
  obtain ⟨x, errand⟩ := hand'
  cases herrand
  cases h with
  | remove hshut => exact .remove (htunnel.handle_closing hshut)
  | restart hshut => exact .restart (htunnel.handle_closing hshut)
  | close hshut => exact .close (htunnel.handle_closing hshut)
  | update hplan hcall => exact .update (htunnel.plan_eq ▸ hplan) (hcall.drifts htunnel)

namespace Manager.Steady

theorem nodup_names (h : m.Steady) : m.names.Nodup := (List.nodup_append.1 h.nodup).1

/-- No tunnel runs under the name that is kept for the tunnel in hand. -/
theorem not_mem_names_of_kept {name : String} (h : m.Steady)
    (hname : name ∈ m.hand.toList.flatMap (·.errand.kept)) : name ∉ m.names := fun hmem =>
  (List.nodup_append.1 h.nodup).2.2 _ hmem _ hname rfl

/-- No tunnel is in hand. -/
theorem of_free (hhand : m.hand = none) (hnodup : m.names.Nodup) (hruns : ∀ x ∈ m.tunnels, x.Runs) :
    m.Steady where
  hand hand hsome := by
    rw [hhand] at hsome
    cases hsome
  nodup := by simpa [hhand] using hnodup
  runs := hruns

/-- An idle manager has no tunnel in hand. -/
theorem hand_eq_none (h : m.Steady) (htask : m.task = .idle) : m.hand = none := by
  cases hhand : m.hand with
  | none => rfl
  | some hand =>
    have hserves := h.hand hand hhand
    rw [htask] at hserves
    cases hserves

theorem drifts (h : m.Steady) (hdrifts : m.Drifts m') : m'.Steady := by
  have hrel := hdrifts.hand
  refine ⟨fun hand' hhand' => ?_, ?_, fun y hy => ?_⟩
  · rw [hhand'] at hrel
    generalize hhand : m.hand = hand at hrel
    cases hrel with
    | some hdrift =>
      rw [hdrifts.task]
      exact (h.hand _ hhand).drifts hdrift
  · have hkept : m'.hand.toList.flatMap (·.errand.kept) = m.hand.toList.flatMap (·.errand.kept) := by
      generalize m.hand = hand, m'.hand = hand' at hrel
      cases hrel with
      | none => rfl
      | some hdrift => simp [hdrift.1]
    rw [hdrifts.names_eq, hkept]
    exact h.nodup
  · obtain ⟨x, hx, hxy⟩ := hdrifts.exists_of_mem hy
    exact (h.runs x hx).drifts hxy

/-- A tunnel that runs as it is configured takes its place. -/
theorem of_insert (h : m.Steady) (hhand : m'.hand = none)
    (htunnels : m'.tunnels = m.tunnels.filter (·.config.name ≠ x.config.name) ++ [x])
    (hx : x.Runs) : m'.Steady := by
  refine of_free hhand ?_ fun y hy => ?_
  · rw [names, ← namesOf, htunnels, namesOf_concat, namesOf_filter]
    exact nodup_concat_of_erase h.nodup_names
  · rw [htunnels, List.mem_append, List.mem_singleton] at hy
    rcases hy with hy | rfl
    · exact h.runs y (List.mem_of_mem_filter hy)
    · exact hx

theorem log (h : m.Steady) (level : Level) (text : String) : (m.log level text).Steady :=
  ⟨h.hand, h.nodup, h.runs⟩

/-- A tunnel is taken in hand to end. -/
theorem shutDown {task : Task} (h : m.Steady) (hx : x ∈ m.tunnels) (hkept : errand.kept = [])
    (hserves : ∀ y : Managed, y.tunnel.handle = .closing ∨ y.tunnel.handle = .closed →
      Hand.Serves ⟨y, errand⟩ task) :
    Steady { m.shutDown x errand with task } := by
  have hend : x.tunnel.shutDown = some { x.tunnel with handle := .closing } :=
    if_neg (by simp [(h.runs x hx).inUse.isShut_eq])
  refine ⟨fun hand hhand => ?_, ?_, fun y hy => h.runs y (List.mem_of_mem_filter hy)⟩
  · cases hhand
    refine hserves _ (.inl ?_)
    rw [hend, Option.getD_some]
  · change (namesOf (m.tunnels.filter (·.config.name ≠ x.config.name)) ++
      [errand.kept].flatten).Nodup
    rw [namesOf_filter, hkept]
    exact (List.append_nil _).symm ▸ h.nodup_names.filter _

/-- A tunnel is taken in hand to get other limits. -/
theorem update {config : TunnelConfig} {r : Reload} (h : m.Steady)
    (hx : x ∈ m.tunnels) (hname : x.config.name = config.name)
    (hsame : x.config.sameEndpoints config) :
    Steady { m.update x config with task := .reloading r } := by
  have hruns := h.runs x hx
  obtain ⟨t, hrequest, hplan, hcall⟩ := hruns.inUse.requestUpdate config.limits
  have hfits : t.plan.Fits config := hplan ▸ hruns.plan.congr hname hsame
  refine ⟨fun hand hhand => ?_, ?_, fun y hy => h.runs y (List.mem_of_mem_filter hy)⟩
  · cases hhand
    simp only [hrequest, Option.getD_some]
    exact .update hfits hcall
  · change (namesOf (m.tunnels.filter (·.config.name ≠ x.config.name)) ++ [config.name]).Nodup
    rw [namesOf_filter, hname]
    exact nodup_concat_of_erase h.nodup_names

/-- Once the limits are answered for, the tunnel in hand runs as it is to be configured. -/
theorem runs_of_answer {config : TunnelConfig} {call : ℕ} {error : Option TunnelError}
    (h : m.Steady) (hhand : m.hand = some ⟨x, .update config call⟩)
    (hanswer : x.tunnel.answers.lookup call = some error) :
    Managed.Runs { x with config } := by
  have hserves := h.hand _ hhand
  generalize m.task = task at hserves
  cases hserves with
  | update hplan hcall =>
    obtain ⟨-, hinUse, hlimits⟩ := hcall.eq_none hanswer
    exact ⟨hinUse, hlimits, hplan⟩

end Manager.Steady

namespace Manager

/-- Every action of a manager keeps it steady. -/
theorem Stepped.steady (hs : m.Stepped now action m') (h : m.Steady) : m'.Steady := by
  cases hs with
  | reload htask | shutDownAll htask =>
    exact .of_free (h.hand_eq_none htask) h.nodup_names h.runs
  | startNext hhand | launchNext hhand => exact h.of_insert hhand rfl (Managed.runs_start ..)
  | remove hhand _ hfind =>
    exact (h.log _ _).shutDown (find?_eq_some hfind).1 rfl fun _ => .remove
  | restart hhand _ hfind =>
    exact (h.log _ _).shutDown (find?_eq_some hfind).1 rfl fun _ => .restart
  | @close error _ _ hhand htask htunnels =>
    have hclose : ∀ y : Managed, y.tunnel.handle = .closing ∨ y.tunnel.handle = .closed →
        Hand.Serves ⟨y, .close⟩ m.task := htask ▸ fun _ => .close
    exact (h.log _ _).shutDown (htunnels ▸ List.mem_cons_self) rfl hclose
  | update hhand _ hfind hsame =>
    obtain ⟨hmem, hname⟩ := find?_eq_some hfind
    exact h.update hmem hname hsame
  | @keep config _ _ _ managed hhand _ hfind hsame hlimits =>
    obtain ⟨hmem, hname⟩ := find?_eq_some hfind
    obtain ⟨hinUse, hlimits', hplan⟩ := h.runs managed hmem
    rw [m.insert_erase { managed with config }]
    exact h.of_insert hhand rfl ⟨hinUse, hlimits'.trans hlimits, hplan.congr hname hsame⟩
  | @updated managed config call hhand hanswer =>
    exact h.of_insert rfl rfl (h.runs_of_answer hhand hanswer)
  | updateFailed hhand hanswer =>
    exact h.of_insert rfl rfl (h.runs_of_answer hhand hanswer)
  | removed | halted | closed => exact .of_free rfl h.nodup_names h.runs
  | act hplace howner hstep => exact h.drifts ((Stepped.act hplace howner hstep).drifts h.nodup_names)
  | failStart hhand | endStart hhand | skip hhand | add hhand | failLaunch hhand | endReload hhand
  | endClose hhand | endFailure hhand => exact .of_free hhand h.nodup_names h.runs

theorem steady_start (env : Environment) (config : Config) : (start env config).Steady :=
  .of_free rfl .nil (by simp [start])

/-- At any time of any run a manager is steady. -/
theorem steady_of_run {env : Environment} {config : Config} {before : Schedule Action}
    (hrun : (start env config).run before = some m) : m.Steady :=
  run_keeps (fun _ _ _ _ _ h hs => hs.steady h) (steady_start env config) hrun

/-- At any time of any run all tunnels of a manager have a lasting property. -/
theorem every_of_run {env : Environment} {config : Config} {before : Schedule Action}
    (hP : Tunnel.Lasting P) (hrun : (start env config).run before = some m) : m.Every P :=
  run_keeps (fun _ _ _ _ _ h hs => hs.every hP h) (every_start P env config) hrun

end Manager

end Sluice
