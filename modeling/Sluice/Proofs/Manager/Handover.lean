import Sluice.Proofs.Manager.Partition
import Sluice.Proofs.Tunnel.Listener

/-!
# How addresses change hands

When a manager replaces its configuration, addresses may pass from one tunnel to another. A tunnel
that is shut down has given its listener up before any other tunnel is started, so that no tunnel
that is to be started finds its address held by another one.

* `Manager.Custody` is the record of the tunnels that were shut down and of the faults of listeners.
  `Manager.released_of_run` says that tunnels that were shut down have given their listeners up;
* `Manager.GrantsFree l m actions`: attempts to listen fail only at addresses that a tunnel of the
  manager holds, or one that was shut down;
* `Manager.HandingOver old c l m`: what holds while the tunnels of `c` take the place of the tunnels
  `old`;
* `Manager.handedOver_of_run`: in the end every tunnel runs, and exactly the addresses are held that
  are configured, but for those of tunnels that have lost their listeners.
-/

namespace Sluice

namespace Tunnel

theorem lasting_tended : Lasting fun t => t.isShut ∨ t.Tended where
  start plan now listener := .inr (tended_start plan now listener)
  step t now action t' h hs := by
    rcases h with hshut | htended
    · exact .inl (hs.stays_shut hshut)
    · cases hheld : t.isShut with
      | true => exact .inl (hs.stays_shut hheld)
      | false => exact hs.tended htended hheld

/-- A tunnel whose end is reported has given its listener up. -/
theorem Sound.hasListener_of_closed {t : Tunnel} (h : t.Sound) (hclosed : t.handle = .closed) :
    t.hasListener = false := by
  cases h.farewell with
  | unreported hhandle => exact absurd hclosed hhandle
  | reported _ hfinished =>
    obtain ⟨howner, hacceptor, -⟩ := isFinished_iff.1 hfinished
    simp [hasListener, howner, hacceptor]

end Tunnel

namespace Manager

/-- What is on record of the listeners of a manager. -/
structure Custody where
  /-- The tunnels that were shut down, and are not managed any more. -/
  departed : List Tunnel := []
  /-- The configurations of the tunnels whose listeners have returned a fault since the manager got
  its configuration. -/
  faulted : List TunnelConfig := []

namespace Custody

/-- Note an action that happens to the manager. -/
def note (l : Custody) (m : Manager) : Action → Custody
  | .reload _ => { l with faulted := [] }
  | .proceed =>
    { l with
      departed :=
        l.departed ++ (m.hand.toList.filter (·.errand.kept.isEmpty)).map (·.managed.tunnel) }
  | .act (.running name) (.arrive (.error _)) =>
    { l with faulted := l.faulted ++ ((m.find? name).map (·.config)).toList }
  | _ => l

/-- The record after a run. -/
def after (l : Custody) (m : Manager) (actions : Schedule Action) : Custody :=
  Schedule.record step note l m actions

end Custody

/-- A listener holds the address, of a tunnel of the manager or of one that was shut down. -/
def holds (l : Custody) (m : Manager) (address : String) : Bool :=
  (l.departed ++ m.managed.map (·.tunnel)).any fun t => t.hasListener && t.plan.listenAt = address

/-- An attempt to listen for a tunnel that is to be started fails only if a listener holds the
address. -/
def grantsFree (l : Custody) (m : Manager) : Action → Bool
  | .bound (.error _) => m.launching?.all fun config => m.holds l config.listenAt
  | _ => true

/-- In a run attempts to listen for tunnels that are to be started fail only where a listener holds
the address. -/
def GrantsFree (l : Custody) (m : Manager) (actions : Schedule Action) : Prop :=
  Schedule.Obeys step Custody.note (fun l m action => m.grantsFree l action) l m actions

instance (l : Custody) (m : Manager) (actions : Schedule Action) :
    Decidable (GrantsFree l m actions) :=
  inferInstanceAs (Decidable (Schedule.Obeys ..))

/-- The tunnel was not started, or it has its listener, unless that has returned a fault. -/
def Established (old : List TunnelConfig) (l : Custody) (x : Managed) : Prop :=
  x.config.launch? old = none ∨ x.config ∈ l.faulted ∨ x.tunnel.Untroubled

/-- The tunnels of `c` have taken the place of the tunnels `old`. -/
structure HandedOver (old : List TunnelConfig) (c : Config) (l : Custody) (m : Manager) : Prop where
  /-- Every tunnel runs that is configured, and no other. -/
  running : ∀ config, config ∈ m.configs ↔ config ∈ c.tunnels
  /-- Their addresses are held, and no other, except for tunnels that await a listener. -/
  held : ∀ address, m.holds l address ↔
    ∃ x ∈ m.tunnels, x.config.listenAt = address ∧ x.tunnel.isAwaiting = false
  /-- Those were not started, or have lost their listener since then. -/
  awaiting : ∀ x ∈ m.tunnels, x.tunnel.isAwaiting → x.config.launch? old = none ∨
    x.config ∈ l.faulted

/-- What holds while the tunnels of `c` take the place of the tunnels `old`. -/
structure HandingOver (old : List TunnelConfig) (c : Config) (l : Custody) (m : Manager) :
    Prop where
  sound : m.IsSound
  task : m.task.IsOfReload
  sorting : Sorting old c m
  /-- No tunnel could not be started. -/
  standing : ∃ a : Annals, a.accepted = c ∧ a.failed = [] ∧ a.Standing m
  /-- Tunnels that are in use have a listener or await one. -/
  tended : m.Every fun t => t.isShut ∨ t.Tended
  /-- Tunnels that were shut down have given their listeners up. -/
  released : ∀ t ∈ l.departed, t.hasListener = false
  established : ∀ x ∈ m.tunnels, Established old l x
  /-- Tunnels that get other limits are not started. -/
  hand : ∀ x config call, m.hand = some ⟨x, .update config call⟩ → config.launch? old = none

variable {old : List TunnelConfig} {c : Config} {l : Custody} {m m' : Manager} {now : ℕ}
  {action : Action} {config : TunnelConfig} {managed x : Managed}
  {ahead : List TunnelConfig} {launches : List (TunnelConfig × Bool)} {summary : ReloadSummary}

theorem holds_eq_true {address : String} : m.holds l address ↔
    (∃ t ∈ l.departed, t.hasListener ∧ t.plan.listenAt = address) ∨
      ∃ x ∈ m.managed, x.tunnel.hasListener ∧ x.tunnel.plan.listenAt = address := by
  simp [holds]

/-! ## Tunnels that are shut down -/

/-- What tunnels do by themselves shuts none of them down. -/
theorem Custody.departed_note_act (l : Custody) (m : Manager) (place : Place)
    (work : Tunnel.Action) : (l.note m (.act place work)).departed = l.departed := by
  unfold note
  split <;> first | rfl | cases ‹Action.act .. = _›

/-- Every tunnel that is shut down gives its listener up. -/
theorem Stepped.released (hs : m.Stepped now action m') (hsound : m.IsSound)
    (h : ∀ t ∈ l.departed, t.hasListener = false) :
    ∀ t ∈ (l.note m action).departed, t.hasListener = false := by
  have hclosed {x : Managed} {errand : Errand} (hhand : m.hand = some ⟨x, errand⟩)
      (hclosed : x.tunnel.handle = .closed) : x.tunnel.hasListener = false :=
    (hsound.2 x (by simp [managed, hhand])).hasListener_of_closed hclosed
  cases hs with
  | removed hhand hend | halted hhand hend | closed hhand hend =>
    have hreleased := hclosed hhand hend
    simpa [Custody.note, hhand, Errand.kept, or_imp, forall_and, hreleased] using h
  | updated hhand | updateFailed hhand => simpa [Custody.note, hhand, Errand.kept] using h
  | act =>
    rw [Custody.departed_note_act]
    exact h
  | _ => simp_all [Custody.note]

/-- At any time of any run all tunnels that were shut down have given their listeners up. -/
theorem released_of_run {env : Environment} {first : Config} {before : Schedule Action}
    (hrun : (start env first).run before = some m) :
    ∀ t ∈ (Custody.after {} (start env first) before).departed, t.hasListener = false := by
  have hbegin : (start env first).IsSound ∧ ∀ t ∈ Custody.departed {}, t.hasListener = false :=
    ⟨⟨steady_start env first, every_start _ env first⟩, List.forall_mem_nil _⟩
  suffices m.IsSound ∧ ∀ t ∈ (Custody.after {} (start env first) before).departed,
      t.hasListener = false from this.2
  rw [run_eq] at hrun
  refine Schedule.record_keeps (fun (l : Custody) m =>
    m.IsSound ∧ ∀ t ∈ l.departed, t.hasListener = false) ?_ hbegin hrun
  rintro l m now action m' ⟨hsound, h⟩ hnext
  have hs := stepped_of_step hnext
  exact ⟨hsound.step hs, hs.released hsound h⟩

/-- A tunnel under a new name makes no other an orphan. -/
theorem orphans_insert (h : x.config.name ∉ m.names) : (m.insert x).orphans = m.orphans := by
  rw [insert_of_not_mem h]

/-- During a reload no tunnel is given up. -/
theorem Replaces.orphans_length (h : m.Replaces c) (huser : action.isOfUser = false)
    (hs : m.Stepped now action m') : m'.orphans.length = m.orphans.length := by
  cases hs with
  | reload | shutDownAll => cases huser
  | startNext _ htask =>
    have hreload := h.task
    rw [htask] at hreload
    cases hreload
  | @keep config _ _ _ managed => rw [m.insert_erase { managed with config }]
  | @launchNext config _ _ _ listener hhand htask =>
    obtain ⟨done, kept, halted, hunderway⟩ := h.underway htask
    rw [hhand] at hunderway
    exact congrArg List.length (orphans_insert (x := ⟨config, _⟩) hunderway.not_mem_of_launch)
  | @updated managed config call hhand | @updateFailed managed config call error hhand =>
    -- no tunnel took the name in the meantime
    have hnew : config.name ∉ m.names :=
      h.steady.not_mem_names_of_kept (by simp [hhand, Errand.kept])
    exact congrArg List.length (orphans_insert (x := { managed with config }) hnew)
  | @act place _ t t' => cases place <;> simp [report, setTunnelAt]
  | _ => rfl

/-! ## Tunnels that are started -/

/-- A tunnel that runs under the same addresses is not started. -/
theorem Sorting.launch?_eq_none (h : Sorting old c m)
    (htask : m.task = .reloading ⟨[], config :: ahead, launches, summary⟩)
    (hfind : m.find? config.name = some managed) (hsame : managed.config.sameEndpoints config) :
    config.launch? old = none := by
  obtain ⟨-, hname⟩ := find?_eq_some hfind
  cases h with
  | ended hidle =>
    rw [htask] at hidle
    cases hidle
  | reloading htask' h =>
    cases htask.symm.trans htask'
    rw [TunnelConfig.launch?, h.change_eq (find?_configs hfind)]
    by_cases hlimits : managed.config.limits = config.limits <;>
      simp [TunnelConfig.change, hname, hsame, hlimits]

/-- What runs when a reload begins is not started. -/
theorem launch?_configs (hnodup : m.names.Nodup) (hx : x ∈ m.tunnels) :
    x.config.launch? m.configs = none := by
  have hfind : m.configs.find? (·.name = x.config.name) = some x.config := by
    cases hfound : m.find? x.config.name with
    | none => exact absurd (List.mem_map_of_mem hx) (find?_eq_none.1 hfound)
    | some y =>
      obtain rfl := eq_of_find? hnodup hfound hx rfl
      exact find?_configs hfound
  simp [TunnelConfig.launch?, TunnelConfig.change, hfind, TunnelConfig.sameEndpoints]

/-- A tunnel that runs has a listener or awaits one. -/
theorem Steady.tended (h : m.Steady) (htended : m.Every fun t => t.isShut ∨ t.Tended)
    (hx : x ∈ m.tunnels) : x.tunnel.Tended := by
  have hheld := (h.runs x hx).inUse.isShut_eq
  exact ((every_iff.1 htended).1 x hx).resolve_left (by simp [hheld])

/-- What is on record stays there until the next reload. -/
theorem Established.note (h : Established old l x) (huser : action.isOfUser = false) :
    Established old (l.note m action) x := by
  refine h.imp_right (Or.imp_left fun hfault => ?_)
  unfold Custody.note
  split
  · cases huser
  · exact hfault
  · exact List.mem_append_left _ hfault
  · exact hfault

/-- A tunnel that works by itself loses its listener only to a fault, which is noted. -/
theorem Stepped.established {place : Place} {work : Tunnel.Action}
    (hs : m.Stepped now (.act place work) m') (hsteady : m.Steady)
    (htended : m.Every fun t => t.isShut ∨ t.Tended)
    (h : ∀ x ∈ m.tunnels, Established old l x) :
    ∀ x ∈ m'.tunnels, Established old (l.note m (.act place work)) x := by
  have hnote : ∀ x ∈ m.tunnels, Established old (l.note m (.act place work)) x :=
    fun x hx => (h x hx).note rfl
  cases hs with
  | @act _ _ t t' hplace huser hstep =>
    cases place with
    | inHand | orphaned => exact hnote
    | running name =>
      obtain ⟨x, hfind, rfl⟩ := Option.map_eq_some_iff.1 hplace
      intro y hy
      obtain ⟨z, hz, rfl⟩ := List.mem_map.1 hy
      split
      next hname =>
        -- no other tunnel has this name
        obtain rfl := eq_of_find? hsteady.nodup_names hfind hz hname
        rcases hnote z hz with hkept | hfault | huntroubled
        · exact .inl hkept
        · exact .inr (.inl hfault)
        · by_cases harrive : ∃ fault, work = .arrive (.error fault)
          · obtain ⟨fault, rfl⟩ := harrive
            exact .inr (.inl (by simp [Custody.note, hfind]))
          · have hheld := (hsteady.runs z hz).inUse.isShut_eq
            refine .inr (.inr (huntroubled.step (hsteady.tended htended hz) hheld hstep huser ?_))
            exact fun fault heq => harrive ⟨fault, heq⟩
      next => exact hnote z hz

namespace HandingOver

theorem replaces (h : HandingOver old c l m) : m.Replaces c where
  steady := h.sound.1
  task := h.task
  standing := by
    obtain ⟨a, haccepted, -, hstanding⟩ := h.standing
    exact ⟨a, haccepted, hstanding⟩

/-- Nobody holds the address of a tunnel that is to be started. -/
theorem not_holds (h : HandingOver old c l m)
    (haddresses : (c.tunnels.map (·.listenAt)).Nodup) {ran : Bool} (hhand : m.hand = none)
    (htask : m.task = .reloading ⟨[], [], (config, ran) :: launches, summary⟩) :
    ¬ m.holds l config.listenAt := by
  obtain ⟨done, kept, halted, hunderway⟩ := h.replaces.underway htask
  rw [hhand] at hunderway
  rw [holds_eq_true]
  rintro (⟨t, ht, hlistener, -⟩ | ⟨x, hx, -, haddress⟩)
  · simp [h.released t ht] at hlistener
  · -- all tunnels that run are configured, and each address is configured once
    have hx : x ∈ m.tunnels := by simpa [managed, hhand] using hx
    have hconfig : x.config ∈ c.tunnels := by simpa using hunderway.known x hx
    rw [(hunderway.runs x hx).plan.listenAt] at haddress
    have hlaunch := hunderway.launches _ List.mem_cons_self
    have heq : x.config = config := List.inj_on_of_nodup_map haddresses hconfig hlaunch haddress
    refine hunderway.not_mem_of_launch ?_
    rw [← heq]
    exact name_mem_namesOf hx

/-- Every attempt to listen for a tunnel that is to be started succeeds. -/
theorem ne_error (h : HandingOver old c l m)
    (haddresses : (c.tunnels.map (·.listenAt)).Nodup) (hlaw : m.grantsFree l action)
    (hs : m.Stepped now action m') (fault : Net.IoFault) : action ≠ .bound (.error fault) := by
  rintro rfl
  cases hs with
  | failStart _ htask =>
    have hreload := h.task
    rw [htask] at hreload
    cases hreload
  | failLaunch hhand htask =>
    refine h.not_holds haddresses hhand htask ?_
    simpa [grantsFree, launching?, hhand, htask] using hlaw

/-- Tunnels that are started have listeners, and keep them until they return a fault. -/
theorem step_established (h : HandingOver old c l m) (huser : action.isOfUser = false)
    (hs : m.Stepped now action m') : ∀ x ∈ m'.tunnels, Established old (l.note m action) x := by
  have hnote : ∀ x ∈ m.tunnels, Established old (l.note m action) x :=
    fun x hx => (h.established x hx).note huser
  cases hs with
  | reload | shutDownAll => cases huser
  | act hplace howner hstep =>
    exact Stepped.established (.act hplace howner hstep) h.sound.1 h.tended h.established
  | startNext _ htask =>
    have hreload := h.task
    rw [htask] at hreload
    cases hreload
  | remove | restart | update | close => exact fun x hx => hnote x (List.mem_of_mem_filter hx)
  | keep hhand htask hfind hsame =>
    intro x hx
    rcases mem_tunnels_insert hx with hx | rfl
    · exact hnote x (List.mem_of_mem_filter hx)
    · exact .inl (h.sorting.launch?_eq_none htask hfind hsame)
  | launchNext =>
    intro x hx
    rcases mem_tunnels_insert hx with hx | rfl
    · exact hnote x hx
    · exact .inr (.inr (Tunnel.untroubled_start ..))
  | updated hhand | updateFailed hhand =>
    intro x hx
    rcases mem_tunnels_insert hx with hx | rfl
    · exact hnote x hx
    · exact .inl (h.hand _ _ _ hhand)
  | _ => exact hnote

/-- Tunnels that get other limits are not started. -/
theorem step_hand (h : HandingOver old c l m) (hs : m.Stepped now action m') :
    ∀ x config call, m'.hand = some ⟨x, .update config call⟩ → config.launch? old = none := by
  intro x config call hhand'
  cases hs with
  | act hplace howner hstep =>
    have hrel := ((Stepped.act hplace howner hstep).drifts h.sound.1.nodup_names).hand
    rw [hhand'] at hrel
    generalize hhand : m.hand = hand at hrel
    cases hrel with
    | @some hand hand' hdrift =>
      obtain ⟨y, errand⟩ := hand
      obtain rfl : Errand.update config call = errand := hdrift.1
      exact h.hand y config call hhand
  | update hhand htask hfind hsame =>
    cases hhand'
    exact h.sorting.launch?_eq_none htask hfind hsame
  | remove | restart | close | updated | updateFailed | removed | halted | closed => cases hhand'
  | _ => exact h.hand x config call hhand'

/-- Every action keeps what holds while tunnels take the place of others. -/
theorem step (h : HandingOver old c l m) (hold : (old.map (·.name)).Nodup)
    (hnames : c.names.Nodup) (haddresses : (c.tunnels.map (·.listenAt)).Nodup)
    (hlaw : m.grantsFree l action) (huser : action.isOfUser = false)
    (hs : m.Stepped now action m') : HandingOver old c (l.note m action) m' where
  sound := h.sound.step hs
  task := (hs.cost_add_stepsLeft_le h.sound.1 huser h.task).1
  sorting := h.sorting.step h.sound.1 hold hnames huser hs
  standing := by
    obtain ⟨a, rfl, hfailed, hstanding⟩ := h.standing
    have haction : action ≠ .shutDownAll := by
      rintro rfl
      cases huser
    have herror := h.ne_error haddresses hlaw hs
    refine ⟨a.note m action, ?_, ?_, hstanding.step hnames haction hs⟩
    · cases action <;> first | rfl | cases huser
    · cases action with
      | reload => cases huser
      | bound result =>
        cases result with
        | ok => exact hfailed
        | error fault => exact absurd rfl (herror fault)
      | _ => exact hfailed
  tended := hs.every Tunnel.lasting_tended h.tended
  released := hs.released h.sound h.released
  established := h.step_established huser hs
  hand := h.step_hand hs

/-- A reload begins. -/
theorem begin (hsound : m.IsSound) (htended : m.Every fun t => t.isShut ∨ t.Tended)
    (hreleased : ∀ t ∈ l.departed, t.hasListener = false) (hs : m.Stepped now (.reload c) m') :
    HandingOver m.configs c (l.note m (.reload c)) m' := by
  have hsorting := Sorting.begin hsound.1 hs
  have hsound' := hsound.step hs
  cases hs with
  | reload htask =>
    have hhand := hsound.1.hand_eq_none htask
    refine ⟨hsound', trivial, hsorting, ⟨{ accepted := c }, rfl, rfl, ?_⟩, htended, hreleased,
      fun x hx => .inl (launch?_configs hsound.1.nodup_names hx), fun x config call hsome => ?_⟩
    · exact .of_free hhand (.reloading rfl) (.begin hsound.1.nodup_names hsound.1.runs c) rfl
    · rw [hhand] at hsome
      cases hsome

theorem hasListener_eq (h : HandingOver old c l m) (hx : x ∈ m.tunnels) :
    x.tunnel.hasListener = !x.tunnel.isAwaiting :=
  (h.sound.1.tended h.tended hx).hasListener_eq

/-- While no tunnel is in hand, exactly the addresses of the tunnels that run are held, but for those
of tunnels that await a listener. -/
theorem holds_iff (h : HandingOver old c l m) (hhand : m.hand = none) {address : String} :
    m.holds l address ↔
      ∃ x ∈ m.tunnels, x.config.listenAt = address ∧ x.tunnel.isAwaiting = false := by
  have hmanaged : m.managed = m.tunnels := by simp [managed, hhand]
  rw [holds_eq_true, hmanaged]
  constructor
  · rintro (⟨t, ht, hlistens, -⟩ | ⟨x, hx, hlistens, rfl⟩)
    · simp [h.released t ht] at hlistens
    · rw [h.hasListener_eq hx, Bool.not_eq_true'] at hlistens
      exact ⟨x, hx, (h.sound.1.runs x hx).plan.listenAt.symm, hlistens⟩
  · rintro ⟨x, hx, rfl, hawaiting⟩
    refine .inr ⟨x, hx, ?_, (h.sound.1.runs x hx).plan.listenAt⟩
    rw [h.hasListener_eq hx, hawaiting, Bool.not_false]

/-- When the manager is idle, all addresses have changed hands. -/
theorem handedOver (h : HandingOver old c l m) (hnames : c.names.Nodup)
    (hidle : m.task = .idle) : HandedOver old c l m where
  running config := by
    obtain ⟨a, rfl, hfailed, hstanding⟩ := h.standing
    have hmirrors := hstanding.mirrors hidle
    refine ⟨fun hconfig => ?_, fun hconfig => ?_⟩
    · obtain ⟨x, hx, rfl⟩ := List.mem_map.1 hconfig
      exact (hmirrors.tunnels x hx).1
    · -- what is configured runs under its name, since it could be started
      have hname : config.name ∈ m.names :=
        (hmirrors.names _).2 ⟨List.mem_map_of_mem hconfig, by simp [hfailed]⟩
      obtain ⟨x, hx, hname⟩ := List.mem_map.1 hname
      obtain rfl := List.inj_on_of_nodup_map hnames (hmirrors.tunnels x hx).1 hconfig hname
      exact List.mem_map_of_mem hx
  held _ := h.holds_iff (h.sound.1.hand_eq_none hidle)
  awaiting x hx hawaiting := by
    rcases h.established x hx with hkept | hfault | huntroubled
    · exact .inl hkept
    · exact .inr hfault
    · have hlistens := huntroubled.listener
      rw [h.hasListener_eq hx, hawaiting] at hlistens
      cases hlistens

end HandingOver

/-- In whatever state of whatever run a manager replaces its configuration by one in which neither a
name nor an address is used twice: if attempts to listen fail only at addresses that its tunnels
hold, all tunnels are started, and in the end exactly the configured addresses are held, but for
those of tunnels that await a listener. -/
theorem handedOver_of_run {env : Environment} {first : Config} {before later : Schedule Action}
    {m₀ : Manager} (hnames : c.names.Nodup) (haddresses : (c.tunnels.map (·.listenAt)).Nodup)
    (hrun : (start env first).run before = some m) (hreload : m.step now (.reload c) = some m₀)
    (hquiet : IsQuiet later) (hlater : m₀.run later = some m')
    (hl : (Custody.after {} (start env first) before).note m (.reload c) = l)
    (hlaw : GrantsFree l m₀ later) :
    (∀ instant, Attains (·.task = .idle) instant m') ∧ m'.orphans.length = m.orphans.length ∧
      (m'.task = .idle → (∃ s, m'.summary = some s ∧ s.failed = []) ∧
        HandedOver m.configs c (l.after m₀ later) m') := by
  subst hl
  have hsound := isSound_of_run hrun
  have hs := stepped_of_step hreload
  have hold : (m.configs.map (·.name)).Nodup := by
    rw [configs, List.map_map]
    exact hsound.1.nodup_names
  have hbegin := HandingOver.begin hsound (every_of_run Tunnel.lasting_tended hrun)
    (released_of_run hrun) hs
  have horphans : m₀.orphans.length = m.orphans.length := by
    cases hs
    rfl
  obtain ⟨hend, horphans'⟩ : HandingOver m.configs c (Custody.after _ m₀ later) m' ∧
      m'.orphans.length = m.orphans.length := by
    rw [run_eq] at hlater
    refine Schedule.record_keeps_of_obeys (fun l m₁ =>
      HandingOver m.configs c l m₁ ∧ m₁.orphans.length = m.orphans.length) ?_ hlaw
      ⟨hbegin, horphans⟩ hlater
    rintro l m₁ now action m₂ hmem hlaw ⟨h, horphans⟩ hnext
    have hs := stepped_of_step hnext
    have huser := hquiet _ hmem
    exact ⟨h.step hold hnames haddresses hlaw huser hs,
      (h.replaces.orphans_length huser hs).trans horphans⟩
  refine ⟨hend.sound.attains_idle hend.task, horphans', fun hidle =>
    ⟨?_, hend.handedOver hnames hidle⟩⟩
  obtain ⟨s, hsummary, -⟩ := hend.sorting.partitions hidle
  obtain ⟨a, -, hfailed, hstanding⟩ := hend.standing
  obtain ⟨-, hsame, -⟩ := hstanding.of_idle hidle
  rw [hsummary, Option.getD_some, hfailed] at hsame
  exact ⟨s, hsummary, hsame.symm⟩

/-- A configuration without the tunnel `c`, with the address of `b` for `a` and that of `c` for `b`,
and with a tunnel `d` at the address of `a`. -/
def rotated : Config :=
  ⟨{}, [⟨"a", "j", "o", 9, 5⟩, ⟨"b", "k", "o", 9, 5⟩, ⟨"d", "i", "o", 9, 5⟩]⟩

/-- The tunnels `c`, `a` and `b` are shut down, and `a`, `b` and `d` are started. -/
def rotation : Schedule Action :=
  (1, .proceed) :: handEnds ++ (2, .proceed) :: handEnds ++ (2, .proceed) :: handEnds ++
    [(3, .proceed), (3, .bound (.ok (.stable ⟨.v4 127 0 0 1, 82, 0⟩))),
      (3, .bound (.ok (.stable ⟨.v4 127 0 0 1, 83, 0⟩))),
      (3, .bound (.ok (.stable ⟨.v4 127 0 0 1, 81, 0⟩))), (3, .proceed)]

theorem handedOver_of_rotation :
    ∃ m m₀ m' l, (start ⟨[], "", ""⟩ three).run threeStarted = some m ∧
      m.step 1 (.reload rotated) = some m₀ ∧ m₀.run rotation = some m' ∧
      (Custody.after {} (start ⟨[], "", ""⟩ three) threeStarted).note m (.reload rotated) = l ∧
      GrantsFree l m₀ rotation ∧ m'.summary = some ⟨[], ["a", "b"], ["d"], ["c"], []⟩ ∧
      HandedOver three.tunnels rotated (l.after m₀ rotation) m' := by
  -- the run is evaluated once
  have hany : ((start ⟨[], "", ""⟩ three).run threeStarted).any fun m =>
      m.configs = three.tunnels && (m.step 1 (.reload rotated)).any fun m₀ =>
        decide (GrantsFree ((Custody.after {} (start ⟨[], "", ""⟩ three) threeStarted).note m
          (.reload rotated)) m₀ rotation) && (m₀.run rotation).any fun m' =>
            m'.summary = some ⟨[], ["a", "b"], ["d"], ["c"], []⟩ && m'.task.isIdle := by
    decide +kernel
  obtain ⟨m, hrun, hm⟩ := (Option.any_eq_true _ _).1 hany
  obtain ⟨hconfigs, hm⟩ := Bool.and_eq_true_iff.1 hm
  obtain ⟨m₀, hreload, hm₀⟩ := (Option.any_eq_true _ _).1 hm
  obtain ⟨hlaw, hm₀⟩ := Bool.and_eq_true_iff.1 hm₀
  obtain ⟨m', hlater, hm'⟩ := (Option.any_eq_true _ _).1 hm₀
  obtain ⟨hsummary, hidle⟩ := Bool.and_eq_true_iff.1 hm'
  obtain ⟨-, -, hend⟩ := handedOver_of_run (by decide) (by decide) hrun hreload (by decide) hlater
    rfl (of_decide_eq_true hlaw)
  obtain ⟨-, h⟩ := hend (Task.isIdle_iff.1 hidle)
  rw [of_decide_eq_true hconfigs] at h
  exact ⟨m, m₀, m', _, hrun, hreload, hlater, rfl, of_decide_eq_true hlaw,
    of_decide_eq_true hsummary, h⟩

end Manager

end Sluice
