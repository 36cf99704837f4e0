import Sluice.Proofs.Manager.Accounts
import Sluice.Proofs.Manager.Handover

/-!
# How a manager starts

A manager starts the tunnels of its first configuration one after the other. If all attempts to
listen succeed, exactly the configured tunnels run in the end. At the first attempt that fails it
shuts down all tunnels that were started, whatever clients they have got in the meantime, and starts
no other one.

* `Manager.attempts m actions`: the attempts to listen for tunnels that are to be started;
* `Manager.Started` and `Manager.RolledBack`: the two ways in which the start ends;
* `Manager.Starting`: what holds at any time of the start, and `Starting.step` says that every
  action keeps it;
* `Manager.IsSound.attains_returned`: the start can come to its end;
* `Manager.returned_of_run`: in the end all tunnels are started, or nothing is left of any.
-/

namespace Sluice

open Net (IoFault)

/-- The manager starts the tunnels of its first configuration or gives that up, or is done with
either. -/
def Task.IsOfStart : Task → Prop
  | .starting _ | .closing (some _) | .idle | .failed _ => True
  | _ => False

/-- The start is over. -/
def Task.IsReturned : Task → Prop
  | .idle | .failed _ => True
  | _ => False

/-- The error because of which the manager could not start. -/
def Task.failure? : Task → Option TunnelError
  | .failed error => some error
  | _ => none

theorem Task.failure?_eq_some {task : Task} {error : TunnelError} :
    task.failure? = some error ↔ task = .failed error := by
  cases task <;> simp [failure?]

namespace Manager

/-- The attempt to listen for the tunnel that is to be started, with the fault that it ends with. -/
def attempt (m : Manager) : Action → List (TunnelConfig × Option IoFault)
  | .bound (.ok _) => m.launching?.toList.map (·, none)
  | .bound (.error fault) => m.launching?.toList.map (·, some fault)
  | _ => []

/-- The attempts to listen for tunnels that are to be started, oldest first. -/
def attempts (m : Manager) (actions : Schedule Action) : List (TunnelConfig × Option IoFault) :=
  Schedule.journal step (fun m _ action => m.attempt action) m actions

/-- The steps that the manager has still to take until the start is over. -/
def startLeft (m : Manager) : ℕ :=
  match m.task with
  -- each tunnel takes an attempt, and at worst is taken in hand and let go of afterwards
  | .starting rest => 3 * rest.length + 2 * m.tunnels.length + 1
  | .closing _ => 2 * m.tunnels.length + m.hand.toList.length + 1
  | _ => 0

/-- All tunnels of the configuration are started. -/
structure Started (config : Config) (attempts : List (TunnelConfig × Option IoFault))
    (m : Manager) : Prop where
  /-- There was one attempt for each of them, and it succeeded. -/
  attempts : attempts = config.tunnels.map (·, none)
  /-- Their names are those of the manager. -/
  names : m.names = config.names
  /-- Each tunnel runs as it is configured. -/
  runs : ∀ x ∈ m.tunnels, x.config ∈ config.tunnels ∧ x.Runs

/-- The tunnel `c` could not be started, and nothing is left of those `before` it. -/
structure RolledBack (env : Environment) (settings : Settings) (before : List TunnelConfig)
    (c : TunnelConfig) (after : List TunnelConfig) (fault : IoFault)
    (attempts : List (TunnelConfig × Option IoFault)) (departed : List Tunnel) (m : Manager) :
    Prop where
  /-- The attempts before it succeeded, and there was none after it. -/
  attempts : attempts = before.map (·, none) ++ [(c, some fault)]
  /-- It has reported nothing but its failure, -/
  failure : m.journal.eventsOf c.name = [.listenFailed fault.text]
  /-- and those after it nothing at all. -/
  silent : ∀ d ∈ after, m.journal.eventsOf d.name = []
  /-- The tunnels before it, and no others, were started and shut down. -/
  shut : (departed.map (·.plan)).Perm (before.map (·.plan settings env))
  /-- Nothing is left of them, and all that they did is reported, -/
  drained : ∀ t ∈ departed, t.Drained ∧ m.journal.eventsOf t.plan.name = t.events
  /-- their end at last. -/
  last : ∀ d ∈ before, (m.journal.eventsOf d.name).getLast? = some .stopped
  /-- The manager has no tunnels, and has given none up. -/
  managed : m.managed = [] ∧ m.orphans = []
  /-- Nothing can happen any more. -/
  inert : ∀ now action, m.step now action = none

/-- What holds while a manager starts, after the attempts to listen. -/
inductive Starting (env : Environment) (config : Config)
    (attempts : List (TunnelConfig × Option IoFault)) (departed : List Tunnel) (m : Manager) : Prop
  -- nothing was shut down so far
  | going {done rest : List TunnelConfig} (hsplit : config.tunnels = done ++ rest)
      (htask : m.task = .starting rest ∨ rest = [] ∧ m.task = .idle) (hhand : m.hand = none)
      (hdeparted : departed = []) (hconfigs : m.configs = done)
      (hattempts : attempts = done.map (·, none))
      (haccounts : m.Accounts env config.settings done departed)
      (hsilent : ∀ d ∈ rest, m.journal.eventsOf d.name = [])
  -- the tunnels before `c` are shut down, one after the other
  | failing {before after : List TunnelConfig} {c : TunnelConfig} {fault : IoFault}
      (hsplit : config.tunnels = before ++ c :: after)
      (htask : m.task = .closing (some (startError c fault)) ∨
        m.managed = [] ∧ m.task = .failed (startError c fault))
      (hattempts : attempts = before.map (·, none) ++ [(c, some fault)])
      (haccounts : m.Accounts env config.settings before departed)
      (hfailure : m.journal.eventsOf c.name = [.listenFailed fault.text])
      (hsilent : ∀ d ∈ after, m.journal.eventsOf d.name = [])

variable {env : Environment} {config : Config} {m m' : Manager} {now : ℕ} {action : Action}
  {done rest : List TunnelConfig} {c : TunnelConfig} {departed : List Tunnel} {l : Custody}
  {tried : List (TunnelConfig × Option IoFault)}

/-- While a manager starts, a tunnel is in hand only when all are shut down. -/
theorem Steady.of_hand_of_start {x : Managed} {errand : Errand} (h : m.Steady)
    (htask : m.task.IsOfStart) (hhand : m.hand = some ⟨x, errand⟩) :
    errand = .close ∧ ∃ error, m.task = .closing error := by
  have hserves := h.hand _ hhand
  generalize m.task = task at hserves htask
  cases hserves with
  | close => exact ⟨rfl, _, rfl⟩
  | remove | restart | update => cases htask

/-! ## The start -/

theorem attempt_proceed (m : Manager) : m.attempt .proceed = [] := rfl

theorem attempt_act (m : Manager) (place : Place) (work : Tunnel.Action) :
    m.attempt (.act place work) = [] := rfl

/-- While no tunnel is in hand none is let go of. -/
theorem departed_note_proceed (hhand : m.hand = none) :
    (l.note m .proceed).departed = l.departed := by
  simp [Custody.note, hhand]

namespace Starting

/-- The manager begins to start. -/
theorem begin (env : Environment) (config : Config) :
    Starting env config [] [] (start env config) :=
  .going rfl (.inl rfl) rfl rfl rfl rfl
    ⟨rfl, .nil, List.forall_mem_nil _, List.forall_mem_nil _⟩ fun _ _ => rfl

/-- The attempt to listen for the next tunnel succeeds. -/
theorem startNext (hsplit : config.tunnels = done ++ c :: rest) (hnames : config.names.Nodup)
    (hhand : m.hand = none) (hconfigs : m.configs = done)
    (haccounts : m.Accounts env config.settings done [])
    (hsilent : ∀ d ∈ c :: rest, m.journal.eventsOf d.name = []) (now : ℕ) (listener : Listener) :
    Starting env config (done.map (·, none) ++ [(c, none)]) []
      { m.launch now c listener with task := .starting rest } := by
  have hsplit' : config.tunnels = (done ++ [c]) ++ rest := by simp [hsplit]
  rw [Config.names, hsplit', List.map_append] at hnames
  obtain ⟨hdone, -, hother⟩ := List.nodup_append.1 hnames
  have hname : c.name ∉ m.names := by
    have hrunning : m.names = done.map (·.name) := hconfigs ▸ (List.map_map ..).symm
    rw [hrunning]
    rw [List.map_append] at hdone
    exact fun hmem => (List.nodup_append.1 hdone).2.2 _ hmem _ (List.mem_singleton_self _) rfl
  have hlaunch := haccounts.launch hdone hname (hsilent c List.mem_cons_self) now listener
  refine .going hsplit' (.inl rfl) hhand rfl ?_ (by simp)
    (hlaunch.congr rfl (.refl _) (fun _ _ => rfl) hlaunch.drained) fun d hd => ?_
  · obtain ⟨reports, heq⟩ := launch_of_not_mem now listener hname
    change (m.launch now c listener).configs = _
    rw [heq, ← hconfigs]
    simp [configs]
  · have hne : c.name ≠ d.name := hother _ (by simp) _ (List.mem_map_of_mem hd)
    refine (eventsOf_launch m now c listener d.name).trans ?_
    rw [if_neg hne, List.append_nil, hsilent d (List.mem_cons_of_mem _ hd)]

/-- The attempt to listen for the next tunnel fails. -/
theorem failStart (hsplit : config.tunnels = done ++ c :: rest) (hnames : config.names.Nodup)
    (haccounts : m.Accounts env config.settings done departed)
    (hsilent : ∀ d ∈ c :: rest, m.journal.eventsOf d.name = []) (fault : IoFault) :
    Starting env config (done.map (·, none) ++ [(c, some fault)]) departed
      { m.reportFailure c fault with task := .closing (some (startError c fault)) } := by
  rw [Config.names, hsplit, List.map_append, List.map_cons, List.nodup_middle] at hnames
  have hother : ∀ name ∈ done.map (·.name) ++ rest.map (·.name),
      (m.reportFailure c fault).journal.eventsOf name = m.journal.eventsOf name := by
    intro name hmem
    have hne : c.name ≠ name := fun heq => (List.nodup_cons.1 hnames).1 (heq ▸ hmem)
    rw [eventsOf_reportFailure, if_neg hne, List.append_nil]
  refine .failing hsplit (.inl rfl) rfl (haccounts.congr rfl (.refl _)
    (fun name hmem => hother name (List.mem_append_left _ hmem)) haccounts.drained) ?_
    fun d hd => ?_
  · refine (eventsOf_reportFailure m c fault c.name).trans ?_
    rw [if_pos rfl, hsilent c List.mem_cons_self, List.nil_append]
  · refine (hother d.name (List.mem_append_right _ (List.mem_map_of_mem hd))).trans ?_
    exact hsilent d (List.mem_cons_of_mem _ hd)

/-- A tunnel does something by itself. -/
theorem act {place : Place} {work : Tunnel.Action} (h : Starting env config tried departed m)
    (hnames : config.names.Nodup) (hsteady : m.Steady) (hs : m.Stepped now (.act place work) m') :
    Starting env config tried departed m' := by
  have hdrifts := hs.drifts hsteady.nodup_names
  cases h with
  | @going done rest hsplit htask hhand hdeparted hconfigs hattempts haccounts hsilent =>
    rw [Config.names, hsplit, List.map_append, List.nodup_append] at hnames
    obtain ⟨hdone, -, hother⟩ := hnames
    obtain ⟨haccounts', hsame⟩ := haccounts.act hdone hsteady hs
    refine .going hsplit (hdrifts.task ▸ htask) (hdrifts.hand_eq_none hhand) hdeparted
      (hdrifts.configs_eq.trans hconfigs) hattempts haccounts' fun d hd => ?_
    rw [hsame _ fun hmem => hother _ hmem _ (List.mem_map_of_mem hd) rfl, hsilent d hd]
  | @failing before after c fault hsplit htask hattempts haccounts hfailure hsilent =>
    rw [Config.names, hsplit, List.map_append, List.nodup_append] at hnames
    obtain ⟨hbefore, -, hother⟩ := hnames
    obtain ⟨haccounts', hsame⟩ := haccounts.act hbefore hsteady hs
    have hsame' : ∀ d ∈ c :: after, m'.journal.eventsOf d.name = m.journal.eventsOf d.name :=
      fun d hd => hsame _ fun hmem => hother _ hmem _ (List.mem_map_of_mem hd) rfl
    have htask' : m'.task = .closing (some (startError c fault)) := by
      rcases htask with htask | ⟨hmanaged, -⟩
      · exact hdrifts.task.trans htask
      · -- a manager without tunnels has none that does anything
        obtain ⟨t, t', others, news, hperm, -⟩ :=
          hs.exists_of_act hsteady.nodup_names haccounts.orphans_eq
        rw [hmanaged] at hperm
        exact absurd hperm.length_eq (by simp)
    refine .failing hsplit (.inl htask') hattempts haccounts' ?_ fun d hd => ?_
    · rw [hsame' c List.mem_cons_self, hfailure]
    · rw [hsame' d (List.mem_cons_of_mem _ hd), hsilent d hd]

theorem isOfStart (h : Starting env config tried departed m) : m.task.IsOfStart := by
  cases h with
  | going _ htask => rcases htask with htask | ⟨-, htask⟩ <;> rw [htask] <;> trivial
  | failing _ htask => rcases htask with htask | ⟨-, htask⟩ <;> rw [htask] <;> trivial

/-- What the task tells while tunnels are still to be started. -/
theorem of_starting (h : Starting env config tried departed m) (htask : m.task = .starting rest) :
    ∃ done, config.tunnels = done ++ rest ∧ departed = [] ∧ m.configs = done ∧
      tried = done.map (·, none) ∧ m.Accounts env config.settings done departed ∧
      ∀ d ∈ rest, m.journal.eventsOf d.name = [] := by
  cases h with
  | @going done rest' hsplit htask' _ hdeparted hconfigs hattempts haccounts hsilent =>
    obtain rfl : rest' = rest := by simpa [htask, eq_comm] using htask'
    exact ⟨done, hsplit, hdeparted, hconfigs, hattempts, haccounts, hsilent⟩
  | failing _ htask' => simp [htask] at htask'

/-- What the task tells while tunnels are shut down because one could not be started. -/
theorem of_closing {error : Option TunnelError} (h : Starting env config tried departed m)
    (htask : m.task = .closing error) :
    ∃ before c after fault, error = some (startError c fault) ∧
      config.tunnels = before ++ c :: after ∧
      tried = before.map (·, none) ++ [(c, some fault)] ∧
      m.Accounts env config.settings before departed ∧
      m.journal.eventsOf c.name = [.listenFailed fault.text] ∧
      ∀ d ∈ after, m.journal.eventsOf d.name = [] := by
  cases h with
  | going _ htask' => simp [htask] at htask'
  | @failing before after c fault hsplit htask' hattempts haccounts hfailure hsilent =>
    obtain rfl : error = some (startError c fault) := by simpa [htask] using htask'
    exact ⟨before, c, after, fault, rfl, hsplit, hattempts, haccounts, hfailure, hsilent⟩

/-- All tunnels are started. -/
theorem endStart (h : Starting env config tried departed m) (hhand : m.hand = none)
    (htask : m.task = .starting []) (level : Level) (text : String) :
    Starting env config tried departed { m.log level text with task := .idle } := by
  obtain ⟨done, hsplit, hdeparted, hconfigs, rfl, haccounts, -⟩ := h.of_starting htask
  refine .going hsplit (.inr ⟨rfl, rfl⟩) hhand hdeparted hconfigs rfl
    (haccounts.congr rfl (.refl _) (fun name _ => ?_) haccounts.drained) (List.forall_mem_nil _)
  exact eventsOf_log ..

/-- The first tunnel is taken in hand to end. -/
theorem close {x : Managed} {tunnels : List Managed} {error : Option TunnelError}
    (h : Starting env config tried departed m) (hnames : config.names.Nodup) (hsteady : m.Steady)
    (hhand : m.hand = none) (htask : m.task = .closing error) (htunnels : m.tunnels = x :: tunnels)
    (level : Level) (text : String) :
    Starting env config tried departed ((m.log level text).shutDown x .close) := by
  obtain ⟨before, c, after, fault, rfl, hsplit, rfl, haccounts, hfailure, hsilent⟩ :=
    h.of_closing htask
  rw [Config.names, hsplit, List.map_append] at hnames
  have hbefore := (List.nodup_append.1 hnames).1
  refine .failing hsplit (.inl htask) rfl
    (haccounts.close hbefore hsteady hhand htunnels level text)
    ((eventsOf_log ..).trans hfailure) fun d hd => ?_
  exact (eventsOf_log ..).trans (hsilent d hd)

/-- The tunnel in hand has come to its end. -/
theorem closed {x : Managed} (h : Starting env config tried departed m) (hsound : m.IsSound)
    (hhand : m.hand = some ⟨x, .close⟩) (hclosed : x.tunnel.handle = .closed) :
    Starting env config tried (departed ++ [x.tunnel]) { m with hand := none } := by
  obtain ⟨-, error, htask⟩ := hsound.1.of_hand_of_start h.isOfStart hhand
  obtain ⟨before, c, after, fault, rfl, hsplit, rfl, haccounts, hfailure, hsilent⟩ :=
    h.of_closing htask
  have hmem : x ∈ m.managed := by simp [managed, hhand]
  exact .failing hsplit (.inl htask) rfl
    (haccounts.closed hhand (hsound.2 x hmem) hclosed) hfailure hsilent

/-- No tunnel is left. -/
theorem endFailure {error : TunnelError} (h : Starting env config tried departed m)
    (hhand : m.hand = none) (htask : m.task = .closing (some error)) (htunnels : m.tunnels = []) :
    Starting env config tried departed { m with task := .failed error } := by
  obtain ⟨before, c, after, fault, herror, hsplit, rfl, haccounts, hfailure, hsilent⟩ :=
    h.of_closing htask
  cases herror
  have hnone : m.managed = [] := by simp [managed, hhand, htunnels]
  exact .failing hsplit (.inr ⟨hnone, rfl⟩) rfl
    (haccounts.congr rfl (.refl _) (fun _ _ => rfl) haccounts.drained) hfailure hsilent

/-- Every action keeps what holds while a manager starts. -/
theorem step (h : Starting env config tried l.departed m) (hnames : config.names.Nodup)
    (hsound : m.IsSound) (huser : action.isOfUser = false) (hs : m.Stepped now action m') :
    Starting env config (tried ++ m.attempt action) (l.note m action).departed m' := by
  cases hs with
  | reload | shutDownAll => cases huser
  | act hplace howner hstep =>
    rw [Custody.departed_note_act, attempt_act, List.append_nil]
    exact h.act hnames hsound.1 (.act hplace howner hstep)
  | @startNext c rest listener hhand htask =>
    obtain ⟨done, hsplit, hdeparted, hconfigs, rfl, haccounts, hsilent⟩ := h.of_starting htask
    have hattempt : m.attempt (.bound (.ok listener)) = [(c, none)] := by
      simp [attempt, launching?, hhand, htask]
    change Starting env config _ l.departed _
    rw [hdeparted] at haccounts ⊢
    rw [hattempt]
    exact startNext hsplit hnames hhand hconfigs haccounts hsilent now listener
  | @failStart c rest fault hhand htask =>
    obtain ⟨done, hsplit, -, -, rfl, haccounts, hsilent⟩ := h.of_starting htask
    have hattempt : m.attempt (.bound (.error fault)) = [(c, some fault)] := by
      simp [attempt, launching?, hhand, htask]
    rw [hattempt]
    exact failStart hsplit hnames haccounts hsilent fault
  | endStart hhand htask =>
    rw [departed_note_proceed hhand, attempt_proceed, List.append_nil]
    exact h.endStart hhand htask _ _
  | close hhand htask htunnels =>
    rw [departed_note_proceed hhand, attempt_proceed, List.append_nil]
    exact h.close hnames hsound.1 hhand htask htunnels _ _
  | endFailure hhand htask htunnels =>
    rw [departed_note_proceed hhand, attempt_proceed, List.append_nil]
    exact h.endFailure hhand htask htunnels
  | @closed x hhand hclosed =>
    have hdeparted : (l.note m .proceed).departed = l.departed ++ [x.tunnel] := by
      simp [Custody.note, hhand, Errand.kept]
    rw [hdeparted, attempt_proceed, List.append_nil]
    exact h.closed hsound hhand hclosed
  -- a manager that starts neither replaces its configuration nor is shut down by its user
  | endClose _ htask =>
    obtain ⟨before, c, after, fault, herror, -⟩ := h.of_closing htask
    cases herror
  | updated hhand | updateFailed hhand | removed hhand | halted hhand =>
    cases (hsound.1.of_hand_of_start h.isOfStart hhand).1
  | remove _ htask | skip _ htask | update _ htask | keep _ htask | restart _ htask
  | add _ htask | launchNext _ htask | failLaunch _ htask | endReload _ htask =>
    have hstart := h.isOfStart
    rw [htask] at hstart
    cases hstart

end Starting

/-! ## The way to the end -/

theorem startLeft_of_closing {error : Option TunnelError} (htask : m.task = .closing error) :
    m.startLeft = 2 * m.tunnels.length + m.hand.toList.length + 1 := by
  rw [startLeft, htask]

theorem Drifts.startLeft_eq (h : m.Drifts m') : m'.startLeft = m.startLeft := by
  have htunnels : m'.tunnels.length = m.tunnels.length := by
    simpa using congrArg List.length h.configs_eq
  have hhand : m'.hand.toList.length = m.hand.toList.length := by
    have hrel := h.hand
    generalize m.hand = hand, m'.hand = hand' at hrel
    cases hrel <;> rfl
  rw [startLeft, startLeft, h.task, htunnels, hhand]

/-- Each step of the manager takes off from the steps that are left. -/
theorem Stepped.cost_add_startLeft_le (hs : m.Stepped now action m') (h : m.Steady)
    (huser : action.isOfUser = false) (htask : m.task.IsOfStart) :
    m'.task.IsOfStart ∧ action.cost + m'.startLeft ≤ m.startLeft := by
  cases hs with
  | reload | shutDownAll => cases huser
  | act hplace howner hstep =>
    have hdrifts := (Stepped.act hplace howner hstep).drifts h.nodup_names
    refine ⟨hdrifts.task ▸ htask, ?_⟩
    rw [hdrifts.startLeft_eq, Action.cost, Nat.zero_add]
  | @startNext c rest listener hhand htask' =>
    have hlength : (m.launch now c listener).tunnels.length ≤ m.tunnels.length + 1 := by
      simpa [launch, insert, erase, report] using List.length_filter_le ..
    refine ⟨trivial, ?_⟩
    simp only [startLeft, Action.cost, htask', List.length_cons]
    omega
  | failStart hhand htask' =>
    refine ⟨trivial, ?_⟩
    simp [startLeft, Action.cost, htask', hhand, reportFailure, report]
    omega
  | endStart hhand htask' =>
    refine ⟨trivial, ?_⟩
    simp [startLeft, Action.cost, htask']
  | @close error x rest hhand htask' htunnels =>
    have hlength : (m.erase x.config.name).tunnels.length ≤ rest.length := by
      rw [erase, htunnels, List.filter_cons_of_neg (by simp)]
      exact List.length_filter_le ..
    have hleft : ((m.log .info s!"Shutting down tunnel '{x.config.name}'").shutDown x
        .close).startLeft = 2 * (m.erase x.config.name).tunnels.length + 1 + 1 :=
      startLeft_of_closing htask'
    refine ⟨htask, ?_⟩
    change 1 + startLeft _ ≤ m.startLeft
    rw [hleft, startLeft_of_closing htask', hhand, htunnels, List.length_cons]
    omega
  | endFailure hhand htask' =>
    refine ⟨trivial, ?_⟩
    simp [startLeft, Action.cost, htask']
  | endClose _ htask' =>
    rw [htask'] at htask
    cases htask
  | closed hhand hclosed =>
    obtain ⟨-, error, htask'⟩ := h.of_hand_of_start htask hhand
    have hleft : startLeft { m with hand := none } = 2 * m.tunnels.length + 0 + 1 :=
      startLeft_of_closing htask'
    refine ⟨htask, ?_⟩
    change 1 + startLeft _ ≤ m.startLeft
    rw [hleft, startLeft_of_closing htask', hhand, Option.toList_some, List.length_singleton]
    omega
  | updated hhand | updateFailed hhand | removed hhand | halted hhand =>
    cases (h.of_hand_of_start htask hhand).1
  | remove _ htask' | skip _ htask' | update _ htask' | keep _ htask' | restart _ htask'
  | add _ htask' | launchNext _ htask' | failLaunch _ htask' | endReload _ htask' =>
    rw [htask'] at htask
    cases htask

/-- While no tunnel is in hand, a manager that starts goes on by itself or attempts to listen. -/
theorem exists_step_of_start (hhand : m.hand = none) (htask : m.task.IsOfStart) (now : ℕ) :
    m.task.IsReturned ∨ (∃ m', m.step now .proceed = some m') ∨
      ∀ result, ∃ m', m.step now (.bound result) = some m' := by
  cases hstart : m.task with
  | idle | failed => exact .inl trivial
  | reloading =>
    rw [hstart] at htask
    cases htask
  | starting rest =>
    cases rest with
    | nil => exact .inr (.inl (by simp [step, proceed, hhand, proceedFree, hstart]))
    | cons c rest =>
      refine .inr (.inr fun result => ?_)
      cases result <;> simp [step, Manager.bound, hhand, hstart]
  | closing error =>
    cases error with
    | none =>
      rw [hstart] at htask
      cases htask
    | some error =>
      refine .inr (.inl ?_)
      cases htunnels : m.tunnels <;> simp [step, proceed, hhand, proceedFree, hstart, htunnels]

/-- A manager that starts can come to the end of the start, whatever its tunnels are busy with. -/
theorem IsSound.attains_returned (h : m.IsSound) (htask : m.task.IsOfStart) (now : ℕ) :
    Attains (·.task.IsReturned) now m := by
  induction hn : m.startLeft using Nat.strong_induction_on generalizing m now with
  | _ n ih =>
    -- after a step of the manager fewer are left
    have hnext {m m' : Manager} {now : ℕ} {action : Action} (hleft : m.startLeft = n)
        (hsound : m.IsSound) (htask : m.task.IsOfStart) (huser : action.isOfUser = false)
        (hcost : action.cost = 1) (hstep : m.step now action = some m') :
        Attains (·.task.IsReturned) now m' := by
      have hs := stepped_of_step hstep
      obtain ⟨htask', hle⟩ := hs.cost_add_startLeft_le hsound.1 huser htask
      exact ih _ (by omega) (hsound.step hs) htask' now rfl
    cases hhand : m.hand with
    | none =>
      rcases exists_step_of_start hhand htask now with hreturned | ⟨m', hstep⟩ | hbound
      · exact .here hreturned
      · exact .proceed hstep (hnext hn h htask rfl rfl hstep)
      · choose next hstep using hbound
        exact .attempt (.inl rfl) hstep fun result => hnext hn h htask rfl rfl (hstep result)
    | some hand =>
      have hmem : hand.managed ∈ m.managed := by simp [managed, hhand]
      refine attains_of_inHand ((h.1.hand hand hhand).attains (h.2 _ hmem) now) h hhand rfl ?_
      intro later m' hand' hsound' htask' htunnels hhand' herrand hdone
      rw [← herrand] at hdone
      obtain ⟨m'', hstep⟩ := exists_proceed_of_hand hhand' hdone later
      have hleft : m'.startLeft = n := by
        rw [← hn, startLeft, startLeft, htask', hhand', hhand, htunnels]
        rfl
      exact .proceed hstep (hnext hleft hsound' (htask' ▸ htask) rfl rfl hstep)

/-! ## The end of the start -/

/-- To a manager that could not start nothing happens any more, if it has no tunnels. -/
theorem step_eq_none {error : TunnelError} (htask : m.task = .failed error)
    (hmanaged : m.managed = []) (horphans : m.orphans = []) (now : ℕ) (action : Action) :
    m.step now action = none := by
  obtain ⟨htunnels, hhand⟩ : m.tunnels = [] ∧ m.hand = none := by simpa [managed] using hmanaged
  cases action with
  | reload => simp [step, Manager.reload, htask]
  | shutDownAll => simp [step, Manager.shutDownAll, htask]
  | proceed => simp [step, proceed, hhand, proceedFree, htask]
  | bound result => simp [step, Manager.bound, hhand, htask]
  | act place work =>
    have hplace : m.tunnelAt? place = none := by
      cases place <;> simp [tunnelAt?, find?, htunnels, hhand, horphans]
    simp [step, Manager.act, hplace]

namespace Starting

/-- When the manager is idle, all its tunnels are started. -/
theorem started (h : Starting env config tried departed m) (hsteady : m.Steady)
    (htask : m.task = .idle) : Started config tried m := by
  cases h with
  | @going done rest hsplit htask' hhand hdeparted hconfigs hattempts =>
    obtain rfl : rest = [] := by
      rcases htask' with htask' | ⟨hnone, -⟩
      · rw [htask] at htask'
        cases htask'
      · exact hnone
    rw [List.append_nil] at hsplit
    refine ⟨hsplit ▸ hattempts, ?_, fun x hx => ⟨?_, hsteady.runs x hx⟩⟩
    · rw [Config.names, hsplit, ← hconfigs]
      exact (List.map_map ..).symm
    · rw [hsplit, ← hconfigs]
      exact List.mem_map_of_mem hx
  | failing _ htask' => simp [htask] at htask'

/-- When the manager could not start, nothing is left of its tunnels. -/
theorem rolledBack {error : TunnelError} (h : Starting env config tried departed m)
    (htask : m.task = .failed error) :
    ∃ before c after fault, config.tunnels = before ++ c :: after ∧
      error = .listenFailed c.listenAt fault ∧
      RolledBack env config.settings before c after fault tried departed m := by
  cases h with
  | going _ htask' => simp [htask] at htask'
  | @failing before after c fault hsplit htask' hattempts haccounts hfailure hsilent =>
    obtain ⟨hmanaged, rfl⟩ : m.managed = [] ∧ error = startError c fault := by
      simpa [htask] using htask'
    have heveryone : m.everyone departed = departed := by simp [everyone, hmanaged]
    have hplans := haccounts.plans
    have hevents := haccounts.events
    rw [heveryone] at hplans hevents
    refine ⟨before, c, after, fault, hsplit, rfl, hattempts, hfailure, hsilent, hplans,
      fun t ht => ⟨haccounts.drained t ht, hevents t ht⟩, fun d hd => ?_,
      ⟨hmanaged, haccounts.orphans_eq⟩, fun now action => ?_⟩
    · obtain ⟨t, ht, hplan⟩ := List.mem_map.1 (hplans.symm.subset (List.mem_map_of_mem hd))
      obtain ⟨early, late, hlast, -⟩ := (haccounts.drained t ht).events
      have hname : t.plan.name = d.name := congrArg TunnelPlan.name hplan
      rw [← hname, hevents t ht, hlast, ← List.cons_append, ← List.append_assoc]
      exact List.getLast?_concat
    · exact step_eq_none htask hmanaged haccounts.orphans_eq now action

end Starting

/-- In any run of a manager that starts and is not asked for anything, few steps are its own. -/
theorem isOfStart_of_run {actions : Schedule Action} (hquiet : IsQuiet actions)
    (hrun : (start env config).run actions = some m) :
    m.task.IsOfStart ∧ cost actions ≤ 3 * config.tunnels.length + 1 := by
  obtain ⟨⟨-, htask⟩, hcost⟩ := cost_add_le (P := fun m => m.Steady ∧ m.task.IsOfStart)
    (fun _ _ _ _ h huser hs => by
      obtain ⟨htask, hcost⟩ := hs.cost_add_startLeft_le h.1 huser h.2
      exact ⟨⟨hs.steady h.1, htask⟩, hcost⟩) ⟨steady_start env config, trivial⟩ hquiet hrun
  simp only [startLeft, start, List.length_nil] at hcost
  exact ⟨htask, by omega⟩

/-- In any run of a manager that starts and is not asked for anything, all tunnels are accounted
for. -/
theorem starting_of_run {actions : Schedule Action} (hnames : config.names.Nodup)
    (hquiet : IsQuiet actions) (hrun : (start env config).run actions = some m) :
    Starting env config ((start env config).attempts actions)
      (Custody.after {} (start env config) actions).departed m := by
  suffices Starting env config ((start env config).attempts actions)
      (Custody.after {} (start env config) actions).departed m ∧ m.IsSound from this.1
  rw [run_eq] at hrun
  refine Schedule.record_journal_keeps (fun (l : Custody) tried m =>
    Starting env config tried l.departed m ∧ m.IsSound) ?_ (g := {}) (b := [])
    ⟨.begin env config, steady_start env config, every_start _ env config⟩ hrun
  rintro l tried m now action m' hmem ⟨h, hsound⟩ hnext
  have hs := stepped_of_step hnext
  exact ⟨h.step hnames hsound (hquiet _ hmem) hs, hsound.step hs⟩

/-- Whatever attempts to listen end with, and whatever the tunnels do in the meantime, a manager
that starts the tunnels of a valid configuration can come to the end of it. Then all of them are
started; or one could not be started, and nothing is left of those before it, and those after it
were not attempted. -/
theorem returned_of_run {actions : Schedule Action} (hvalid : config.audit.violation = none)
    (hquiet : IsQuiet actions) (hrun : (start env config).run actions = some m) :
    (∀ instant, Attains (·.task.IsReturned) instant m) ∧
      cost actions ≤ 3 * config.tunnels.length + 1 ∧
      (m.task = .idle → Started config ((start env config).attempts actions) m) ∧
      ∀ error, m.task = .failed error →
        ∃ before c after fault, config.tunnels = before ++ c :: after ∧
          error = .listenFailed c.listenAt fault ∧
          RolledBack env config.settings before c after fault
            ((start env config).attempts actions)
            (Custody.after {} (start env config) actions).departed m := by
  obtain ⟨-, -, hnames, -⟩ := Config.audit_violation_eq_none_iff.1 hvalid
  have hsound := isSound_of_run hrun
  have hstarting := starting_of_run hnames hquiet hrun
  obtain ⟨htask, hcost⟩ := isOfStart_of_run hquiet hrun
  exact ⟨hsound.attains_returned htask, hcost, hstarting.started hsound.1,
    fun _ => hstarting.rolledBack⟩

/-- The tunnels `b` and `c` are started, and a client of `b` is served. Then `d` cannot be
started. -/
def failedStart : Schedule Action :=
  [(0, .bound (.ok (.stable ⟨.v4 127 0 0 1, 81, 0⟩))),
    (0, .bound (.ok (.stable ⟨.v4 127 0 0 1, 82, 0⟩))), (1, .act (.running "b") .openFirst),
    (1, .act (.running "b") (.arrive (.ok ⟨.v4 10 0 0 1, 4000, 0⟩))),
    (1, .act (.running "b") .handArrival), (1, .act (.running "b") .takeArrival),
    (1, .act (.running "b") (.endDial (.ok ()))), (1, .bound (.error (.plain .addrInUse))),
    (1, .proceed), (2, .act .inHand .heed), (2, .act .inHand .stop), (2, .act .inHand .retire),
    (2, .act .inHand (.work 1 .upstream (.forward .heed))),
    (2, .act .inHand (.work 1 .upstream (.forward (.shut none)))),
    (2, .act .inHand (.work 1 .upstream .conclude)),
    (2, .act .inHand (.work 1 .downstream (.forward .heed))),
    (2, .act .inHand (.work 1 .downstream (.forward (.shut none)))),
    (2, .act .inHand (.work 1 .downstream .conclude)), (2, .act .inHand .finish), (2, .proceed),
    (2, .proceed)] ++ handEnds ++ [(3, .proceed)]

theorem returned_of_failedStart :
    ∃ m, (start ⟨[], "", ""⟩ four).run failedStart = some m ∧
      m.task = .failed (.listenFailed "k" (.plain .addrInUse)) ∧ cost failedStart ≤ 13 ∧
      ∃ before c after fault, four.tunnels = before ++ c :: after ∧
        TunnelError.listenFailed "k" (.plain .addrInUse) = .listenFailed c.listenAt fault ∧
        RolledBack ⟨[], "", ""⟩ {} before c after fault
          ((start ⟨[], "", ""⟩ four).attempts failedStart)
          (Custody.after {} (start ⟨[], "", ""⟩ four) failedStart).departed m := by
  -- the run is evaluated once
  have hany : ((start ⟨[], "", ""⟩ four).run failedStart).any fun m =>
      m.task.failure? = some (.listenFailed "k" (.plain .addrInUse)) := by
    decide +kernel
  obtain ⟨m, hrun, hm⟩ := (Option.any_eq_true _ _).1 hany
  have htask := Task.failure?_eq_some.1 (of_decide_eq_true hm)
  obtain ⟨-, hcost, -, hfailed⟩ := returned_of_run (by decide +kernel) (by decide) hrun
  exact ⟨m, hrun, htask, hcost, hfailed _ htask⟩

end Manager

end Sluice
