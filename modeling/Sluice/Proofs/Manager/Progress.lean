import Sluice.Proofs.Manager.Repeat
import Sluice.Proofs.Manager.Steady
import Sluice.Proofs.Tunnel.Progress

/-!
# How a reload comes to its end

A manager that replaces its configuration takes a limited number of steps, and waits in between for
tunnels and for attempts to listen. It can come to the end whatever the tunnels are busy with and
whatever the attempts end with.

* `Manager.Attains goal now m`: the manager and its tunnels can come to the goal by themselves, and
  nobody can prevent it by the end of an attempt to listen;
* `Manager.stepsLeft m`: a bound on the steps that the manager itself has still to take, by
  `Manager.cost_add_stepsLeft_le`;
* `Manager.IsSound.attains_idle`: a reload can come to its end;
* `Manager.Replaces c m`: what holds all the time until then.
-/

namespace Sluice

open Net (IoFault)

/-- The steps that a manager has to take with the tunnel in hand, and for it afterwards. -/
def Errand.steps : Errand → ℕ
  | .restart _ => 2
  | _ => 1

/-- A tunnel has done what the manager waits for. -/
def Errand.IsDone (t : Tunnel) : Errand → Prop
  | .update _ call => (t.answers.lookup call).isSome
  | _ => t.handle = .closed

/-- The manager replaces its configuration, or is done with it. -/
def Task.IsOfReload : Task → Prop
  | .reloading _ | .idle => True
  | _ => False

/-- The manager waits for its user. -/
def Task.isIdle : Task → Bool
  | .idle => true
  | _ => false

theorem Task.isIdle_iff {task : Task} : task.isIdle ↔ task = .idle := by
  cases task <;> simp [isIdle]

/-- Whatever the manager waits for, the tunnel in hand can come to it. -/
theorem Hand.Serves.attains {hand : Hand} {task : Task} (h : hand.Serves task)
    (hsound : hand.managed.tunnel.Sound) (now : ℕ) :
    Tunnel.Attains (hand.errand.IsDone ·) now hand.managed.tunnel := by
  cases h with
  | remove hshut | restart hshut | close hshut => exact hsound.attains_closed hshut now
  | update _ hcall => exact hcall.attains_answer now

namespace Manager

/-- The user asks for nothing. -/
def IsQuiet (actions : Schedule Action) : Prop := ∀ x ∈ actions, x.2.isOfUser = false

instance (actions : Schedule Action) : Decidable (IsQuiet actions) :=
  inferInstanceAs (Decidable (∀ x ∈ actions, x.2.isOfUser = false))

/-- The steps of the manager itself that the actions take. -/
def cost (actions : Schedule Action) : ℕ := (actions.map (·.2.cost)).sum

/-- From the instant `now` on the manager and its tunnels can come to the goal by what they do
themselves, whatever attempts to listen end with. -/
inductive Attains (goal : Manager → Prop) : ℕ → Manager → Prop
  | here {now : ℕ} {m : Manager} (hgoal : goal m) : Attains goal now m
  | proceed {now : ℕ} {m m' : Manager} (hstep : m.step now .proceed = some m')
      (hrest : Attains goal now m') : Attains goal now m
  | act {now later : ℕ} {m m' : Manager} {place : Place} {t : Tunnel} {work : Tunnel.Action}
      (hle : now ≤ later) (hstep : m.step later (.act place work) = some m')
      (hplace : m.tunnelAt? place = some t) (hown : work.isOwn) (hready : t.IsReady later work)
      (hattempt : work.isAttempt = false) (hrest : Attains goal later m') : Attains goal now m
  | attempt {now : ℕ} {m : Manager} {attempt : Except IoFault Listener → Action}
      {next : Except IoFault Listener → Manager}
      (hattempt : attempt = .bound ∨ ∃ place, attempt = fun result => .act place (.bound result))
      (hstep : ∀ result, m.step now (attempt result) = some (next result))
      (hrest : ∀ result, Attains goal now (next result)) : Attains goal now m

/-- The steps that the manager has still to take until the reload is over. -/
def stepsLeft (m : Manager) : ℕ :=
  match m.task with
  | .reloading r =>
    2 * r.removals.length + 3 * r.ahead.length + r.launches.length +
      (m.hand.map (·.errand.steps)).getD 0 + 1
  | _ => 0

variable {m m' : Manager} {now : ℕ} {action : Action} {r : Reload}

/-! ## The steps of the manager -/

theorem stepsLeft_of_reloading (htask : m.task = .reloading r) :
    m.stepsLeft = 2 * r.removals.length + 3 * r.ahead.length + r.launches.length +
      (m.hand.map (·.errand.steps)).getD 0 + 1 := by
  rw [stepsLeft, htask]

theorem Drifts.stepsLeft_eq (h : m.Drifts m') : m'.stepsLeft = m.stepsLeft := by
  have hsteps : m'.hand.map (·.errand.steps) = m.hand.map (·.errand.steps) := by
    have hrel := h.hand
    generalize m.hand = hand, m'.hand = hand' at hrel
    cases hrel with
    | none => rfl
    | some hdrift => simp [hdrift.1]
  rw [stepsLeft, stepsLeft, h.task, hsteps]

/-- A tunnel is in hand during a reload only. -/
theorem Steady.exists_reload {hand : Hand} (h : m.Steady) (htask : m.task.IsOfReload)
    (hhand : m.hand = some hand) : ∃ r, m.task = .reloading r := by
  have hserves := h.hand hand hhand
  generalize m.task = task at htask hserves
  cases hserves with
  | remove | restart | update => exact ⟨_, rfl⟩
  | close => cases htask

/-- The tunnel in hand is let go of. -/
theorem stepsLeft_release {hand : Hand} (htask : m.task = .reloading r) (hhand : m.hand = some hand)
    (htask' : m'.task = m.task) (hfree : m'.hand = none) :
    m.stepsLeft = hand.errand.steps + m'.stepsLeft := by
  rw [stepsLeft_of_reloading htask, stepsLeft_of_reloading (htask'.trans htask), hhand, hfree]
  simp
  omega

/-- Each step of the manager takes off from the steps that are left. -/
theorem Stepped.cost_add_stepsLeft_le (hs : m.Stepped now action m') (h : m.Steady)
    (huser : action.isOfUser = false) (htask : m.task.IsOfReload) :
    m'.task.IsOfReload ∧ action.cost + m'.stepsLeft ≤ m.stepsLeft := by
  cases hs with
  | reload | shutDownAll => cases huser
  | act hplace howner hstep =>
    have hdrifts := (Stepped.act hplace howner hstep).drifts h.nodup_names
    refine ⟨hdrifts.task ▸ htask, ?_⟩
    rw [hdrifts.stepsLeft_eq, Action.cost, Nat.zero_add]
  | startNext _ htask' | failStart _ htask' | endStart _ htask' | close _ htask' | endClose _ htask'
  | endFailure _ htask' =>
    rw [htask'] at htask
    cases htask
  | endReload hhand htask' =>
    refine ⟨trivial, ?_⟩
    simp [stepsLeft, Action.cost, htask']
  | skip hhand htask' | keep hhand htask' | add hhand htask' | launchNext hhand htask'
  | failLaunch hhand htask' =>
    refine ⟨trivial, ?_⟩
    simp [stepsLeft, Action.cost, htask', hhand]
    omega
  | remove hhand htask' | update hhand htask' | restart hhand htask' =>
    refine ⟨trivial, ?_⟩
    simp [stepsLeft, Action.cost, htask', hhand, Errand.steps]
    omega
  | updated hhand | removed hhand | halted hhand =>
    obtain ⟨r, htask'⟩ := h.exists_reload htask hhand
    simp [Task.mapReload, htask', Task.IsOfReload, stepsLeft, Action.cost, hhand, Errand.steps]
    omega
  | updateFailed hhand | closed hhand =>
    obtain ⟨r, htask'⟩ := h.exists_reload htask hhand
    refine ⟨htask, Eq.ge ?_⟩
    exact stepsLeft_release htask' hhand rfl rfl

/-- If each step takes off from the steps that are left, a run takes no more than those. -/
theorem cost_add_le {P : Manager → Prop} {left : Manager → ℕ} {later : Schedule Action}
    (hstep : ∀ m now action m', P m → action.isOfUser = false → Stepped m now action m' →
      P m' ∧ action.cost + left m' ≤ left m)
    (h : P m) (hquiet : IsQuiet later) (hrun : m.run later = some m') :
    P m' ∧ cost later + left m' ≤ left m := by
  induction later generalizing m with
  | nil =>
    cases hrun
    exact ⟨h, (Nat.zero_add _).le⟩
  | cons head rest ih =>
    obtain ⟨huser, hquiet⟩ := List.forall_mem_cons.1 hquiet
    obtain ⟨next, hnext, hrest⟩ := Option.bind_eq_some_iff.1 hrun
    obtain ⟨h', hcost⟩ := hstep _ _ _ _ h huser (stepped_of_step hnext)
    obtain ⟨h'', hcost'⟩ := ih h' hquiet hrest
    refine ⟨h'', ?_⟩
    rw [cost, List.map_cons, List.sum_cons]
    exact (Nat.add_assoc ..).le.trans ((Nat.add_le_add_left hcost' _).trans hcost)

/-- Without its user a manager takes no more steps than are left. -/
theorem cost_add_stepsLeft_le {later : Schedule Action} (h : m.Steady) (htask : m.task.IsOfReload)
    (hquiet : IsQuiet later) (hrun : m.run later = some m') :
    m'.task.IsOfReload ∧ cost later + m'.stepsLeft ≤ m.stepsLeft := by
  obtain ⟨⟨-, htask'⟩, hcost⟩ :=
    cost_add_le (P := fun m => m.Steady ∧ m.task.IsOfReload)
      (fun _ _ _ _ h huser hs => by
        obtain ⟨htask, hcost⟩ := hs.cost_add_stepsLeft_le h.1 huser h.2
        exact ⟨⟨hs.steady h.1, htask⟩, hcost⟩) ⟨h, htask⟩ hquiet hrun
  exact ⟨htask', hcost⟩

/-! ## The way to the end -/

theorem isOfUser_of_isOwn {work : Tunnel.Action} (h : work.isOwn) : work.isOfUser = false := by
  cases work <;> first | rfl | cases h

/-- What the tunnel in hand does by itself changes nothing else of what the manager is busy with. -/
theorem exists_act_inHand {hand : Hand} {t : Tunnel} {work : Tunnel.Action}
    (hhand : m.hand = some hand) (howner : work.isOfUser = false)
    (hstep : hand.managed.tunnel.step now work = some t) :
    ∃ m', m.step now (.act .inHand work) = some m' ∧ m'.task = m.task ∧ m'.tunnels = m.tunnels ∧
      m'.hand = some { hand with managed := { hand.managed with tunnel := t } } := by
  simp [step, Manager.act, tunnelAt?, hhand, howner, hstep, setTunnelAt, report]

/-- What holds of a manager and of all its tunnels at any time. -/
def IsSound (m : Manager) : Prop := m.Steady ∧ m.Every Tunnel.Sound

theorem IsSound.step (h : m.IsSound) (hs : m.Stepped now action m') : m'.IsSound :=
  ⟨hs.steady h.1, hs.every Tunnel.lasting_sound h.2⟩

theorem IsSound.run {actions : Schedule Action} (h : m.IsSound) (hrun : m.run actions = some m') :
    m'.IsSound :=
  run_keeps (fun _ _ _ _ _ h hs => h.step hs) h hrun

theorem isSound_of_run {env : Environment} {config : Config} {before : Schedule Action}
    (hrun : (start env config).run before = some m) : m.IsSound :=
  ⟨steady_of_run hrun, every_of_run Tunnel.lasting_sound hrun⟩

/-- What the tunnel in hand can come to, the manager can wait for. -/
theorem attains_of_inHand {goal : Manager → Prop} {aim : Tunnel → Prop} {hand : Hand}
    {t : Tunnel} (h : Tunnel.Attains aim now t) (hsound : m.IsSound) (hhand : m.hand = some hand)
    (ht : hand.managed.tunnel = t)
    (hrest : ∀ later m' hand', m'.IsSound → m'.task = m.task → m'.tunnels = m.tunnels →
      m'.hand = some hand' → hand'.errand = hand.errand → aim hand'.managed.tunnel →
      Attains goal later m') :
    Attains goal now m := by
  induction h generalizing m hand with
  | here haim =>
    subst ht
    exact hrest _ _ _ hsound rfl rfl hhand rfl haim
  | step hle hstep hown hready hattempt _ ih =>
    subst ht
    obtain ⟨m', hstep', htask, htunnels, hhand'⟩ :=
      exists_act_inHand hhand (isOfUser_of_isOwn hown) hstep
    refine .act hle hstep' (by simp [tunnelAt?, hhand]) hown hready hattempt ?_
    refine ih (hsound.step (stepped_of_step hstep')) hhand' rfl ?_
    rwa [htask, htunnels]
  | attempt hstep _ ih =>
    subst ht
    choose next hstep' htask htunnels hhand' using fun result =>
      exists_act_inHand hhand rfl (hstep result)
    refine .attempt (.inr ⟨.inHand, rfl⟩) hstep' fun result => ?_
    refine ih result (hsound.step (stepped_of_step (hstep' result))) (hhand' result) rfl ?_
    rwa [htask, htunnels]

/-- Once the tunnel in hand has done what the manager waits for, the manager goes on. -/
theorem exists_proceed_of_hand {hand : Hand} (hhand : m.hand = some hand)
    (hdone : hand.errand.IsDone hand.managed.tunnel) (now : ℕ) :
    ∃ m', m.step now .proceed = some m' := by
  obtain ⟨x, errand⟩ := hand
  cases errand with
  | update config call =>
    obtain ⟨error, hanswer⟩ := Option.isSome_iff_exists.1 hdone
    simp [step, proceed, hhand, proceedHand, hanswer]
  | remove | restart | close => simp_all [step, proceed, proceedHand, Errand.IsDone]

/-- While no tunnel is in hand, a manager goes on by itself or attempts to listen. -/
theorem exists_step_of_free (hhand : m.hand = none) (htask : m.task = .reloading r) (now : ℕ) :
    (∃ m', m.step now .proceed = some m') ∨
      ∀ result, ∃ m', m.step now (.bound result) = some m' := by
  obtain ⟨removals, ahead, launches, summary⟩ := r
  match removals, ahead, launches with
  | _ :: _, _, _ | [], _ :: _, _ | [], [], [] =>
    exact .inl (by simp [step, proceed, hhand, proceedFree, htask])
  | [], [], _ :: _ =>
    refine .inr fun result => ?_
    cases result <;> simp [step, Manager.bound, hhand, htask]

/-- A manager that replaces its configuration can come to the end, whatever its tunnels are busy
with. -/
theorem IsSound.attains_idle (h : m.IsSound) (htask : m.task.IsOfReload) (now : ℕ) :
    Attains (·.task = .idle) now m := by
  induction hn : m.stepsLeft using Nat.strong_induction_on generalizing m now with
  | _ n ih =>
    -- after a step of the manager fewer are left
    have hnext {m m' : Manager} {now : ℕ} {action : Action} (hleft : m.stepsLeft = n)
        (hsound : m.IsSound) (htask : m.task.IsOfReload) (huser : action.isOfUser = false)
        (hcost : action.cost = 1) (hstep : m.step now action = some m') :
        Attains (·.task = .idle) now m' := by
      have hs := stepped_of_step hstep
      obtain ⟨htask', hle⟩ := hs.cost_add_stepsLeft_le hsound.1 huser htask
      exact ih _ (by omega) (hsound.step hs) htask' now rfl
    cases hreload : m.task with
    | idle => exact .here hreload
    | starting | closing | failed =>
      rw [hreload] at htask
      cases htask
    | reloading r =>
      cases hhand : m.hand with
      | none =>
        rcases exists_step_of_free hhand hreload now with ⟨m', hstep⟩ | hbound
        · exact .proceed hstep (hnext hn h htask rfl rfl hstep)
        · choose next hstep using hbound
          exact .attempt (.inl rfl) hstep fun result => hnext hn h htask rfl rfl (hstep result)
      | some hand =>
        have hmem : hand.managed ∈ m.managed := by simp [managed, hhand]
        refine attains_of_inHand ((h.1.hand hand hhand).attains (h.2 _ hmem) now) h hhand rfl ?_
        intro later m' hand' hsound' htask' _ hhand' herrand hdone
        rw [← herrand] at hdone
        obtain ⟨m'', hstep⟩ := exists_proceed_of_hand hhand' hdone later
        have hleft : m'.stepsLeft = n := by
          rw [← hn, stepsLeft, stepsLeft, htask', hhand', hhand]
          simp [herrand]
        exact .proceed hstep (hnext hleft hsound' (htask' ▸ htask) rfl rfl hstep)

/-! ## All the time until then -/

/-- The manager replaces its configuration by `c`, or is done with it. -/
structure Replaces (c : Config) (m : Manager) : Prop where
  steady : m.Steady
  task : m.task.IsOfReload
  standing : ∃ a : Annals, a.accepted = c ∧ a.Standing m

namespace Replaces

variable {c : Config}

theorem begin (h : m.Steady) (hs : m.Stepped now (.reload c) m') : m'.Replaces c where
  steady := hs.steady h
  task := by
    cases hs
    trivial
  standing := by
    cases hs with
    | reload htask =>
      refine ⟨{ accepted := c }, rfl, ?_⟩
      exact .of_free (h.hand_eq_none htask) (.reloading rfl) (.begin h.nodup_names h.runs c) rfl

theorem step (h : m.Replaces c) (hnames : c.names.Nodup) (huser : action.isOfUser = false)
    (hs : m.Stepped now action m') : m'.Replaces c where
  steady := hs.steady h.steady
  task := (hs.cost_add_stepsLeft_le h.steady huser h.task).1
  standing := by
    obtain ⟨a, rfl, hstanding⟩ := h.standing
    have haction : action ≠ .shutDownAll := by
      rintro rfl
      cases huser
    refine ⟨a.note m action, ?_, hstanding.step hnames haction hs⟩
    cases action <;> first | rfl | cases huser

theorem underway (h : m.Replaces c) (htask : m.task = .reloading r) :
    ∃ done kept halted, Underway c m.tunnels m.hand r done kept halted := by
  obtain ⟨a, rfl, hstanding⟩ := h.standing
  exact (hstanding.of_reloading rfl htask).2

end Replaces

end Manager

end Sluice
