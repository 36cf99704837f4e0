import Sluice.Proofs.Manager.Steady

/-!
# Tunnels that are accounted for

Every tunnel that a manager has started is one that it has, or one that was shut down. What an
observer has under the name of a tunnel is what this tunnel has reported.

* `Manager.journal m`: the events that tunnels have reported, as an observer has them;
* `Manager.everyone departed m`: the tunnels that were shut down, and those that the manager has;
* `Manager.Stepped.exists_of_act`: of all tunnels one does something by itself and reports it;
* `Manager.Accounts`: all tunnels are accounted for. `Accounts.launch`, `Accounts.act`,
  `Accounts.close` and `Accounts.closed` say that they remain so.
-/

namespace Sluice

/-- The event of a report, with the name of its tunnel. -/
def Report.told? : Report → Option (String × Event)
  | .event tunnel e => some (tunnel, e)
  | .line _ => none

namespace Tunnel

/-- Nothing else changes when the end is asked for. -/
theorem shutDown_getD (t : Tunnel) :
    (t.shutDown.getD t).plan = t.plan ∧ (t.shutDown.getD t).events = t.events := by
  unfold shutDown
  split <;> exact ⟨rfl, rfl⟩

/-- Nothing is left of a tunnel whose end is reported. -/
theorem Sound.drained_of_closed {t : Tunnel} (h : t.Sound) (hclosed : t.handle = .closed) :
    t.Drained := by
  refine h.drained ?_
  cases h.farewell with
  | unreported hhandle => exact absurd hclosed hhandle
  | reported _ _ hlast => simp [hlast]

end Tunnel

namespace Manager

/-- The events that tunnels have reported, as an observer has them. -/
def journal (m : Manager) : Journal := ⟨m.reports.filterMap (·.told?)⟩

/-- The tunnels that were shut down, and those that the manager has. -/
def everyone (departed : List Tunnel) (m : Manager) : List Tunnel :=
  departed ++ m.managed.map (·.tunnel)

/-- What a manager does not change while it starts. -/
def surroundings (m : Manager) : Settings × Environment × List Tunnel :=
  (m.settings, m.env, m.orphans)

/-- The tunnels that were started are those in `done`. Those in `departed` were shut down, and the
manager has the others. -/
structure Accounts (env : Environment) (settings : Settings) (done : List TunnelConfig)
    (departed : List Tunnel) (m : Manager) : Prop where
  /-- No tunnel was given up. -/
  surroundings : m.surroundings = (settings, env, [])
  /-- Each was started as its configuration says, and no other was. -/
  plans : ((m.everyone departed).map (·.plan)).Perm (done.map (·.plan settings env))
  /-- All that a tunnel did is reported under its name, and nothing else. -/
  events : ∀ t ∈ m.everyone departed, m.journal.eventsOf t.plan.name = t.events
  /-- Nothing is left of those that were shut down. -/
  drained : ∀ t ∈ departed, t.Drained

variable {env : Environment} {settings : Settings} {m m' : Manager} {now : ℕ}
  {done : List TunnelConfig} {c : TunnelConfig} {departed departed' : List Tunnel} {t t' : Tunnel}
  {others : List Tunnel} {news : List Event}

/-! ## What an observer has -/

theorem eventsOf_report (m : Manager) (tunnel : String) (events : List Event) (name : String) :
    (m.report (events.map (.event tunnel))).journal.eventsOf name =
      m.journal.eventsOf name ++ if tunnel = name then events else [] := by
  by_cases h : tunnel = name <;>
    simp [journal, report, Journal.eventsOf, List.filterMap_map, List.filter_map, Function.comp_def,
      Report.told?, h]

theorem eventsOf_log (m : Manager) (level : Level) (text name : String) :
    (m.log level text).journal.eventsOf name = m.journal.eventsOf name := by
  simp [journal, log, report, Journal.eventsOf, Report.told?]

theorem eventsOf_reportFailure (m : Manager) (c : TunnelConfig) (fault : Net.IoFault)
    (name : String) :
    (m.reportFailure c fault).journal.eventsOf name =
      m.journal.eventsOf name ++ if c.name = name then [.listenFailed fault.text] else [] := by
  by_cases h : c.name = name <;>
    simp [journal, reportFailure, startFailure, report, Journal.eventsOf, Report.told?, h]

theorem eventsOf_launch (m : Manager) (now : ℕ) (c : TunnelConfig) (listener : Listener)
    (name : String) :
    (m.launch now c listener).journal.eventsOf name = m.journal.eventsOf name ++
      if c.name = name then (Tunnel.start (c.plan m.settings m.env) now listener).events else [] :=
  eventsOf_report ..

/-! ## Tunnels that are accounted for -/

theorem everyone_perm (departed : List Tunnel) (h : (m.managed.map (·.tunnel)).Perm (t :: others)) :
    (m.everyone departed).Perm (t :: (departed ++ others)) :=
  (h.append_left departed).trans List.perm_middle

/-- A tunnel that is started under a new name joins the others. -/
theorem managed_launch (hname : c.name ∉ m.names) (now : ℕ) (listener : Listener) :
    ((m.launch now c listener).managed.map (·.tunnel)).Perm
      (Tunnel.start (c.plan m.settings m.env) now listener :: m.managed.map (·.tunnel)) := by
  have hinsert : (m.launch now c listener).managed =
      m.tunnels ++ ⟨c, Tunnel.start (c.plan m.settings m.env) now listener⟩ ::
        m.hand.toList.map (·.managed) := by
    rw [launch, insert_of_not_mem (x := ⟨c, _⟩) hname]
    exact List.append_assoc ..
  rw [hinsert, managed, List.map_append, List.map_cons, List.map_append]
  exact List.perm_middle

namespace Accounts

theorem names_perm (h : m.Accounts env settings done departed) :
    ((m.everyone departed).map (·.plan.name)).Perm (done.map (·.name)) := by
  simpa [Function.comp_def, TunnelConfig.plan] using h.plans.map (·.name)

/-- Nothing but the reports of other tunnels has changed. -/
theorem congr (h : m.Accounts env settings done departed)
    (hsurroundings : m'.surroundings = m.surroundings)
    (hperm : (m'.everyone departed').Perm (m.everyone departed))
    (hevents : ∀ name ∈ done.map (·.name),
      m'.journal.eventsOf name = m.journal.eventsOf name)
    (hdrained : ∀ t ∈ departed', t.Drained) : m'.Accounts env settings done departed' where
  surroundings := hsurroundings.trans h.surroundings
  plans := (hperm.map _).trans h.plans
  events t ht := by
    have ht := hperm.subset ht
    have hname := h.names_perm.subset (List.mem_map_of_mem ht)
    exact (hevents _ hname).trans (h.events t ht)
  drained := hdrained

/-- Of all tunnels one does something and reports it. -/
theorem of_report (hperm : (m'.everyone departed).Perm (t :: others))
    (hsurroundings : m'.surroundings = (settings, env, []))
    (hplans : (t.plan :: others.map (·.plan)).Perm (done.map (·.plan settings env)))
    (hnames : (done.map (·.name)).Nodup)
    (hothers : ∀ u ∈ others, m.journal.eventsOf u.plan.name = u.events)
    (hself : m.journal.eventsOf t.plan.name ++ news = t.events)
    (hreports : ∀ name, m'.journal.eventsOf name =
      m.journal.eventsOf name ++ if t.plan.name = name then news else [])
    (hdrained : ∀ t ∈ departed, t.Drained) : m'.Accounts env settings done departed where
  surroundings := hsurroundings
  plans := (hperm.map _).trans hplans
  events u hu := by
    -- no other tunnel has its name
    have hperm' : (t.plan.name :: others.map (·.plan.name)).Perm (done.map (·.name)) := by
      simpa [Function.comp_def, TunnelConfig.plan] using hplans.map (·.name)
    have hfresh := (List.nodup_cons.1 (hperm'.nodup_iff.2 hnames)).1
    rw [hreports]
    rcases List.mem_cons.1 (hperm.subset hu) with rfl | hu
    · rw [if_pos rfl, hself]
    · have hne : t.plan.name ≠ u.plan.name := fun heq =>
        hfresh (heq ▸ List.mem_map_of_mem hu)
      rw [if_neg hne, List.append_nil, hothers u hu]
  drained := hdrained

/-- A tunnel that was started does something and reports it. -/
theorem replace (h : m.Accounts env settings done departed) (hnames : (done.map (·.name)).Nodup)
    (hbefore : (m.managed.map (·.tunnel)).Perm (t :: others))
    (hafter : (m'.managed.map (·.tunnel)).Perm (t' :: others)) (hplan : t'.plan = t.plan)
    (hevents : t'.events = t.events ++ news)
    (hreports : ∀ name, m'.journal.eventsOf name =
      m.journal.eventsOf name ++ if t.plan.name = name then news else [])
    (hsurroundings : m'.surroundings = m.surroundings) :
    m'.Accounts env settings done departed := by
  have hall := everyone_perm departed hbefore
  rw [← hplan] at hreports
  refine of_report (everyone_perm departed hafter) (hsurroundings.trans h.surroundings) ?_ hnames
    (fun u hu => h.events u (hall.symm.subset (List.mem_cons_of_mem _ hu))) ?_ hreports h.drained
  · rw [hplan]
    exact (hall.map _).symm.trans h.plans
  · rw [hplan, h.events t (hall.symm.subset List.mem_cons_self), hevents]

theorem orphans_eq (h : m.Accounts env settings done departed) : m.orphans = [] :=
  congrArg (·.2.2) h.surroundings

/-- The next tunnel is started. -/
theorem launch (h : m.Accounts env settings done departed)
    (hnames : ((done ++ [c]).map (·.name)).Nodup) (hname : c.name ∉ m.names)
    (hsilent : m.journal.eventsOf c.name = []) (now : ℕ) (listener : Listener) :
    (m.launch now c listener).Accounts env settings (done ++ [c]) departed := by
  obtain ⟨rfl, rfl, -⟩ : m.settings = settings ∧ m.env = env ∧ m.orphans = [] := by
    simpa [Manager.surroundings] using h.surroundings
  refine of_report (everyone_perm departed (managed_launch hname now listener)) ?_ ?_ hnames
    h.events ?_ (eventsOf_launch m now c listener) h.drained
  · rw [Manager.launch, insert_of_not_mem (x := ⟨c, _⟩) hname]
    exact h.surroundings
  · refine (h.plans.cons (c.plan m.settings m.env)).trans ?_
    rw [List.map_append]
    exact (List.perm_append_singleton ..).symm
  · exact (congrArg (· ++ _) hsilent).trans (List.nil_append _)

end Accounts

/-- Under its name no other tunnel is changed. -/
theorem tunnels_setTunnelAt {x : Managed} {pre post : List Managed}
    (hsplit : m.tunnels = pre ++ x :: post) (hnodup : m.names.Nodup) (t : Tunnel) :
    (m.setTunnelAt (.running x.config.name) t).tunnels =
      pre ++ { x with tunnel := t } :: post := by
  rw [names, hsplit, List.map_append, List.map_cons] at hnodup
  have hfresh := (List.nodup_middle.1 hnodup).notMem
  rw [← List.map_append] at hfresh
  have hkeep : ∀ y ∈ pre ++ post,
      (if y.config.name = x.config.name then { y with tunnel := t } else y) = y :=
    fun y hy => if_neg (ne_of_mem_of_not_mem (List.mem_map_of_mem hy) hfresh)
  obtain ⟨hpre, hpost⟩ := List.forall_mem_append.1 hkeep
  rw [setTunnelAt, hsplit, List.map_append, List.map_cons, if_pos rfl,
    List.map_congr_left hpre, List.map_congr_left hpost, List.map_id', List.map_id']

/-- Of all tunnels that a manager has, one does something by itself and reports it. -/
theorem Stepped.exists_of_act {place : Place} {work : Tunnel.Action}
    (hs : m.Stepped now (.act place work) m') (hnodup : m.names.Nodup) (horphans : m.orphans = []) :
    ∃ t t' others news, (m.managed.map (·.tunnel)).Perm (t :: others) ∧
      (m'.managed.map (·.tunnel)).Perm (t' :: others) ∧ t'.plan = t.plan ∧
      t'.events = t.events ++ news ∧ m'.surroundings = m.surroundings ∧
      ∀ name, m'.journal.eventsOf name =
        m.journal.eventsOf name ++ if t.plan.name = name then news else [] := by
  cases hs with
  | @act _ _ t t' hplace howner hstep =>
    obtain ⟨news, hnews, -⟩ := hstep.turn
    have hplan := hstep.plan_eq
    rw [hnews, List.drop_left, hplan]
    cases place with
    | running name =>
      obtain ⟨x, hfind, rfl⟩ := Option.map_eq_some_iff.1 hplace
      obtain ⟨hx, rfl⟩ := find?_eq_some hfind
      obtain ⟨pre, post, hsplit⟩ := List.append_of_mem hx
      refine ⟨_, t', (pre ++ (post ++ m.hand.toList.map (·.managed))).map (·.tunnel), news, ?_, ?_,
        hplan, hnews, rfl, eventsOf_report _ _ _⟩
      · simp [managed, hsplit, List.perm_middle]
      · change (((m.setTunnelAt (.running x.config.name) t').tunnels ++
          m.hand.toList.map (·.managed)).map (·.tunnel)).Perm _
        rw [tunnels_setTunnelAt hsplit hnodup]
        simp [List.perm_middle]
    | inHand =>
      obtain ⟨hand, hhand, rfl⟩ := Option.map_eq_some_iff.1 hplace
      refine ⟨_, t', m.tunnels.map (·.tunnel), news, ?_, ?_, hplan, hnews, rfl,
        eventsOf_report _ _ _⟩
      · simp [managed, hhand, List.perm_append_singleton]
      · simp [managed, report, setTunnelAt, hhand, List.perm_append_singleton]
    | orphaned index => simp [tunnelAt?, horphans] at hplace

/-- What a tunnel does by itself leaves all tunnels accounted for, and concerns no others. -/
theorem Accounts.act {place : Place} {work : Tunnel.Action}
    (h : m.Accounts env settings done departed) (hnames : (done.map (·.name)).Nodup)
    (hsteady : m.Steady) (hs : m.Stepped now (.act place work) m') :
    m'.Accounts env settings done departed ∧
      ∀ name ∉ done.map (·.name), m'.journal.eventsOf name = m.journal.eventsOf name := by
  obtain ⟨t, t', others, news, hbefore, hafter, hplan, hevents, hsurroundings, hreports⟩ :=
    hs.exists_of_act hsteady.nodup_names h.orphans_eq
  refine ⟨h.replace hnames hbefore hafter hplan hevents hreports hsurroundings,
    fun name hname => ?_⟩
  have hmem : t ∈ m.everyone departed :=
    (everyone_perm departed hbefore).symm.subset List.mem_cons_self
  have hne : t.plan.name ≠ name :=
    ne_of_mem_of_not_mem (h.names_perm.subset (List.mem_map_of_mem hmem)) hname
  rw [hreports, if_neg hne, List.append_nil]

/-- The first tunnel is taken in hand to end. -/
theorem Accounts.close {x : Managed} {tunnels : List Managed}
    (h : m.Accounts env settings done departed) (hnames : (done.map (·.name)).Nodup)
    (hsteady : m.Steady) (hhand : m.hand = none) (htunnels : m.tunnels = x :: tunnels)
    (level : Level) (text : String) :
    ((m.log level text).shutDown x .close).Accounts env settings done departed := by
  have hnodup := hsteady.nodup_names
  rw [names, htunnels, List.map_cons, List.nodup_cons] at hnodup
  have herase : m.tunnels.filter (·.config.name ≠ x.config.name) = tunnels := by
    rw [htunnels, List.filter_cons_of_neg (by simp)]
    exact filter_name_eq_self hnodup.1
  have hbefore : (m.managed.map (·.tunnel)).Perm (x.tunnel :: tunnels.map (·.tunnel)) := by
    simp [managed, hhand, htunnels]
  have hafter : (((m.log level text).shutDown x .close).managed.map (·.tunnel)).Perm
      (x.tunnel.shutDown.getD x.tunnel :: tunnels.map (·.tunnel)) := by
    have hmanaged : ((m.log level text).shutDown x .close).managed =
        m.tunnels.filter (·.config.name ≠ x.config.name) ++
          [{ x with tunnel := x.tunnel.shutDown.getD x.tunnel }] := rfl
    rw [hmanaged, herase, List.map_append]
    exact List.perm_append_singleton ..
  obtain ⟨hplan, hevents⟩ := x.tunnel.shutDown_getD
  refine h.replace hnames hbefore hafter hplan (hevents.trans (List.append_nil _).symm)
    (fun name => ?_) rfl
  rw [ite_self, List.append_nil]
  exact eventsOf_log m level text name

/-- The tunnel in hand has come to its end. -/
theorem Accounts.closed {x : Managed} {errand : Errand}
    (h : m.Accounts env settings done departed) (hhand : m.hand = some ⟨x, errand⟩)
    (hsound : x.tunnel.Sound) (hclosed : x.tunnel.handle = .closed) :
    Accounts env settings done (departed ++ [x.tunnel]) { m with hand := none } := by
  have hmanaged : m.managed = m.tunnels ++ [x] := by simp [managed, hhand]
  have hperm : (everyone (departed ++ [x.tunnel]) { m with hand := none }).Perm
      (m.everyone departed) := by
    rw [everyone, everyone, hmanaged, List.map_append, List.append_assoc]
    refine List.Perm.append_left _ ?_
    simpa [managed] using (List.perm_append_singleton x.tunnel (m.tunnels.map (·.tunnel))).symm
  refine h.congr rfl hperm (fun _ _ => rfl) fun t ht => ?_
  rcases List.mem_append.1 ht with ht | ht
  · exact h.drained t ht
  · exact List.mem_singleton.1 ht ▸ hsound.drained_of_closed hclosed

end Manager

end Sluice
