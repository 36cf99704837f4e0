import Sluice.Proofs.Tunnel.Causes

/-!
# The isolation of connections

What happens to one connection never closes another one, nor does it cancel its forwarders.

* `Tunnel.Action.Closes`: the actions that can close a connection;
* `Tunnel.Action.Touches`: the actions that can change it at all;
* `Tunnel.Stepped.closes_of_not_mem` and `Tunnel.Stepped.find?_eq`: there are no others;
* `Tunnel.takeNotice_of_not_mem`: a notice that comes too late has no effect;
* `Tunnel.isolated_of_run`: in every run, closes have their causes and connections are isolated.
-/

namespace Sluice

namespace Relay

variable {relay relay' : Relay} {now id other : ℕ} {direction : Direction} {action : Work}

/-- A forwarder of an active connection works as one that is not cancelled. -/
theorem Worked.uncancelled {action : Forward.Action} (hn : relay.ids.Nodup)
    (hw : relay.Worked now id direction (.forward action) relay') (hid : id ∈ relay.active) :
    ∃ c f move, relay.find? id = some c ∧ c.worker direction = .forwarding f ∧
      f.step [relay.limiter, c.limiter] false now action = some move ∧
      relay'.worker? id direction = some (.forwarding move.forward) := by
  obtain ⟨c, hc, rfl, hopen⟩ := mem_active.1 hid
  cases hw with
  | @forward _ f after action tunnel own _ _ hfound hworker hstep =>
    cases (find?_of_mem hn hc).symm.trans hfound
    rw [hopen] at hstep
    refine ⟨c, f, _, hfound, hworker, hstep, ?_⟩
    exact worker?_setWorker_limiter hfound direction (.forwarding after) own

end Relay

namespace Tunnel

variable {t t' : Tunnel} {now id : ℕ} {action : Action}

/-- The action can close the connection: the owner takes a notice about it, or takes the news that
the listener is lost, or leaves. -/
def Action.Closes (t : Tunnel) (id : ℕ) : Action → Prop
  | .takeNotice => ∃ notice rest, t.relay.queue.notices = notice :: rest ∧ notice.id = id
  | .takeArrival => ∃ fault, t.arrival = some (.error fault)
  | .stop => True
  | _ => False

/-- The action can change the connection: it can close it, or its own directions work, or it gets
another limit. -/
def Action.Touches (t : Tunnel) (id : ℕ) : Action → Prop
  | .work other _ _ => other = id
  | .takeUpdate => True
  | action => action.Closes t id

/-- Nothing else closes a connection. -/
theorem Stepped.closes_of_not_mem (hs : t.Stepped now action t') (hbooks : t.Books)
    (hid : id ∈ t.relay.active) (hclosed : id ∉ t'.relay.active) : action.Closes t id := by
  cases hs with
  | loseListener howner harrival => exact ⟨_, harrival⟩
  | openConnection howner =>
    rw [Relay.active_openConnection] at hclosed
    exact absurd (List.mem_append_left _ hid) hclosed
  | @takeNotice notice relay howner hnotice =>
    obtain ⟨rest, hrest, rfl⟩ := Relay.takeNotice_eq_some.1 hnotice
    refine ⟨notice, rest, hrest, ?_⟩
    -- a notice closes the connection with its number, and numbers are not used twice
    by_contra hne
    have htaken := hbooks.relay.withNotices rest
    rw [(htaken.close notice.id (reasonOf notice)).2] at hclosed
    exact hclosed ((List.mem_erase_of_ne (Ne.symm hne)).2 hid)
  | @takeUpdate u howner hupdate =>
    obtain ⟨f, hf, heq⟩ := t.apply_eq now u
    rw [heq] at hclosed
    have hactive := t.relay.active_map_limiter fun c => (hf c).imp fun _ h => h.1
    exact absurd ((congrArg (id ∈ ·) hactive).mpr hid) hclosed
  | stop howner => trivial
  | work hwork => exact absurd (hwork.active_eq ▸ hid) hclosed
  | _ => exact absurd hid hclosed

/-- Nothing else changes a connection. -/
theorem Stepped.find?_eq (hs : t.Stepped now action t') (hid : id ∈ t.relay.ids)
    (hn : ¬ action.Touches t id) : t'.relay.find? id = t.relay.find? id := by
  cases hs with
  | loseListener howner harrival => exact absurd ⟨_, harrival⟩ hn
  | openConnection howner => exact Relay.find?_openConnection hid now _
  | @takeNotice notice relay howner hnotice =>
    obtain ⟨rest, hrest, rfl⟩ := Relay.takeNotice_eq_some.1 hnotice
    have hne : id ≠ notice.id := fun heq => hn ⟨notice, rest, hrest, heq.symm⟩
    exact Relay.find?_close_of_ne _ hne _
  | takeUpdate howner hupdate => exact absurd trivial hn
  | stop howner => exact absurd trivial hn
  | work hwork => exact hwork.find?_eq (Ne.symm hn)
  | _ => rfl

/-- A notice about a connection that is not active is taken, and nothing else happens. -/
theorem takeNotice_of_not_mem {notice : Notice} {rest : List Notice}
    (hnotices : t.relay.queue.notices = notice :: rest) (hid : notice.id ∉ t.relay.active)
    (h : t.step now .takeNotice = some t') :
    t' = { t with relay := t.relay.withNotices rest } := by
  cases stepped_of_step h with
  | takeNotice howner htake =>
    obtain ⟨rest', hrest, rfl⟩ := Relay.takeNotice_eq_some.1 htake
    cases hnotices.symm.trans hrest
    rw [Relay.close_of_not_mem (by rwa [Relay.active_withNotices])]

/-- The closes so far have their causes, and the connections are isolated from one another. -/
structure Isolated (book : Relay.Logbook) (t : Tunnel) : Prop where
  /-- The cause of every close is on record before it. -/
  explained : ∀ before id reason after,
    t.events = before ++ .connectionClosed id reason :: after → reason.Holds (book id) before id
  /-- A connection is closed for its own sake, or because all are. -/
  closes : ∀ now action t', t.step now action = some t' →
    ∀ id ∈ t.relay.active, id ∉ t'.relay.active → action.Closes t id
  /-- What does not concern a connection leaves it as it is. -/
  find?_eq : ∀ now action t', t.step now action = some t' →
    ∀ id ∈ t.relay.ids, ¬ action.Touches t id → t'.relay.find? id = t.relay.find? id
  /-- The forwarders of an active connection are not cancelled: whatever happens to one of them
  happens as it does to a forwarder that is not. -/
  uncancelled : ∀ now id direction action t',
    t.step now (.work id direction (.forward action)) = some t' → id ∈ t.relay.active →
      ∃ c f move, t.relay.find? id = some c ∧ c.worker direction = .forwarding f ∧
        f.step [t.relay.limiter, c.limiter] false now action = some move ∧
        t'.relay.worker? id direction = some (.forwarding move.forward)
  /-- A notice about a connection that is not active changes nothing and reports nothing. -/
  stale : ∀ now notice rest t', t.relay.queue.notices = notice :: rest →
    notice.id ∉ t.relay.active → t.step now .takeNotice = some t' →
      t' = { t with relay := t.relay.withNotices rest }

/-- At any time of any run, with any number of connections, the closes so far have their causes, and
the connections are isolated from one another. -/
theorem isolated_of_run {plan : TunnelPlan} {listener : Listener} {first : ℕ}
    {actions : List (ℕ × Action)} (hrun : (start plan first listener).run actions = some t) :
    Isolated ((start plan first listener).logbook actions) t := by
  -- the reasons for closes rest on the books and on the order of the events of a lifetime
  have hkept : t.Books ∧ Chronicle t.owner t.events ∧
      Attributed ((start plan first listener).logbook actions) t := by
    rw [run_eq] at hrun
    refine Schedule.record_keeps
      (fun (book : Relay.Logbook) t => t.Books ∧ Chronicle t.owner t.events ∧ Attributed book t)
      (fun book t now action t' h hs => ?_)
      ⟨books_start plan first listener, chronicle_start plan first listener,
        attributed_start plan first listener⟩ hrun
    obtain ⟨hbooks, hchronicle, hattributed⟩ := h
    have hstepped := stepped_of_step hs
    exact ⟨hbooks.step hstepped, hstepped.chronicle hchronicle,
      hstepped.attributed hattributed hbooks hchronicle⟩
  obtain ⟨hbooks, -, hattributed⟩ := hkept
  exact {
    explained := hattributed.explained
    closes := fun _ _ _ hs _ hid hclosed =>
      (stepped_of_step hs).closes_of_not_mem hbooks hid hclosed
    find?_eq := fun _ _ _ hs _ hid hn => (stepped_of_step hs).find?_eq hid hn
    uncancelled := fun _ _ _ _ _ hs hid => by
      cases stepped_of_step hs with
      | work hwork => exact hwork.uncancelled hbooks.relay.nodup hid
    stale := fun _ _ _ _ hnotices hid hs => takeNotice_of_not_mem hnotices hid hs }

/-- The first connection carries one byte upstream and ends well; both directions of the second one
end, one of them with a fault, so that its second notice comes too late; the third one loses its
listener; and the fourth one is still open when the tunnel shuts down. -/
def fourCloses : List (ℕ × Action) :=
  [(0, .openFirst),
    (0, .arrive (.ok ⟨.v4 10 0 0 1, 4000, 0⟩)), (0, .handArrival), (0, .takeArrival),
    (0, .endDial (.ok ())),
    (0, .arrive (.ok ⟨.v4 10 0 0 2, 4000, 0⟩)), (0, .handArrival), (0, .takeArrival),
    (0, .endDial (.ok ())),
    (0, .arrive (.ok ⟨.v4 10 0 0 3, 4000, 0⟩)), (0, .handArrival), (0, .takeArrival),
    (0, .endDial (.ok ())),
    (1000000, .work 1 .upstream (.forward (.received [7]))),
    (1000000, .work 1 .upstream (.forward .pay)), (1000000, .work 1 .upstream (.forward .pay)),
    (1000000, .work 2 .downstream (.forward (.readFailed .writeZero))),
    (1000000, .work 2 .downstream (.forward (.shut none))),
    (1000000, .work 1 .upstream (.forward (.took 1))),
    (2000000, .work 1 .upstream (.forward (.received []))),
    (2000000, .work 1 .upstream (.forward (.shut none))), (2000000, .work 1 .upstream .conclude),
    (2000000, .work 1 .upstream .announce), (2000000, .work 2 .downstream .conclude),
    (2000000, .work 2 .downstream .announce),
    (2000000, .work 2 .upstream (.forward (.received []))),
    (2000000, .work 2 .upstream (.forward (.shut none))), (2000000, .work 2 .upstream .conclude),
    (2000000, .work 2 .upstream .announce),
    (3000000, .takeNotice), (3000000, .takeNotice), (3000000, .takeNotice),
    (4000000, .arrive (.error .writeZero)), (4000000, .handArrival), (4000000, .takeArrival),
    (9000000, .wake), (9000000, .bound (.ok (.stable ⟨.v4 127 0 0 1, 80, 0⟩))),
    (9000000, .arrive (.ok ⟨.v4 10 0 0 4, 4000, 0⟩)), (9000000, .handArrival),
    (9000000, .takeArrival), (9000000, .endDial (.ok ())),
    (9000000, .shutDown), (9000000, .heed), (9000000, .stop)]

theorem isolated_of_fourCloses :
    ∃ t, (start ⟨"web", "in", "out", ⟨1000, 500⟩, .ofMillis 5, .ofMillis 3⟩ 0
          (.stable ⟨.v4 127 0 0 1, 80, 0⟩)).run fourCloses = some t ∧
      t.events.filter (·.closedId?.isSome) =
        [.connectionClosed 1 .completed,
          .connectionClosed 2 (.failed (TunnelError.io .writeZero).message),
          .connectionClosed 3 .listenerLost, .connectionClosed 4 .shutdown] ∧
      Isolated ((start ⟨"web", "in", "out", ⟨1000, 500⟩, .ofMillis 5, .ofMillis 3⟩ 0
          (.stable ⟨.v4 127 0 0 1, 80, 0⟩)).logbook fourCloses) t := by
  have hrun : (start ⟨"web", "in", "out", ⟨1000, 500⟩, .ofMillis 5, .ofMillis 3⟩ 0
      (.stable ⟨.v4 127 0 0 1, 80, 0⟩)).run fourCloses = some _ := rfl
  exact ⟨_, hrun, rfl, isolated_of_run hrun⟩

end Tunnel

end Sluice
