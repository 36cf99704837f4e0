import Sluice.Proofs.Relay.Books
import Sluice.Proofs.Tunnel.Step

/-!
# The lifecycle of connections

In whatever order clients arrive, dials end, directions report, limits change, listeners fail and
the end is asked for, the events of a tunnel tell one story of each connection.

* `Owner.dialing?` is the client that the owner is dialing;
* `Tunnel.Books`: the books of the relay are kept, and a tunnel whose owner is gone has no active
  connection. `Tunnel.Books.step` says that every action keeps them;
* `Tunnel.lifecycle_of_run`: in every run the events obey the law of connections, and the counters
  count events.
-/

namespace Sluice

open Event (openedId? closedId?)

/-- The client that the owner is dialing. -/
def Owner.dialing? : Owner → Option ℕ
  | .dialing id _ => some id
  | _ => none

namespace Tunnel

variable {t t' : Tunnel} {now : ℕ} {action : Action}

/-- The events, the counters and the connections of a tunnel agree, and nothing is active any more
when the owner is gone. -/
structure Books (t : Tunnel) : Prop where
  relay : t.relay.Books t.accepted t.owner.dialing?
  stopped : t.owner = .stopped → t.relay.active = []

theorem books_start (plan : TunnelPlan) (now : ℕ) (listener : Listener) :
    (start plan now listener).Books :=
  ⟨⟨rfl, rfl, rfl, rfl⟩, fun h => by cases h⟩

namespace Books

/-- An action of the owner that leaves it in place is a matter of the relay alone. -/
theorem of_relay (h : t'.relay.Books t'.accepted t'.owner.dialing?) (howner : t'.owner ≠ .stopped) :
    t'.Books :=
  ⟨h, fun hstopped => absurd hstopped howner⟩

/-- The books of the relay, when it is known what the owner does. -/
theorem relay_of_owner {owner : Owner} (h : t.Books) (howner : t.owner = owner) :
    t.relay.Books t.accepted owner.dialing? := by
  rw [← howner]
  exact h.relay

theorem clear (h : t.Books) (reason : CloseReason) :
    (t.clear reason).relay.Books t.accepted t.owner.dialing? ∧
      (t.clear reason).relay.active = [] := by
  obtain ⟨hbooks, hactive⟩ := h.relay.closeAll reason
  exact ⟨hbooks.congr rfl rfl rfl rfl rfl, hactive⟩

theorem failDial {id deadline : ℕ} (h : t.Books) (howner : t.owner = .dialing id deadline)
    (error : TunnelError) : (t.failDial id error).Books := by
  refine of_relay ((h.relay_of_owner howner).emit rfl ?_) (by simp [Tunnel.failDial])
  simp [Ledger.record, Owner.dialing?, Tunnel.failDial, Tunnel.emit]

/-- The loss of a listener closes every connection, before the wait is announced. -/
theorem loseListener (h : t.Books) (howner : t.owner = .serving) (now : ℕ) (fault : Net.IoFault) :
    (t.loseListener now fault).Books := by
  have hemit : (t.emit (.acceptFailed fault.text)).Books :=
    of_relay (h.relay.emit_of_isNeutral rfl) (by simp [emit, howner])
  have hrelay := (hemit.clear .listenerLost).1
  rw [show (t.emit _).owner = .serving from howner] at hrelay
  exact of_relay (hrelay.emit_of_isNeutral rfl) (by simp [Tunnel.loseListener, awaitRetry])

/-- The loss of a listener reports every connection that was active, and then the wait. -/
theorem events_loseListener (h : t.Books) (now : ℕ) (fault : Net.IoFault) :
    (t.loseListener now fault).events = t.events ++ .acceptFailed fault.text ::
      (t.relay.active.map (.connectionClosed · .listenerLost) ++
        [.listenRetryScheduled t.plan.retryInterval]) := by
  have hn : (t.relay.emit (.acceptFailed fault.text)).ids.Nodup := h.relay.nodup
  calc (t.loseListener now fault).events
      = ((t.relay.emit (.acceptFailed fault.text)).closeAll .listenerLost).events ++
          [.listenRetryScheduled t.plan.retryInterval] := rfl
    _ = _ := by
        rw [Relay.events_closeAll_eq hn, Relay.emit, events]
        simp [Relay.active]

theorem apply (h : t.Books) (howner : t.owner ≠ .stopped) (now : ℕ) (u : Update) :
    (t.apply now u).Books := by
  have hrates : Relay.Books
      ((t.relay.setTunnelRate now u.limits.tunnel).setDefaultRate u.limits.connection)
      t.accepted t.owner.dialing? := h.relay.congr rfl rfl rfl rfl rfl
  exact of_relay ((hrates.foldl_setConnectionRate _ now u.limits.connection).emit_of_isNeutral rfl)
    howner

/-- Every action keeps the books. -/
theorem step (h : t.Books) (hs : t.Stepped now action t') : t'.Books := by
  cases hs with
  | refuseUpdate | requestUpdate | giveUp | shutDown | drop | handUpdate | arrive | discard
  | handArrival | retire => exact ⟨h.relay, h.stopped⟩
  | finish hclosing hfinished =>
    -- the owner is gone, so that the end may be announced
    have howner := owner_of_isFinished hfinished
    have hactive := h.stopped howner
    refine ⟨h.relay.emit rfl ?_, fun _ => hactive⟩
    simp [Ledger.record, hactive, emit]
  | openFirst howner =>
    exact of_relay ((h.relay_of_owner howner).congr rfl rfl rfl rfl rfl) (by simp [serve])
  | announce howner harrival =>
    -- an owner that serves dials nobody, and the number is the next one
    refine of_relay ((h.relay_of_owner howner).emit rfl ?_) (by simp [announce])
    simp [Ledger.record, Owner.dialing?, announce]
  | loseListener howner harrival => exact h.loseListener howner now _
  | openConnection howner =>
    exact of_relay ((h.relay_of_owner howner).openConnection now) (by simp)
  | failDial howner => exact h.failDial howner _
  | timeOutDial howner hdue => exact h.failDial howner _
  | abandonDial howner hshut => exact h.failDial howner _
  | takeNotice howner hnotice =>
    obtain ⟨rest, -, rfl⟩ := Relay.takeNotice_eq_some.1 hnotice
    -- the notice may be late, and then closing has no effect
    exact of_relay ((h.relay.withNotices rest).close _ _).1 (by simp [howner])
  | takeUpdate howner hupdate =>
    refine h.apply ?_ now _
    rcases howner with howner | ⟨deadline, howner⟩ <;> simp [howner]
  | heed howner hshut =>
    have hrelay : t.relay.Books t.accepted none := by
      rcases howner with howner | ⟨deadline, howner⟩ <;> exact h.relay_of_owner howner
    exact of_relay (hrelay.emit_of_isNeutral rfl) (by simp)
  | stop howner =>
    -- everything is closed before the owner is gone
    obtain ⟨hrelay, hactive⟩ := h.clear .shutdown
    rw [howner] at hrelay
    exact ⟨hrelay, fun _ => hactive⟩
  | wake howner hdue =>
    have hrelay := h.relay_of_owner howner
    exact of_relay hrelay (by simp)
  | @bound listener howner =>
    have hemit := (h.relay_of_owner howner).emit_of_isNeutral
      (e := .listenStarted listener.address) rfl
    exact of_relay (hemit.congr rfl rfl rfl rfl rfl) (by simp [serve])
  | @failBind fault howner =>
    have hemit := (h.relay_of_owner howner).emit_of_isNeutral
      (e := .listenFailed fault.text) rfl
    exact of_relay (hemit.emit_of_isNeutral rfl) (by simp [awaitRetry])
  | work hwork =>
    exact ⟨h.relay.worked hwork, fun hstopped => hwork.active_eq.trans (h.stopped hstopped)⟩

/-- Every run keeps the books. -/
theorem run {actions : List (ℕ × Action)} (h : t.Books) (hrun : t.run actions = some t') :
    t'.Books :=
  run_keeps (fun _ _ _ _ _ hbooks hstep => hbooks.step hstep) h hrun

end Books

/-- The counters count events. -/
theorem Books.counters (h : t.Books) :
    t.counters.total = .ofNat (t.events.filterMap openedId?).length ∧
      (t.events.filterMap closedId?).length ≤ (t.events.filterMap openedId?).length ∧
      t.counters.active =
        .ofNat ((t.events.filterMap openedId?).length - (t.events.filterMap closedId?).length) := by
  have hlength := (Ledger.agrees_of_replay h.relay.replay).opened.length_eq
  rw [List.length_append] at hlength
  refine ⟨?_, by simp only [events]; omega, ?_⟩
  · rw [events, h.relay.opened]
    exact h.relay.total
  · rw [events, hlength, Nat.add_sub_cancel_left]
    exact h.relay.active

/-- In every run the events obey the law of connections; the counter of all connections is the
number of connections opened, and the counter of active connections the number of those that were
opened and not closed. -/
theorem lifecycle_of_run {plan : TunnelPlan} {listener : Listener} {first : ℕ}
    {actions : List (ℕ × Action)} (hrun : (start plan first listener).run actions = some t) :
    Lifecycle t.events t.owner.dialing? ∧
      t.counters.total = .ofNat (t.events.filterMap openedId?).length ∧
      (t.events.filterMap closedId?).length ≤ (t.events.filterMap openedId?).length ∧
      t.counters.active =
        .ofNat ((t.events.filterMap openedId?).length - (t.events.filterMap closedId?).length) := by
  have hbooks := (books_start plan first listener).run hrun
  exact ⟨Ledger.lifecycle hbooks.relay.replay, hbooks.counters⟩

/-- The first client cannot be served and the second one can; then the listener is lost and found
again, and the tunnel is shut down. -/
def twoClients : List (ℕ × Action) :=
  [(0, .openFirst), (0, .arrive (.ok ⟨.v4 10 0 0 1, 4000, 0⟩)), (0, .handArrival),
    (0, .takeArrival), (3000000, .timeOutDial),
    (3000000, .arrive (.ok ⟨.v4 10 0 0 2, 4000, 0⟩)), (3000000, .handArrival),
    (3000000, .takeArrival), (4000000, .endDial (.ok ())),
    (4000000, .arrive (.error .writeZero)), (4000000, .handArrival), (4000000, .takeArrival),
    (9000000, .wake), (9000000, .bound (.ok (.stable ⟨.v4 127 0 0 1, 80, 0⟩))),
    (9000000, .work 2 .upstream (.forward .heed)),
    (9000000, .work 2 .upstream (.forward (.shut none))), (9000000, .work 2 .upstream .conclude),
    (9000000, .work 2 .downstream (.forward .heed)),
    (9000000, .work 2 .downstream (.forward (.shut none))),
    (9000000, .work 2 .downstream .conclude), (9000000, .shutDown), (9000000, .heed),
    (9000000, .retire), (9000000, .stop), (9000000, .finish)]

theorem lifecycle_of_twoClients :
    ∃ t, (start ⟨"web", "in", "out", ⟨1000, 500⟩, .ofMillis 5, .ofMillis 3⟩ 0
          (.stable ⟨.v4 127 0 0 1, 80, 0⟩)).run twoClients = some t ∧
      Lifecycle t.events none ∧ t.counters.total = 1 ∧ t.counters.active = 0 := by
  have hrun : (start ⟨"web", "in", "out", ⟨1000, 500⟩, .ofMillis 5, .ofMillis 3⟩ 0
      (.stable ⟨.v4 127 0 0 1, 80, 0⟩)).run twoClients = some _ := rfl
  exact ⟨_, hrun, (lifecycle_of_run hrun).1, rfl, rfl⟩

end Tunnel

end Sluice
