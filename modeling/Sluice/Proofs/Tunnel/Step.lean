import Mathlib.Data.Nat.Notation
import Sluice.Proofs.Relay.Workers
import Sluice.Proofs.Schedule
import Sluice.Tunnel.Step

/-!
# What one action does to a tunnel

* `Tunnel.Stepped t now action t'` lists every way in which an action happens, with the conditions
  under which it can happen and the tunnel that it leaves;
* `Tunnel.stepped_of_step`: there is no other way;
* `Tunnel.apply_eq`: what new limits do;
* `Tunnel.run_keeps`: what every action of a run keeps is kept by the run.
-/

namespace Sluice.Tunnel

/-- The tunnel `t'` is what the action leaves of the tunnel `t` at the instant `now`. -/
inductive Stepped (t : Tunnel) (now : ℕ) : Action → Tunnel → Prop
  -- the user
  | refuseUpdate {limits : Limits} (hheld : t.isShut = false) (howner : t.owner = .stopped) :
      Stepped t now (.requestUpdate limits)
        { t with
          calls := t.calls + 1
          answers := t.answers ++ [(t.calls, some .tunnelClosed)] }
  | requestUpdate {limits : Limits} (hheld : t.isShut = false) (howner : t.owner ≠ .stopped) :
      Stepped t now (.requestUpdate limits)
        { t with calls := t.calls + 1, requests := t.requests ++ [⟨some t.calls, limits⟩] }
  | giveUp {call : ℕ} : Stepped t now (.giveUp call) (t.giveUp call)
  | shutDown (hheld : t.isShut = false) : Stepped t now .shutDown { t with handle := .closing }
  | drop (hheld : t.isShut = false) : Stepped t now .drop { t with handle := .dropped }
  | finish (hclosing : t.handle = .closing) (hfinished : t.isFinished) :
      Stepped t now .finish { t.emit .stopped with handle := .closed }
  | handUpdate {u : Update} {rest : List Update} (hslot : t.update = none)
      (hrequests : t.requests = u :: rest) :
      Stepped t now .handUpdate { t with update := some u, requests := rest }
  -- the acceptor
  | arrive {arrival : Arrival} (hacceptor : t.acceptor = .accepting) :
      Stepped t now (.arrive arrival) { t with acceptor := .handing arrival }
  | discard {arrival : Arrival} (hacceptor : t.acceptor = .handing arrival)
      (hreceiving : t.isReceiving = false) :
      Stepped t now .handArrival { t with acceptor := .ended }
  | handArrival {arrival : Arrival} (hacceptor : t.acceptor = .handing arrival)
      (hreceiving : t.isReceiving) (hslot : t.arrival = none) :
      Stepped t now .handArrival
        { t with arrival := some arrival, acceptor := afterHanding arrival }
  | retire (hunneeded : t.isShut || !t.isReceiving) (hacceptor : t.acceptor ≠ .ended) :
      Stepped t now .retire { t with acceptor := .ended }
  -- the owner
  | openFirst {inService : Option Net.SocketAddress} (howner : t.owner = .opening inService) :
      Stepped t now .openFirst (t.serve inService)
  | announce {peer : Net.SocketAddress} (howner : t.owner = .serving)
      (harrival : t.arrival = some (.ok peer)) :
      Stepped t now .takeArrival (t.announce now peer)
  | loseListener {fault : Net.IoFault} (howner : t.owner = .serving)
      (harrival : t.arrival = some (.error fault)) :
      Stepped t now .takeArrival (t.loseListener now fault)
  | openConnection {id deadline : ℕ} {answer : Unit} (howner : t.owner = .dialing id deadline) :
      Stepped t now (.endDial (.ok answer))
        { t with owner := .serving, relay := t.relay.openConnection now id }
  | failDial {id deadline : ℕ} {fault : Net.IoFault} (howner : t.owner = .dialing id deadline) :
      Stepped t now (.endDial (.error fault))
        (t.failDial id (.connectionFailed t.plan.connectTo fault))
  | timeOutDial {id deadline : ℕ} (howner : t.owner = .dialing id deadline)
      (hdue : deadline ≤ now) :
      Stepped t now .timeOutDial (t.failDial id (.timeout t.plan.connectTimeout))
  | abandonDial {id deadline : ℕ} (howner : t.owner = .dialing id deadline) (hshut : t.isShut) :
      Stepped t now .abandonDial (t.failDial id .cancelled)
  | takeNotice {notice : Notice} {relay : Relay} (howner : t.owner = .serving)
      (hnotice : t.relay.takeNotice = some (notice, relay)) :
      Stepped t now .takeNotice { t with relay := relay.close notice.id (reasonOf notice) }
  | takeUpdate {u : Update}
      (howner : t.owner = .serving ∨ ∃ deadline, t.owner = .retrying deadline)
      (hupdate : t.update = some u) : Stepped t now .takeUpdate (t.apply now u)
  | heed (howner : t.owner = .serving ∨ ∃ deadline, t.owner = .retrying deadline)
      (hshut : t.isShut) :
      Stepped t now .heed
        { t.emit .shutdownStarted with phase := .shuttingDown, owner := .ending }
  | stop (howner : t.owner = .ending) :
      Stepped t now .stop
        { t.clear .shutdown with
          phase := .stopped
          owner := .stopped
          update := none
          requests := []
          answers := t.answers ++ refusals (t.update.toList ++ t.requests) }
  | wake {deadline : ℕ} (howner : t.owner = .retrying deadline) (hdue : deadline ≤ now) :
      Stepped t now .wake { t with owner := .binding }
  | bound {listener : Listener} (howner : t.owner = .binding) :
      Stepped t now (.bound (.ok listener))
        { (t.emit (.listenStarted listener.address)).serve listener.inService with
          address := listener.address }
  | failBind {fault : Net.IoFault} (howner : t.owner = .binding) :
      Stepped t now (.bound (.error fault)) ((t.emit (.listenFailed fault.text)).awaitRetry now)
  -- the directions
  | work {id : ℕ} {direction : Direction} {work : Relay.Work} {relay : Relay}
      (hwork : t.relay.Worked now id direction work relay) :
      Stepped t now (.work id direction work) { t with relay }

theorem owner_of_isFinished {t : Tunnel} (h : t.isFinished) : t.owner = .stopped := by
  simp only [isFinished, Bool.and_eq_true, decide_eq_true_eq] at h
  exact h.1.1

/-- An action happens in one of the ways that `Stepped` lists. -/
theorem stepped_of_step {t t' : Tunnel} {now : ℕ} {action : Action}
    (h : t.step now action = some t') : Stepped t now action t' := by
  cases action with
  | requestUpdate limits =>
    simp only [step, Tunnel.requestUpdate, Option.ite_none_left_eq_some, Bool.not_eq_true] at h
    obtain ⟨hheld, h⟩ := h
    split at h <;> cases h
    next howner => exact .refuseUpdate hheld howner
    next howner => exact .requestUpdate hheld howner
  | giveUp call =>
    cases h
    exact .giveUp
  | shutDown =>
    simp only [step, Tunnel.shutDown, Option.ite_none_left_eq_some, Bool.not_eq_true] at h
    obtain ⟨hheld, h⟩ := h
    cases h
    exact .shutDown hheld
  | drop =>
    simp only [step, Tunnel.drop, Option.ite_none_left_eq_some, Bool.not_eq_true] at h
    obtain ⟨hheld, h⟩ := h
    cases h
    exact .drop hheld
  | finish =>
    simp only [step, Tunnel.finish, Option.ite_none_right_eq_some, Bool.and_eq_true,
      decide_eq_true_eq] at h
    obtain ⟨⟨hclosing, hfinished⟩, h⟩ := h
    cases h
    exact .finish hclosing hfinished
  | handUpdate =>
    simp only [step, Tunnel.handUpdate] at h
    split at h
    next u rest hslot hrequests =>
      cases h
      exact .handUpdate hslot hrequests
    next => cases h
  | arrive arrival =>
    simp only [step, Tunnel.arrive] at h
    split at h
    next hacceptor =>
      cases h
      exact .arrive hacceptor
    next => cases h
  | handArrival =>
    simp only [step, Tunnel.handArrival] at h
    split at h
    next arrival hacceptor =>
      split at h
      next hreceiving =>
        cases h
        exact .discard hacceptor (by simpa using hreceiving)
      next hreceiving =>
        simp only [Option.ite_none_left_eq_some, Bool.not_eq_true, Option.isSome_eq_false_iff,
          Option.isNone_iff_eq_none] at h
        obtain ⟨hslot, h⟩ := h
        cases h
        exact .handArrival hacceptor (by simpa using hreceiving) hslot
    next => cases h
  | retire =>
    simp only [step, Tunnel.retire, Option.ite_none_right_eq_some] at h
    obtain ⟨hunneeded, h⟩ := h
    split at h
    next => cases h
    next hacceptor =>
      cases h
      exact .retire hunneeded hacceptor
  | openFirst =>
    simp only [step, Tunnel.openFirst] at h
    split at h
    next inService howner =>
      cases h
      exact .openFirst howner
    next => cases h
  | takeArrival =>
    simp only [step, Tunnel.takeArrival] at h
    split at h
    next peer howner harrival =>
      cases h
      exact .announce howner harrival
    next fault howner harrival =>
      cases h
      exact .loseListener howner harrival
    next => cases h
  | endDial result =>
    simp only [step, Tunnel.endDial] at h
    split at h
    next howner =>
      cases h
      exact .openConnection howner
    next howner =>
      cases h
      exact .failDial howner
    next => cases h
  | timeOutDial =>
    simp only [step, Tunnel.timeOutDial] at h
    split at h
    next howner =>
      obtain ⟨hdue, h⟩ := Option.ite_none_right_eq_some.1 h
      cases h
      exact .timeOutDial howner hdue
    next => cases h
  | abandonDial =>
    simp only [step, Tunnel.abandonDial] at h
    split at h
    next howner =>
      obtain ⟨hshut, h⟩ := Option.ite_none_right_eq_some.1 h
      cases h
      exact .abandonDial howner hshut
    next => cases h
  | takeNotice =>
    simp only [step, Tunnel.takeNotice] at h
    split at h
    next notice relay howner hnotice =>
      cases h
      exact .takeNotice howner hnotice
    next => cases h
  | takeUpdate =>
    simp only [step, Tunnel.takeUpdate] at h
    split at h
    next u howner hupdate =>
      cases h
      exact .takeUpdate (.inl howner) hupdate
    next deadline u howner hupdate =>
      cases h
      exact .takeUpdate (.inr ⟨deadline, howner⟩) hupdate
    next => cases h
  | heed =>
    simp only [step, Tunnel.heed] at h
    split at h
    next howner =>
      obtain ⟨hshut, h⟩ := Option.ite_none_right_eq_some.1 h
      cases h
      exact .heed (.inl howner) hshut
    next deadline howner =>
      obtain ⟨hshut, h⟩ := Option.ite_none_right_eq_some.1 h
      cases h
      exact .heed (.inr ⟨deadline, howner⟩) hshut
    next => cases h
  | stop =>
    simp only [step, Tunnel.stop] at h
    split at h
    next howner =>
      cases h
      exact .stop howner
    next => cases h
  | wake =>
    simp only [step, Tunnel.wake] at h
    split at h
    next deadline howner =>
      obtain ⟨hdue, h⟩ := Option.ite_none_right_eq_some.1 h
      cases h
      exact .wake howner hdue
    next => cases h
  | bound result =>
    simp only [step, Tunnel.bound] at h
    split at h
    next howner =>
      cases h
      exact .bound howner
    next howner =>
      cases h
      exact .failBind howner
    next => cases h
  | work id direction work =>
    obtain ⟨relay, hwork, rfl⟩ := Option.map_eq_some_iff.1 h
    exact .work (Relay.worked_of_work hwork)

/-- No action changes what the tunnel was built from. -/
theorem Stepped.plan_eq {t t' : Tunnel} {now : ℕ} {action : Action} (h : t.Stepped now action t') :
    t'.plan = t.plan := by
  cases h <;> rfl

/-- That the end was asked for cannot be undone. -/
theorem Stepped.stays_shut {t t' : Tunnel} {now : ℕ} {action : Action} (h : t.Stepped now action t')
    (hshut : t.isShut) : t'.isShut := by
  cases h with
  | shutDown | drop | finish => rfl
  | _ => exact hshut

/-- New limits change rates, answer the call and are reported, and nothing else happens. -/
theorem apply_eq (t : Tunnel) (now : ℕ) (u : Update) :
    ∃ f : Connection → Connection,
      (∀ c, ∃ l, f c = { c with limiter := l } ∧
        (c.id ∈ t.relay.active → l.rate = u.limits.connection)) ∧
      t.apply now u =
        { t with
          limits := u.limits
          update := none
          answers := t.answers ++ (u.call.map fun call => (call, none)).toList
          relay :=
            { t.relay with
              limiter := t.relay.limiter.setRate now u.limits.tunnel
              connectionLimit := u.limits.connection
              events := t.relay.events ++ [.limitsUpdated u.limits t.relay.active.length]
              connections := t.relay.connections.map f } } := by
  let rates := (t.relay.setTunnelRate now u.limits.tunnel).setDefaultRate u.limits.connection
  obtain ⟨f, hf, heq⟩ := rates.foldl_setConnectionRate_eq now u.limits.connection rates.active
  refine ⟨f, fun c => ?_, ?_⟩
  · obtain ⟨l, hl, hrate⟩ := hf c
    exact ⟨l, hl, fun hactive => hrate (.inl hactive)⟩
  · simp only [rates] at heq
    simp only [apply, heq, Relay.emit]
    rw [Relay.active_map_limiter _ fun c => (hf c).imp fun _ h => h.1]
    rfl

theorem active_apply (t : Tunnel) (now : ℕ) (u : Update) :
    (t.apply now u).relay.active = t.relay.active := by
  obtain ⟨f, hf, heq⟩ := t.apply_eq now u
  rw [heq]
  exact t.relay.active_map_limiter fun c => (hf c).imp fun _ h => h.1

theorem events_apply (t : Tunnel) (now : ℕ) (u : Update) :
    (t.apply now u).events = t.events ++ [.limitsUpdated u.limits t.relay.active.length] := by
  obtain ⟨f, -, heq⟩ := t.apply_eq now u
  rw [heq]
  rfl

/-- Whatever happens to a tunnel, every direction keeps a lasting property. -/
theorem Stepped.every {P : Worker → Prop} {t t' : Tunnel} {now : ℕ} {action : Action}
    (hs : t.Stepped now action t') (hP : Worker.Lasting P) (h : t.relay.Every P) :
    t'.relay.Every P := by
  cases hs with
  | openConnection howner => exact h.openConnection hP.new now _
  | takeNotice howner hnotice =>
    obtain ⟨rest, -, rfl⟩ := Relay.takeNotice_eq_some.1 hnotice
    have htake : (t.relay.withNotices rest).Every P := h
    exact htake.close _ _
  | @loseListener fault howner harrival =>
    have hemit : (t.relay.emit (.acceptFailed fault.text)).Every P := h
    exact hemit.closeAll .listenerLost
  | @takeUpdate u howner hupdate =>
    obtain ⟨f, hf, heq⟩ := t.apply_eq now u
    rw [heq]
    exact h.map_limiter fun c => (hf c).imp fun _ h => h.1
  | stop howner => exact h.closeAll .shutdown
  | work hwork => exact h.worked hP hwork
  | _ => exact h

/-- A run is the run of a schedule. -/
theorem run_eq (t : Tunnel) (actions : Schedule Action) :
    t.run actions = Schedule.run step t actions := by
  induction actions generalizing t with
  | nil => rfl
  | cons head rest ih =>
    simp only [run, List.foldlM_cons, Schedule.run]
    cases t.step head.1 head.2 with
    | none => rfl
    | some next => exact ih next

theorem run_cons_eq_some {t t' : Tunnel} {now : ℕ} {action : Action} {rest : List (ℕ × Action)} :
    t.run ((now, action) :: rest) = some t' ↔
      ∃ next, t.step now action = some next ∧ next.run rest = some t' := by
  rw [run, List.foldlM_cons]
  exact Option.bind_eq_some_iff

/-- What every action of a run keeps is kept by the run. -/
theorem run_keeps {motive : Tunnel → Prop} {t t' : Tunnel} {actions : List (ℕ × Action)}
    (hstep : ∀ t now action t', (now, action) ∈ actions → motive t → Stepped t now action t' →
      motive t') (h : motive t) (hrun : t.run actions = some t') : motive t' := by
  rw [run_eq] at hrun
  exact Schedule.run_keeps_of_mem
    (fun _ _ _ _ hmem h hnext => hstep _ _ _ _ hmem h (stepped_of_step hnext)) h hrun

/-- What an invariant of a run says of an action that happens, it says of all its actions. -/
theorem forall_mem_of_run {motive : Tunnel → Prop} {holds : Action → Prop} {t t' : Tunnel}
    {actions : List (ℕ × Action)}
    (hstep : ∀ t now action t', motive t → Stepped t now action t' → motive t' ∧ holds action)
    (h : motive t) (hrun : t.run actions = some t') : ∀ x ∈ actions, holds x.2 := by
  induction actions generalizing t with
  | nil => simp
  | cons head rest ih =>
    obtain ⟨next, hnext, hrest⟩ := run_cons_eq_some.1 hrun
    obtain ⟨hmotive, hhead⟩ := hstep _ _ _ _ h (stepped_of_step hnext)
    exact List.forall_mem_cons.2 ⟨hhead, ih hmotive hrest⟩

end Sluice.Tunnel
