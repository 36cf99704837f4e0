import Sluice.Proofs.Schedule
import Sluice.Proofs.Tunnel.Chronicle
import Sluice.Proofs.Tunnel.Lifecycle

/-!
# The phases of a tunnel

The phase that the user sees follows the owner: from listening to waiting and back as listeners are
lost and found, and from either of them to the end, of which there is no way back.

* `Phase.Moves` lists the phases that can follow one another, and `Phase.Lawful phases` is the law
  of the phases of a run;
* `Phase.Fits phase events` is the law of the events about listeners and service, in that phase;
* `Tunnel.Shown owner events phase`: the phase shows what the owner does, and `Tunnel.Stepped.shown`
  says that every action is shown;
* `Tunnel.phases_of_run`: the phases and the events of every run obey their laws.
-/

namespace Sluice

open Event (listenerEvents lastStarted?)
open ListenerEvent (law Awaiting)
open Net (SocketAddress)

/-- The event is one of a tunnel in service: of its listeners, of clients that get connections, or
of new limits. -/
def Event.isOfService : Event → Bool
  | .listenStarted .. | .listenFailed .. | .listenRetryScheduled .. | .acceptFailed ..
  | .connectionAccepted .. | .dialFailed .. | .connectionOpened .. | .limitsUpdated .. => true
  | _ => false

theorem Event.not_isOfService_of_isOfEnd {e : Event} (h : e.isOfEnd) : e.isOfService = false := by
  cases e <;> first | rfl | cases h

namespace Phase

/-- The phase can be followed by another one. -/
inductive Moves : Phase → Phase → Prop
  | lose {address : SocketAddress} : Moves (.listening address) .retrying
  | wait : Moves .retrying .retrying
  | recover {address : SocketAddress} : Moves .retrying (.listening address)
  | leave {phase : Phase} (hphase : phase = .retrying ∨ ∃ address, phase = .listening address) :
      Moves phase .shuttingDown
  | stop : Moves .shuttingDown .stopped

/-- The phases go on as they are, or one follows another. -/
def Follows (phase next : Phase) : Prop := phase = next ∨ phase.Moves next

/-- The law of the phases that a tunnel goes through. -/
structure Lawful (phases : List Phase) : Prop where
  /-- A tunnel listens first. -/
  head : ∃ address, phases.head? = some (.listening address)
  /-- One phase follows another. -/
  chain : phases.IsChain Follows
  /-- Before a tunnel is stopped it shuts down, and afterwards it stays so. -/
  stopped : ∀ before after, phases = before ++ .stopped :: after →
    .shuttingDown ∈ before ∧ ∀ phase ∈ after, phase = .stopped

/-- The law of the events so far, when the tunnel is in the given phase. -/
structure Fits (phase : Phase) (events : List Event) : Prop where
  /-- Clients can connect at the address of the last listener that was put into service. -/
  address : ∀ address, phase = .listening address → lastStarted? events = some address
  /-- Listeners are lost and found in turn. -/
  listeners : listenerEvents events ∈ law.matches' ∨ Awaiting (listenerEvents events)
  /-- Nothing is served any more after the tunnel began to shut down. -/
  quiet : ∀ before after, events = before ++ .shutdownStarted :: after →
    ∀ e ∈ after, e.isOfService = false

variable {phase next : Phase} {phases before after : List Phase}

theorem Follows.eq_of_stopped (h : Follows .stopped next) : next = .stopped := by
  rcases h with rfl | hmoves
  · rfl
  · cases hmoves with
    | leave hphase => rcases hphase with hphase | ⟨_, hphase⟩ <;> cases hphase

/-- Only a tunnel that shuts down gets stopped. -/
theorem Follows.eq_shuttingDown (h : phase.Follows .stopped) (hphase : phase ≠ .stopped) :
    phase = .shuttingDown := by
  rcases h with rfl | hmoves
  · exact absurd rfl hphase
  · cases hmoves
    rfl

theorem eq_stopped_of_isChain (h : (Phase.stopped :: phases).IsChain Follows) :
    ∀ phase ∈ phases, phase = .stopped := by
  induction phases with
  | nil => exact fun _ hmem => nomatch hmem
  | cons next rest ih =>
    obtain ⟨hnext, hrest⟩ := List.isChain_cons_cons.1 h
    obtain rfl := hnext.eq_of_stopped
    exact List.forall_mem_cons.2 ⟨rfl, ih hrest⟩

/-- Before a tunnel is stopped it shuts down. -/
theorem shuttingDown_mem_of_isChain (hphase : phase ≠ .stopped)
    (h : (phase :: (before ++ .stopped :: after)).IsChain Follows) :
    .shuttingDown ∈ phase :: before := by
  induction before generalizing phase with
  | nil =>
    have hnext := (List.isChain_cons_cons.1 h).1
    rw [hnext.eq_shuttingDown hphase]
    exact List.mem_cons_self
  | cons next rest ih =>
    obtain ⟨hnext, hrest⟩ := List.isChain_cons_cons.1 h
    by_cases hstopped : next = .stopped
    · rw [hstopped] at hnext
      rw [hnext.eq_shuttingDown hphase]
      exact List.mem_cons_self
    · exact List.mem_cons_of_mem _ (ih hstopped hrest)

/-- Phases that follow one another from the first one on obey the law. -/
theorem lawful_of_isChain {address : SocketAddress}
    (h : (Phase.listening address :: phases).IsChain Follows) :
    Lawful (.listening address :: phases) where
  head := ⟨address, rfl⟩
  chain := h
  stopped before after heq := by
    cases before with
    | nil => cases heq
    | cons first before =>
      rw [List.cons_append, List.cons_eq_cons] at heq
      obtain ⟨rfl, rfl⟩ := heq
      refine ⟨shuttingDown_mem_of_isChain (by simp) h, ?_⟩
      rw [← List.cons_append] at h
      exact eq_stopped_of_isChain h.right_of_append

end Phase

namespace Tunnel

/-- A listener with which an attempt to listen ends is stable. -/
def Action.IsStable : Action → Prop
  | .bound (.ok listener) => listener.IsStable
  | _ => True

/-- The phases that a tunnel goes through, its own first. -/
def phases (t : Tunnel) (actions : Schedule Action) : List Phase :=
  t.phase :: (Schedule.trail step phase t actions).map (·.2)

/-- The phase that the user sees shows what the owner does. -/
inductive Shown : Owner → List Event → Phase → Prop
  | listening {owner : Owner} {address : SocketAddress} {events : List Event}
      (howner : owner.isListening)
      (hopening : ∀ inService, owner = .opening inService → inService = some address)
      (haddress : lastStarted? events = some address) : Shown owner events (.listening address)
  | waiting {owner : Owner} {events : List Event} (howner : owner.isWaiting) :
      Shown owner events .retrying
  | ending {events : List Event} : Shown .ending events .shuttingDown
  | stopped {events : List Event} : Shown .stopped events .stopped

variable {t t' : Tunnel} {now : ℕ} {action : Action} {owner owner' : Owner} {phase phase' : Phase}
  {events news : List Event}

namespace Shown

/-- Events that are not about listeners change no phase. -/
theorem append (h : Shown owner events phase) (hnews : ∀ e ∈ news, e.listenerEvent? = none) :
    Shown owner (events ++ news) phase := by
  cases h with
  | listening howner hopening haddress =>
    exact .listening howner hopening ((Event.lastStarted?_append_of_forall hnews).trans haddress)
  | waiting howner => exact .waiting howner
  | ending => exact .ending
  | stopped => exact .stopped

/-- The owner goes on with the same listener. -/
theorem listening_of (h : Shown owner events phase) (howner : owner.isListening)
    (howner' : owner' = .serving ∨ ∃ id deadline, owner' = .dialing id deadline) :
    Shown owner' events phase := by
  cases h with
  | listening _ _ haddress =>
    rcases howner' with rfl | ⟨_, _, rfl⟩ <;> exact .listening rfl (by simp) haddress
  | waiting hwaiting => cases owner <;> first | cases howner; done | cases hwaiting
  | ending | stopped => cases howner

theorem eq_retrying (h : Shown owner events phase) (howner : owner.isWaiting) :
    phase = .retrying := by
  cases h with
  | listening hlistening => cases owner <;> first | cases howner; done | cases hlistening
  | waiting => rfl
  | ending | stopped => cases howner

/-- The listener is lost. -/
theorem follows_retrying (h : Shown owner events phase)
    (howner : owner = .serving ∨ owner.isWaiting) : phase.Follows .retrying := by
  rcases howner with rfl | howner
  · cases h with
    | listening => exact .inr .lose
    | waiting hwaiting => cases hwaiting
  · exact .inl (h.eq_retrying howner)

/-- The end can begin at any time. -/
theorem follows_shuttingDown (h : Shown owner events phase)
    (howner : owner = .serving ∨ ∃ deadline, owner = .retrying deadline) :
    phase.Follows .shuttingDown := by
  cases h with
  | listening => exact .inr (.leave (.inr ⟨_, rfl⟩))
  | waiting => exact .inr (.leave (.inl rfl))
  | ending | stopped => rcases howner with howner | ⟨_, howner⟩ <;> cases howner

/-- Every turn of the owner is shown, and the phase after it follows the one before it. -/
theorem turn (h : Shown owner events phase)
    (hturn : Turn action owner phase news owner' phase') (hstable : action.IsStable) :
    Shown owner' (events ++ news) phase' ∧ phase.Follows phase' := by
  cases hturn with
  | aside hnews =>
    refine ⟨h.append fun e he => ?_, .inl rfl⟩
    exact Event.listenerEvent?_of_isOfEnd (Event.isOfEnd_of_isOfDirection (hnews e he))
  | finish => exact ⟨h.append (by simp [Event.listenerEvent?]), .inl rfl⟩
  | announce =>
    exact ⟨(h.append (by simp [Event.listenerEvent?])).listening_of rfl (.inr ⟨_, _, rfl⟩),
      .inl rfl⟩
  | openConnection | failDial =>
    exact ⟨(h.append (by simp [Event.listenerEvent?])).listening_of rfl (.inl rfl), .inl rfl⟩
  | takeNotice hnews =>
    refine ⟨h.append fun e he => ?_, .inl rfl⟩
    obtain ⟨id, rfl⟩ := hnews e he
    rfl
  | takeUpdate howner => exact ⟨h.append (by simp [Event.listenerEvent?]), .inl rfl⟩
  | openFirst =>
    -- the listener still reports the address that the user sees
    rw [List.append_nil]
    cases h with
    | listening howner hopening haddress =>
      rw [hopening _ rfl]
      exact ⟨.listening rfl (by simp) haddress, .inl rfl⟩
    | waiting howner => cases howner
  | loseListener => exact ⟨.waiting rfl, h.follows_retrying (.inl rfl)⟩
  | wake =>
    obtain rfl := h.eq_retrying rfl
    exact ⟨.waiting rfl, .inl rfl⟩
  | bound =>
    -- the listener reports an address when it comes into service, as it is stable
    obtain rfl := h.eq_retrying rfl
    rw [show _ = some _ from hstable]
    exact ⟨.listening rfl (by simp) (Event.lastStarted?_concat ..), .inr .recover⟩
  | failBind => exact ⟨.waiting rfl, h.follows_retrying (.inr rfl)⟩
  | heed howner => exact ⟨.ending, h.follows_shuttingDown howner⟩
  | stop =>
    cases h with
    | listening howner => cases howner
    | waiting howner => cases howner
    | ending => exact ⟨.stopped, .inr .stop⟩

end Shown

theorem shown_start (plan : TunnelPlan) (first : ℕ) {listener : Listener}
    (hstable : listener.IsStable) :
    Shown (start plan first listener).owner (start plan first listener).events
      (start plan first listener).phase :=
  .listening rfl (fun _ heq => (Owner.opening.inj heq) ▸ hstable) rfl

/-- Every action is shown. -/
theorem Stepped.shown (hs : t.Stepped now action t') (hstable : action.IsStable)
    (h : Shown t.owner t.events t.phase) :
    Shown t'.owner t'.events t'.phase ∧ t.phase.Follows t'.phase := by
  obtain ⟨news, hnews, hturn⟩ := hs.turn
  rw [hnews]
  exact h.turn hturn hstable

/-- The phases of a run follow one another. -/
theorem isChain_phases {actions : Schedule Action} (hactions : ∀ x ∈ actions, x.2.IsStable)
    (h : Shown t.owner t.events t.phase) : (t.phases actions).IsChain Phase.Follows := by
  rw [phases]
  refine Schedule.isChain_trail (fun t => Shown t.owner t.events t.phase) ?_ h
  intro t now action t' hmem h hs
  exact (stepped_of_step hs).shown (hactions _ hmem) h

/-- A phase that is shown and a chronicle fit together. -/
theorem fits_of_shown (hshown : Shown owner events phase) (h : Chronicle owner events) :
    phase.Fits events where
  address address hphase := by
    subst hphase
    cases hshown with
    | listening _ _ haddress => exact haddress
  listeners := h.listeners
  quiet before after hsplit e he :=
    Event.not_isOfService_of_isOfEnd ((h.isOfEnd_of_split hsplit).2 e he)

/-- In every run whose listeners are stable, the phases follow one another from listening to the
end, and the phase and the events fit together at any time. -/
theorem phases_of_run {plan : TunnelPlan} {listener : Listener} {first : ℕ}
    {actions : List (ℕ × Action)} (hlistener : listener.IsStable)
    (hactions : ∀ x ∈ actions, x.2.IsStable)
    (hrun : (start plan first listener).run actions = some t) :
    Phase.Lawful ((start plan first listener).phases actions) ∧ t.phase.Fits t.events := by
  have hstart := shown_start plan first hlistener
  have hend : Shown t.owner t.events t.phase ∧ Chronicle t.owner t.events := by
    refine run_keeps
      (motive := fun t => Shown t.owner t.events t.phase ∧ Chronicle t.owner t.events)
      (fun t now action t' hmem h hs => ?_) ⟨hstart, chronicle_start plan first listener⟩ hrun
    exact ⟨(hs.shown (hactions _ hmem) h.1).1, hs.chronicle h.2⟩
  exact ⟨Phase.lawful_of_isChain (isChain_phases hactions hstart), fits_of_shown hend.1 hend.2⟩

/-- The tunnel with two clients goes through all phases. -/
theorem phases_of_twoClients :
    ∃ t, (start ⟨"web", "in", "out", ⟨1000, 500⟩, .ofMillis 5, .ofMillis 3⟩ 0
          (.stable ⟨.v4 127 0 0 1, 80, 0⟩)).run twoClients = some t ∧
      Phase.Lawful ((start ⟨"web", "in", "out", ⟨1000, 500⟩, .ofMillis 5, .ofMillis 3⟩ 0
          (.stable ⟨.v4 127 0 0 1, 80, 0⟩)).phases twoClients) ∧
      t.phase = .stopped ∧ Phase.stopped.Fits t.events := by
  have hlistener : (Listener.stable ⟨.v4 127 0 0 1, 80, 0⟩).IsStable := rfl
  have hactions : ∀ x ∈ twoClients, x.2.IsStable := by
    simp [twoClients, Action.IsStable, Listener.IsStable, Listener.stable]
  have hrun : (start ⟨"web", "in", "out", ⟨1000, 500⟩, .ofMillis 5, .ofMillis 3⟩ 0
      (.stable ⟨.v4 127 0 0 1, 80, 0⟩)).run twoClients = some _ := rfl
  obtain ⟨hlawful, hfits⟩ := phases_of_run hlistener hactions hrun
  exact ⟨_, hrun, hlawful, rfl, hfits⟩

end Tunnel

end Sluice
