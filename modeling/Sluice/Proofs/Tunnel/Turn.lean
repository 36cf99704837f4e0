import Sluice.Proofs.Tunnel.Step

/-!
# What one action does to the owner

Of all that an action does, the phase and the record of events depend on the owner alone.

* `Tunnel.Turn action owner phase news owner' phase'`: what an action can do to the owner and the
  phase, and the events that it adds to the record;
* `Tunnel.Stepped.turn`: every action does that.
-/

namespace Sluice.Tunnel

open Net (SocketAddress)

/-- The action leads from one state of the owner and the phase to another one and reports `news`. -/
inductive Turn : Action → Owner → Phase → List Event → Owner → Phase → Prop
  -- the other parties, who report nothing but the ends of directions
  | aside {action : Action} {owner : Owner} {phase : Phase} {news : List Event}
      (hnews : ∀ e ∈ news, e.isOfDirection) : Turn action owner phase news owner phase
  | finish {phase : Phase} : Turn .finish .stopped phase [.stopped] .stopped phase
  -- clients and their connections
  | announce {phase : Phase} {peer : SocketAddress} {id deadline : ℕ} :
      Turn .takeArrival .serving phase [.connectionAccepted id peer] (.dialing id deadline) phase
  | openConnection {action : Action} {phase : Phase} {id deadline : ℕ} {limit : UInt64} :
      Turn action (.dialing id deadline) phase [.connectionOpened id limit] .serving phase
  | failDial {action : Action} {phase : Phase} {id deadline : ℕ} {remote error : String} :
      Turn action (.dialing id deadline) phase [.dialFailed id remote error] .serving phase
  | takeNotice {phase : Phase} {news : List Event} {reason : CloseReason}
      (hnews : ∀ e ∈ news, ∃ id, e = .connectionClosed id reason) :
      Turn .takeNotice .serving phase news .serving phase
  | takeUpdate {owner : Owner} {phase : Phase} {limits : Limits} {count : ℕ}
      (howner : owner = .serving ∨ ∃ deadline, owner = .retrying deadline) :
      Turn .takeUpdate owner phase [.limitsUpdated limits count] owner phase
  -- listeners
  | openFirst {phase : Phase} {inService : Option SocketAddress} :
      Turn .openFirst (.opening inService) phase [] .serving
        ((inService.map .listening).getD phase)
  | loseListener {phase : Phase} {closes : List Event} {error : String} {delay : Duration}
      {deadline : ℕ} (hcloses : ∀ e ∈ closes, ∃ id, e = .connectionClosed id .listenerLost) :
      Turn .takeArrival .serving phase
        (.acceptFailed error :: (closes ++ [.listenRetryScheduled delay])) (.retrying deadline)
        .retrying
  | wake {phase : Phase} {deadline : ℕ} :
      Turn .wake (.retrying deadline) phase [] .binding phase
  | bound {phase : Phase} {listener : Listener} :
      Turn (.bound (.ok listener)) .binding phase [.listenStarted listener.address] .serving
        ((listener.inService.map .listening).getD phase)
  | failBind {action : Action} {phase : Phase} {error : String} {delay : Duration} {deadline : ℕ} :
      Turn action .binding phase [.listenFailed error, .listenRetryScheduled delay]
        (.retrying deadline) .retrying
  -- the end
  | heed {owner : Owner} {phase : Phase}
      (howner : owner = .serving ∨ ∃ deadline, owner = .retrying deadline) :
      Turn .heed owner phase [.shutdownStarted] .ending .shuttingDown
  | stop {phase : Phase} {closes : List Event}
      (hcloses : ∀ e ∈ closes, ∃ id, e = .connectionClosed id .shutdown) :
      Turn .stop .ending phase closes .stopped .stopped

variable {t t' : Tunnel} {now : ℕ} {action : Action}

/-- A listener that is lost takes its connections with it, and the wait is announced at the end. -/
theorem turn_loseListener (t : Tunnel) (now : ℕ) (fault : Net.IoFault) (phase : Phase) :
    ∃ news, (t.loseListener now fault).events = t.events ++ news ∧
      Turn .takeArrival .serving phase news (t.loseListener now fault).owner .retrying := by
  obtain ⟨closes, hcloses, hlost⟩ :=
    (t.relay.emit (.acceptFailed fault.text)).events_closeAll .listenerLost
  refine ⟨.acceptFailed fault.text :: (closes ++ [.listenRetryScheduled t.plan.retryInterval]), ?_,
    .loseListener fun e he => (hlost e he).imp fun _ h => h.2⟩
  calc (t.loseListener now fault).events
      = ((t.relay.emit (.acceptFailed fault.text)).closeAll .listenerLost).events ++
          [.listenRetryScheduled t.plan.retryInterval] := rfl
    _ = t.events ++ (.acceptFailed fault.text ::
          (closes ++ [.listenRetryScheduled t.plan.retryInterval])) := by
        rw [hcloses, Relay.emit, events]
        simp

/-- What any action does to the owner, to the phase and to the record of events. -/
theorem Stepped.turn (h : t.Stepped now action t') :
    ∃ news, t'.events = t.events ++ news ∧ Turn action t.owner t.phase news t'.owner t'.phase := by
  cases h with
  | refuseUpdate | requestUpdate | giveUp | shutDown | drop | handUpdate | arrive | discard
  | handArrival | retire => exact ⟨[], (List.append_nil _).symm, .aside (by simp)⟩
  | finish hclosing hfinished =>
    refine ⟨[.stopped], rfl, ?_⟩
    simp only [emit]
    rw [owner_of_isFinished hfinished]
    exact .finish
  | openFirst howner =>
    rw [howner]
    exact ⟨[], (List.append_nil _).symm, .openFirst⟩
  | announce howner harrival =>
    rw [howner]
    exact ⟨_, rfl, .announce⟩
  | loseListener howner harrival =>
    rw [howner]
    exact t.turn_loseListener now _ t.phase
  | openConnection howner =>
    rw [howner]
    exact ⟨_, rfl, .openConnection⟩
  | failDial howner | timeOutDial howner | abandonDial howner =>
    rw [howner]
    exact ⟨_, rfl, .failDial⟩
  | @takeNotice notice relay howner hnotice =>
    obtain ⟨rest, -, rfl⟩ := Relay.takeNotice_eq_some.1 hnotice
    obtain ⟨news, hnews, hclosed⟩ :=
      (t.relay.withNotices rest).events_close notice.id (reasonOf notice)
    rw [howner]
    exact ⟨news, hnews, .takeNotice fun e he => ⟨notice.id, hclosed e he⟩⟩
  | takeUpdate howner hupdate => exact ⟨_, t.events_apply now _, .takeUpdate howner⟩
  | heed howner hshut => exact ⟨_, rfl, .heed howner⟩
  | stop howner =>
    obtain ⟨closes, hcloses, hshutdown⟩ := t.relay.events_closeAll .shutdown
    rw [howner]
    exact ⟨closes, hcloses, .stop fun e he => (hshutdown e he).imp fun _ h => h.2⟩
  | wake howner hdue =>
    rw [howner]
    exact ⟨[], (List.append_nil _).symm, .wake⟩
  | bound howner =>
    rw [howner]
    exact ⟨_, rfl, .bound⟩
  | failBind howner =>
    rw [howner]
    exact ⟨_, List.append_assoc _ [_] [_], .failBind⟩
  | work hwork =>
    obtain ⟨news, hnews, hdirection⟩ := hwork.events
    exact ⟨news, hnews, .aside hdirection⟩

end Sluice.Tunnel
