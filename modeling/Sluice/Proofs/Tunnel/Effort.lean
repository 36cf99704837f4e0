import Sluice.Proofs.Relay.Effort
import Sluice.Proofs.Timer
import Sluice.Proofs.Tunnel.Lifecycle

/-!
# What a tunnel can still do by itself

Without its user, without clients and without bytes that come or go, a tunnel can do only so much at
an instant: requests are handed over, arrivals are taken, dials are given up, directions pay, report
and end.

* `Tunnel.Acts now t t'`: the tunnel does one thing by itself, and `Tunnel.Unaided now n t t'`: it
  does `n` of them;
* `Tunnel.effort t now`: a bound on what the tunnel can still do by itself at the instant `now`.
  `Tunnel.Stepped.effort_lt` shows that it sinks with everything that it does, so that
  `Tunnel.Unaided.add_effort_le` bounds the number of things.
-/

namespace Sluice

/-- A bound on what the owner can still do by itself. An attempt to listen comes before the tunnel
serves and before it waits again, and an arrival that is taken leads to a dial. -/
def Owner.effort (now : ℕ) : Owner → ℕ
  | .opening _ | .binding => 5
  | .dialing .. => 4
  | .serving => 3
  | .retrying deadline => if deadline ≤ now then 6 else 2
  | .ending => 1
  | .stopped => 0

/-- A bound on what the acceptor can still do by itself. -/
def Acceptor.effort : Acceptor → ℕ
  | .handing _ => 4
  | .accepting => 1
  | .ended => 0

theorem Tunnel.effort_afterHanding_le (arrival : Arrival) :
    (Tunnel.afterHanding arrival).effort ≤ 1 := by
  cases arrival <;> simp [Tunnel.afterHanding, Acceptor.effort]

namespace Tunnel

/-- The action needs neither the user nor a client, a remote or bytes. -/
def Action.isOwn : Action → Bool
  | .requestUpdate _ | .giveUp _ | .shutDown | .drop | .arrive _ | .endDial _ => false
  | .work _ _ own => own.isOwn
  | _ => true

/-- A direction that is to ask a limiter is awake. -/
def IsReady (t : Tunnel) (now : ℕ) : Action → Prop
  | .work id direction work => t.relay.IsReady now id direction work
  | _ => True

/-- The tunnel does one thing by itself. -/
def Acts (now : ℕ) (t t' : Tunnel) : Prop :=
  ∃ action, action.isOwn ∧ t.IsReady now action ∧ t.step now action = some t'

/-- The tunnel does some number of things by itself, all at one instant. -/
inductive Unaided (now : ℕ) : ℕ → Tunnel → Tunnel → Prop
  | refl {t : Tunnel} : Unaided now 0 t t
  | step {n : ℕ} {t t' t'' : Tunnel} (hacts : Acts now t t') (hrest : Unaided now n t' t'') :
      Unaided now (n + 1) t t''

/-- The requests for new limits, each of which is handed over and taken. -/
def pending (t : Tunnel) : ℕ := 2 * t.requests.length + t.update.toList.length

/-- A bound on what the owner and the acceptor can still do, new limits and connections apart. -/
def attention (t : Tunnel) (now : ℕ) : ℕ :=
  t.owner.effort now + t.acceptor.effort + 2 * t.arrival.toList.length

/-- A bound on what the tunnel can still do by itself. New limits wake up both directions of every
connection, and the end is reported once. -/
def effort (t : Tunnel) (now : ℕ) : ℕ :=
  t.pending * (2 * t.relay.connections.length + 1) + t.attention now + t.relay.effort now +
    (decide (t.handle = .closing)).toNat

variable {t t' : Tunnel} {now : ℕ} {action : Action}

/-- What the owner and the acceptor do takes off effort if it raises none elsewhere. -/
theorem effort_lt_of_attention (hless : t'.attention now < t.attention now)
    (hrelay : t'.relay.effort now ≤ t.relay.effort now)
    (hlength : t'.relay.connections.length = t.relay.connections.length)
    (hpending : t'.pending ≤ t.pending) (hhandle : t'.handle = t.handle) :
    t'.effort now < t.effort now := by
  have hmul := Nat.mul_le_mul_right (2 * t.relay.connections.length + 1) hpending
  simp only [effort, hlength, hhandle]
  omega

/-- What the directions and the queue of notices do takes off effort. -/
theorem effort_lt_of_relay (hless : t'.relay.effort now < t.relay.effort now)
    (hlength : t'.relay.connections.length = t.relay.connections.length)
    (hattention : t'.attention now = t.attention now) (hpending : t'.pending = t.pending)
    (hhandle : t'.handle = t.handle) : t'.effort now < t.effort now := by
  simp only [effort, hlength, hattention, hpending, hhandle]
  omega

/-- A request that is done with pays for all directions that it wakes up. -/
theorem effort_lt_of_pending (hless : t'.pending < t.pending)
    (hrelay : t'.relay.effort now ≤ t.relay.effort now + 2 * t.relay.connections.length)
    (hlength : t'.relay.connections.length = t.relay.connections.length)
    (hattention : t'.attention now = t.attention now) (hhandle : t'.handle = t.handle) :
    t'.effort now < t.effort now := by
  -- one request less is worth a step of each direction, and one step more
  have hmul := Nat.mul_le_mul_right (2 * t.relay.connections.length + 1) (Nat.succ_le_of_lt hless)
  rw [Nat.succ_mul] at hmul
  simp only [effort, hlength, hattention, hhandle]
  omega

/-- What belongs to a listener is closed without effort. -/
theorem effort_clear_le (t : Tunnel) (reason : CloseReason) (now : ℕ) :
    (t.clear reason).relay.effort now ≤ t.relay.effort now ∧
      (t.clear reason).relay.connections.length = t.relay.connections.length := by
  obtain ⟨heffort, hlength⟩ := t.relay.effort_closeAll reason now
  exact ⟨((t.relay.closeAll reason).effort_hangUp_le now).trans heffort.le, hlength⟩

/-- A wait to listen again is less than to serve. -/
theorem effort_retrying (h : 0 < t.plan.retryInterval.nanos) (now : ℕ) :
    (Owner.retrying (Timer.deadline now t.plan.retryInterval)).effort now = 2 := by
  rw [Owner.effort, if_neg (Timer.lt_deadline h now).not_ge]

/-- Everything that a tunnel does by itself takes off effort. Without an owner there is nothing to
wait for. -/
theorem Stepped.effort_lt (hs : t.Stepped now action t') (hbooks : t.Books)
    (hretry : t.owner ≠ .stopped → 0 < t.plan.retryInterval.nanos) (hown : action.isOwn)
    (hready : t.IsReady now action) : t'.effort now < t.effort now := by
  cases hs with
  | refuseUpdate | requestUpdate | giveUp | shutDown | drop | arrive | openConnection | failDial =>
    cases hown
  | finish hclosing hfinished =>
    simp [effort, attention, pending, hclosing, emit, Relay.emit, Relay.effort]
  | handUpdate hslot hrequests =>
    refine effort_lt_of_pending ?_ (Nat.le_add_right ..) rfl rfl rfl
    simp only [pending, hslot, hrequests, List.length_cons, Option.toList_some, Option.toList_none,
      List.length_nil]
    omega
  | discard hacceptor hreceiving =>
    refine effort_lt_of_attention ?_ le_rfl rfl le_rfl rfl
    simp [attention, hacceptor, Acceptor.effort]
  | @handArrival arrival hacceptor hreceiving hslot =>
    refine effort_lt_of_attention ?_ le_rfl rfl le_rfl rfl
    have hafter := effort_afterHanding_le arrival
    simp only [attention, hacceptor, hslot, Acceptor.effort.eq_1, Option.toList_some,
      Option.toList_none, List.length_singleton, List.length_nil]
    omega
  | retire hunneeded hacceptor =>
    refine effort_lt_of_attention ?_ le_rfl rfl le_rfl rfl
    cases hbefore : t.acceptor with
    | ended => exact absurd hbefore hacceptor
    | accepting | handing => simp [attention, hbefore, Acceptor.effort]
  | openFirst howner =>
    refine effort_lt_of_attention ?_ ?_ rfl le_rfl rfl
    · simp only [attention, howner, serve, Owner.effort, Acceptor.effort]
      simp
      omega
    · simp [serve, Relay.effort, NoticeQueue.renew]
  | announce howner harrival =>
    refine effort_lt_of_attention ?_ le_rfl rfl le_rfl rfl
    simp [attention, howner, harrival, Tunnel.announce, emit, Owner.effort]
    omega
  | @loseListener fault howner harrival =>
    -- the wait before the next attempt does not end at this instant
    obtain ⟨hrelay, hlength⟩ :=
      (t.emit (.acceptFailed fault.text)).effort_clear_le .listenerLost now
    refine effort_lt_of_attention ?_ hrelay hlength le_rfl rfl
    have hwait := effort_retrying (hretry (by simp [howner])) now
    simp only [attention, howner, harrival, Tunnel.loseListener, awaitRetry, clear, emit, hwait]
    simp [Owner.effort]
    omega
  | timeOutDial howner | abandonDial howner =>
    refine effort_lt_of_attention ?_ le_rfl rfl le_rfl rfl
    simp [attention, howner, Tunnel.failDial, Owner.effort, emit]
  | takeNotice howner hnotice =>
    obtain ⟨hless, hlength⟩ := Relay.effort_takeNotice hnotice now
    refine effort_lt_of_relay ?_ ?_ rfl rfl rfl
    · rwa [Relay.effort_close]
    · rwa [Relay.length_connections_close]
  | @takeUpdate u howner hupdate =>
    -- whoever waits at a limiter with another rate wakes up
    obtain ⟨f, hf, heq⟩ := t.apply_eq now u
    rw [heq]
    refine effort_lt_of_pending ?_ ?_ (List.length_map _) rfl rfl
    · simp [pending, hupdate]
    · exact t.relay.effort_map_limiter_le _ (fun c => (hf c).imp fun _ h => h.1) now
  | heed howner hshut =>
    refine effort_lt_of_attention ?_ le_rfl rfl le_rfl rfl
    rcases howner with howner | ⟨deadline, howner⟩
    · simp [attention, howner, Owner.effort, emit]
    · simp only [attention, howner, Owner.effort, emit]
      split <;> omega
  | stop howner =>
    obtain ⟨hrelay, hlength⟩ := t.effort_clear_le .shutdown now
    refine effort_lt_of_attention ?_ hrelay hlength (Nat.zero_le _) rfl
    simp only [attention, howner, clear, Owner.effort]
    simp
    omega
  | wake howner hdue =>
    refine effort_lt_of_attention ?_ le_rfl rfl le_rfl rfl
    simp [attention, howner, hdue, Owner.effort]
  | bound howner =>
    refine effort_lt_of_attention ?_ ?_ rfl le_rfl rfl
    · simp only [attention, howner, serve, emit, Owner.effort, Acceptor.effort]
      simp
      omega
    · simp [serve, emit, Relay.emit, Relay.effort, NoticeQueue.renew]
  | failBind howner =>
    refine effort_lt_of_attention ?_ le_rfl rfl le_rfl rfl
    have hwait := effort_retrying (hretry (by simp [howner])) now
    simp only [attention, howner, awaitRetry, emit, hwait]
    simp [Owner.effort]
  | work hwork =>
    have hless := hwork.effort_lt hbooks.relay.nodup hown hready
    exact effort_lt_of_relay hless hwork.length_connections rfl rfl rfl

/-- A tunnel that is left alone cannot do more than its effort. -/
theorem Unaided.add_effort_le {n : ℕ} (h : Unaided now n t t') (hbooks : t.Books)
    (hretry : 0 < t.plan.retryInterval.nanos) : n + t'.effort now ≤ t.effort now := by
  induction h with
  | refl => exact (Nat.zero_add _).le
  | @step n t t' t'' hacts _ ih =>
    obtain ⟨action, hown, hready, hstep⟩ := hacts
    have hs := stepped_of_step hstep
    have hless := hs.effort_lt hbooks (fun _ => hretry) hown hready
    have hrest := ih (hbooks.step hs) (hs.plan_eq ▸ hretry)
    omega

end Tunnel

end Sluice
