import Sluice.Proofs.Relay.Payment
import Sluice.Proofs.Tunnel.Lifecycle

/-!
# The bandwidth of a tunnel

All bytes that a tunnel hands over, in both directions of all connections that it ever had, were
debited before at the limiter of the tunnel, and those of one connection at the limiter of that
connection. Both limiters keep their account whatever happens to the tunnel, so that what is handed
over is bounded by one burst and the periods of constant rate.

* `Tunnel.delivered`, `Tunnel.deliveredBy`: the bytes that an action hands over;
* `Tunnel.metered`, `Tunnel.meteredBy`: a tunnel is metered by its limiter, and each connection by
  its own;
* `Tunnel.delivered_le_allowance`: the bound.
-/

namespace Sluice.Tunnel

open Limiter (Change Metered allowance rateOf)

/-- The number of bytes that an action hands over. -/
def delivered (t : Tunnel) (now : ℕ) : Action → ℕ
  | .work id direction work => (t.relay.delivered now id direction work).length
  | _ => 0

/-- The number of bytes that an action hands over for one connection. -/
def deliveredBy (id : ℕ) (t : Tunnel) (now : ℕ) : Action → ℕ
  | .work other direction work =>
    if id = other then (t.relay.delivered now other direction work).length else 0
  | _ => 0

/-- The rate of the limiter of a connection, and `0` as long as there is no such connection. -/
def connectionRate (id : ℕ) (t : Tunnel) : UInt64 := rateOf (t.relay.limiterOf id)

variable {t t' : Tunnel} {now start last : ℕ} {action : Action}

/-- The action is one of a direction. -/
def Action.isOfDirection : Action → Bool
  | .work .. => true
  | _ => false

theorem delivered_of_not_isOfDirection (h : action.isOfDirection = false) :
    t.delivered now action = 0 := by
  cases action <;> first | rfl | cases h

theorem deliveredBy_of_not_isOfDirection (id : ℕ) (h : action.isOfDirection = false) :
    deliveredBy id t now action = 0 := by
  cases action <;> first | rfl | cases h

/-- What an action means for payments: a direction works, or nothing is paid and handed over, and
there may be a new connection or new rates. -/
theorem Stepped.flow (h : t.Stepped now action t') :
    (∃ id direction work, action = .work id direction work ∧
        t.relay.Worked now id direction work t'.relay) ∨
      action.isOfDirection = false ∧
        (t.relay.Idle t'.relay ∨
          (∃ id, t.owner.dialing? = some id ∧ t'.relay = t.relay.openConnection now id) ∨
          ∃ u, t'.relay = (t.apply now u).relay) := by
  cases h with
  | work hwork => exact .inl ⟨_, _, _, rfl, hwork⟩
  | openConnection howner => exact .inr ⟨rfl, .inr (.inl ⟨_, by rw [howner]; rfl, rfl⟩)⟩
  | @takeUpdate u howner hupdate => exact .inr ⟨rfl, .inr (.inr ⟨u, rfl⟩)⟩
  | @loseListener fault howner harrival =>
    have hemit : t.relay.Idle (t.relay.emit (.acceptFailed fault.text)) := .of_eq rfl rfl
    exact .inr ⟨rfl, .inl ((hemit.trans (.closeAll _ .listenerLost)).trans (.of_eq rfl rfl))⟩
  | stop howner =>
    exact .inr ⟨rfl, .inl ((Relay.Idle.closeAll t.relay .shutdown).trans (.of_eq rfl rfl))⟩
  | @takeNotice notice relay howner hnotice =>
    obtain ⟨rest, -, rfl⟩ := Relay.takeNotice_eq_some.1 hnotice
    have htake : t.relay.Idle (t.relay.withNotices rest) := .of_eq rfl rfl
    exact .inr ⟨rfl, .inl (htake.trans (.close _ notice.id (reasonOf notice)))⟩
  | _ => exact .inr ⟨rfl, .inl (.of_eq rfl rfl)⟩

/-! ## New limits -/

theorem change_apply (t : Tunnel) (now : ℕ) (u : Update) :
    Change now (some t.relay.limiter) 0 (some (t.apply now u).relay.limiter) ∧
      (t.apply now u).relay.prepaid = t.relay.prepaid := by
  obtain ⟨hlimiter, hprepaid, -⟩ := Relay.prepaid_foldl_setConnectionRate
    ((t.relay.setTunnelRate now u.limits.tunnel).setDefaultRate u.limits.connection) now
    u.limits.connection t.relay.active
  have hrate : (t.apply now u).relay.limiter = t.relay.limiter.setRate now u.limits.tunnel :=
    hlimiter
  rw [hrate]
  exact ⟨.rated t.relay.limiter u.limits.tunnel, hprepaid⟩

theorem changeOf_apply (hb : t.Books) (now : ℕ) (u : Update) (id : ℕ) :
    Change now (t.relay.limiterOf id) 0 ((t.apply now u).relay.limiterOf id) ∧
      (t.apply now u).relay.prepaidOf id = t.relay.prepaidOf id := by
  obtain ⟨-, -, hprepaid⟩ := Relay.prepaid_foldl_setConnectionRate
    ((t.relay.setTunnelRate now u.limits.tunnel).setDefaultRate u.limits.connection) now
    u.limits.connection t.relay.active
  -- an active connection gets the new rate once, because it occurs once among the active ones
  have hrate : (t.apply now u).relay.limiterOf id =
      if id ∈ t.relay.active then (t.relay.limiterOf id).map (·.setRate now u.limits.connection)
      else t.relay.limiterOf id :=
    Relay.limiterOf_foldl_setConnectionRate
      ((t.relay.setTunnelRate now u.limits.tunnel).setDefaultRate u.limits.connection) now
      u.limits.connection (hb.relay.nodup.sublist t.relay.active_sublist_ids) id
  refine ⟨?_, hprepaid id⟩
  rw [hrate]
  split
  · cases t.relay.limiterOf id with
    | none => exact .absent
    | some l => exact .rated l u.limits.connection
  · exact .of_eq rfl

/-! ## Payments -/

/-- What an action hands over is paid at the limiter of the tunnel. -/
theorem Stepped.pays (h : t.Stepped now action t') (hb : t.Books) :
    ∃ n, Change now (some t.relay.limiter) n (some t'.relay.limiter) ∧
      t.delivered now action + t'.relay.prepaid ≤ t.relay.prepaid + n := by
  rcases h.flow with ⟨id, direction, work, rfl, hwork⟩ | ⟨hfree, hflow⟩
  · obtain ⟨n, hdebits, hle⟩ := hwork.pays hb.relay.nodup
    exact ⟨n, .debited hdebits, hle⟩
  rw [delivered_of_not_isOfDirection hfree, Nat.zero_add]
  rcases hflow with hidle | ⟨id, -, hrelay⟩ | ⟨u, hrelay⟩
  · exact ⟨0, .of_eq (congrArg some hidle.limiter), hidle.prepaid.le⟩
  · rw [hrelay]
    exact ⟨0, .of_eq rfl, (t.relay.prepaid_openConnection now id).le⟩
  · rw [hrelay]
    obtain ⟨hchange, hprepaid⟩ := t.change_apply now u
    exact ⟨0, hchange, hprepaid.le⟩

/-- What an action hands over for a connection is paid at the limiter of the connection. -/
theorem Stepped.paysOf (h : t.Stepped now action t') (hb : t.Books) (id : ℕ) :
    ∃ n, Change now (t.relay.limiterOf id) n (t'.relay.limiterOf id) ∧
      deliveredBy id t now action + t'.relay.prepaidOf id ≤ t.relay.prepaidOf id + n := by
  rcases h.flow with ⟨other, direction, work, rfl, hwork⟩ | ⟨hfree, hflow⟩
  · exact hwork.paysOf hb.relay.nodup id
  rw [deliveredBy_of_not_isOfDirection id hfree, Nat.zero_add]
  rcases hflow with hidle | ⟨opened, hdialing, hrelay⟩ | ⟨u, hrelay⟩
  · exact ⟨0, .of_eq (hidle.limiterOf id), (hidle.prepaidOf id).le⟩
  · have hbooks := hb.relay
    rw [hdialing] at hbooks
    -- the number is new, so that the limiter is made now
    have hnew : t.relay.find? opened = none := Relay.find?_eq_none hbooks.not_mem_ids
    rw [hrelay, Relay.limiterOf_openConnection hnew, Relay.prepaidOf_openConnection hnew]
    refine ⟨0, ?_, le_rfl⟩
    split
    next heq =>
      rw [Relay.limiterOf, heq, hnew]
      exact .made t.relay.connectionLimit
    next => exact .of_eq rfl
  · rw [hrelay]
    obtain ⟨hchange, hprepaid⟩ := changeOf_apply hb now u id
    exact ⟨0, hchange, hprepaid.le⟩

/-- All that a tunnel hands over is paid at its limiter. -/
theorem metered : Metered step (fun t => some t.relay.limiter) (fun t => t.relay.prepaid) delivered
    Books where
  step_inv hb h := hb.step (stepped_of_step h)
  step_pays hb h := (stepped_of_step h).pays hb

/-- All that a tunnel hands over for a connection is paid at the limiter of the connection. -/
theorem meteredBy (id : ℕ) : Metered step (fun t => t.relay.limiterOf id)
    (fun t => t.relay.prepaidOf id) (deliveredBy id) Books where
  step_inv hb h := hb.step (stepped_of_step h)
  step_pays hb h := (stepped_of_step h).paysOf hb id

/-- In every run a tunnel hands over at most one burst and the quotas of the periods of constant
rate, and so does each connection with the rates of its own limiter. -/
theorem delivered_le_allowance (plan : TunnelPlan) (listener : Listener)
    {actions : Schedule Action} (ho : Schedule.InOrder start actions last) :
    Schedule.total step delivered (Tunnel.start plan start listener) actions ≤
        chunkSize + allowance start plan.limits.tunnel
          (Schedule.trail step (fun t => t.relay.limiter.rate) (Tunnel.start plan start listener)
            actions) last ∧
      ∀ id, Schedule.total step (deliveredBy id) (Tunnel.start plan start listener) actions ≤
        chunkSize + allowance start 0
          (Schedule.trail step (connectionRate id) (Tunnel.start plan start listener) actions)
          last := by
  have hbooks := books_start plan start listener
  constructor
  · have hroom : 0 + max 1 (UInt32.ofNat chunkSize).toNat ≤ chunkSize := by decide
    have haccount := (Limiter.sound_make start plan.limits.tunnel (.ofNat chunkSize)).covered
      le_rfl hroom
    have htotal := metered.add_total_le hbooks haccount ho
    rw [Nat.zero_add] at htotal
    exact htotal
  · intro id
    -- there is no connection yet, and there will be one burst for it
    have haccount : Limiter.Account start 0 chunkSize start none := ⟨le_rfl, (Nat.zero_add _).le⟩
    have htotal := (meteredBy id).add_total_le hbooks haccount ho
    rw [Nat.zero_add] at htotal
    exact htotal

/-- A client sends three bytes; then the limits change, and it gets two bytes back. -/
def threeBytesThenTwo : Schedule Action :=
  [(0, .openFirst), (0, .arrive (.ok ⟨.v4 10 0 0 1, 4000, 0⟩)), (0, .handArrival),
    (0, .takeArrival), (2000000, .endDial (.ok ())),
    (2000000, .work 1 .upstream (.forward (.received [1, 2, 3]))),
    (2000000, .work 1 .upstream (.forward .pay)), (2000000, .work 1 .upstream (.forward .pay)),
    (2000000, .work 1 .upstream (.forward (.took 2))),
    (2000000, .work 1 .upstream (.forward (.took 1))),
    (3000000, .requestUpdate ⟨2000, 900⟩), (3000000, .handUpdate), (3000000, .takeUpdate),
    (4000000, .work 1 .downstream (.forward (.received [4, 5]))),
    (4000000, .work 1 .downstream (.forward .pay)),
    (4000000, .work 1 .downstream (.forward .pay)),
    (5000000, .work 1 .downstream (.forward (.took 2)))]

theorem delivered_le_allowance_of_threeBytesThenTwo :
    let t := Tunnel.start ⟨"web", "in", "out", ⟨1000, 500⟩, .ofMillis 5, .ofMillis 3⟩ 0
      (.stable ⟨.v4 127 0 0 1, 80, 0⟩)
    Schedule.InOrder 0 threeBytesThenTwo 6000000 ∧
      Schedule.total step delivered t threeBytesThenTwo = 5 ∧
      Schedule.total step delivered t threeBytesThenTwo ≤
        chunkSize + allowance 0 1000
          (Schedule.trail step (fun t => t.relay.limiter.rate) t threeBytesThenTwo) 6000000 ∧
      Schedule.total step (deliveredBy 1) t threeBytesThenTwo ≤
        chunkSize + allowance 0 0 (Schedule.trail step (connectionRate 1) t threeBytesThenTwo)
          6000000 := by
  intro t
  have ho : Schedule.InOrder 0 threeBytesThenTwo 6000000 := by
    simp [Schedule.InOrder, threeBytesThenTwo]
  obtain ⟨htunnel, hconnection⟩ := delivered_le_allowance
    ⟨"web", "in", "out", ⟨1000, 500⟩, .ofMillis 5, .ofMillis 3⟩ (.stable ⟨.v4 127 0 0 1, 80, 0⟩) ho
  exact ⟨ho, by decide +kernel, htunnel, hconnection 1⟩

end Sluice.Tunnel
