import Sluice.Proofs.Forward.Payment
import Sluice.Proofs.Relay.Connections

/-!
# The rates of a relay

The limits of a tunnel are kept in many places: the limiter that all connections pay, the rate for
the next connection, and the limiter of each active connection.

* `Relay.Rated relay limits`: all these places hold the same limits;
* for each operation of a relay, a lemma that the operation keeps them the same.
-/

namespace Sluice

variable {f : Forward} {limiters : List Limiter} {cancelled : Bool} {now : ℕ}
  {action : Forward.Action} {move : Forward.Move} {l after : Limiter}

/-- Whatever happens to a forwarder, the rates of its limiters stay the same. -/
theorem Forward.rate_of_step {i : ℕ} (h : f.step limiters cancelled now action = some move)
    (hl : limiters[i]? = some l) (hafter : move.limiters[i]? = some after) :
    after.rate = l.rate := by
  obtain ⟨n, debited, hdebited, hdebits, -⟩ := pays_of_step h hl
  obtain rfl := Option.some.inj (hafter.symm.trans hdebited)
  exact hdebits.rate_eq

namespace Relay

/-- The limits are in force everywhere. -/
structure Rated (relay : Relay) (limits : Limits) : Prop where
  tunnel : relay.limiter.rate = limits.tunnel
  next : relay.connectionLimit = limits.connection
  active : ∀ c ∈ relay.connections, c.closed = false → c.limiter.rate = limits.connection

variable {relay relay' : Relay} {limits : Limits} {id : ℕ} {c : Connection}

namespace Rated

/-- Rates are about limiters and connections only. -/
theorem congr (h : relay.Rated limits) (hlimiter : relay'.limiter = relay.limiter)
    (hnext : relay'.connectionLimit = relay.connectionLimit)
    (hconnections : relay'.connections = relay.connections) : relay'.Rated limits where
  tunnel := by rw [hlimiter, h.tunnel]
  next := by rw [hnext, h.next]
  active := by rw [hconnections]; exact h.active

/-- A change of connections that opens none and keeps the rates of those that stay open. -/
theorem modify (h : relay.Rated limits) (id : ℕ) {f : Connection → Connection}
    (hf : ∀ c ∈ relay.connections, c.id = id → (f c).closed = false →
      c.closed = false ∧ (f c).limiter.rate = c.limiter.rate) :
    (relay.modify id f).Rated limits where
  tunnel := h.tunnel
  next := h.next
  active := by
    simp only [Relay.modify, List.forall_mem_map]
    intro c hc hopen
    split at hopen
    next hid =>
      obtain ⟨hbefore, hrate⟩ := hf c hc hid hopen
      rw [if_pos hid, hrate]
      exact h.active c hc hbefore
    next hid =>
      rw [if_neg hid]
      exact h.active c hc hopen

theorem setWorker (h : relay.Rated limits) (id : ℕ) (direction : Direction) (worker : Worker) :
    (relay.modify id (·.setWorker direction worker)).Rated limits :=
  h.modify id fun c _ _ hopen => by simpa using hopen

/-- A new connection gets the rate that is due to it. -/
theorem openConnection (h : relay.Rated limits) (now id : ℕ) :
    (relay.openConnection now id).Rated limits where
  tunnel := h.tunnel
  next := h.next
  active := by
    refine List.forall_mem_append.2 ⟨h.active, ?_⟩
    simp only [List.mem_singleton, forall_eq]
    exact fun _ => h.next

theorem close (h : relay.Rated limits) (id : ℕ) (reason : CloseReason) :
    (relay.close id reason).Rated limits := by
  refine close_cases (motive := (·.Rated limits)) id reason h ?_
  have hclosed := h.modify id (f := ({ · with closed := true })) (by simp)
  exact hclosed.congr rfl rfl rfl

theorem closeAll (h : relay.Rated limits) (reason : CloseReason) :
    (relay.closeAll reason).Rated limits :=
  closeAll_keeps (motive := (·.Rated limits)) (fun _ id h => h.close id reason) h

/-- What a direction does on its own changes no rate. -/
theorem worked {direction : Direction} {action : Work} (h : relay.Rated limits)
    (hn : relay.ids.Nodup) (hw : relay.Worked now id direction action relay') :
    relay'.Rated limits := by
  cases hw with
  | @forward c f after action tunnel own delivered carried hc hworker hstep =>
    have htunnel : tunnel.rate = relay.limiter.rate := Forward.rate_of_step (i := 0) hstep rfl rfl
    have hown : own.rate = c.limiter.rate := Forward.rate_of_step (i := 1) hstep rfl rfl
    have hrelay := h.modify id
      (f := fun c => { c.setWorker direction (.forwarding after) with limiter := own }) ?_
    · exact ⟨htunnel.trans h.tunnel, hrelay.next, hrelay.active⟩
    · -- the connection is the only one of its number
      intro other hother hid hopen
      obtain rfl : c = other := by
        rw [← hid, find?_of_mem hn hother] at hc
        exact (Option.some.inj hc).symm
      exact ⟨by simpa using hopen, hown⟩
  | conclude hc hworker hdone => exact (h.setWorker id direction _).congr rfl rfl rfl
  | announce hc hworker hheard hpush =>
    exact (h.setWorker id direction .ended).congr rfl rfl rfl
  | withdraw hc hworker hclosed => exact h.setWorker id direction .ended
  | abandon hc hworker hheard => exact h.setWorker id direction .ended

end Rated

end Relay

end Sluice
