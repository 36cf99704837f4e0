import Mathlib.Algebra.BigOperators.Group.List.Basic
import Sluice.Proofs.Forward.Payment
import Sluice.Proofs.Limiter.Meter
import Sluice.Proofs.Relay.Connections

/-!
# Paying at the limiters of a relay

Each direction of each connection pays at the limiter of the relay, which all connections share, and
at the limiter of its connection, which both directions share.

* `Relay.prepaid`: the bytes that are paid for at the limiter of the relay and not yet handed over;
* `Relay.limiterOf`, `Relay.prepaidOf`: the same for the limiter of one connection;
* `Relay.Idle`: nothing is paid, handed over or forfeited, and no rate changes;
* `Relay.Worked.pays` and `Relay.Worked.paysOf`: a direction hands over what is paid for.
-/

namespace Sluice

open Limiter (Change)

/-- The bytes that a direction has paid for at limiter `i` and has not yet handed over. -/
def Worker.prepaid (i : ℕ) : Worker → ℕ
  | .forwarding f => f.prepaid i
  | _ => 0

/-- The bytes that both directions have paid for at limiter `i` and have not yet handed over. -/
def Connection.prepaid (c : Connection) (i : ℕ) : ℕ :=
  c.upstream.prepaid i + c.downstream.prepaid i

/-- Giving a direction another state changes the sum by the difference of the two states. -/
theorem Connection.prepaid_setWorker (c : Connection) (d : Direction) (w : Worker) (i : ℕ) :
    (c.setWorker d w).prepaid i + (c.worker d).prepaid i = c.prepaid i + w.prepaid i := by
  cases d <;> simp only [prepaid, setWorker, worker] <;> omega

namespace Relay

variable {relay relay' : Relay} {now id other : ℕ} {direction : Direction} {action : Work}
  {c : Connection}

/-- The bytes that are paid for at the limiter of the relay and not yet handed over. -/
def prepaid (relay : Relay) : ℕ := (relay.connections.map (·.prepaid 0)).sum

/-- The limiter of a connection, if there is such a connection. -/
def limiterOf (relay : Relay) (id : ℕ) : Option Limiter := (relay.find? id).map (·.limiter)

/-- The bytes that are paid for at the limiter of a connection and not yet handed over. -/
def prepaidOf (relay : Relay) (id : ℕ) : ℕ := (relay.find? id).elim 0 (·.prepaid 1)

/-- The bytes that an action of a direction hands over to its destination. -/
def delivered (relay : Relay) (now id : ℕ) (direction : Direction) : Work → List UInt8
  | .forward action =>
    match relay.find? id with
    | none => []
    | some c =>
      match c.worker direction with
      | .forwarding f =>
        (f.step [relay.limiter, c.limiter] c.closed now action).elim [] (·.delivered)
      | _ => []
  | _ => []

/-! ## One connection among the others -/

variable {f : Connection → Connection}

theorem prepaid_modify (hn : relay.ids.Nodup) (hc : relay.find? id = some c) :
    (relay.modify id f).prepaid + c.prepaid 0 = relay.prepaid + (f c).prepaid 0 := by
  obtain ⟨hmem, rfl⟩ := mem_of_find? hc
  exact sum_map_change (·.prepaid 0) f hn hmem

theorem prepaid_modify_of_eq (relay : Relay) (id : ℕ)
    (hprepaid : ∀ c i, (f c).prepaid i = c.prepaid i) :
    (relay.modify id f).prepaid = relay.prepaid :=
  congrArg List.sum (relay.map_modify id (·.prepaid 0) (hprepaid · 0))

theorem prepaidOf_modify_of_eq (relay : Relay) (id other : ℕ) (hid : ∀ c, (f c).id = c.id)
    (hprepaid : ∀ c i, (f c).prepaid i = c.prepaid i) :
    (relay.modify id f).prepaidOf other = relay.prepaidOf other := by
  rw [prepaidOf, prepaidOf, find?_modify relay id other hid]
  split
  · cases relay.find? other with
    | none => rfl
    | some c => exact hprepaid c 1
  · rfl

theorem limiterOf_modify (relay : Relay) (id other : ℕ) (hid : ∀ c, (f c).id = c.id) :
    (relay.modify id f).limiterOf other =
      if other = id then (relay.find? other).map fun c => (f c).limiter
      else relay.limiterOf other := by
  rw [limiterOf, limiterOf, find?_modify relay id other hid]
  split
  · rw [Option.map_map]
    rfl
  · rfl

theorem limiterOf_modify_of_eq (relay : Relay) (id other : ℕ) (hid : ∀ c, (f c).id = c.id)
    (hlimiter : ∀ c, (f c).limiter = c.limiter) :
    (relay.modify id f).limiterOf other = relay.limiterOf other := by
  rw [limiterOf_modify relay id other hid]
  split
  · exact congrArg (Option.map · (relay.find? other)) (funext hlimiter)
  · rfl

/-! ## Nothing is paid -/

/-- No limiter changes, and what is prepaid stays so. -/
structure Idle (relay relay' : Relay) : Prop where
  limiter : relay'.limiter = relay.limiter
  prepaid : relay'.prepaid = relay.prepaid
  limiterOf : ∀ id, relay'.limiterOf id = relay.limiterOf id
  prepaidOf : ∀ id, relay'.prepaidOf id = relay.prepaidOf id

namespace Idle

theorem refl (relay : Relay) : Idle relay relay := ⟨rfl, rfl, fun _ => rfl, fun _ => rfl⟩

theorem trans {relay'' : Relay} (h : Idle relay relay') (h' : Idle relay' relay'') :
    Idle relay relay'' where
  limiter := h'.limiter.trans h.limiter
  prepaid := h'.prepaid.trans h.prepaid
  limiterOf id := (h'.limiterOf id).trans (h.limiterOf id)
  prepaidOf id := (h'.prepaidOf id).trans (h.prepaidOf id)

/-- Only the limiter of the relay and the connections matter. -/
theorem of_eq (hlimiter : relay'.limiter = relay.limiter)
    (hconnections : relay'.connections = relay.connections) : Idle relay relay' where
  limiter := hlimiter
  prepaid := by rw [Relay.prepaid, Relay.prepaid, hconnections]
  limiterOf id := by rw [Relay.limiterOf, Relay.limiterOf, find?, find?, hconnections]
  prepaidOf id := by rw [Relay.prepaidOf, Relay.prepaidOf, find?, find?, hconnections]

/-- A change of a connection that touches neither its limiter nor its directions. -/
theorem modify (relay : Relay) (id : ℕ) (hid : ∀ c, (f c).id = c.id)
    (hlimiter : ∀ c, (f c).limiter = c.limiter)
    (hprepaid : ∀ c i, (f c).prepaid i = c.prepaid i) : Idle relay (relay.modify id f) where
  limiter := rfl
  prepaid := prepaid_modify_of_eq relay id hprepaid
  limiterOf other := limiterOf_modify_of_eq relay id other hid hlimiter
  prepaidOf other := prepaidOf_modify_of_eq relay id other hid hprepaid

theorem close (relay : Relay) (id : ℕ) (reason : CloseReason) :
    Idle relay (relay.close id reason) := by
  refine close_cases (motive := Idle relay) id reason (refl relay) ?_
  have hclosed := modify relay id (f := ({ · with closed := true })) (fun _ => rfl)
    (fun _ => rfl) fun _ _ => rfl
  exact hclosed.trans (of_eq rfl rfl)

theorem closeAll (relay : Relay) (reason : CloseReason) :
    Idle relay (relay.closeAll reason) :=
  closeAll_keeps (motive := Idle relay) (fun after id h => h.trans (close after id reason))
    (refl relay)

end Idle

/-! ## New connections and new rates -/

/-- A new connection gets a limiter that is made now. -/
theorem limiterOf_openConnection (hid : relay.find? id = none) (now other : ℕ) :
    (relay.openConnection now id).limiterOf other =
      if other = id then some (.ofRate now relay.connectionLimit) else relay.limiterOf other := by
  rw [limiterOf, limiterOf, openConnection, find?, List.find?_append]
  split
  next h =>
    subst h
    rw [find?] at hid
    simp [hid]
  next h =>
    have hne : ¬ id = other := Ne.symm h
    simp [hne, find?]

/-- A new connection has paid for nothing. -/
theorem prepaidOf_openConnection (hid : relay.find? id = none) (now other : ℕ) :
    (relay.openConnection now id).prepaidOf other = relay.prepaidOf other := by
  rw [prepaidOf, prepaidOf, openConnection, find?, List.find?_append]
  by_cases h : other = id
  · subst h
    rw [find?] at hid
    simp [hid, find?, Connection.prepaid, Worker.prepaid, Forward.prepaid, Stage.prepaid]
  · have hne : ¬ id = other := Ne.symm h
    simp [hne, find?]

theorem prepaid_openConnection (relay : Relay) (now id : ℕ) :
    (relay.openConnection now id).prepaid = relay.prepaid := by
  simp [prepaid, openConnection, Connection.prepaid, Worker.prepaid, Forward.prepaid, Stage.prepaid]

theorem limiterOf_setConnectionRate (relay : Relay) (now id other : ℕ) (rate : UInt64) :
    (relay.setConnectionRate now id rate).limiterOf other =
      if other = id then (relay.limiterOf other).map (·.setRate now rate)
      else relay.limiterOf other := by
  rw [setConnectionRate, limiterOf_modify]
  · split
    · rw [limiterOf, Option.map_map]
      rfl
    · rfl
  · intro c
    rfl

/-- A new rate at some connections, each of which occurs once in the list. -/
theorem limiterOf_foldl_setConnectionRate (relay : Relay) (now : ℕ) (rate : UInt64)
    {list : List ℕ} (hn : list.Nodup) (other : ℕ) :
    (list.foldl (·.setConnectionRate now · rate) relay).limiterOf other =
      if other ∈ list then (relay.limiterOf other).map (·.setRate now rate)
      else relay.limiterOf other := by
  induction list generalizing relay with
  | nil => rfl
  | cons id rest ih =>
    obtain ⟨hid, hrest⟩ := List.nodup_cons.1 hn
    rw [List.foldl_cons, ih _ hrest, limiterOf_setConnectionRate]
    -- the head of the list does not occur again, so that its rate is set once
    by_cases h : other = id
    · subst h
      simp [hid]
    · simp [h]

/-- A new rate forfeits nothing that is paid for. -/
theorem prepaid_foldl_setConnectionRate (relay : Relay) (now : ℕ) (rate : UInt64)
    (list : List ℕ) :
    (list.foldl (·.setConnectionRate now · rate) relay).limiter = relay.limiter ∧
      (list.foldl (·.setConnectionRate now · rate) relay).prepaid = relay.prepaid ∧
      ∀ other, (list.foldl (·.setConnectionRate now · rate) relay).prepaidOf other =
        relay.prepaidOf other := by
  induction list generalizing relay with
  | nil => exact ⟨rfl, rfl, fun _ => rfl⟩
  | cons id rest ih =>
    obtain ⟨hlimiter, hprepaid, hprepaidOf⟩ := ih (relay.setConnectionRate now id rate)
    refine ⟨hlimiter, hprepaid.trans ?_, fun other => (hprepaidOf other).trans ?_⟩
    · exact prepaid_modify_of_eq relay id fun _ _ => rfl
    · exact prepaidOf_modify_of_eq relay id other (fun _ => rfl) fun _ _ => rfl

/-! ## What a direction pays -/

theorem delivered_of_step {f : Forward} {action : Forward.Action} {move : Forward.Move}
    (hc : relay.find? id = some c) (hworker : c.worker direction = .forwarding f)
    (hstep : f.step [relay.limiter, c.limiter] c.closed now action = some move) :
    relay.delivered now id direction (.forward action) = move.delivered := by
  simp [delivered, hc, hworker, hstep]

/-- A direction that holds nothing before and after changes no payment. -/
theorem Idle.setWorker {w : Worker} (hn : relay.ids.Nodup) (hc : relay.find? id = some c)
    (hold : ∀ i, (c.worker direction).prepaid i = 0) (hnew : ∀ i, w.prepaid i = 0) :
    Idle relay (relay.modify id (·.setWorker direction w)) where
  limiter := rfl
  prepaid := by
    have hsum := prepaid_modify (f := (·.setWorker direction w)) hn hc
    have hconnection := c.prepaid_setWorker direction w 0
    rw [hold, hnew] at hconnection
    omega
  limiterOf other := limiterOf_modify_of_eq relay id other (fun c => c.id_setWorker direction w)
    fun c => c.limiter_setWorker direction w
  prepaidOf other := by
    have hconnection := c.prepaid_setWorker direction w 1
    rw [hold, hnew] at hconnection
    rw [Relay.prepaidOf, Relay.prepaidOf,
      find?_modify relay id other fun c => c.id_setWorker direction w]
    split
    next h =>
      rw [h, hc]
      exact hconnection
    next => rfl

theorem prepaid_afterForward (closed : Bool) (turn : ℕ) (outcome : Outcome) (i : ℕ) :
    (afterForward closed turn outcome).prepaid i = 0 := by
  cases outcome <;> rw [afterForward] <;> split <;> rfl

/-- A direction that has no forwarder at work pays nothing. -/
theorem Worked.idle (h : relay.Worked now id direction action relay') (hn : relay.ids.Nodup)
    (haction : ∀ a, action ≠ .forward a) : Idle relay relay' := by
  cases h with
  | forward => exact absurd rfl (haction _)
  | conclude hc hworker hdone =>
    -- a finished forwarder holds nothing, and neither does a report
    refine (Idle.setWorker (w := afterForward _ _ _) hn hc ?_ ?_).trans (.of_eq rfl rfl)
    · intro i
      rw [hworker]
      exact Forward.prepaid_of_outcome? hdone i
    · exact prepaid_afterForward _ _ _
  | announce hc hworker hheard hpush =>
    have hold : ∀ i, (Connection.worker _ direction).prepaid i = 0 := fun i => by rw [hworker]; rfl
    exact (Idle.setWorker hn hc hold fun _ => rfl).trans (.of_eq rfl rfl)
  | withdraw hc hworker hclosed =>
    exact Idle.setWorker hn hc (fun i => by rw [hworker]; rfl) fun _ => rfl
  | abandon hc hworker hheard =>
    exact Idle.setWorker hn hc (fun i => by rw [hworker]; rfl) fun _ => rfl

/-- What a direction hands over, and what is prepaid afterwards, was prepaid before or is debited at
the limiter of the relay now. -/
theorem Worked.pays (h : relay.Worked now id direction action relay') (hn : relay.ids.Nodup) :
    ∃ n, relay.limiter.Debits now n relay'.limiter ∧
      (relay.delivered now id direction action).length + relay'.prepaid ≤ relay.prepaid + n := by
  cases action with
  | forward action =>
    cases h with
    | @forward c f after _ tunnel own bytes carried hc hworker hstep =>
      obtain ⟨n, _, htunnel, hdebits, hle⟩ := Forward.pays_of_step (i := 0) hstep rfl
      cases htunnel
      refine ⟨n, hdebits, ?_⟩
      -- the sum over all connections changes by what the one direction has gained or lost
      have hsum := prepaid_modify hn hc
        (f := fun c => { c.setWorker direction (.forwarding after) with limiter := own })
      have hconnection := c.prepaid_setWorker direction (.forwarding after) 0
      rw [hworker] at hconnection
      rw [delivered_of_step hc hworker hstep]
      simp only [Worker.prepaid, Connection.prepaid, Relay.prepaid, modify] at *
      omega
  | conclude | announce | withdraw | abandon =>
    have hidle := h.idle hn fun _ => by simp
    refine ⟨0, .inl ⟨rfl, hidle.limiter⟩, ?_⟩
    rw [hidle.prepaid]
    exact (Nat.zero_add _).le

/-- What a direction hands over, and what is prepaid afterwards, was prepaid before or is debited at
the limiter of its connection now; nothing is debited at other connections. -/
theorem Worked.paysOf (h : relay.Worked now id direction action relay') (hn : relay.ids.Nodup)
    (other : ℕ) :
    ∃ n, Change now (relay.limiterOf other) n (relay'.limiterOf other) ∧
      (if other = id then (relay.delivered now id direction action).length else 0) +
        relay'.prepaidOf other ≤ relay.prepaidOf other + n := by
  cases action with
  | forward action =>
    cases h with
    | @forward c f after _ tunnel own bytes carried hc hworker hstep =>
      have hfind := find?_modify relay id other
        (f := fun c => { c.setWorker direction (.forwarding after) with limiter := own })
        fun c => c.id_setWorker direction _
      by_cases hid : other = id
      · -- the limiter of the connection is the second one that its directions pay
        subst hid
        obtain ⟨n, _, hown, hdebits, hle⟩ := Forward.pays_of_step (i := 1) hstep rfl
        cases hown
        have hconnection := c.prepaid_setWorker direction (.forwarding after) 1
        rw [hworker] at hconnection
        rw [if_pos rfl, hc, Option.map_some] at hfind
        refine ⟨n, ?_, ?_⟩
        · simp only [limiterOf, find?, modify] at *
          rw [hc, hfind]
          exact .debited hdebits
        · rw [if_pos rfl, delivered_of_step hc hworker hstep]
          simp only [prepaidOf, find?, modify] at *
          rw [hc, hfind]
          simp only [Option.elim_some, Worker.prepaid, Connection.prepaid] at *
          omega
      · -- another connection is not touched
        rw [if_neg hid] at hfind
        refine ⟨0, .of_eq (congrArg (Option.map _) hfind), ?_⟩
        rw [if_neg hid, Nat.zero_add, Nat.add_zero]
        exact (congrArg (Option.elim · 0 _) hfind).le
  | conclude | announce | withdraw | abandon =>
    have hidle := h.idle hn fun _ => by simp
    refine ⟨0, .of_eq (hidle.limiterOf other), ?_⟩
    rw [hidle.prepaidOf]
    simp [delivered]

end Relay

end Sluice
