import Sluice.Proofs.Forward.Effort
import Sluice.Proofs.Relay.Workers

/-!
# What the directions of a relay can still do by themselves

* `Relay.Work.isOwn` and `Relay.IsReady`: a direction does something that needs no bytes to come or
  to go, and asks a limiter only when it is awake;
* `Relay.effort relay now`: a bound on what all directions can still do in this way, together with
  the notices that they leave. `Relay.Worked.effort_lt` shows that it sinks whenever a direction
  works, and further lemmas show how much the operations of the owner can raise it;
* `Relay.PaysWithin`: directions that pay do so at the two limiters that they have;
* `Relay.exists_own_work`: a direction of a closed connection has something to do until it has
  ended.
-/

namespace Sluice

/-- The direction needs no bytes to come or to go. -/
def Relay.Work.isOwn : Relay.Work → Bool
  | .forward action => action.isOwn
  | _ => true

/-- A bound on what a direction can still do by itself. -/
def Worker.effort (limiters : List Limiter) (now : ℕ) : Worker → ℕ
  | .forwarding f => f.stage.effort limiters now
  | .reporting .. => 2
  | .ended => 0

/-- A direction that pays does so at one of its limiters. -/
def Worker.PaysWithin (count : ℕ) : Worker → Prop
  | .forwarding f => f.stage.PaysWithin count
  | _ => True

variable {tunnel tunnel' own : Limiter} {now : ℕ}

namespace Worker

variable {limiters limiters' : List Limiter}

theorem effort_congr (w : Worker) (h : limiters'.map (·.revision) = limiters.map (·.revision)) :
    w.effort limiters' now = w.effort limiters now := by
  cases w with
  | forwarding f => exact f.stage.effort_congr h
  | reporting | ended => rfl

theorem effort_le (w : Worker) (h : limiters'.length = limiters.length) (now : ℕ) :
    w.effort limiters' now ≤ w.effort limiters now + 1 := by
  cases w with
  | forwarding f => exact f.stage.effort_le h
  | reporting | ended => exact Nat.le_succ _

/-- A direction goes on paying at the two limiters that it has. -/
theorem lasting_paysWithin : Lasting (PaysWithin 2) where
  new := trivial
  step hf hstep := Forward.paysWithin_step hstep hf
  reporting _ _ := trivial
  ended := trivial

end Worker

namespace Connection

/-- A bound on what both directions can still do by themselves. -/
def effort (c : Connection) (tunnel : Limiter) (now : ℕ) : ℕ :=
  c.upstream.effort [tunnel, c.limiter] now + c.downstream.effort [tunnel, c.limiter] now

/-- Giving a direction another state changes the sum by the difference of the two states. -/
theorem effort_setWorker (c : Connection) (d : Direction) (w : Worker) (tunnel : Limiter)
    (now : ℕ) :
    (c.setWorker d w).effort tunnel now + (c.worker d).effort [tunnel, c.limiter] now =
      c.effort tunnel now + w.effort [tunnel, c.limiter] now := by
  cases d <;> simp only [effort, setWorker, worker] <;> omega

theorem effort_congr (c : Connection) (htunnel : tunnel'.revision = tunnel.revision)
    (hown : own.revision = c.limiter.revision) (now : ℕ) :
    { c with limiter := own }.effort tunnel' now = c.effort tunnel now := by
  have hrevisions : [tunnel', own].map (·.revision) = [tunnel, c.limiter].map (·.revision) := by
    simp [htunnel, hown]
  simp only [effort, Worker.effort_congr _ hrevisions]

/-- New limiters wake up one acquire of each direction at most. -/
theorem effort_le (c : Connection) (tunnel tunnel' own : Limiter) (now : ℕ) :
    { c with limiter := own }.effort tunnel' now ≤ c.effort tunnel now + 2 := by
  have hlength : [tunnel', own].length = [tunnel, c.limiter].length := rfl
  have hup := c.upstream.effort_le hlength now
  have hdown := c.downstream.effort_le hlength now
  simp only [effort]
  omega

end Connection

namespace Relay

variable {relay relay' : Relay} {id : ℕ} {c : Connection} {direction : Direction} {work : Work}

/-- A direction that is to ask a limiter is awake. -/
def IsReady (relay : Relay) (now id : ℕ) (direction : Direction) (work : Work) : Prop :=
  ∀ c f, relay.find? id = some c → c.worker direction = .forwarding f → work = .forward .pay →
    f.isAboutToPay [relay.limiter, c.limiter] c.closed now

theorem isReady_of_ne (h : work ≠ .forward .pay) : relay.IsReady now id direction work :=
  fun _ _ _ _ hpay => absurd hpay h

/-- A bound on what all directions can still do by themselves, with the notices that are left. -/
def effort (relay : Relay) (now : ℕ) : ℕ :=
  (relay.connections.map (·.effort relay.limiter now)).sum + relay.queue.notices.length

/-- Directions that pay do so at the limiter of the relay or at that of their connection. -/
def PaysWithin (relay : Relay) : Prop :=
  ∀ c ∈ relay.connections, ∀ d, (c.worker d).PaysWithin 2

/-! ## Directions -/

/-- Giving a direction another state changes the sum by the difference of the two states. -/
theorem effort_setWorker (hn : relay.ids.Nodup) (hc : relay.find? id = some c) (d : Direction)
    (w : Worker) (now : ℕ) :
    (relay.modify id (·.setWorker d w)).effort now +
        (c.worker d).effort [relay.limiter, c.limiter] now =
      relay.effort now + w.effort [relay.limiter, c.limiter] now := by
  obtain ⟨hmem, rfl⟩ := mem_of_find? hc
  have hsum := sum_map_change (·.effort relay.limiter now) (·.setWorker d w) hn hmem
  have hworker := c.effort_setWorker d w relay.limiter now
  simp only [effort, modify] at *
  omega

/-- A forwarder that makes an own step takes off effort, for it replaces no bucket. -/
theorem effort_lt_of_step {f after : Forward} {action : Forward.Action} {bytes : List UInt8}
    {carried : ℕ} (hn : relay.ids.Nodup) (hc : relay.find? id = some c)
    (hworker : c.worker direction = .forwarding f)
    (hstep : f.step [relay.limiter, c.limiter] c.closed now action =
      some ⟨after, [tunnel, own], bytes, carried⟩)
    (hown : action.isOwn)
    (hready : action = .pay → f.isAboutToPay [relay.limiter, c.limiter] c.closed now) :
    effort { relay.modify id (fun c =>
      { c.setWorker direction (.forwarding after) with limiter := own }) with
        limiter := tunnel } now < relay.effort now := by
  obtain ⟨hmem, rfl⟩ := mem_of_find? hc
  have hrevisions := Forward.revisions_of_step hstep
  obtain ⟨htunnel, hrevision⟩ : tunnel.revision = relay.limiter.revision ∧
      own.revision = c.limiter.revision := by simpa using hrevisions
  have hless := Forward.effort_step hstep hown hready
  rw [Stage.effort_congr _ hrevisions] at hless
  -- the other direction and the other connections do not notice that the limiters were debited
  have hsum := sum_map_change (·.effort tunnel now)
    (fun c => { c.setWorker direction (.forwarding after) with limiter := own }) hn hmem
  have hconnection := c.effort_setWorker direction (.forwarding after) relay.limiter now
  rw [hworker] at hconnection
  simp only [effort, modify, Worker.effort] at *
  have hlimiter : own.revision = (c.setWorker direction (.forwarding after)).limiter.revision := by
    rw [hrevision, c.limiter_setWorker]
  have hchange := Connection.effort_congr _ htunnel hlimiter now
  have hsame : c.effort tunnel now = c.effort relay.limiter now := c.effort_congr htunnel rfl now
  have hall : (relay.connections.map (·.effort tunnel now)).sum =
      (relay.connections.map (·.effort relay.limiter now)).sum :=
    congrArg List.sum (List.map_congr_left fun x _ => x.effort_congr htunnel rfl now)
  omega

theorem effort_afterForward_le (closed : Bool) (turn : ℕ) (outcome : Outcome)
    (limiters : List Limiter) (now : ℕ) :
    (afterForward closed turn outcome).effort limiters now ≤ 2 := by
  cases outcome <;> rw [afterForward] <;> split <;> simp [Worker.effort]

/-- Whatever a direction does by itself takes off effort. -/
theorem Worked.effort_lt (h : relay.Worked now id direction work relay') (hn : relay.ids.Nodup)
    (hown : work.isOwn) (hready : relay.IsReady now id direction work) :
    relay'.effort now < relay.effort now := by
  cases h with
  | forward hc hworker hstep =>
    refine effort_lt_of_step hn hc hworker hstep hown fun hpay => ?_
    exact hready _ _ hc hworker (congrArg Work.forward hpay)
  | @conclude c f outcome fault hc hworker hdone =>
    have hchange := effort_setWorker hn hc direction
      (afterForward c.closed relay.queue.turns outcome) now
    have hle := effort_afterForward_le c.closed relay.queue.turns outcome
      [relay.limiter, c.limiter] now
    have hfinished : f.stage.effort [relay.limiter, c.limiter] now = 3 := by
      rw [Forward.outcome?] at hdone
      split at hdone
      next hstage => rw [hstage, Stage.effort]
      next => cases hdone
    rw [hworker, Worker.effort, hfinished] at hchange
    change (relay.modify id
      (·.setWorker direction (afterForward c.closed relay.queue.turns outcome))).effort now < _
    omega
  | @announce c error turn queue hc hworker hheard hpush =>
    have hchange := effort_setWorker hn hc direction .ended now
    rw [hworker, Worker.effort, Worker.effort] at hchange
    -- the report leaves a notice, which is less than the report
    obtain ⟨-, heq⟩ := Option.ite_none_right_eq_some.1 hpush
    cases heq
    simp only [effort, modify, List.length_append, List.length_singleton] at hchange ⊢
    omega
  | withdraw hc hworker | abandon hc hworker =>
    have hchange := effort_setWorker hn hc direction .ended now
    rw [hworker, Worker.effort, Worker.effort] at hchange
    omega

theorem Worked.length_connections (h : relay.Worked now id direction work relay') :
    relay'.connections.length = relay.connections.length := by
  cases h <;> exact List.length_map _

/-! ## The owner -/

theorem effort_hangUp_le (relay : Relay) (now : ℕ) :
    relay.hangUp.effort now ≤ relay.effort now := by
  simp [effort, hangUp, NoticeQueue.hangUp]

/-- A notice that is taken is one less. -/
theorem effort_takeNotice {notice : Notice} (h : relay.takeNotice = some (notice, relay'))
    (now : ℕ) :
    relay'.effort now < relay.effort now ∧
      relay'.connections.length = relay.connections.length := by
  obtain ⟨rest, hnotices, rfl⟩ := takeNotice_eq_some.1 h
  simp [effort, withNotices, hnotices]

theorem effort_close (relay : Relay) (id : ℕ) (reason : CloseReason) (now : ℕ) :
    (relay.close id reason).effort now = relay.effort now := by
  refine close_cases (motive := fun after => after.effort now = relay.effort now) id reason rfl ?_
  have hsame := relay.map_modify id (f := ({ · with closed := true }))
    (·.effort relay.limiter now) fun _ => rfl
  exact congrArg (List.sum · + relay.queue.notices.length) hsame

theorem length_connections_close (relay : Relay) (id : ℕ) (reason : CloseReason) :
    (relay.close id reason).connections.length = relay.connections.length :=
  close_cases (motive := fun after => after.connections.length = relay.connections.length) id
    reason rfl (List.length_map _)

/-- Closing connections neither takes effort off nor adds any. -/
theorem effort_closeAll (relay : Relay) (reason : CloseReason) (now : ℕ) :
    (relay.closeAll reason).effort now = relay.effort now ∧
      (relay.closeAll reason).connections.length = relay.connections.length :=
  ⟨view_closeAll (·.effort now) (fun relay id => relay.effort_close id reason now) relay,
    view_closeAll (·.connections.length)
      (fun relay id => relay.length_connections_close id reason) relay⟩

/-- New limiters wake up the directions of each connection. -/
theorem effort_map_limiter_le (relay : Relay) (tunnel : Limiter) {f : Connection → Connection}
    (hf : ∀ c, ∃ l, f c = { c with limiter := l }) (now : ℕ) :
    effort { relay with limiter := tunnel, connections := relay.connections.map f } now ≤
      relay.effort now + 2 * relay.connections.length := by
  simp only [effort]
  have hsum : ((relay.connections.map f).map (·.effort tunnel now)).sum ≤
      (relay.connections.map (·.effort relay.limiter now)).sum + 2 * relay.connections.length := by
    induction relay.connections with
    | nil => exact Nat.le_refl _
    | cons c rest ih =>
      obtain ⟨l, hl⟩ := hf c
      have hle := c.effort_le relay.limiter tunnel l now
      rw [← hl] at hle
      simp only [List.map_cons, List.sum_cons, List.length_cons]
      omega
  omega

/-! ## Directions of closed connections -/

/-- A forwarder of a closed connection that has not finished has something to do by itself. -/
theorem exists_own_forward {f : Forward} (hn : relay.ids.Nodup) (hc : c ∈ relay.connections)
    (hclosed : c.closed) (hworker : c.worker direction = .forwarding f)
    (hpays : f.stage.PaysWithin 2) (hopen : f.outcome? = none) (now : ℕ) :
    ∃ work, work.isOwn ∧ relay.IsReady now c.id direction work ∧
      (relay.work now c.id direction work).isSome := by
  have hfind := find?_of_mem hn hc
  have hlimiters : f.stage.PaysWithin [relay.limiter, c.limiter].length := hpays
  obtain ⟨action, ⟨after, limiters, bytes, carried⟩, hown, hready, hstep⟩ :=
    f.exists_own_step hlimiters hopen now
  have hlength : limiters.length = 2 := by
    simpa using congrArg List.length (Forward.revisions_of_step hstep)
  obtain ⟨tunnel, own, rfl⟩ := List.length_eq_two.1 hlength
  rw [← hclosed] at hstep
  refine ⟨.forward action, hown, fun other g hother hg hwork => ?_, ?_⟩
  · obtain rfl := Option.some.inj (hother.symm.trans hfind)
    obtain rfl := Worker.forwarding.inj (hg.symm.trans hworker)
    rw [hclosed]
    exact hready (Work.forward.inj hwork)
  · simp [Relay.work, hfind, hworker, workForward, hstep]

/-- A direction of a closed connection has something to do by itself until it has ended. -/
theorem exists_own_work (hn : relay.ids.Nodup) (hpays : relay.PaysWithin)
    (hc : c ∈ relay.connections) (hclosed : c.closed) (halive : (c.worker direction).isAlive)
    (now : ℕ) : ∃ work, work.isOwn ∧ relay.IsReady now c.id direction work ∧
      (relay.work now c.id direction work).isSome := by
  have hfind := find?_of_mem hn hc
  cases hworker : c.worker direction with
  | forwarding f =>
    have hf := hpays c hc direction
    rw [hworker] at hf
    cases hopen : f.outcome? with
    | none => exact exists_own_forward hn hc hclosed hworker hf hopen now
    | some ended =>
      refine ⟨.conclude, rfl, isReady_of_ne nofun, ?_⟩
      simp [Relay.work, hfind, hworker, hopen]
  | reporting error turn =>
    refine ⟨.withdraw, rfl, isReady_of_ne nofun, ?_⟩
    simp [Relay.work, hfind, hworker, hclosed]
  | ended =>
    rw [hworker] at halive
    cases halive

/-- Tasks are directions that have not ended. -/
theorem tasks_eq_zero_iff :
    relay.tasks = 0 ↔ ∀ c ∈ relay.connections, ∀ d, (c.worker d).isAlive = false := by
  rw [tasks]
  induction relay.connections with
  | nil => simp
  | cons c rest ih =>
    rw [List.foldr_cons, Nat.add_eq_zero_iff, ih, List.forall_mem_cons]
    refine and_congr_left fun _ => ?_
    constructor
    · intro h d
      cases d <;> simp_all [Connection.tasks, Connection.worker, Bool.toNat_eq_zero]
    · intro h
      have hup : c.upstream.isAlive = false := h .upstream
      have hdown : c.downstream.isAlive = false := h .downstream
      simp [Connection.tasks, hup, hdown]

/-- Only a direction that has not ended can work. -/
theorem Worked.tasks_ne_zero (h : relay.Worked now id direction work relay') : relay.tasks ≠ 0 := by
  rw [Ne, tasks_eq_zero_iff]
  intro hended
  cases h with
  | forward hc hworker | conclude hc hworker | announce hc hworker | withdraw hc hworker
  | abandon hc hworker =>
    have hdirection := hended _ (mem_of_find? hc).1 direction
    rw [hworker] at hdirection
    cases hdirection

end Relay

end Sluice
