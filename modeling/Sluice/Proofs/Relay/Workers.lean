import Sluice.Proofs.Forward.Cancelled
import Sluice.Proofs.Relay.Step

/-!
# What holds of every direction

Some properties of a direction are a matter of its forwarder alone. What a forwarder keeps, whatever
happens to it, holds of every direction of every connection at any time.

* `Worker.Lasting P`: a direction keeps the property `P`, whatever it does;
* `Worker.Owes`: a direction that pays has something left to pay for, which is one such property;
* `Relay.Every P relay`: every direction of every connection has the property;
* for each operation of a relay, a lemma that every direction keeps a lasting property.
-/

namespace Sluice

/-- A new direction has the property, and a direction keeps it, whatever it does. -/
structure Worker.Lasting (P : Worker → Prop) : Prop where
  new : P (.forwarding {})
  step : ∀ {f : Forward} {tunnel own : Limiter} {cancelled : Bool} {now : ℕ}
    {action : Forward.Action} {move : Forward.Move}, P (.forwarding f) →
      f.step [tunnel, own] cancelled now action = some move → P (.forwarding move.forward)
  reporting : ∀ error turn, P (.reporting error turn)
  ended : P .ended

namespace Worker

/-- A direction that pays has something left to pay for. -/
def Owes : Worker → Prop
  | .forwarding f => f.stage.Owes
  | _ => True

/-- A direction asks its limiters for nothing but the rest of a chunk. -/
theorem lasting_owes : Lasting Owes where
  new := trivial
  step hf hstep := Forward.owes_step hstep hf
  reporting _ _ := trivial
  ended := trivial

end Worker

variable {P : Worker → Prop} {relay relay' : Relay} {now id : ℕ} {direction : Direction}
  {work : Relay.Work}

/-- One direction gets a state with the property, and the other one has it. -/
theorem Connection.forall_worker_setWorker {c : Connection} {w : Worker} (direction : Direction)
    (hc : ∀ d, P (c.worker d)) (hw : P w) (d : Direction) :
    P ((c.setWorker direction w).worker d) := by
  by_cases hd : d = direction
  · rw [hd, c.worker_setWorker_self]
    exact hw
  · rw [c.worker_setWorker_of_ne w hd]
    exact hc d

namespace Relay

/-- Every direction of every connection has the property. -/
def Every (P : Worker → Prop) (relay : Relay) : Prop :=
  ∀ c ∈ relay.connections, ∀ d, P (c.worker d)

/-- A relay that has had no connection has no direction. -/
theorem every_start (limiter : Limiter) (connectionLimit : UInt64) (queue : NoticeQueue) :
    (start limiter connectionLimit queue).Every P :=
  fun _ hc => absurd hc List.not_mem_nil

namespace Every

theorem modify (h : relay.Every P) (id : ℕ) {f : Connection → Connection}
    (hf : ∀ c ∈ relay.connections, c.id = id → ∀ d, P ((f c).worker d)) :
    (relay.modify id f).Every P := by
  refine List.forall_mem_map.2 fun c hc => ?_
  split
  next hid => exact hf c hc hid
  next => exact h c hc

theorem setWorker (h : relay.Every P) (id : ℕ) (direction : Direction) {w : Worker} (hw : P w) :
    (relay.modify id (·.setWorker direction w)).Every P :=
  h.modify id fun c hc _ => Connection.forall_worker_setWorker direction (h c hc) hw

theorem openConnection (h : relay.Every P) (hnew : P (.forwarding {})) (now id : ℕ) :
    (relay.openConnection now id).Every P := by
  refine List.forall_mem_append.2 ⟨h, ?_⟩
  simp only [List.mem_singleton, forall_eq]
  intro d
  cases d <;> exact hnew

theorem close (h : relay.Every P) (id : ℕ) (reason : CloseReason) :
    (relay.close id reason).Every P :=
  close_cases (motive := Every P) id reason h
    (h.modify id (f := ({ · with closed := true })) fun c hc _ => h c hc)

theorem closeAll (h : relay.Every P) (reason : CloseReason) : (relay.closeAll reason).Every P :=
  closeAll_keeps (motive := Every P) (fun _ id h => h.close id reason) h

/-- New limiters change no direction. -/
theorem map_limiter (h : relay.Every P) {f : Connection → Connection}
    (hf : ∀ c, ∃ l, f c = { c with limiter := l }) :
    Every P { relay with connections := relay.connections.map f } := by
  refine List.forall_mem_map.2 fun c hc d => ?_
  obtain ⟨l, hl⟩ := hf c
  rw [hl]
  exact h c hc d

/-- Whatever a direction does, every direction keeps a lasting property. -/
theorem worked (h : relay.Every P) (hP : Worker.Lasting P)
    (hw : relay.Worked now id direction work relay') : relay'.Every P := by
  cases hw with
  | @forward c f after action tunnel own bytes carried hc hworker hstep =>
    have hf : P (.forwarding f) := hworker ▸ h c (mem_of_find? hc).1 direction
    have hafter : P (.forwarding after) := hP.step hf hstep
    refine h.modify id fun other hother _ d => ?_
    rw [Connection.worker_limiter]
    exact Connection.forall_worker_setWorker direction (h other hother) hafter d
  | @conclude c f outcome fault hc hworker hdone =>
    refine h.setWorker id direction (w := afterForward c.closed relay.queue.turns outcome) ?_
    -- the direction has ended or goes on to report
    cases outcome <;> rw [afterForward] <;> split
    all_goals first | exact hP.ended | exact hP.reporting _ _
  | announce | withdraw | abandon => exact h.setWorker id direction hP.ended

/-- Whatever happens to a relay, every direction keeps a lasting property. -/
theorem step (h : relay.Every P) (hP : Worker.Lasting P) {action : Action}
    (hs : relay.Stepped now action relay') : relay'.Every P := by
  cases hs with
  | openConnection hid => exact h.openConnection hP.new now _
  | close id reason => exact h.close id reason
  | drop id => exact h.close id .shutdown
  | setConnectionRate id rate =>
    exact h.modify id (f := fun c => { c with limiter := c.limiter.setRate now rate })
      fun c hc _ => h c hc
  | work hwork => exact h.worked hP hwork
  | setTunnelRate | setDefaultRate | takeNotice | hangUp => exact h

end Every

end Relay

end Sluice
