import Sluice.Proofs.Relay.Workers

/-!
# Relays without active connections

When every connection of a relay is closed, its forwarders are cancelled. All that they can still
carry are the chunks that they have paid for, each of them at most one.

* `Chunk` and `Relay.IsPaid relay chunk`: a direction has paid for the chunk and is writing it;
* `Relay.Worked.drains`: whatever a direction does, it takes nothing from the limiter of the relay,
  and it carries nothing, or a chunk that is paid for.
-/

namespace Sluice

/-- The size of the chunk that the direction has paid for and not yet written to its end. -/
def Worker.chunk? : Worker → Option ℕ
  | .forwarding f => f.stage.chunk?
  | _ => none

/-- A chunk in the hand of a direction. -/
structure Chunk where
  /-- The number of the connection. -/
  id : ℕ
  /-- The direction in which the chunk goes. -/
  direction : Direction
  /-- The number of its bytes. -/
  size : ℕ
deriving DecidableEq

/-- The counters when a chunk was carried. -/
def Counters.carry (counters : Counters) (chunk : Chunk) : Counters :=
  counters.carried chunk.direction (.ofNat chunk.size)

namespace Relay

variable {relay relay' : Relay} {now id other : ℕ} {direction d : Direction} {work : Work}
  {c : Connection}

/-- The size of the chunk that the direction has paid for and not yet written to its end. -/
def chunk? (relay : Relay) (id : ℕ) (direction : Direction) : Option ℕ :=
  (relay.worker? id direction).bind Worker.chunk?

/-- The direction of the chunk has paid for it and is writing it. -/
def IsPaid (relay : Relay) (chunk : Chunk) : Prop :=
  relay.chunk? chunk.id chunk.direction = some chunk.size

/-- New limiters change no direction. -/
theorem worker?_map_limiter {f : Connection → Connection}
    (hf : ∀ c, ∃ l, f c = { c with limiter := l }) (id : ℕ) (direction : Direction) :
    ({ relay with connections := relay.connections.map f } : Relay).worker? id direction =
      relay.worker? id direction := by
  have hid : ∀ c, (f c).id = c.id := fun c => by
    obtain ⟨l, hl⟩ := hf c
    rw [hl]
  have hfind : ({ relay with connections := relay.connections.map f } : Relay).find? id =
      (relay.find? id).map f := by
    simp only [find?, List.find?_map, Function.comp_def, hid]
  rw [worker?, hfind, Option.map_map, worker?]
  congr 1
  funext c
  obtain ⟨l, hl⟩ := hf c
  rw [Function.comp_apply, hl, Connection.worker_limiter]

/-! ## Closing -/

/-- Closing a connection changes no direction. -/
theorem worker?_close (relay : Relay) (closed : ℕ) (reason : CloseReason) (id : ℕ)
    (direction : Direction) :
    (relay.close closed reason).worker? id direction = relay.worker? id direction := by
  by_cases hid : id = closed
  · subst hid
    simp only [worker?, find?_close_self, Option.map_map, Function.comp_def,
      Connection.worker_closed]
  · rw [worker?, find?_close_of_ne relay hid, worker?]

/-! ## Directions of closed connections -/

/-- A direction changes no other one. -/
theorem Worked.worker?_of_ne (hw : relay.Worked now id direction work relay')
    (hne : other = id → d ≠ direction) : relay'.worker? other d = relay.worker? other d := by
  by_cases hid : other = id
  · subst hid
    obtain ⟨c, hc⟩ : ∃ c, relay.find? other = some c := by cases hw <;> exact ⟨_, ‹_›⟩
    obtain ⟨c', hc', -, -, hworker⟩ := hw.find?_self hc
    rw [worker?_of_find? hc', worker?_of_find? hc, hworker d (hne rfl)]
  · rw [worker?, hw.find?_eq hid, worker?]

/-- A direction that gets no chunk has none but the one that it had. -/
theorem Worked.isPaid (hw : relay.Worked now id direction work relay')
    (hchunk : relay'.chunk? id direction = none ∨
      relay'.chunk? id direction = relay.chunk? id direction) {chunk : Chunk}
    (hpaid : relay'.IsPaid chunk) : relay.IsPaid chunk := by
  rw [IsPaid] at hpaid
  by_cases hself : chunk.id = id ∧ chunk.direction = direction
  · obtain ⟨rfl, rfl⟩ := hself
    rcases hchunk with hnone | hsame
    · cases hnone.symm.trans hpaid
    · exact hsame.symm.trans hpaid
  · have hworker : relay'.worker? chunk.id chunk.direction =
        relay.worker? chunk.id chunk.direction :=
      hw.worker?_of_ne fun hid hdirection => hself ⟨hid, hdirection⟩
    rw [IsPaid, ← hpaid, chunk?, chunk?, hworker]

theorem closed_of_active_eq_nil (hactive : relay.active = []) (hc : c ∈ relay.connections) :
    c.closed = true := by
  rw [← Bool.not_eq_false]
  intro hopen
  cases hactive ▸ mem_active.2 ⟨c, hc, rfl, hopen⟩

/-- In a relay without active connections, whatever a direction does, it pays nothing, and it carries
nothing or the chunk that it has paid for. -/
theorem Worked.drains (hw : relay.Worked now id direction work relay') (hactive : relay.active = [])
    (howes : relay.Every Worker.Owes) :
    relay'.limiter = relay.limiter ∧ relay'.connectionLimit = relay.connectionLimit ∧
      (relay'.counters = relay.counters ∧ (∀ chunk, relay'.IsPaid chunk → relay.IsPaid chunk) ∨
        ∃ chunk, relay.IsPaid chunk ∧ relay'.counters = relay.counters.carry chunk ∧
          ∀ other, relay'.IsPaid other → relay.IsPaid other ∧ other ≠ chunk) := by
  -- a direction that does not forward has no chunk
  have hset {c : Connection} (hc : relay.find? id = some c) (worker : Worker)
      (hworker : worker.chunk? = none) :
      (relay.modify id (·.setWorker direction worker)).chunk? id direction = none := by
    rw [chunk?, worker?_setWorker hc, Option.bind_some, hworker]
  have hw' := hw
  cases hw with
  | @forward c f after action tunnel own delivered carried hc hworker hstep =>
    have hmem := (mem_of_find? hc).1
    have hf := howes c hmem direction
    rw [hworker] at hf
    -- the forwarder is cancelled, so that it is at its last chunk
    rw [closed_of_active_eq_nil hactive hmem] at hstep
    obtain ⟨hlimiters, hcarried⟩ := Forward.cancelled_step hstep hf Nat.two_pos
    obtain ⟨rfl, -⟩ : tunnel = relay.limiter ∧ own = c.limiter := by simpa using hlimiters
    have hbefore : relay.chunk? id direction = f.stage.chunk? := by
      rw [chunk?, worker?_of_find? hc, hworker]
      rfl
    have hafter := congrArg (·.bind Worker.chunk?)
      (worker?_setWorker_limiter hc direction (.forwarding after) own)
    refine ⟨rfl, rfl, ?_⟩
    rcases hcarried with ⟨hzero, hkept⟩ | ⟨hwritten, hnone⟩
    · obtain rfl : carried = 0 := hzero
      refine .inl ⟨Counters.carried_zero .., fun chunk => hw'.isPaid ?_⟩
      exact hkept.imp hafter.trans fun hsame => hafter.trans (hsame.trans hbefore.symm)
    · refine .inr ⟨⟨id, direction, carried⟩, hbefore.trans hwritten, rfl, fun other hpaid => ?_⟩
      refine ⟨hw'.isPaid (.inl (hafter.trans hnone)) hpaid, ?_⟩
      -- the direction has no chunk any more
      rintro rfl
      cases (hafter.trans hnone).symm.trans hpaid
  | @conclude c f outcome fault hc hworker hdone =>
    refine ⟨rfl, rfl, .inl ⟨rfl, fun chunk hpaid => hw'.isPaid (.inl ?_) hpaid⟩⟩
    refine hset hc (afterForward c.closed relay.queue.turns outcome) ?_
    cases outcome <;> rw [afterForward] <;> split <;> rfl
  | announce hc | withdraw hc | abandon hc =>
    exact ⟨rfl, rfl, .inl ⟨rfl, fun chunk hpaid => hw'.isPaid (.inl (hset hc .ended rfl)) hpaid⟩⟩

end Relay

end Sluice
