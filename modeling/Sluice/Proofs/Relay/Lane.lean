import Sluice.Proofs.Forward.Payment
import Sluice.Proofs.Forward.Traffic
import Sluice.Proofs.Relay.Connections
import Sluice.Proofs.Schedule
import Sluice.Simulation.Line

/-!
# The books of one forwarder

A lane is a forwarder with all that it shares with others: its limiters, at which others pay and
rates are changed, its canceller and the counters of its tunnel. Whatever happens on a lane, the
bytes read, debited, written and counted decrease in this order, and differ by a chunk at most.

* `Lane.step` is one action at an instant. `Lane.step_of_workForward` says that the directions of a
  relay work on lanes, and `Lane.step_of_act` that a scripted forwarder does;
* `Lane.debited` and `Lane.counted` are the bytes that an action debits and those that it counts;
* `Forward.Settled` relates the debits to what has passed through the forwarder;
* `Lane.balanced_of_run`: the books balance after every run.
-/

namespace Sluice

/-- Among the first `count` limiters, none debited more than the one before it, the first no more
than was read, and none less than was written. -/
structure Falls (read written count : ℕ) (debited : ℕ → ℕ) : Prop where
  le_read : ∀ i < count, debited i ≤ read
  anti : ∀ i j, i ≤ j → j < count → debited j ≤ debited i
  written_le : ∀ i < count, written ≤ debited i

namespace Stage

/-- What is left to pay for the chunk at a limiter is a part of it. -/
def PaysChunk : Stage → Prop
  | .paying chunk _ acquire => acquire.remaining ≤ chunk.length
  | _ => True

/-- What is prepaid was read and is still to be written. -/
theorem prepaid_le_pending (stage : Stage) (i : ℕ) : stage.prepaid i ≤ stage.pending.length := by
  cases stage with
  | paying chunk paid acquire =>
    simp only [prepaid, pending]
    split_ifs <;> omega
  | _ => exact le_rfl

end Stage

namespace Forward

variable {f : Forward} {limiters : List Limiter} {cancelled : Bool} {now : ℕ} {action : Action}
  {move : Move} {t : Traffic} {debits : ℕ → ℕ} {count : ℕ}

/-- What the limiters have debited fits what the forwarder is busy with: while it works, at each
limiter just the bytes written and those prepaid there. -/
def Settled (debits : ℕ → ℕ) (t : Traffic) (f : Forward) (count : ℕ) : Prop :=
  match f.stage with
  | .closing _ | .finished .. => Falls t.read.length t.written.length count debits
  | stage => stage.PaysChunk ∧ ∀ i < count, debits i = t.written.length + stage.prepaid i

theorem settled_payingFrom {chunk : List UInt8} {paid total : ℕ}
    (h : ∀ i < count, debits i = t.written.length + if i < paid then chunk.length else 0) :
    Settled debits t ⟨total, payingFrom chunk paid count⟩ count := by
  have hprepaid := fun i hi => (h i hi).trans
    (congrArg (_ + ·) (prepaid_payingFrom chunk paid hi).symm)
  by_cases hpaid : paid < count
  · rw [payingFrom, if_pos hpaid] at hprepaid ⊢
    exact ⟨le_rfl, hprepaid⟩
  · rw [payingFrom, if_neg hpaid] at hprepaid ⊢
    exact ⟨trivial, hprepaid⟩

theorem Settled.falls (h : Settled debits t f count) (hfits : t.Fits f) :
    Falls t.read.length t.written.length count debits := by
  -- written and prepaid bytes together fall along the limiters, as the prepaid ones do
  have hworking (hread : t.read = t.written ++ f.stage.pending)
      (hdebits : ∀ i < count, debits i = t.written.length + f.stage.prepaid i) :
      Falls t.read.length t.written.length count debits := by
    refine ⟨fun i hi => ?_, fun i j hij hj => ?_, fun i hi => ?_⟩
    · rw [hdebits i hi, hread, List.length_append]
      exact Nat.add_le_add_left (f.stage.prepaid_le_pending i) _
    · rw [hdebits j hj, hdebits i (hij.trans_lt hj)]
      exact Nat.add_le_add_left (f.stage.prepaid_anti hij) _
    · rw [hdebits i hi]
      exact Nat.le_add_right _ _
  cases hstage : f.stage <;> simp only [Settled, Traffic.Fits, hstage] at h hfits hworking
  case closing | finished => exact h
  all_goals exact hworking hfits.read_eq h.2

theorem Settled.step (h : Settled debits t f limiters.length) (hfits : t.Fits f)
    (hs : f.step limiters cancelled now action = some move) :
    Settled (fun i => debits i + f.debited limiters cancelled now action i) (t.note f action)
      move.forward limiters.length := by
  -- wherever the work ends, the debits keep the order that they have by then
  have hfalls := h.falls hfits
  cases stepped_of_step hs with
  | ended hstage =>
    simp only [Settled, debited, hstage, Nat.add_zero]
    exact hfalls
  | received hstage hne hle =>
    simp only [Settled, hstage] at h
    rw [Traffic.note_received hne]
    refine settled_payingFrom fun i hi => ?_
    simpa [debited, hstage, Stage.prepaid] using h.2 i hi
  | readFailed fault hstage =>
    simp only [Settled, debited, hstage, Nat.add_zero]
    exact hfalls
  | granted hstage hl hprogress =>
    simp only [Settled, hstage] at h
    -- the limiter that is asked debits what remained there, and the others debit nothing
    refine settled_payingFrom fun i hi => ?_
    have hpaid := h.2 i hi
    have hpays : _ ≤ _ := h.1
    simp only [debited, hstage, hl, Option.elim_some, hprogress, Acquire.paid,
      Stage.prepaid] at hpaid ⊢
    simp only [Traffic.note]
    split_ifs at hpaid ⊢ <;> omega
  | waiting hstage hl hprogress =>
    simp only [Settled, hstage] at h
    obtain ⟨hpays, hpaid⟩ := h
    have hpays : _ ≤ _ := hpays
    have hless := Acquire.remaining_le_of_attempt hprogress
    refine ⟨hless.trans hpays, fun i hi => ?_⟩
    have hpaid := hpaid i hi
    simp only [debited, hstage, hl, Option.elim_some, hprogress, Acquire.paid, Stage.prepaid,
      Traffic.note] at hpaid ⊢
    split_ifs at hpaid ⊢ <;> omega
  | payFailed hstage hl hprogress =>
    simp only [Settled, debited, hstage, hl, Option.elim_some, hprogress, Acquire.paid, ite_self,
      Nat.add_zero]
    exact hfalls
  | tookNone hstage =>
    simp only [Settled, debited, hstage, Nat.add_zero, Traffic.note_took hstage, List.take_zero,
      List.append_nil]
    exact hfalls
  | tookSome hstage hpos hlt =>
    simp only [Settled, hstage] at h
    refine ⟨trivial, fun i hi => ?_⟩
    have hpaid := h.2 i hi
    simp only [debited, hstage, Stage.prepaid, Traffic.note_took hstage, List.length_append,
      List.length_take, List.length_drop] at hpaid ⊢
    omega
  | tookAll hstage =>
    simp only [Settled, hstage] at h
    refine ⟨trivial, fun i hi => ?_⟩
    simpa [debited, hstage, Stage.prepaid, Traffic.note_took hstage] using h.2 i hi
  | writeFailed fault hstage =>
    simp only [Settled, debited, hstage, Nat.add_zero]
    exact hfalls
  | heeded hcancelled hstage =>
    obtain hstage | ⟨size, rest, hstage⟩ := hstage
    all_goals
      simp only [Settled, debited, hstage, Nat.add_zero]
      exact hfalls
  | shut fault hstage =>
    simp only [Settled, debited, hstage, Nat.add_zero]
    exact hfalls

end Forward

/-- A forwarder with what it shares with others. What the forwarder does between two points at which
it awaits something is one step, and so is a change of a rate. -/
structure Lane where
  /-- The forwarder. -/
  forward : Forward := {}
  /-- The limiters that the forwarder pays, in this order. -/
  limiters : List Limiter
  /-- The forwarder is cancelled. -/
  cancelled : Bool := false
  /-- The way that the bytes take. -/
  direction : Direction
  /-- The counters of the tunnel. -/
  counters : Counters := {}

namespace Lane

/-- The lane of a direction of a connection. -/
def ofRelay (relay : Relay) (c : Connection) (direction : Direction) (f : Forward) : Lane where
  forward := f
  limiters := [relay.limiter, c.limiter]
  cancelled := c.closed
  direction := direction
  counters := relay.counters

/-- The lane of a forwarder between scripted streams. -/
def ofLine (line : Simulation.Line) : Lane where
  forward := line.forward
  limiters := line.limiters
  cancelled := line.cancelled
  direction := line.direction
  counters := line.counters

/-- What can happen on a lane. -/
inductive Action where
  /-- Something happens to the forwarder. -/
  | work (action : Forward.Action)
  /-- The forwarder is cancelled. -/
  | cancel
  /-- The rate of limiter `i` is changed. -/
  | setRate (i : ℕ) (rate : UInt64)
  /-- Limiter `i` grants bytes to somebody else. -/
  | debit (i bytes : ℕ)

/-- The lane after an action, or none if the action cannot happen now. -/
def step (lane : Lane) (now : ℕ) : Action → Option Lane
  | .work action =>
    (lane.forward.step lane.limiters lane.cancelled now action).map fun move =>
      { lane with
        forward := move.forward
        limiters := move.limiters
        counters := lane.counters.carried lane.direction (.ofNat move.carried) }
  | .cancel => some { lane with cancelled := true }
  | .setRate i rate => some { lane with limiters := lane.limiters.modify i (·.setRate now rate) }
  | .debit i bytes =>
    lane.limiters[i]?.bind fun limiter =>
      match limiter.debit now bytes with
      | .granted after => some { lane with limiters := lane.limiters.set i after }
      | _ => none

/-! Both a direction of a connection and a forwarder between scripted streams work on a lane. -/

theorem step_of_workForward {relay relay' : Relay} {c : Connection} {direction : Direction}
    {f : Forward} {now : ℕ} {action : Forward.Action} (hc : relay.find? c.id = some c)
    (h : relay.workForward now c direction f action = some relay') :
    ∃ c' f', relay'.find? c.id = some c' ∧ c'.worker direction = .forwarding f' ∧
      (ofRelay relay c direction f).step now (.work action) =
        some (ofRelay relay' c' direction f') := by
  simp only [Relay.workForward] at h
  split at h
  next after tunnel own delivered carried hstep =>
    cases h
    refine ⟨{ c.setWorker direction (.forwarding after) with limiter := own }, after, ?_, ?_, ?_⟩
    · exact Relay.find?_modify_self (fun c => c.id_setWorker ..) hc
    · exact (Connection.worker_limiter ..).trans (c.worker_setWorker_self ..)
    · simp [step, ofRelay, hstep]
  next => cases h

theorem step_of_act {line next : Simulation.Line} {action : Forward.Action}
    (hcounted : line.counted) (h : line.act action = some next) :
    (ofLine line).step line.now (.work action) = some (ofLine next) := by
  obtain ⟨move, hmove, h⟩ := Option.bind_eq_some_iff.1 h
  cases h
  simp [step, ofLine, hmove, hcounted]

/-- The bytes that an action of the forwarder debits at limiter `i`. -/
def debited (i : ℕ) (lane : Lane) (now : ℕ) : Action → ℕ
  | .work action => lane.forward.debited lane.limiters lane.cancelled now action i
  | _ => 0

/-- The bytes that an action adds to the counters. -/
def counted (lane : Lane) (now : ℕ) : Action → ℕ
  | .work action =>
    (lane.forward.step lane.limiters lane.cancelled now action).elim 0 (·.carried)
  | _ => 0

/-- The record of what has passed through the forwarder, after an action. -/
def note (t : Traffic) (lane : Lane) : Action → Traffic
  | .work action => t.note lane.forward action
  | _ => t

/-- The books of a lane: what has passed through its forwarder, what the limiters debited and what
was counted. -/
structure Balanced (before after : Lane) (t : Traffic) (debits : ℕ → ℕ) (counted : ℕ) : Prop where
  written_isPrefix : t.written <+: t.read
  falls : Falls t.read.length t.written.length before.limiters.length debits
  counted_le : counted ≤ t.written.length
  length_read_le : t.read.length ≤ counted + chunkSize
  /-- The counter of the lane's direction has gone up by the bytes counted. -/
  counted_eq : after.counters.bytes before.direction =
    before.counters.bytes before.direction + .ofNat counted
  /-- The counter of the other direction is left alone. -/
  bytes_eq : ∀ d ≠ before.direction, after.counters.bytes d = before.counters.bytes d
  /-- So are the counters of the connections. -/
  total_eq : after.counters.total = before.counters.total
  active_eq : after.counters.active = before.counters.active
  /-- A forwarder that ends well has carried its source to the end. -/
  of_ok : ∀ n fault, after.forward.outcome? = some (.ok n, fault) →
    t.sourceEnd = some .eof ∧ t.written = t.read ∧ t.read.length = n ∧ counted = n
  /-- When the source stops, all that was read before is written. -/
  of_stop : ∀ stop, t.sourceEnd = some stop → t.written = t.read ∧
    ∀ outcome fault, after.forward.outcome? = some (outcome, fault) →
      outcome = stop.outcome counted
  /-- The destination is closed once, when the forwarder finishes. -/
  closings_eq : t.closings = if after.forward.outcome?.isSome then 1 else 0
  /-- Once the work has ended, nothing happens but that the destination is closed. -/
  closes : ∀ outcome, after.forward.stage = .closing outcome → ∀ now action,
    (after.step now (.work action)).isSome ↔ ∃ fault, action = .shut fault
  /-- Once the destination is closed, nothing happens to the forwarder. -/
  rests : after.forward.outcome?.isSome → ∀ now action, after.step now (.work action) = none
  /-- The bytes on record as written are those that the destination is handed. -/
  hands : ∀ now action move,
    after.forward.step after.limiters after.cancelled now action = some move →
      (note t after (.work action)).written = t.written ++ move.delivered
  /-- The debits on record are the debits of the limiters, which take just these bytes off the level
  of a sound limiter. -/
  pays : ∀ now action next, after.step now (.work action) = some next →
    ∀ i (l : Limiter), after.limiters[i]? = some l →
      ∃ l', next.limiters[i]? = some l' ∧ l.Debits now (after.debited i now (.work action)) l' ∧
        (l.Sound now → l'.Sound now ∧
          l'.level now = l.level now - after.debited i now (.work action))

variable {before lane next after : Lane} {now : ℕ} {action : Action} {t : Traffic} {debits : ℕ → ℕ}

/-- What every action keeps of a lane and its books. -/
structure Booked (before : Lane) (t : Traffic) (debits : ℕ → ℕ) (lane : Lane) : Prop where
  fits : t.Fits lane.forward
  settled : Forward.Settled debits t lane.forward before.limiters.length
  length_eq : lane.limiters.length = before.limiters.length
  direction_eq : lane.direction = before.direction
  counters_eq : lane.counters =
    before.counters.carried before.direction (.ofNat lane.forward.total)

theorem Booked.step (h : Booked before t debits lane) (hs : lane.step now action = some next) :
    Booked before (note t lane action) (fun i => debits i + lane.debited i now action) next := by
  cases action with
  | work action =>
    obtain ⟨move, hmove, rfl⟩ := Option.map_eq_some_iff.1 hs
    have hlength := Forward.length_limiters_of_step hmove
    refine ⟨h.fits.step hmove, ?_, hlength.trans h.length_eq, h.direction_eq, ?_⟩
    · rw [← h.length_eq]
      exact (h.length_eq ▸ h.settled).step h.fits hmove
    · simp only
      rw [Forward.total_of_step hmove, h.counters_eq, h.direction_eq, Counters.carried_carried,
        UInt64.ofNat_add]
  | cancel =>
    cases hs
    exact { h with }
  | setRate i rate =>
    cases hs
    exact { h with length_eq := (List.length_modify ..).trans h.length_eq }
  | debit i bytes =>
    obtain ⟨limiter, -, hs⟩ := Option.bind_eq_some_iff.1 hs
    split at hs <;> cases hs
    exact { h with length_eq := List.length_set.trans h.length_eq }

theorem booked_new (lane : Lane) (hnew : lane.forward = {}) : Booked lane {} (fun _ => 0) lane where
  fits := hnew ▸ Traffic.fits_new
  settled := by
    rw [hnew]
    exact ⟨trivial, fun _ _ => rfl⟩
  length_eq := rfl
  direction_eq := rfl
  counters_eq := by
    rw [hnew]
    exact (Counters.carried_zero ..).symm

theorem Booked.balanced (h : Booked before t debits after) :
    Balanced before after t debits after.forward.total where
  written_isPrefix := h.fits.carried.1
  falls := h.settled.falls h.fits
  counted_le := h.fits.carried.2.1
  length_read_le := h.fits.carried.2.2
  counted_eq := by
    rw [h.counters_eq, Counters.bytes_carried_self]
  bytes_eq d hd := by
    rw [h.counters_eq]
    exact Counters.bytes_carried_of_ne _ _ hd
  total_eq := by
    rw [h.counters_eq, Counters.total_carried]
  active_eq := by
    rw [h.counters_eq, Counters.active_carried]
  of_ok n fault houtcome := by
    have hconcluded := h.fits.concluded houtcome
    have heof := hconcluded.of_ok n rfl
    obtain ⟨hwritten, htotal, hok⟩ := hconcluded.of_stop _ heof
    cases hok
    exact ⟨heof, hwritten, htotal.symm, rfl⟩
  of_stop stop hstop := by
    refine ⟨h.fits.written_eq hstop, fun outcome fault houtcome => ?_⟩
    exact ((h.fits.concluded houtcome).of_stop _ hstop).2.2
  closings_eq := h.fits.closings_eq
  closes outcome hstage now action := by
    simpa [Lane.step] using Forward.step_isSome_of_closing hstage
  rests hsome now action := by
    simp [Lane.step, Forward.step_of_outcome? hsome]
  hands now action move hmove := Traffic.written_note hmove
  pays now action next hs i l hl := by
    obtain ⟨move, hmove, rfl⟩ := Option.map_eq_some_iff.1 hs
    obtain ⟨l', hl', hdebits⟩ := Forward.debits_of_step hmove hl
    exact ⟨l', hl', hdebits, fun hsound => ⟨hdebits.sound hsound, hdebits.level_eq hsound⟩⟩

theorem total_of_step (hs : lane.step now action = some next) :
    next.forward.total = lane.forward.total + lane.counted now action := by
  cases action with
  | work action =>
    obtain ⟨move, hmove, rfl⟩ := Option.map_eq_some_iff.1 hs
    rw [counted, hmove, Option.elim_some]
    exact Forward.total_of_step hmove
  | cancel | setRate i rate =>
    cases hs
    rfl
  | debit i bytes =>
    obtain ⟨limiter, -, hs⟩ := Option.bind_eq_some_iff.1 hs
    split at hs <;> cases hs
    rfl

/-- After every run of a new lane its books balance. -/
theorem balanced_of_run {actions : Schedule Action} (hnew : before.forward = {})
    (hrun : Schedule.run step before actions = some after) :
    Balanced before after (Schedule.record step note {} before actions)
      (fun i => Schedule.total step (debited i) before actions)
      (Schedule.total step counted before actions) := by
  -- the forwarder itself knows how many bytes it has counted
  have hcounted : after.forward.total = Schedule.total step counted before actions := by
    simpa [hnew] using Schedule.view_run (fun _ _ _ _ => total_of_step) hrun
  rw [← hcounted]
  have hbooked : Booked before (Schedule.record step note {} before actions)
      (fun i => 0 + Schedule.total step (debited i) before actions) after := by
    refine Schedule.record_total_keeps (Booked before) ?_ (booked_new before hnew) hrun
    exact fun _ _ _ _ _ _ h hs => h.step hs
  simpa using hbooked.balanced

/-- Whatever happens on a lane keeps its limiters sound. -/
theorem sound_step (h : ∀ l ∈ lane.limiters, l.Sound now) (hs : lane.step now action = some next) :
    ∀ l ∈ next.limiters, l.Sound now := by
  intro l' hl'
  obtain ⟨i, hi⟩ := List.mem_iff_getElem?.1 hl'
  cases action with
  | work action =>
    obtain ⟨move, hmove, rfl⟩ := Option.map_eq_some_iff.1 hs
    have hlt : i < lane.limiters.length := by
      rw [← Forward.length_limiters_of_step hmove]
      exact (List.getElem?_eq_some_iff.1 hi).1
    have hl : lane.limiters[i]? = some lane.limiters[i] := List.getElem?_eq_getElem hlt
    -- the limiter differs from the one that was in its place by a debit at most
    obtain ⟨after, hafter, hdebits⟩ := Forward.debits_of_step hmove hl
    obtain rfl : l' = after := Option.some.inj (hi.symm.trans hafter)
    exact hdebits.sound (h _ (List.getElem_mem hlt))
  | cancel =>
    cases hs
    exact h l' hl'
  | setRate j rate =>
    cases hs
    obtain ⟨l, hl, rfl⟩ := Option.map_eq_some_iff.1 ((List.getElem?_modify ..).symm.trans hi)
    have hsound := h l (List.mem_of_getElem? hl)
    split
    · exact hsound.setRate rate
    · exact hsound
  | debit j bytes =>
    obtain ⟨l, hl, hs⟩ := Option.bind_eq_some_iff.1 hs
    split at hs <;> cases hs
    next after hdebit =>
      obtain hmem | rfl := List.mem_or_eq_of_mem_set hl'
      · exact h l' hmem
      · exact (h l (List.mem_of_getElem? hl)).debit hdebit

/-- Limiters that are sound at first are sound after every run of the lane. -/
theorem sound_of_run {actions : Schedule Action} {first last : ℕ}
    (horder : Schedule.InOrder first actions last) (h : ∀ l ∈ before.limiters, l.Sound first)
    (hrun : Schedule.run step before actions = some after) : ∀ l ∈ after.limiters, l.Sound last :=
  Schedule.run_keeps (fun now lane => ∀ l ∈ lane.limiters, l.Sound now)
    (fun _ _ _ hle h l hl => (h l hl).mono hle) (fun _ _ _ _ h hs => sound_step h hs) horder h hrun

/-- Five bytes are paid for at two limiters, the first of which grants four at once, while the second
is paused at first. They are written in two parts, and the source ends. -/
def fiveBytes : Schedule Action :=
  [(0, .work (.received [104, 101, 108, 108, 111])), (0, .work .pay), (0, .work .pay),
    (1000000, .work .pay), (1000000, .work .pay), (2000000, .setRate 1 1000),
    (2000000, .work .pay), (7000000, .work .pay), (7000000, .debit 0 2), (8000000, .work (.took 2)),
    (9000000, .work (.took 3)), (9000000, .work (.received [])), (9000000, .work (.shut none))]

theorem balanced_of_fiveBytes :
    ∃ before after, before.forward = {} ∧ Schedule.run step before fiveBytes = some after ∧
      Balanced before after (Schedule.record step note {} before fiveBytes)
        (fun i => Schedule.total step (debited i) before fiveBytes)
        (Schedule.total step counted before fiveBytes) ∧
      (∀ l ∈ after.limiters, l.Sound 9000000) ∧
      Schedule.total step (debited 1) before fiveBytes = 5 ∧
      after.counters.upstream = 5 ∧ after.counters.downstream = 0 := by
  have hrun : (Schedule.run step
      { limiters := [.make 0 1000 4, .make 0 0 8], direction := .upstream } fiveBytes).isSome := by
    decide +kernel
  obtain ⟨after, hrun⟩ := Option.isSome_iff_exists.1 hrun
  have hbalanced := balanced_of_run rfl hrun
  have horder : Schedule.InOrder 0 fiveBytes 9000000 := by simp [fiveBytes, Schedule.InOrder]
  have hsound := sound_of_run horder (by simp [Limiter.sound_make]) hrun
  have hcounted : Schedule.total step counted
      { limiters := [.make 0 1000 4, .make 0 0 8], direction := .upstream } fiveBytes = 5 := by
    decide +kernel
  exact ⟨_, after, rfl, hrun, hbalanced, hsound, by decide +kernel,
    hbalanced.counted_eq.trans (by rw [hcounted]; rfl), hbalanced.bytes_eq .downstream nofun⟩

end Lane

end Sluice
