import Sluice.Proofs.Event.Ledger
import Sluice.Proofs.Relay.Counts

/-!
# The books of a relay

The events, the counters and the connections of a relay are three accounts of the same facts.

* `Relay.Books relay accepted dialing`: the three accounts agree, when `accepted` clients were
  announced so far and `dialing` is the one being dialed;
* for each operation of a relay, a lemma that the operation keeps the books.
-/

namespace Sluice.Relay

open Event (acceptedId? settledId? openedId? closedId?)

variable {relay relay' : Relay} {now id accepted accepted' : ℕ} {dialing dialing' : Option ℕ}
  {reason : CloseReason} {e : Event}

/-- The events, the counters and the connections agree. -/
structure Books (relay : Relay) (accepted : ℕ) (dialing : Option ℕ) : Prop where
  replay : Ledger.replay relay.events = some ⟨accepted, dialing, relay.active⟩
  opened : relay.events.filterMap openedId? = relay.ids
  total : relay.counters.total = .ofNat relay.ids.length
  active : relay.counters.active = .ofNat relay.active.length

namespace Books

/-- Connections have different numbers. -/
theorem nodup (h : relay.Books accepted dialing) : relay.ids.Nodup := by
  rw [← h.opened]
  exact (Ledger.agrees_of_replay h.replay).nodup_opened

/-- The client that is being dialed has no connection yet. -/
theorem not_mem_ids (h : relay.Books accepted (some id)) : id ∉ relay.ids := by
  rw [← h.opened]
  exact (Ledger.agrees_of_replay h.replay).dialing_not_mem_opened rfl

theorem counts (h : relay.Books accepted dialing) : relay.Counts := ⟨h.nodup, h.total, h.active⟩

/-- The books are about nothing else than events, counters and connections. -/
theorem congr (h : relay.Books accepted dialing) (hevents : relay'.events = relay.events)
    (hids : relay'.ids = relay.ids) (hactive : relay'.active = relay.active)
    (htotal : relay'.counters.total = relay.counters.total)
    (hcounter : relay'.counters.active = relay.counters.active) :
    relay'.Books accepted dialing where
  replay := by rw [hevents, hactive, h.replay]
  opened := by rw [hevents, hids, h.opened]
  total := by rw [htotal, hids, h.total]
  active := by rw [hcounter, hactive, h.active]

/-- An event that opens and closes nothing is entered. -/
theorem emit (h : relay.Books accepted dialing) (hopened : e.openedId? = none)
    (hrecord : (Ledger.mk accepted dialing relay.active).record e =
      some ⟨accepted', dialing', relay.active⟩) : (relay.emit e).Books accepted' dialing' where
  replay := by
    rw [Relay.emit, Ledger.replay_concat, h.replay]
    exact hrecord
  opened := by
    rw [Relay.emit, Ledger.filterMap_concat, h.opened, hopened, Option.toList_none, List.append_nil]
    rfl
  total := h.total
  active := h.active

/-- Neutral events are entered. -/
theorem append (h : relay.Books accepted dialing) {neutral : List Event}
    (hneutral : ∀ e ∈ neutral, e.isNeutral) :
    Books { relay with events := relay.events ++ neutral } accepted dialing where
  replay := by
    rw [Ledger.replay_append_of_isNeutral _ hneutral, h.replay]
    rfl
  opened := by
    have hnone : neutral.filterMap openedId? = [] :=
      List.filterMap_eq_nil_iff.2 fun e he => Ledger.openedId?_of_isNeutral (hneutral e he)
    rw [List.filterMap_append, hnone, List.append_nil, h.opened]
    rfl
  total := h.total
  active := h.active

theorem emit_of_isNeutral (h : relay.Books accepted dialing) (hneutral : e.isNeutral) :
    (relay.emit e).Books accepted dialing :=
  h.append (by simpa using hneutral)

/-- Only the client that is being dialed can get a connection. -/
theorem openConnection (h : relay.Books accepted (some id)) (now : ℕ) :
    (relay.openConnection now id).Books accepted none where
  replay := by
    rw [active_openConnection, Relay.openConnection, Ledger.replay_concat, h.replay]
    simp [Ledger.record]
  opened := by
    rw [ids_openConnection, Relay.openConnection, Ledger.filterMap_concat, h.opened]
    rfl
  total := (h.counts.openConnection h.not_mem_ids now).total
  active := (h.counts.openConnection h.not_mem_ids now).active

theorem withNotices (h : relay.Books accepted dialing) (notices : List Notice) :
    (relay.withNotices notices).Books accepted dialing :=
  h.congr rfl rfl rfl rfl rfl

/-! ## Closing -/

/-- Closing an active connection is entered once and counted once. -/
theorem closed (h : relay.Books accepted dialing) (hid : id ∈ relay.active)
    (reason : CloseReason) : (relay.closed id reason).Books accepted dialing where
  replay := by
    rw [h.counts.active_closed, Relay.closed, Ledger.replay_concat, h.replay]
    simp [Ledger.record, hid]
  opened := by
    rw [ids_closed, Relay.closed, Ledger.filterMap_concat, h.opened]
    exact List.append_nil _
  total := (h.counts.closed hid reason).total
  active := (h.counts.closed hid reason).active

/-- Closing keeps the books, and afterwards the connection is not active. -/
theorem close (h : relay.Books accepted dialing) (id : ℕ) (reason : CloseReason) :
    (relay.close id reason).Books accepted dialing ∧
      (relay.close id reason).active = relay.active.erase id := by
  by_cases hid : id ∈ relay.active
  · rw [close_of_mem h.nodup hid]
    exact ⟨h.closed hid reason, h.counts.active_closed id reason⟩
  · rw [close_of_not_mem hid, List.erase_of_not_mem hid]
    exact ⟨h, rfl⟩

theorem foldl_close (h : relay.Books accepted dialing) (list : List ℕ) (reason : CloseReason) :
    (list.foldl (·.close · reason) relay).Books accepted dialing ∧
      (list.foldl (·.close · reason) relay).active = relay.active.diff list := by
  induction list generalizing relay with
  | nil => exact ⟨h, rfl⟩
  | cons id rest ih =>
    obtain ⟨hbooks, hactive⟩ := h.close id reason
    rw [List.foldl_cons, List.diff_cons, ← hactive]
    exact ih hbooks

/-- Closing everything keeps the books, and afterwards no connection is active. -/
theorem closeAll (h : relay.Books accepted dialing) (reason : CloseReason) :
    (relay.closeAll reason).Books accepted dialing ∧ (relay.closeAll reason).active = [] := by
  obtain ⟨hbooks, hactive⟩ := h.foldl_close relay.active reason
  refine ⟨hbooks, hactive.trans ?_⟩
  -- each of the active connections is taken out once
  induction relay.active with
  | nil => rfl
  | cons id rest ih => rw [List.diff_cons, List.erase_cons_head, ih]

/-! ## Rates and directions -/

theorem modify (h : relay.Books accepted dialing) (id : ℕ) {f : Connection → Connection}
    (hf : ∀ c, (f c).id = c.id) (hclosed : ∀ c, (f c).closed = c.closed) :
    (relay.modify id f).Books accepted dialing :=
  h.congr rfl (ids_modify relay id hf) (active_modify relay id hf hclosed) rfl rfl

theorem setConnectionRate (h : relay.Books accepted dialing) (now id : ℕ) (rate : UInt64) :
    (relay.setConnectionRate now id rate).Books accepted dialing :=
  h.modify id (fun _ => rfl) fun _ => rfl

theorem foldl_setConnectionRate (h : relay.Books accepted dialing) (list : List ℕ) (now : ℕ)
    (rate : UInt64) :
    (list.foldl (·.setConnectionRate now · rate) relay).Books accepted dialing := by
  induction list generalizing relay with
  | nil => exact h
  | cons id rest ih => exact ih (h.setConnectionRate now id rate)

theorem isNeutral_of_mem_endEvents {direction : Direction} {outcome : Outcome}
    {fault : Option Net.IoFault} (he : e ∈ endEvents id direction outcome fault) : e.isNeutral := by
  have hdirection := isOfDirection_of_mem_endEvents he
  cases e <;> first | rfl | cases hdirection

theorem setWorker (h : relay.Books accepted dialing) (id : ℕ) (direction : Direction)
    (worker : Worker) : (relay.modify id (·.setWorker direction worker)).Books accepted dialing :=
  h.modify id (fun c => c.id_setWorker direction worker)
    fun c => c.closed_setWorker direction worker

/-- What a direction does on its own keeps the books. -/
theorem worked {direction : Direction} {action : Work} (h : relay.Books accepted dialing)
    (hw : relay.Worked now id direction action relay') : relay'.Books accepted dialing := by
  cases hw with
  | @forward c f after action tunnel own delivered carried hc hworker hstep =>
    have hbooks := h.modify id
      (f := fun c => { c.setWorker direction (.forwarding after) with limiter := own })
      (fun c => c.id_setWorker direction _) fun c => c.closed_setWorker direction _
    exact hbooks.congr rfl rfl rfl (Counters.total_carried ..) (Counters.active_carried ..)
  | @conclude c f outcome fault hc hworker hdone =>
    exact (h.append fun _ => isNeutral_of_mem_endEvents).setWorker id direction
      (afterForward c.closed relay.queue.turns outcome) |>.congr rfl rfl rfl rfl rfl
  | announce hc hworker hheard hpush =>
    exact (h.setWorker id direction .ended).congr rfl rfl rfl rfl rfl
  | withdraw hc hworker hclosed => exact h.setWorker id direction .ended
  | abandon hc hworker hheard => exact h.setWorker id direction .ended

end Books

end Sluice.Relay
