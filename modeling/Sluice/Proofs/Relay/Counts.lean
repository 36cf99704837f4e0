import Sluice.Proofs.Relay.Connections

/-!
# The counters of a relay

Connections have different numbers, and the counters of a relay say how many connections it has had
and how many of them are active. The counter of active connections goes down only where there is an
active connection to count down, so that it never wraps around below zero.

* `Relay.Counts relay`: the counters agree with the connections;
* for each operation of a relay, a lemma that the operation keeps the counts.
-/

namespace Sluice.Relay

variable {relay relay' : Relay} {now id : ℕ} {reason : CloseReason}

/-- The numbers of the connections are different, and the counters count the connections. -/
structure Counts (relay : Relay) : Prop where
  nodup : relay.ids.Nodup
  total : relay.counters.total = .ofNat relay.ids.length
  active : relay.counters.active = .ofNat relay.active.length

namespace Counts

/-- The counts are about nothing else than connections and counters. -/
theorem congr (h : relay.Counts) (hids : relay'.ids = relay.ids)
    (hactive : relay'.active = relay.active)
    (htotal : relay'.counters.total = relay.counters.total)
    (hcounter : relay'.counters.active = relay.counters.active) : relay'.Counts where
  nodup := by rw [hids]; exact h.nodup
  total := by rw [htotal, hids, h.total]
  active := by rw [hcounter, hactive, h.active]

/-- A new connection is counted. -/
theorem openConnection (h : relay.Counts) (hid : id ∉ relay.ids) (now : ℕ) :
    (relay.openConnection now id).Counts where
  nodup := by
    rw [ids_openConnection]
    exact List.nodup_append.2 ⟨h.nodup, List.nodup_singleton id, by
      rintro a ha b hb rfl
      exact hid (List.mem_singleton.1 hb ▸ ha)⟩
  total := by
    rw [ids_openConnection, List.length_append, List.length_singleton, UInt64.ofNat_add, ← h.total]
    rfl
  active := by
    rw [active_openConnection, List.length_append, List.length_singleton, UInt64.ofNat_add,
      ← h.active]
    rfl

theorem active_closed (h : relay.Counts) (id : ℕ) (reason : CloseReason) :
    (relay.closed id reason).active = relay.active.erase id := by
  have hnodup := h.nodup.sublist relay.active_sublist_ids
  rw [Relay.active_closed, hnodup.erase_eq_filter]
  exact List.filter_congr fun x _ => by rw [bne, Bool.beq_eq_decide_eq, decide_not]

/-- Closing an active connection is counted once. -/
theorem closed (h : relay.Counts) (hid : id ∈ relay.active) (reason : CloseReason) :
    (relay.closed id reason).Counts where
  nodup := by
    rw [ids_closed]
    exact h.nodup
  total := by
    rw [ids_closed, ← h.total]
    rfl
  active := by
    -- there is one connection to count down, so that the counter does not wrap around
    have hlength : relay.active.length = (relay.active.erase id).length + 1 := by
      rw [List.length_erase_of_mem hid]
      have := List.length_pos_of_mem hid
      omega
    have hcounter := h.active
    rw [hlength, UInt64.ofNat_add] at hcounter
    rw [h.active_closed, Relay.closed, Counters.ended, hcounter]
    exact UInt64.add_sub_cancel _ _

theorem close (h : relay.Counts) (id : ℕ) (reason : CloseReason) :
    (relay.close id reason).Counts := by
  by_cases hid : id ∈ relay.active
  · rw [close_of_mem h.nodup hid]
    exact h.closed hid reason
  · rw [close_of_not_mem hid]
    exact h

/-- What a direction does on its own is not counted. -/
theorem worked {direction : Direction} {action : Work} (h : relay.Counts)
    (hw : relay.Worked now id direction action relay') : relay'.Counts := by
  refine h.congr hw.ids_eq hw.active_eq ?_ ?_ <;> cases hw <;> first | rfl | cases direction <;> rfl

end Counts

end Sluice.Relay
