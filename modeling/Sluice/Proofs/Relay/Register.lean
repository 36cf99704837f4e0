import Mathlib.Logic.Function.Basic
import Sluice.Proofs.Relay.Counts
import Sluice.Proofs.Relay.Step
import Sluice.Proofs.Schedule

/-!
# Every connection is closed once

Whoever closes a connection, and however often, it counts once: the first close takes effect, and all
later ones find the connection closed. Connections share counters, a limiter and a queue, yet closing
one of them changes nothing for the others.

* `Register`: what the owner of a relay did, in which only the first close of a connection counts;
* `Relay.Registered relay register`: the connections and the events of a relay are what the register
  says, which `Registered.step` shows to be kept by every action;
* `Relay.ClosesOnly id relay relay'`: a close of the connection `id` and nothing else leads from
  `relay` to `relay'`;
* `Relay.registered_of_run`: in every run, by every owner, of any number of connections.
-/

namespace Sluice

/-- The reason with which the event closes the connection of the given number. -/
def Event.closeReason? (id : ℕ) : Event → Option CloseReason
  | .connectionClosed closed reason => if closed = id then some reason else none
  | _ => none

/-- What the owner of a relay did to its connections. -/
structure Register where
  /-- The connections that were opened, in order. -/
  opened : List ℕ := []
  /-- The reason with which a connection was closed for the first time. -/
  first : ℕ → Option CloseReason := fun _ => none

namespace Register

/-- The register after a close. A connection that was closed before keeps its reason. -/
def close (register : Register) (id : ℕ) (reason : CloseReason) : Register :=
  if id ∈ register.opened then
    { register with
      first := Function.update register.first id ((register.first id).or (some reason)) }
  else register

/-- The register after an action. A connection that is given out of hand is closed as if by a
shutdown. -/
def note (register : Register) (_ : Relay) : Relay.Action → Register
  | .openConnection id => { register with opened := register.opened ++ [id] }
  | .close id reason => register.close id reason
  | .drop id => register.close id .shutdown
  | _ => register

/-- The connections that were opened and never closed. -/
def left (register : Register) : List ℕ :=
  register.opened.filter fun id => (register.first id).isNone

end Register

namespace Relay

variable {relay relay' : Relay} {register : Register} {now id : ℕ} {reason : CloseReason}

/-- Closing marks the connection in the roll. -/
theorem roll_closed (relay : Relay) (id : ℕ) (reason : CloseReason) :
    (relay.closed id reason).roll =
      relay.roll.map fun entry => (entry.1, if entry.1 = id then true else entry.2) := by
  simp only [roll, closed, modify, List.map_map]
  refine List.map_congr_left fun c _ => ?_
  simp only [Function.comp_apply]
  split <;> rfl

/-- What a direction does is not in the roll. -/
theorem Worked.roll_eq {direction : Direction} {action : Work}
    (h : relay.Worked now id direction action relay') : relay'.roll = relay.roll := by
  cases h
  all_goals exact roll_modify relay id (fun c => by simp) fun c => by simp

/-- The connections of a relay, and its events about their ends, are what the register says. -/
structure Registered (relay : Relay) (register : Register) : Prop where
  /-- The connections are those that were opened, and those are closed that have a reason. -/
  roll : relay.roll = register.opened.map fun id => (id, (register.first id).isSome)
  /-- Only what was opened is closed. -/
  fresh : ∀ id ∉ register.opened, register.first id = none
  /-- A connection that was closed has one event that says so, with the reason of the first close;
  a connection that was not has none. -/
  told : ∀ id, relay.events.filterMap (Event.closeReason? id) = (register.first id).toList

namespace Registered

theorem ids_eq (h : relay.Registered register) : relay.ids = register.opened := by
  rw [ids_eq_roll, h.roll, List.map_map]
  exact List.map_id _

/-- What is active has not been closed. -/
theorem active_eq (h : relay.Registered register) : relay.active = register.left := by
  rw [active_eq_roll, h.roll, List.filter_map, List.map_map]
  -- a connection passes the filter when it has no reason
  simp [Register.left, Function.comp_def]

theorem mem_active_iff (h : relay.Registered register) :
    id ∈ relay.active ↔ id ∈ register.opened ∧ register.first id = none := by
  simp [h.active_eq, Register.left]

/-- What is in neither the roll nor the events about closes changes nothing. -/
theorem congr (h : relay.Registered register) (hroll : relay'.roll = relay.roll)
    {news : List Event} (hevents : relay'.events = relay.events ++ news)
    (hnews : ∀ e ∈ news, ∀ id, e.closeReason? id = none) : relay'.Registered register where
  roll := hroll.trans h.roll
  fresh := h.fresh
  told id := by
    have hnone : news.filterMap (Event.closeReason? id) = [] :=
      List.filterMap_eq_nil_iff.2 fun e he => hnews e he id
    rw [hevents, List.filterMap_append, hnone, List.append_nil, h.told]

/-- A connection that is opened is entered and has no reason. -/
theorem openConnection (h : relay.Registered register) (hid : id ∉ relay.ids) (now : ℕ) :
    (relay.openConnection now id).Registered { register with opened := register.opened ++ [id] } where
  roll := by
    have hfirst : register.first id = none := h.fresh id (h.ids_eq ▸ hid)
    have hroll : (relay.openConnection now id).roll = relay.roll ++ [(id, false)] := by
      simp [Relay.roll, Relay.openConnection]
    rw [hroll, h.roll, List.map_append]
    simp [hfirst]
  fresh other hother := h.fresh other fun hmem => hother (List.mem_append_left _ hmem)
  told other := by
    have hevents : (relay.openConnection now id).events =
        relay.events ++ [.connectionOpened id relay.connectionLimit] := rfl
    rw [hevents, List.filterMap_append, h.told]
    exact List.append_nil _

/-- The first close of a connection is entered with its reason. -/
theorem closed (h : relay.Registered register) (hid : id ∈ relay.active) (reason : CloseReason) :
    (relay.closed id reason).Registered (register.close id reason) := by
  obtain ⟨hopened, hfirst⟩ := h.mem_active_iff.1 hid
  have hclose : register.close id reason =
      { register with first := Function.update register.first id (some reason) } := by
    rw [Register.close, if_pos hopened, hfirst, Option.none_or]
  rw [hclose]
  refine ⟨?_, ?_, ?_⟩
  · rw [roll_closed, h.roll, List.map_map]
    refine List.map_congr_left fun other _ => ?_
    -- the mark in the roll and the reason in the register come to the same connection
    by_cases hother : other = id
    · simp [hother]
    · simp [hother]
  · intro other hother
    have hne : other ≠ id := fun heq => hother (heq ▸ hopened)
    exact (Function.update_of_ne hne ..).trans (h.fresh other hother)
  · intro other
    have hevents : (relay.closed id reason).events =
        relay.events ++ [.connectionClosed id reason] := rfl
    rw [hevents, List.filterMap_append, h.told]
    by_cases hother : other = id
    · subst hother
      simp [Event.closeReason?, hfirst]
    · simp [Event.closeReason?, hother, Ne.symm hother]

/-- A close is entered, and it is entered with no other reason when it comes again. -/
theorem close (h : relay.Registered register) (hn : relay.ids.Nodup) (id : ℕ)
    (reason : CloseReason) : (relay.close id reason).Registered (register.close id reason) := by
  by_cases hid : id ∈ relay.active
  · rw [close_of_mem hn hid]
    exact h.closed hid reason
  · rw [close_of_not_mem hid]
    have hsame : register.close id reason = register := by
      rw [Register.close]
      split
      next hopened =>
        -- the connection is there and not active, so that it has a reason
        have hsome : (register.first id).isSome := by
          rw [← Option.ne_none_iff_isSome]
          intro hnone
          exact hid (h.mem_active_iff.2 ⟨hopened, hnone⟩)
        rw [Option.or_of_isSome hsome, Function.update_eq_self]
      next => rfl
    rwa [hsame]

/-- Every action is entered in the register. -/
theorem step (h : relay.Registered register) (hn : relay.ids.Nodup) {action : Action}
    (hs : relay.Stepped now action relay') : relay'.Registered (register.note relay action) := by
  have hsame {relay' : Relay} (hroll : relay'.roll = relay.roll)
      (hevents : relay'.events = relay.events) : relay'.Registered register :=
    h.congr hroll (hevents.trans (List.append_nil _).symm) (by simp)
  cases hs with
  | openConnection hid => exact h.openConnection hid now
  | close id reason => exact h.close hn id reason
  | drop id => exact h.close hn id .shutdown
  | setTunnelRate rate => exact hsame rfl rfl
  | setConnectionRate id rate =>
    exact hsame (roll_modify relay id (fun _ => rfl) fun _ => rfl) rfl
  | setDefaultRate rate => exact hsame rfl rfl
  | takeNotice hnotices => exact hsame rfl rfl
  | hangUp => exact hsame rfl rfl
  | work hwork =>
    obtain ⟨news, hevents, hnews⟩ := hwork.events
    refine h.congr hwork.roll_eq hevents fun e he id => ?_
    have hdirection := hnews e he
    cases e <;> first | rfl | cases hdirection

end Registered

/-- Every action keeps the counts. -/
theorem Counts.step (h : relay.Counts) {action : Action} (hs : relay.Stepped now action relay') :
    relay'.Counts := by
  cases hs with
  | openConnection hid => exact h.openConnection hid now
  | close id reason => exact h.close id reason
  | drop id => exact h.close id .shutdown
  | setConnectionRate id rate =>
    exact h.congr (relay.ids_setConnectionRate now id rate)
      (active_modify relay id (fun _ => rfl) fun _ => rfl) rfl rfl
  | work hwork => exact h.worked hwork
  | setTunnelRate | setDefaultRate | takeNotice | hangUp => exact h.congr rfl rfl rfl rfl

/-- From `relay` to `relay'` the connection `id` was cancelled, and nothing else happened to any
connection, limiter, forwarder or report. -/
structure ClosesOnly (id : ℕ) (relay relay' : Relay) : Prop where
  /-- The connection is cancelled. Its limiter and its forwarders are where they were. -/
  self : relay'.find? id = (relay.find? id).map ({ · with closed := true })
  /-- The other connections are the same. -/
  others : ∀ other ≠ id, relay'.find? other = relay.find? other
  ids : relay'.ids = relay.ids
  limiter : relay'.limiter = relay.limiter
  connectionLimit : relay'.connectionLimit = relay.connectionLimit
  queue : relay'.queue = relay.queue
  total : relay'.counters.total = relay.counters.total
  bytes : ∀ direction, relay'.counters.bytes direction = relay.counters.bytes direction

/-- Closing a connection, for the first time or again, changes nothing for the others. -/
theorem closesOnly_close (relay : Relay) (id : ℕ) (reason : CloseReason) :
    relay.ClosesOnly id (relay.close id reason) := by
  obtain ⟨hlimiter, hlimit⟩ := relay.limits_close id reason
  have hcounters := relay.counters_close id reason
  have htotal := congrArg Counters.total hcounters
  refine ⟨find?_close_self relay id reason, fun other hne => find?_close_of_ne relay hne reason,
    ids_close relay id reason, hlimiter, hlimit, queue_close relay id reason, htotal, fun d => ?_⟩
  have hbytes := congrArg (Counters.bytes · d) hcounters
  cases d <;> exact hbytes

/-- What closing comes to in a relay whose owner did what the register says. -/
structure ClosesOnce (relay : Relay) (register : Register) : Prop
    extends relay.Registered register where
  /-- No two connections have the same number. -/
  nodup : register.opened.Nodup
  /-- Every connection is counted. -/
  total : relay.counters.total = .ofNat register.opened.length
  /-- The connections that were never closed are counted as active. -/
  active : relay.counters.active = .ofNat register.left.length
  /-- The counter of active connections has not wrapped around, unless there are too many active
  connections for a word of 64 bits. -/
  exact_active : register.left.length < UInt64.size →
    relay.counters.active.toNat = register.left.length
  /-- A second close has no effect. -/
  again : ∀ id reason later, (relay.close id reason).close id later = relay.close id reason
  /-- A close has no effect on the other connections. -/
  alone : ∀ id reason, relay.ClosesOnly id (relay.close id reason)

theorem Registered.closesOnce (h : relay.Registered register) (hcounts : relay.Counts) :
    relay.ClosesOnce register where
  toRegistered := h
  nodup := h.ids_eq ▸ hcounts.nodup
  total := h.ids_eq ▸ hcounts.total
  active := h.active_eq ▸ hcounts.active
  exact_active hlength := by
    rw [hcounts.active, h.active_eq]
    exact UInt64.toNat_ofNat_of_lt' hlength
  again id reason later := by
    refine close_of_not_mem ?_
    by_cases hid : id ∈ relay.active
    · rw [close_of_mem hcounts.nodup hid, active_closed]
      simp
    · rwa [close_of_not_mem hid]
  alone id reason := relay.closesOnly_close id reason

/-- In every run of a relay, whatever its owner and its directions do, each connection reports one
close if it was closed or given out of hand, with the reason of the first time, and none otherwise.
The counters say how many connections were opened and how many of them were never closed, and no
close has an effect on another connection. -/
theorem registered_of_run {limiter : Limiter} {connectionLimit : UInt64} {queue : NoticeQueue}
    {actions : Schedule Action}
    (hrun : Schedule.run step (start limiter connectionLimit queue) actions = some relay) :
    relay.ClosesOnce
      (Schedule.record step Register.note {} (start limiter connectionLimit queue) actions) := by
  have hstart : (start limiter connectionLimit queue).Registered {} :=
    ⟨rfl, fun _ _ => rfl, fun _ => rfl⟩
  have hcounts : (start limiter connectionLimit queue).Counts := ⟨List.nodup_nil, rfl, rfl⟩
  -- what is entered and what is counted are kept together, for only numbers that differ are counted
  obtain ⟨hregistered, hcounts⟩ := Schedule.record_keeps
    (fun register relay => relay.Registered register ∧ relay.Counts)
    (fun register relay now action relay' h hs =>
      ⟨h.1.step h.2.nodup (stepped_of_step hs), h.2.step (stepped_of_step hs)⟩)
    ⟨hstart, hcounts⟩ hrun
  exact hregistered.closesOnce hcounts

/-- Of three connections the first one fails and is closed again and again, the second one is only
given out of hand, and the third one stays, with another rate. -/
def closedAgain : Schedule Action :=
  [(0, .openConnection 1), (0, .openConnection 2), (0, .setDefaultRate 100),
    (0, .openConnection 3), (1000000, .work 1 .upstream (.forward (.readFailed .writeZero))),
    (1000000, .close 1 (.failed "boom")), (1000000, .close 1 .shutdown),
    (1000000, .close 1 .listenerLost), (1000000, .drop 1), (2000000, .setConnectionRate 3 200),
    (2000000, .setTunnelRate 2000), (2000000, .work 1 .downstream (.forward .heed)),
    (3000000, .drop 2), (3000000, .close 2 .completed), (3000000, .hangUp)]

theorem registered_of_closedAgain :
    ∃ relay, Schedule.run step (start (.make 0 1000 4) 500 { capacity := 4 }) closedAgain =
        some relay ∧
      relay.ClosesOnce (Schedule.record step Register.note {}
        (start (.make 0 1000 4) 500 { capacity := 4 }) closedAgain) ∧
      relay.events = [.connectionOpened 1 500, .connectionOpened 2 500, .connectionOpened 3 100,
        .connectionClosed 1 (.failed "boom"), .connectionClosed 2 .shutdown] ∧
      relay.counters.total = 3 ∧ relay.counters.active = 1 := by
  have hrun : Schedule.run step (start (.make 0 1000 4) 500 { capacity := 4 }) closedAgain =
      some _ := rfl
  exact ⟨_, hrun, registered_of_run hrun, rfl, rfl, rfl⟩

end Relay

end Sluice
