import Sluice.Proofs.Relay.Connections

/-!
# What can happen to a relay

Every action of a relay changes it in one of a few ways. This file lists them for a relay by itself,
whose owner may do anything at any time; the properties of such a relay follow by cases.

* `Relay.start`: a relay that has had no connection yet;
* `Relay.Stepped relay now action relay'`: a row for each way;
* `Relay.stepped_of_step`: there are no others;
* `Relay.Stepped.find?_eq_some`: what an action leaves of a connection that is there;
* `Relay.Stepped.find?_cases`: where a connection that is there comes from.
-/

namespace Sluice.Relay

/-- A relay that has had no connection yet. -/
def start (limiter : Limiter) (connectionLimit : UInt64) (queue : NoticeQueue) : Relay :=
  { limiter, connectionLimit, queue }

/-- The ways in which an action changes a relay. -/
inductive Stepped (relay : Relay) (now : ℕ) : Action → Relay → Prop
  /-- A connection of a new number is opened. -/
  | openConnection {id : ℕ} (hid : id ∉ relay.ids) :
      Stepped relay now (.openConnection id) (relay.openConnection now id)
  | close (id : ℕ) (reason : CloseReason) :
      Stepped relay now (.close id reason) (relay.close id reason)
  | drop (id : ℕ) : Stepped relay now (.drop id) (relay.close id .shutdown)
  | setTunnelRate (rate : UInt64) :
      Stepped relay now (.setTunnelRate rate) (relay.setTunnelRate now rate)
  | setConnectionRate (id : ℕ) (rate : UInt64) :
      Stepped relay now (.setConnectionRate id rate) (relay.setConnectionRate now id rate)
  | setDefaultRate (rate : UInt64) :
      Stepped relay now (.setDefaultRate rate) (relay.setDefaultRate rate)
  /-- The oldest notice is taken. -/
  | takeNotice {notice : Notice} {rest : List Notice}
      (hnotices : relay.queue.notices = notice :: rest) :
      Stepped relay now .takeNotice (relay.withNotices rest)
  | hangUp : Stepped relay now .hangUp relay.hangUp
  /-- A direction of a connection works. -/
  | work {id : ℕ} {direction : Direction} {work : Work} {relay' : Relay}
      (hwork : relay.Worked now id direction work relay') :
      Stepped relay now (.work id direction work) relay'

/-- Whatever happens to a relay happens in one of these ways. -/
theorem stepped_of_step {relay relay' : Relay} {now : ℕ} {action : Action}
    (h : relay.step now action = some relay') : relay.Stepped now action relay' := by
  cases action with
  | openConnection id =>
    obtain ⟨hfree, h⟩ := Option.ite_none_left_eq_some.1 h
    cases h
    refine .openConnection fun hid => hfree ?_
    obtain ⟨c, hc, rfl⟩ := List.mem_map.1 hid
    exact List.find?_isSome.2 ⟨c, hc, by simp⟩
  | takeNotice =>
    obtain ⟨⟨notice, after⟩, htake, rfl⟩ := Option.map_eq_some_iff.1 h
    obtain ⟨rest, hnotices, rfl⟩ := takeNotice_eq_some.1 htake
    exact .takeNotice hnotices
  | work id direction work => exact .work (worked_of_work h)
  | close id reason =>
    cases h
    exact .close id reason
  | drop id =>
    cases h
    exact .drop id
  | setTunnelRate rate =>
    cases h
    exact .setTunnelRate rate
  | setConnectionRate id rate =>
    cases h
    exact .setConnectionRate id rate
  | setDefaultRate rate =>
    cases h
    exact .setDefaultRate rate
  | hangUp =>
    cases h
    exact .hangUp

variable {relay relay' : Relay} {now id : ℕ} {action : Action} {c : Connection}

/-- No two connections ever have the same number. -/
theorem Stepped.nodup (hs : relay.Stepped now action relay') (hn : relay.ids.Nodup) :
    relay'.ids.Nodup := by
  cases hs with
  | @openConnection id hid =>
    rw [ids_openConnection]
    refine List.nodup_append.2 ⟨hn, List.nodup_singleton id, ?_⟩
    rintro other hother _ hid' rfl
    exact hid (List.mem_singleton.1 hid' ▸ hother)
  | close id reason => rwa [ids_close]
  | drop id => rwa [ids_close]
  | setConnectionRate id rate => rwa [ids_setConnectionRate]
  | work hwork => rwa [hwork.ids_eq]
  | setTunnelRate | setDefaultRate | takeNotice | hangUp => exact hn

/-- A close leaves a connection where it is, and its directions as they are. -/
theorem exists_find?_close (hc : relay.find? id = some c) (closed : ℕ) (reason : CloseReason) :
    ∃ c', (relay.close closed reason).find? id = some c' ∧ c'.queue = c.queue ∧
      (c.closed → c'.closed) ∧ ∀ d, c'.worker d = c.worker d := by
  by_cases hid : id = closed
  · subst hid
    exact ⟨{ c with closed := true }, by rw [find?_close_self, hc, Option.map_some], rfl,
      fun _ => rfl, c.worker_closed true⟩
  · exact ⟨c, by rw [find?_close_of_ne relay hid, hc], rfl, fun h => h, fun _ => rfl⟩

/-- A connection stays where it is, closed if it was closed, and a direction of it has the state that
it had unless it works. -/
theorem Stepped.find?_eq_some (hs : relay.Stepped now action relay')
    (hc : relay.find? id = some c) :
    ∃ c', relay'.find? id = some c' ∧ c'.queue = c.queue ∧ (c.closed → c'.closed) ∧
      ∀ d, (∀ work, action ≠ .work id d work) → c'.worker d = c.worker d := by
  cases hs with
  | @openConnection other hid =>
    exact ⟨c, by rw [find?_openConnection (mem_ids_of_find? hc), hc], rfl, fun h => h, fun _ _ => rfl⟩
  | close closed reason =>
    obtain ⟨c', hc', hqueue, hclosed, hworker⟩ := exists_find?_close hc closed reason
    exact ⟨c', hc', hqueue, hclosed, fun d _ => hworker d⟩
  | drop closed =>
    obtain ⟨c', hc', hqueue, hclosed, hworker⟩ := exists_find?_close hc closed .shutdown
    exact ⟨c', hc', hqueue, hclosed, fun d _ => hworker d⟩
  | setConnectionRate other rate =>
    have hfind := find?_modify relay other id
      (f := fun c => { c with limiter := c.limiter.setRate now rate }) fun _ => rfl
    by_cases hid : id = other
    · rw [if_pos hid, hc, Option.map_some] at hfind
      exact ⟨_, hfind, rfl, fun h => h, fun d _ => c.worker_limiter _ d⟩
    · exact ⟨c, by rw [Relay.setConnectionRate, hfind, if_neg hid, hc], rfl, fun h => h, fun _ _ => rfl⟩
  | @work other direction work relay' hwork =>
    by_cases hid : id = other
    · subst hid
      obtain ⟨c', hc', hclosed, hqueue, hworker⟩ := hwork.find?_self hc
      refine ⟨c', hc', hqueue, fun h => hclosed.trans h, fun d hidle => hworker d ?_⟩
      -- a direction that does not work is not the one that does
      rintro rfl
      exact hidle work rfl
    · exact ⟨c, by rw [hwork.find?_eq hid, hc], rfl, fun h => h, fun _ _ => rfl⟩
  | setTunnelRate | setDefaultRate | takeNotice | hangUp =>
    exact ⟨c, hc, rfl, fun h => h, fun _ _ => rfl⟩

/-- Connections come only by being opened. -/
theorem Stepped.mem_ids (hs : relay.Stepped now action relay') {id : ℕ} (hid : id ∈ relay'.ids) :
    id ∈ relay.ids ∨ action = .openConnection id := by
  cases hs with
  | openConnection =>
    rw [ids_openConnection] at hid
    rcases List.mem_append.1 hid with hold | hnew
    · exact .inl hold
    · exact .inr (by rw [List.mem_singleton.1 hnew])
  | close closed reason => exact .inl (ids_close relay closed reason ▸ hid)
  | drop closed => exact .inl (ids_close relay closed .shutdown ▸ hid)
  | setConnectionRate other rate => exact .inl (relay.ids_setConnectionRate now other rate ▸ hid)
  | work hwork => exact .inl (hwork.ids_eq ▸ hid)
  | setTunnelRate | setDefaultRate | takeNotice | hangUp => exact .inl hid

/-- A connection that is there after an action was there before, or it is new. -/
theorem Stepped.find?_cases (hs : relay.Stepped now action relay') (hn : relay.ids.Nodup)
    {id : ℕ} {c' : Connection} (hc' : relay'.find? id = some c') :
    (∃ c, relay.find? id = some c ∧ c'.queue = c.queue ∧ (c.closed → c'.closed) ∧
        ∀ d, (∀ work, action ≠ .work id d work) → c'.worker d = c.worker d) ∨
      id ∉ relay.ids ∧ c'.queue = relay.queue.number ∧ ∀ d, c'.worker d = .forwarding {} := by
  by_cases hid : id ∈ relay.ids
  · obtain ⟨c, hc⟩ := exists_find?_of_mem_ids hn hid
    obtain ⟨found, hfound, hkept⟩ := hs.find?_eq_some hc
    cases hc'.symm.trans hfound
    exact .inl ⟨c, hc, hkept⟩
  · obtain rfl : action = .openConnection id :=
      (hs.mem_ids (mem_ids_of_find? hc')).resolve_left hid
    cases hs with
    | openConnection =>
      cases hc'.symm.trans (find?_openConnection_self hid now)
      exact .inr ⟨hid, rfl, fun d => by cases d <;> rfl⟩

/-- The queue stays the same one, and its owner never comes back to it. -/
theorem Stepped.queue (hs : relay.Stepped now action relay') :
    relay'.queue.number = relay.queue.number ∧
      (relay'.queue.isOpen → relay.queue.isOpen) := by
  cases hs with
  | close | drop =>
    rw [queue_close]
    exact ⟨rfl, fun h => h⟩
  | hangUp => exact ⟨rfl, nofun⟩
  | work hwork =>
    cases hwork with
    | announce hc hworker hheard hpush =>
      obtain ⟨-, hpushed⟩ := Option.ite_none_right_eq_some.1 hpush
      cases hpushed
      exact ⟨rfl, fun h => h⟩
    | _ => exact ⟨rfl, fun h => h⟩
  | openConnection | setTunnelRate | setConnectionRate | setDefaultRate | takeNotice =>
    exact ⟨rfl, fun h => h⟩

end Sluice.Relay
