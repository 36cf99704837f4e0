import Mathlib.Algebra.GroupWithZero.Nat
import Mathlib.Data.List.Dedup
import Mathlib.Data.Nat.Notation
import Sluice.Relay.Basic

/-!
# The connections of a relay

What the operations of a relay do to its set of connections. A relay keeps every connection that it
ever had; those that are not closed are active.

* `Relay.ids`: the numbers of all connections;
* `Relay.sum_map_change`: what a change of one connection means for a sum over all;
* `Relay.close_of_mem`, `Relay.close_of_not_mem`: closing has an effect on active connections only;
* `Relay.events_close`, `Relay.events_closeAll`: what closing reports;
* `Relay.takeNotice_eq_some`: what taking a notice does;
* `Relay.foldl_setConnectionRate_eq`: new rates change nothing but limiters;
* `Relay.Worked`: all that one action of a direction can do to a relay, and under which conditions.
-/

namespace Sluice

namespace Connection

/-! Giving a direction another state changes nothing else. -/

@[simp] theorem id_setWorker (c : Connection) (d : Direction) (w : Worker) :
    (c.setWorker d w).id = c.id := by
  cases d <;> rfl

@[simp] theorem closed_setWorker (c : Connection) (d : Direction) (w : Worker) :
    (c.setWorker d w).closed = c.closed := by
  cases d <;> rfl

@[simp] theorem limiter_setWorker (c : Connection) (d : Direction) (w : Worker) :
    (c.setWorker d w).limiter = c.limiter := by
  cases d <;> rfl

/-! Neither do a new limiter and the closing change a direction. -/

theorem worker_limiter (c : Connection) (l : Limiter) (d : Direction) :
    ({ c with limiter := l } : Connection).worker d = c.worker d := by
  cases d <;> rfl

theorem worker_closed (c : Connection) (closed : Bool) (d : Direction) :
    ({ c with closed } : Connection).worker d = c.worker d := by
  cases d <;> rfl

end Connection

/-- The event is about the end of one direction of a connection. -/
def Event.isOfDirection : Event → Bool
  | .forwardFailed .. | .closeFailed .. => true
  | _ => false

namespace Relay

variable {relay relay' : Relay} {now id : ℕ} {c : Connection} {reason : CloseReason}

/-- The numbers of all connections, in the order in which they were opened. -/
def ids (relay : Relay) : List ℕ := relay.connections.map (·.id)

/-- The numbers of the connections, each with whether the connection is closed. -/
def roll (relay : Relay) : List (ℕ × Bool) :=
  relay.connections.map fun c => (c.id, c.closed)

theorem ids_eq_roll (relay : Relay) : relay.ids = relay.roll.map Prod.fst := by
  simp [ids, roll]

theorem active_eq_roll (relay : Relay) :
    relay.active = (relay.roll.filter fun entry => !entry.2).map Prod.fst := by
  simp [active, roll, List.filter_map, Function.comp_def]

theorem ids_openConnection (relay : Relay) (now id : ℕ) :
    (relay.openConnection now id).ids = relay.ids ++ [id] := by
  simp [ids, openConnection]

theorem active_openConnection (relay : Relay) (now id : ℕ) :
    (relay.openConnection now id).active = relay.active ++ [id] := by
  simp [active, openConnection]

/-- What a change of a connection keeps of it is kept of all connections. -/
theorem map_modify {β : Type} (relay : Relay) (id : ℕ) {f : Connection → Connection}
    (g : Connection → β) (hg : ∀ c, g (f c) = g c) :
    (relay.modify id f).connections.map g = relay.connections.map g := by
  simp only [modify, List.map_map]
  refine List.map_congr_left fun c _ => ?_
  simp only [Function.comp_apply]
  split
  · exact hg c
  · rfl

theorem ids_modify (relay : Relay) (id : ℕ) {f : Connection → Connection}
    (hf : ∀ c, (f c).id = c.id) : (relay.modify id f).ids = relay.ids :=
  relay.map_modify id (·.id) hf

/-- A change that closes nothing keeps the roll. -/
theorem roll_modify (relay : Relay) (id : ℕ) {f : Connection → Connection}
    (hf : ∀ c, (f c).id = c.id) (hclosed : ∀ c, (f c).closed = c.closed) :
    (relay.modify id f).roll = relay.roll :=
  relay.map_modify id (fun c => (c.id, c.closed)) fun c => by rw [hf, hclosed]

theorem ids_setConnectionRate (relay : Relay) (now id : ℕ) (rate : UInt64) :
    (relay.setConnectionRate now id rate).ids = relay.ids :=
  ids_modify relay id fun _ => rfl

/-- A change that closes nothing keeps the active connections. -/
theorem active_modify (relay : Relay) (id : ℕ) {f : Connection → Connection}
    (hf : ∀ c, (f c).id = c.id) (hclosed : ∀ c, (f c).closed = c.closed) :
    (relay.modify id f).active = relay.active := by
  rw [active_eq_roll, roll_modify relay id hf hclosed, ← active_eq_roll]

theorem mem_of_find? (h : relay.find? id = some c) : c ∈ relay.connections ∧ c.id = id := by
  refine ⟨List.mem_of_find?_eq_some h, ?_⟩
  simpa using List.find?_some h

/-- Where numbers are unique, a connection is found by its number. -/
theorem find?_of_mem (hn : relay.ids.Nodup) (hc : c ∈ relay.connections) :
    relay.find? c.id = some c := by
  have hsome : (relay.find? c.id).isSome := List.find?_isSome.2 ⟨c, hc, by simp⟩
  -- whatever is found has the number, and no other connection has it
  obtain ⟨found, hfound⟩ := Option.isSome_iff_exists.1 hsome
  obtain ⟨hmem, hid⟩ := mem_of_find? hfound
  rw [hfound, List.inj_on_of_nodup_map hn hmem hc hid]

theorem find?_eq_none (h : id ∉ relay.ids) : relay.find? id = none := by
  refine List.find?_eq_none.2 fun c hc hid => h ?_
  exact List.mem_map.2 ⟨c, hc, by simpa using hid⟩

/-- A change of one connection is found under its number and under no other. -/
theorem find?_modify (relay : Relay) (id other : ℕ) {f : Connection → Connection}
    (hf : ∀ c, (f c).id = c.id) :
    (relay.modify id f).find? other =
      if other = id then (relay.find? other).map f else relay.find? other := by
  simp only [find?, modify, List.find?_map]
  -- the change keeps the number, so that the test sees no difference
  have htest : ((fun c : Connection => decide (c.id = other)) ∘
      fun c => if c.id = id then f c else c) = fun c => decide (c.id = other) := by
    funext c
    simp only [Function.comp_apply]
    split
    · rw [hf]
    · rfl
  rw [htest]
  cases hfind : relay.connections.find? fun c => decide (c.id = other) with
  | none => simp
  | some c =>
    have hc : c.id = other := by simpa using List.find?_some hfind
    by_cases h : other = id <;> simp [hc, h]

theorem find?_modify_self {relay : Relay} {id : ℕ} {c : Connection} {f : Connection → Connection}
    (hf : ∀ c, (f c).id = c.id) (hc : relay.find? id = some c) :
    (relay.modify id f).find? id = some (f c) := by
  rw [find?_modify relay id id hf, if_pos rfl, hc, Option.map_some]

theorem find?_setWorker (hc : relay.find? id = some c) (direction : Direction) (worker : Worker) :
    (relay.modify id (·.setWorker direction worker)).find? id =
      some (c.setWorker direction worker) :=
  find?_modify_self (fun c => c.id_setWorker ..) hc

theorem find?_setWorker_limiter (hc : relay.find? id = some c) (direction : Direction)
    (worker : Worker) (own : Limiter) :
    (relay.modify id fun c => { c.setWorker direction worker with limiter := own }).find? id =
      some { c.setWorker direction worker with limiter := own } :=
  find?_modify_self (f := fun c => { c.setWorker direction worker with limiter := own })
    (fun c => c.id_setWorker ..) hc

theorem worker?_of_find? (hc : relay.find? id = some c) (direction : Direction) :
    relay.worker? id direction = some (c.worker direction) := by
  rw [worker?, hc, Option.map_some]

/-- A direction has the state that it was given. -/
theorem worker?_setWorker (hc : relay.find? id = some c) (direction : Direction)
    (worker : Worker) :
    (relay.modify id (·.setWorker direction worker)).worker? id direction = some worker := by
  rw [worker?_of_find? (find?_setWorker hc ..), c.worker_setWorker_self]

theorem worker?_setWorker_limiter (hc : relay.find? id = some c) (direction : Direction)
    (worker : Worker) (own : Limiter) :
    (relay.modify id fun c =>
      { c.setWorker direction worker with limiter := own }).worker? id direction = some worker := by
  rw [worker?_of_find? (find?_setWorker_limiter hc ..), Connection.worker_limiter,
    c.worker_setWorker_self]

/-- Opening a connection changes nothing of those that are there. -/
theorem find?_openConnection (hid : id ∈ relay.ids) (now other : ℕ) :
    (relay.openConnection now other).find? id = relay.find? id := by
  obtain ⟨c, hc, rfl⟩ := List.mem_map.1 hid
  have hsome : (relay.connections.find? fun x => decide (x.id = c.id)).isSome :=
    List.find?_isSome.2 ⟨c, hc, by simp⟩
  rw [find?, openConnection, List.find?_append, Option.or_of_isSome hsome]
  rfl

/-- A new connection is found under its number. -/
theorem find?_openConnection_self (hid : id ∉ relay.ids) (now : ℕ) :
    (relay.openConnection now id).find? id =
      some { id, limiter := .ofRate now relay.connectionLimit, queue := relay.queue.number } := by
  have hnone := find?_eq_none hid
  rw [find?] at hnone
  rw [find?, openConnection, List.find?_append, hnone]
  simp

/-- What has a number is found. -/
theorem exists_find?_of_mem_ids (hn : relay.ids.Nodup) (hid : id ∈ relay.ids) :
    ∃ c, relay.find? id = some c := by
  obtain ⟨c, hc, rfl⟩ := List.mem_map.1 hid
  exact ⟨c, find?_of_mem hn hc⟩

theorem mem_ids_of_find? (h : relay.find? id = some c) : id ∈ relay.ids := by
  obtain ⟨hmem, rfl⟩ := mem_of_find? h
  exact List.mem_map_of_mem hmem

theorem mem_active : id ∈ relay.active ↔ ∃ c ∈ relay.connections, c.id = id ∧ c.closed = false := by
  simp only [active, List.mem_map, List.mem_filter, Bool.not_eq_true']
  constructor
  · rintro ⟨c, ⟨hc, hopen⟩, hid⟩
    exact ⟨c, hc, hid, hopen⟩
  · rintro ⟨c, hc, hid, hopen⟩
    exact ⟨c, ⟨hc, hopen⟩, hid⟩

theorem active_sublist_ids (relay : Relay) : relay.active.Sublist relay.ids :=
  List.filter_sublist.map _

/-- Changing the one connection of a number changes a sum over all connections by as much. -/
theorem sum_map_change {connections : List Connection} (g : Connection → ℕ)
    (f : Connection → Connection) (hn : (connections.map (·.id)).Nodup) (hc : c ∈ connections) :
    ((connections.map fun x => if x.id = c.id then f x else x).map g).sum + g c =
      (connections.map g).sum + g (f c) := by
  induction connections with
  | nil => cases hc
  | cons head rest ih =>
    rw [List.map_cons, List.nodup_cons] at hn
    obtain ⟨hhead, hrest⟩ := hn
    simp only [List.map_cons, List.sum_cons]
    rcases List.mem_cons.1 hc with rfl | hmem
    · -- no other connection has the number
      have hsame : (rest.map fun x => if x.id = c.id then f x else x) = rest := by
        refine (List.map_congr_left fun x hx => ?_).trans (List.map_id _)
        exact if_neg fun hid => hhead (List.mem_map.2 ⟨x, hx, hid⟩)
      rw [hsame, if_pos rfl]
      omega
    · have hne : head.id ≠ c.id := fun hid => hhead (List.mem_map.2 ⟨c, hmem, hid.symm⟩)
      have := ih hrest hmem
      rw [if_neg hne]
      omega

/-! ## Closing -/

/-- The relay after an active connection is closed. -/
def closed (relay : Relay) (id : ℕ) (reason : CloseReason) : Relay :=
  { relay.modify id ({ · with closed := true }) with
    counters := relay.counters.ended
    events := relay.events ++ [.connectionClosed id reason] }

/-- A close has no effect, or it closes the connection. -/
theorem close_cases {motive : Relay → Prop} (id : ℕ) (reason : CloseReason) (hsame : motive relay)
    (hclosed : motive (relay.closed id reason)) : motive (relay.close id reason) := by
  rw [close]
  split
  · exact hsame
  · split
    · exact hsame
    · exact hclosed

/-- What every close keeps is kept by closing everything. -/
theorem closeAll_keeps {motive : Relay → Prop} {reason : CloseReason}
    (hclose : ∀ relay id, motive relay → motive (relay.close id reason)) (h : motive relay) :
    motive (relay.closeAll reason) := by
  rw [closeAll]
  induction relay.active generalizing relay with
  | nil => exact h
  | cons id rest ih => exact ih (hclose relay id h)

/-- What no close changes is not changed by closing everything. -/
theorem view_closeAll {β : Type} (view : Relay → β) {reason : CloseReason}
    (hclose : ∀ relay id, view (close relay id reason) = view relay) (relay : Relay) :
    view (relay.closeAll reason) = view relay :=
  closeAll_keeps (motive := fun after => view after = view relay)
    (fun after id h => (hclose after id).trans h) rfl

theorem close_of_mem (hn : relay.ids.Nodup) (h : id ∈ relay.active) :
    relay.close id reason = relay.closed id reason := by
  obtain ⟨c, hc, rfl, hopen⟩ := mem_active.1 h
  rw [close, find?_of_mem hn hc]
  simp [hopen, closed]

/-- What is closed already, or was never opened, cannot be closed. -/
theorem close_of_not_mem (h : id ∉ relay.active) : relay.close id reason = relay := by
  rw [close]
  cases hfind : relay.find? id with
  | none => rfl
  | some c =>
    -- a connection that is found and not active is closed
    obtain ⟨hc, hid⟩ := mem_of_find? hfind
    have hclosed : c.closed = true := by
      by_contra hopen
      exact h (mem_active.2 ⟨c, hc, hid, by simpa using hopen⟩)
    simp [hclosed]

theorem ids_closed (relay : Relay) (id : ℕ) (reason : CloseReason) :
    (relay.closed id reason).ids = relay.ids :=
  ids_modify relay id fun _ => rfl

theorem ids_close (relay : Relay) (id : ℕ) (reason : CloseReason) :
    (relay.close id reason).ids = relay.ids :=
  close_cases (motive := fun after => after.ids = relay.ids) id reason rfl
    (ids_closed relay id reason)

theorem active_closed (relay : Relay) (id : ℕ) (reason : CloseReason) :
    (relay.closed id reason).active = relay.active.filter (· ≠ id) := by
  simp only [active, closed, modify]
  induction relay.connections with
  | nil => rfl
  | cons c rest ih =>
    simp only [List.map_cons]
    -- a connection of the number leaves the list, closed or not; the others stay as they are
    by_cases hid : c.id = id <;> by_cases hopen : c.closed <;> simp_all

theorem queue_close (relay : Relay) (id : ℕ) (reason : CloseReason) :
    (relay.close id reason).queue = relay.queue :=
  close_cases (motive := fun after => after.queue = relay.queue) id reason rfl rfl

/-- Of the counters, a close changes only that of the active connections. -/
theorem counters_close (relay : Relay) (id : ℕ) (reason : CloseReason) :
    { (relay.close id reason).counters with active := 0 } = { relay.counters with active := 0 } :=
  close_cases (motive := fun after => { after.counters with active := 0 } =
    { relay.counters with active := 0 }) id reason rfl rfl

/-- A close changes no limiter that belongs to the relay. -/
theorem limits_close (relay : Relay) (id : ℕ) (reason : CloseReason) :
    (relay.close id reason).limiter = relay.limiter ∧
      (relay.close id reason).connectionLimit = relay.connectionLimit :=
  close_cases (motive := fun after => after.limiter = relay.limiter ∧
    after.connectionLimit = relay.connectionLimit) id reason ⟨rfl, rfl⟩ ⟨rfl, rfl⟩

/-- A connection is found closed after it was closed, and is otherwise as it was. -/
theorem find?_close_self (relay : Relay) (id : ℕ) (reason : CloseReason) :
    (relay.close id reason).find? id = (relay.find? id).map ({ · with closed := true }) := by
  rw [close]
  split
  next hfind => rw [hfind, Option.map_none]
  next c hfind =>
    split
    next hclosed =>
      rw [hfind, Option.map_some]
      exact congrArg some (by rw [← hclosed])
    next =>
      rw [hfind]
      exact find?_modify_self (f := ({ · with closed := true })) (fun _ => rfl) hfind

/-- Closing a connection changes nothing of other connections. -/
theorem find?_close_of_ne (relay : Relay) (hne : id ≠ other) (reason : CloseReason) :
    (relay.close other reason).find? id = relay.find? id := by
  refine close_cases (motive := fun after => after.find? id = relay.find? id) other reason rfl ?_
  have hmodify := find?_modify relay other id (f := ({ · with closed := true })) fun _ => rfl
  exact hmodify.trans (if_neg hne)

/-- Closing reports nothing but that the connection is closed. -/
theorem events_close (relay : Relay) (id : ℕ) (reason : CloseReason) :
    ∃ news, (relay.close id reason).events = relay.events ++ news ∧
      ∀ e ∈ news, e = .connectionClosed id reason := by
  refine close_cases (motive := fun after => ∃ news, after.events = relay.events ++ news ∧
    ∀ e ∈ news, e = .connectionClosed id reason) id reason ?_ ?_
  · exact ⟨[], (List.append_nil _).symm, by simp⟩
  · exact ⟨[.connectionClosed id reason], rfl, by simp⟩

/-- Closing everything reports only connections that were active. -/
theorem events_closeAll (relay : Relay) (reason : CloseReason) :
    ∃ news, (relay.closeAll reason).events = relay.events ++ news ∧
      ∀ e ∈ news, ∃ id ∈ relay.active, e = .connectionClosed id reason := by
  rw [closeAll]
  generalize relay.active = list
  induction list generalizing relay with
  | nil => exact ⟨[], (List.append_nil _).symm, by simp⟩
  | cons id rest ih =>
    obtain ⟨first, hfirst, hfirstAll⟩ := relay.events_close id reason
    obtain ⟨later, hlater, hlaterAll⟩ := ih (relay.close id reason)
    refine ⟨first ++ later, ?_, List.forall_mem_append.2 ⟨fun e he => ?_, fun e he => ?_⟩⟩
    · rw [List.foldl_cons, hlater, hfirst, List.append_assoc]
    · exact ⟨id, List.mem_cons_self, hfirstAll e he⟩
    · obtain ⟨other, hother, heq⟩ := hlaterAll e he
      exact ⟨other, List.mem_cons_of_mem _ hother, heq⟩

/-- Closing each of some active connections reports each of them. -/
theorem events_foldl_close (hn : relay.ids.Nodup) {list : List ℕ} (hlist : list.Nodup)
    (hactive : list ⊆ relay.active) (reason : CloseReason) :
    (list.foldl (·.close · reason) relay).events =
      relay.events ++ list.map (.connectionClosed · reason) := by
  induction list generalizing relay with
  | nil => exact (List.append_nil _).symm
  | cons id rest ih =>
    obtain ⟨hid, hrest⟩ := List.nodup_cons.1 hlist
    have hn' : (relay.closed id reason).ids.Nodup := by rwa [ids_closed]
    -- the other connections of the list are still active when the first one is closed
    have hactive' : rest ⊆ (relay.closed id reason).active := by
      intro other hother
      rw [active_closed]
      refine List.mem_filter.2 ⟨hactive (List.mem_cons_of_mem _ hother), ?_⟩
      exact decide_eq_true fun heq => hid (heq ▸ hother)
    rw [List.foldl_cons, close_of_mem hn (hactive List.mem_cons_self), ih hn' hrest hactive',
      List.map_cons]
    exact List.append_assoc _ [_] _

/-- Closing everything reports the active connections, each once. -/
theorem events_closeAll_eq (hn : relay.ids.Nodup) (reason : CloseReason) :
    (relay.closeAll reason).events =
      relay.events ++ relay.active.map (.connectionClosed · reason) :=
  events_foldl_close hn (hn.sublist relay.active_sublist_ids) (List.Subset.refl _) reason

/-! ## Notices -/

/-- The relay with other notices in its queue. -/
def withNotices (relay : Relay) (notices : List Notice) : Relay :=
  { relay with queue := { relay.queue with notices } }

@[simp] theorem active_withNotices (relay : Relay) (notices : List Notice) :
    (relay.withNotices notices).active = relay.active := rfl

/-- Taking a notice takes the oldest one out of the queue, and nothing else happens. -/
theorem takeNotice_eq_some {notice : Notice} :
    relay.takeNotice = some (notice, relay') ↔
      ∃ rest, relay.queue.notices = notice :: rest ∧ relay' = relay.withNotices rest := by
  cases hnotices : relay.queue.notices with
  | nil => simp [takeNotice, NoticeQueue.take, hnotices]
  | cons first rest => simp [takeNotice, NoticeQueue.take, hnotices, eq_comm, withNotices]

/-! ## New rates -/

/-- A new rate at some connections changes nothing but the limiters of connections, and it is the rate
of these connections afterwards. -/
theorem foldl_setConnectionRate_eq (relay : Relay) (now : ℕ) (rate : UInt64) (list : List ℕ) :
    ∃ f : Connection → Connection,
      (∀ c, ∃ l, f c = { c with limiter := l } ∧
        (c.id ∈ list ∨ c.limiter.rate = rate → l.rate = rate)) ∧
      list.foldl (·.setConnectionRate now · rate) relay =
        { relay with connections := relay.connections.map f } := by
  induction list generalizing relay with
  | nil => exact ⟨id, fun c => ⟨c.limiter, rfl, by simp⟩, by simp⟩
  | cons id rest ih =>
    obtain ⟨f, hf, heq⟩ := ih (relay.setConnectionRate now id rate)
    -- the first connection gets the rate, and then the others do
    let first (c : Connection) : Connection :=
      if c.id = id then { c with limiter := c.limiter.setRate now rate } else c
    refine ⟨fun c => f (first c), fun c => ?_, ?_⟩
    · obtain ⟨l, hl, hrate⟩ := hf (first c)
      refine ⟨l, hl.trans ?_, fun h => hrate ?_⟩
      · by_cases hid : c.id = id <;> simp [first, hid]
      · by_cases hid : c.id = id
        · simp [first, hid, Limiter.rate_setRate]
        · simpa [first, hid] using h
    · rw [List.foldl_cons, heq, setConnectionRate, modify, List.map_map]
      rfl

/-- New limiters close nothing. -/
theorem active_map_limiter (relay : Relay) {f : Connection → Connection}
    (hf : ∀ c, ∃ l, f c = { c with limiter := l }) :
    active { relay with connections := relay.connections.map f } = relay.active := by
  have hclosed : ∀ c, (f c).closed = c.closed := fun c => by
    obtain ⟨l, hl⟩ := hf c
    rw [hl]
  have hid : ∀ c, (f c).id = c.id := fun c => by
    obtain ⟨l, hl⟩ := hf c
    rw [hl]
  simp only [active, List.filter_map, List.map_map, Function.comp_def, hclosed, hid]

/-! ## What a direction does -/

/-- What one action of a direction of the connection `id` does to a relay. -/
inductive Worked (relay : Relay) (now id : ℕ) (direction : Direction) : Work → Relay → Prop
  | forward {c : Connection} {f after : Forward} {action : Forward.Action} {tunnel own : Limiter}
      {delivered : List UInt8} {carried : ℕ} (hc : relay.find? id = some c)
      (hworker : c.worker direction = .forwarding f)
      (hstep : f.step [relay.limiter, c.limiter] c.closed now action =
        some ⟨after, [tunnel, own], delivered, carried⟩) :
      Worked relay now id direction (.forward action)
        { relay.modify id fun c =>
            { c.setWorker direction (.forwarding after) with limiter := own } with
          limiter := tunnel
          counters := relay.counters.carried direction (.ofNat carried) }
  | conclude {c : Connection} {f : Forward} {outcome : Outcome} {fault : Option Net.IoFault}
      (hc : relay.find? id = some c) (hworker : c.worker direction = .forwarding f)
      (hdone : f.outcome? = some (outcome, fault)) :
      Worked relay now id direction .conclude
        { relay.modify id
            (·.setWorker direction (afterForward c.closed relay.queue.turns outcome)) with
          queue := { relay.queue with turns := relay.queue.turns + 1 }
          events := relay.events ++ endEvents id direction outcome fault }
  | announce {c : Connection} {error : Option TunnelError} {turn : ℕ} {queue : NoticeQueue}
      (hc : relay.find? id = some c) (hworker : c.worker direction = .reporting error turn)
      (hheard : relay.isHeard c) (hpush : relay.queue.push ⟨id, error⟩ = some queue) :
      Worked relay now id direction .announce
        { relay.modify id (·.setWorker direction .ended) with queue }
  | withdraw {c : Connection} {error : Option TunnelError} {turn : ℕ}
      (hc : relay.find? id = some c) (hworker : c.worker direction = .reporting error turn)
      (hclosed : c.closed) :
      Worked relay now id direction .withdraw (relay.modify id (·.setWorker direction .ended))
  | abandon {c : Connection} {error : Option TunnelError} {turn : ℕ}
      (hc : relay.find? id = some c) (hworker : c.worker direction = .reporting error turn)
      (hheard : relay.isHeard c = false) :
      Worked relay now id direction .abandon (relay.modify id (·.setWorker direction .ended))

/-- A direction opens and closes no connection. -/
theorem Worked.active_eq {direction : Direction} {action : Work}
    (h : relay.Worked now id direction action relay') : relay'.active = relay.active := by
  cases h
  all_goals exact active_modify relay id (fun c => by simp) fun c => by simp

theorem Worked.ids_eq {direction : Direction} {action : Work}
    (h : relay.Worked now id direction action relay') : relay'.ids = relay.ids := by
  cases h
  all_goals exact ids_modify relay id fun c => by simp

/-- Only a direction of a connection works. -/
theorem Worked.mem_ids {direction : Direction} {action : Work}
    (hw : relay.Worked now id direction action relay') : id ∈ relay.ids := by
  have hfind : (relay.find? id).isSome := by cases hw <;> simp [*]
  obtain ⟨c, hc⟩ := Option.isSome_iff_exists.1 hfind
  exact mem_ids_of_find? hc

/-- A direction changes nothing of other connections. -/
theorem Worked.find?_eq {direction : Direction} {action : Work} {other : ℕ}
    (hw : relay.Worked now other direction action relay') (hne : id ≠ other) :
    relay'.find? id = relay.find? id := by
  cases hw
  all_goals exact (find?_modify relay other id fun c => by simp).trans (if_neg hne)

/-- A direction changes nothing of the other direction of its connection, nor does it close it. -/
theorem Worked.find?_self {direction : Direction} {action : Work}
    (hw : relay.Worked now id direction action relay') (hc : relay.find? id = some c) :
    ∃ c', relay'.find? id = some c' ∧ c'.closed = c.closed ∧ c'.queue = c.queue ∧
      ∀ d ≠ direction, c'.worker d = c.worker d := by
  have hset (worker : Worker) : (c.setWorker direction worker).queue = c.queue := by
    cases direction <;> rfl
  cases hw with
  | forward =>
    exact ⟨_, find?_modify_self (fun c => c.id_setWorker ..) hc, c.closed_setWorker ..,
      hset _, fun d hd => (Connection.worker_limiter ..).trans (c.worker_setWorker_of_ne _ hd)⟩
  | conclude | announce | withdraw | abandon =>
    exact ⟨_, find?_modify_self (fun c => c.id_setWorker ..) hc, c.closed_setWorker ..,
      hset _, fun d hd => c.worker_setWorker_of_ne _ hd⟩

theorem isOfDirection_of_mem_endEvents {direction : Direction} {outcome : Outcome}
    {fault : Option Net.IoFault} {e : Event} (he : e ∈ endEvents id direction outcome fault) :
    e.isOfDirection := by
  simp only [endEvents, List.mem_append, Option.mem_toList, Option.map_eq_some_iff] at he
  rcases he with ⟨_, -, rfl⟩ | he
  · rfl
  · split at he
    · cases he
    · split at he <;> cases he
      rfl

/-- A direction reports nothing but its own end. -/
theorem Worked.events {direction : Direction} {action : Work}
    (h : relay.Worked now id direction action relay') :
    ∃ news, relay'.events = relay.events ++ news ∧ ∀ e ∈ news, e.isOfDirection := by
  cases h with
  | conclude hc hworker hdone => exact ⟨_, rfl, fun _ => isOfDirection_of_mem_endEvents⟩
  | _ => exact ⟨[], (List.append_nil _).symm, by simp⟩

/-- A direction does what `Worked` says. -/
theorem worked_of_work {direction : Direction} {action : Work}
    (h : relay.work now id direction action = some relay') :
    relay.Worked now id direction action relay' := by
  obtain ⟨c, hc, h⟩ := Option.bind_eq_some_iff.1 h
  cases hworker : c.worker direction with
  | forwarding f =>
    cases action with
    | forward action =>
      simp only [hworker, workForward] at h
      split at h
      next hstep =>
        cases h
        rw [(mem_of_find? hc).2]
        exact .forward hc hworker hstep
      next => cases h
    | conclude =>
      simp only [hworker] at h
      obtain ⟨⟨outcome, fault⟩, hdone, h⟩ := Option.bind_eq_some_iff.1 h
      cases h
      exact .conclude hc hworker hdone
    | announce => simp [hworker] at h
    | withdraw => simp [hworker] at h
    | abandon => simp [hworker] at h
  | reporting error turn =>
    cases action with
    | forward action => simp [hworker] at h
    | conclude => simp [hworker] at h
    | announce =>
      simp only [hworker, Option.ite_none_right_eq_some] at h
      obtain ⟨hheard, h⟩ := h
      obtain ⟨queue, hpush, h⟩ := Option.bind_eq_some_iff.1 h
      cases h
      exact .announce hc hworker hheard hpush
    | withdraw =>
      simp only [hworker, Option.ite_none_right_eq_some] at h
      obtain ⟨hclosed, h⟩ := h
      cases h
      exact .withdraw hc hworker hclosed
    | abandon =>
      simp only [hworker, Option.ite_none_left_eq_some, Bool.not_eq_true] at h
      obtain ⟨hheard, h⟩ := h
      cases h
      exact .abandon hc hworker hheard
  | ended => cases action <;> simp [hworker] at h

end Relay

end Sluice
