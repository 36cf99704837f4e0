import Sluice.Proofs.Relay.Drain
import Sluice.Proofs.Relay.Effort
import Sluice.Proofs.Relay.Reports

/-!
# Completion of the directions

However the forwarders of a relay end, and whether or not its owner takes the notices, closes
connections or turns away, every direction reports its end at most once, a report that finds no room
waits and is not lost, and no direction of a closed connection is left behind.

* `Worker.rank`: a bound on what a direction of a closed connection can still do;
* `Relay.Ends id relay`: both directions of a connection come to their ends by themselves, without
  the owner and without waiting, which `Closing.ends` shows of every closed connection;
* `Relay.Waits`: what can become of a report that waits;
* `Relay.Reports initial relay post`: what is on record about all directions;
* `Relay.reports_of_run`: it holds in every run.
-/

namespace Sluice

namespace Worker

/-- A bound on what a direction can still do when its connection is closed. -/
def rank : Worker → ℕ
  | .forwarding f => 2 + f.stage.rank
  | .reporting .. => 1
  | .ended => 0

end Worker

namespace Relay

/-- The action is one of the given direction. -/
def Action.isWorkOf (id : ℕ) (direction : Direction) : Action → Bool
  | .work worked d _ => worked = id && d = direction
  | _ => false

/-- A bound on what a direction can still do when its connection is closed. -/
def rankOf (relay : Relay) (id : ℕ) (direction : Direction) : ℕ :=
  (relay.worker? id direction).elim 0 Worker.rank

variable {relay relay' : Relay} {post : Post} {initial : List Notice} {now id : ℕ}
  {direction : Direction} {action : Action} {work : Work} {c : Connection}

/-! ## Directions of closed connections -/

theorem rankOf_of_find? (hc : relay.find? id = some c) (direction : Direction) :
    relay.rankOf id direction = (c.worker direction).rank := by
  rw [rankOf, worker?_of_find? hc, Option.elim_some]

theorem isWorkOf_eq_true : action.isWorkOf id direction ↔ ∃ work, action = .work id direction work := by
  cases action with
  | work worked d work => simp [Action.isWorkOf]
  | _ => simp [Action.isWorkOf]

/-- A connection is there and closed. Its forwarders are cancelled, and all of them pay as they
should. -/
structure Closing (relay : Relay) (id : ℕ) : Prop where
  nodup : relay.ids.Nodup
  pays : relay.Every (Worker.PaysWithin 2)
  owes : relay.Every Worker.Owes
  closed : ∃ c, relay.find? id = some c ∧ c.closed

/-- A closed connection stays closed. -/
theorem Closing.step (h : relay.Closing id) (hs : relay.Stepped now action relay') :
    relay'.Closing id where
  nodup := hs.nodup h.nodup
  pays := h.pays.step Worker.lasting_paysWithin hs
  owes := h.owes.step Worker.lasting_owes hs
  closed := by
    obtain ⟨c, hc, hclosed⟩ := h.closed
    obtain ⟨c', hc', -, hstays, -⟩ := hs.find?_eq_some hc
    exact ⟨c', hc', hstays hclosed⟩

/-- Whatever a direction of a closed connection does brings it nearer to its end. -/
theorem Closing.rankOf_lt (h : relay.Closing id) (hw : relay.Worked now id direction work relay') :
    relay'.rankOf id direction < relay.rankOf id direction := by
  obtain ⟨c, hc, hclosed⟩ := h.closed
  have howes : (c.worker direction).Owes := h.owes c (mem_of_find? hc).1 direction
  -- in each case the direction gets a new state
  have hset (worker : Worker) :
      (relay.modify id (·.setWorker direction worker)).rankOf id direction = worker.rank := by
    rw [rankOf, worker?_setWorker hc, Option.elim_some]
  rw [rankOf_of_find? hc]
  cases hw with
  | @forward found f after action tunnel own delivered carried hfound hworker hstep =>
    cases hc.symm.trans hfound
    rw [hworker] at howes ⊢
    rw [hclosed] at hstep
    change (relay.modify id fun c =>
      { c.setWorker direction (.forwarding after) with limiter := own }).rankOf id direction < _
    rw [rankOf, worker?_setWorker_limiter hc, Option.elim_some]
    exact Nat.add_lt_add_left (Forward.rank_step hstep howes Nat.two_pos) 2
  | @conclude found f outcome fault hfound hworker hdone =>
    cases hc.symm.trans hfound
    change (relay.modify id (·.setWorker direction _)).rankOf id direction < _
    rw [hset, hworker, afterForward_eq, hclosed, Bool.or_true, if_pos rfl]
    exact Nat.lt_add_right _ Nat.two_pos
  | @announce found error turn queue hfound hworker hheard hpush =>
    cases hc.symm.trans hfound
    change (relay.modify id (·.setWorker direction _)).rankOf id direction < _
    rw [hset, hworker]
    exact Nat.one_pos
  | @withdraw found error turn hfound hworker | @abandon found error turn hfound hworker =>
    cases hc.symm.trans hfound
    rw [hset, hworker]
    exact Nat.one_pos

/-- Other actions leave a direction where it is. -/
theorem Closing.rankOf_eq (h : relay.Closing id) (direction : Direction)
    (hs : relay.Stepped now action relay')
    (hidle : ∀ work, action ≠ .work id direction work) :
    relay'.rankOf id direction = relay.rankOf id direction := by
  obtain ⟨c, hc, -⟩ := h.closed
  obtain ⟨c', hc', -, -, hworker⟩ := hs.find?_eq_some hc
  rw [rankOf_of_find? hc', rankOf_of_find? hc, hworker direction hidle]

/-- Whatever happens after a close, a direction of the connection works only so often. -/
theorem Closing.countP_add_rankOf_le (h : relay.Closing id) (direction : Direction)
    {later : Schedule Action} (hrun : Schedule.run Relay.step relay later = some relay') :
    later.countP (·.2.isWorkOf id direction) + relay'.rankOf id direction ≤
      relay.rankOf id direction := by
  -- each action of the direction is paid for by its rank, and the others leave the rank alone
  induction later generalizing relay with
  | nil =>
    cases hrun
    exact (Nat.zero_add _).le
  | cons head rest ih =>
    obtain ⟨now, action⟩ := head
    rw [Schedule.run] at hrun
    split at hrun
    · cases hrun
    next next hnext =>
      have hs := stepped_of_step hnext
      have hrest := ih (h.step hs) hrun
      rw [List.countP_cons]
      split
      next hwork =>
        obtain ⟨work, rfl⟩ := isWorkOf_eq_true.1 hwork
        cases hs with
        | work hw =>
          have hlt := h.rankOf_lt hw
          omega
      next hidle =>
        have heq := h.rankOf_eq direction hs fun work hwork =>
          hidle (isWorkOf_eq_true.2 ⟨work, hwork⟩)
        omega

/-- A direction of a closed connection has something to do by itself until it has ended. -/
theorem Closing.exists_own_work (h : relay.Closing id)
    (hgoing : relay.worker? id direction ≠ some .ended) (now : ℕ) :
    ∃ work, work.isOwn ∧ relay.IsReady now id direction work ∧
      (relay.work now id direction work).isSome := by
  obtain ⟨c, hc, hclosed⟩ := h.closed
  obtain ⟨hmem, rfl⟩ := mem_of_find? hc
  have halive : (c.worker direction).isAlive := by
    rw [worker?_of_find? hc] at hgoing
    cases hworker : c.worker direction with
    | forwarding | reporting => rfl
    | ended => exact absurd (congrArg some hworker) hgoing
  exact Relay.exists_own_work h.nodup h.pays hmem hclosed halive now

/-- Both directions of the connection come to their ends by themselves: no notice is taken, no bytes
come or go, and no time passes. -/
structure Ends (id : ℕ) (relay : Relay) : Prop where
  /-- Until it has ended, a direction has something to do that waits for nothing. -/
  going : ∀ d, relay.worker? id d ≠ some .ended → ∀ now, ∃ work, work.isOwn ∧
    relay.IsReady now id d work ∧ (relay.work now id d work).isSome
  /-- Whatever happens from now on, a direction works only so often, and never after its end. -/
  bounded : ∀ d later relay', Schedule.run step relay later = some relay' →
    later.countP (·.2.isWorkOf id d) + relay'.rankOf id d ≤ relay.rankOf id d
  /-- At any instant both directions may end, by nothing but their own doing. -/
  at_once : ∀ now, ∃ later relay', Schedule.run step relay later = some relay' ∧
    (∀ entry ∈ later, entry.1 = now ∧ ∃ d work, entry.2 = .work id d work ∧ work.isOwn) ∧
    ∀ d, relay'.worker? id d = some .ended

/-- Both directions of a closed connection end at one instant, if they are left to themselves. -/
theorem Closing.exists_run (h : relay.Closing id) (now : ℕ) :
    ∃ later relay', Schedule.run Relay.step relay later = some relay' ∧
      (∀ entry ∈ later, entry.1 = now ∧ ∃ d work, entry.2 = .work id d work ∧ work.isOwn) ∧
      ∀ d, relay'.worker? id d = some .ended := by
  -- each work of a direction sinks its rank, and keeps that of the other one
  induction hrank : relay.rankOf id .upstream + relay.rankOf id .downstream
    using Nat.strong_induction_on generalizing relay with
  | _ rank ih =>
    by_cases hended : ∀ d, relay.worker? id d = some .ended
    · exact ⟨[], relay, rfl, nofun, hended⟩
    · obtain ⟨d, hgoing⟩ := not_forall.1 hended
      obtain ⟨work, hown, -, hsome⟩ := h.exists_own_work hgoing now
      obtain ⟨next, hnext⟩ := Option.isSome_iff_exists.1 hsome
      have hw := worked_of_work hnext
      have hs : relay.Stepped now (.work id d work) next := .work hw
      have hlt := h.rankOf_lt hw
      have hsum : next.rankOf id .upstream + next.rankOf id .downstream < rank := by
        cases d with
        | upstream =>
          have heq := h.rankOf_eq .downstream hs nofun
          omega
        | downstream =>
          have heq := h.rankOf_eq .upstream hs nofun
          omega
      obtain ⟨later, relay', hrun, hlater, hends⟩ := ih _ hsum (h.step hs) rfl
      refine ⟨(now, .work id d work) :: later, relay', ?_, ?_, hends⟩
      · rw [Schedule.run]
        simp only [Relay.step, hnext, hrun]
      · exact List.forall_mem_cons.2 ⟨⟨rfl, d, work, rfl, hown⟩, hlater⟩

theorem Closing.ends (h : relay.Closing id) : relay.Ends id where
  going _ hgoing now := h.exists_own_work hgoing now
  bounded d _ _ hrun := h.countP_add_rankOf_le d hrun
  at_once now := h.exists_run now

/-! ## Reports -/

/-- What can become of a report that waits: it goes into the queue when there is room, it is given up
when the connection is closed or the owner has turned away, and until then it stays as it is. -/
structure Waits (id : ℕ) (direction : Direction) (error : Option TunnelError) (turn : ℕ)
    (relay : Relay) (c : Connection) : Prop where
  /-- Nothing else ends the wait, and each of these does so at any instant. -/
  work : ∀ now work, (relay.work now id direction work).isSome ↔
    work = .announce ∧ relay.queue.hasRoom ∨ work = .withdraw ∧ c.closed ∨
      work = .abandon ∧ relay.queue.isOpen = false
  /-- Whatever happens elsewhere, the report still waits. -/
  others : ∀ now action relay', relay.step now action = some relay' →
    (∀ work, action ≠ .work id direction work) →
      relay'.worker? id direction = some (.reporting error turn)

theorem Posted.waits (h : relay.Posted initial post) (hc : relay.find? id = some c)
    {error : Option TunnelError} {turn : ℕ} (hworker : c.worker direction = .reporting error turn) :
    relay.Waits id direction error turn c where
  work now work := by
    have hheard : relay.isHeard c = relay.queue.isOpen := by simp [isHeard, h.queues id c hc]
    cases work with
    | forward | conclude => simp [Relay.work, hc, hworker]
    | announce =>
      by_cases hroom : relay.queue.hasRoom
      · have hopen : relay.queue.isOpen := Bool.and_elim_left hroom
        simp [Relay.work, hc, hworker, hheard, NoticeQueue.push, hroom, hopen]
      · simp [Relay.work, hc, hworker, NoticeQueue.push, hroom]
    | withdraw => simp [Relay.work, hc, hworker]
    | abandon => simp [Relay.work, hc, hworker, hheard]
  others now action relay' hstep hidle := by
    obtain ⟨c', hc', -, -, hkept⟩ := (stepped_of_step hstep).find?_eq_some hc
    rw [worker?_of_find? hc', hkept direction hidle, hworker]

/-- What is on record about the directions of a relay, and what they can still do. -/
structure Reports (initial : List Notice) (relay : Relay) (post : Post) : Prop where
  /-- A direction publishes one notice at most, and one event at most tells of its failure. -/
  once : ∀ id d, (post.publishedBy id d).length ≤ 1 ∧
    (relay.events.filter (Event.isFailureOf id d)).length ≤ 1
  /-- A direction publishes nothing before its forwarder has ended, nothing if the forwarder was
  cancelled, and nothing if the connection was closed when the forwarder ended. -/
  silent : ∀ id d, post.publishedBy id d ≠ [] →
    ∃ outcome, post.endings id d = some (outcome, false) ∧ outcome.isCancelled = false
  /-- A direction that reached the end of its source reports no error. -/
  completed : ∀ id d total closed, post.endings id d = some (.ok total, closed) →
    ∀ notice ∈ post.publishedBy id d, notice = ⟨id, none⟩
  /-- A direction that failed reports its error, of which one event tells. -/
  failed : ∀ id d error closed, post.endings id d = some (.error error, closed) →
    ∀ notice ∈ post.publishedBy id d, notice = ⟨id, some error⟩ ∧
      relay.events.filter (Event.isFailureOf id d) = [.forwardFailed id d error.message]
  /-- A report that is due and not published waits, with its failure already told, unless its
  connection is closed or the owner has turned away. -/
  kept : ∀ id d outcome, post.endings id d = some (outcome, false) → outcome.isCancelled = false →
    post.publishedBy id d = [] → ∃ c, relay.find? id = some c ∧
      (c.closed ∨ relay.queue.isOpen = false ∨
        (∃ f fault, c.worker d = .forwarding f ∧ f.outcome? = some (outcome, fault)) ∨
        (∃ turn, c.worker d = .reporting outcome.error? turn) ∧
          relay.events.filter (Event.isFailureOf id d) = outcome.failures id d)
  waits : ∀ id c d error turn, relay.find? id = some c → c.worker d = .reporting error turn →
    relay.Waits id d error turn c
  /-- Until the owner turns away, the notices that were there and those that were published are
  those that were taken and those in the queue, in this order. -/
  notices : relay.queue.isOpen →
    initial ++ post.published.map (·.2) = post.taken ++ relay.queue.notices
  /-- No direction of a closed connection is left behind. -/
  ends : ∀ id c, relay.find? id = some c → c.closed → relay.Ends id

/-- A direction is one of a connection, or there is nothing on record of it. -/
theorem Posted.entryOf_cases (h : relay.Posted initial post) (id : ℕ) (d : Direction) :
    relay.entryOf post id d = ⟨none, [], []⟩ ∨ ∃ c, relay.find? id = some c ∧
      Entry.Fits id d c.closed relay.queue.isOpen (relay.entryOf post id d) (c.worker d) := by
  by_cases hid : id ∈ relay.ids
  · obtain ⟨c, hc⟩ := exists_find?_of_mem_ids h.nodup hid
    exact .inr ⟨c, hc, h.workers id c hc d⟩
  · exact .inl (h.fresh id hid d)

theorem Posted.once (h : relay.Posted initial post) (id : ℕ) (d : Direction) :
    (post.publishedBy id d).length ≤ 1 ∧
      (relay.events.filter (Event.isFailureOf id d)).length ≤ 1 := by
  change (relay.entryOf post id d).published.length ≤ 1 ∧
    (relay.entryOf post id d).failures.length ≤ 1
  have hfailures (outcome : Outcome) : (outcome.failures id d).length ≤ 1 := by
    rw [Outcome.failures]
    split
    · exact Nat.zero_le 1
    · cases outcome <;> simp [Outcome.error?]
  rcases h.entryOf_cases id d with hentry | ⟨c, -, hfits⟩
  · rw [hentry]
    exact ⟨Nat.zero_le 1, Nat.zero_le 1⟩
  · generalize relay.entryOf post id d = entry, c.worker d = worker at hfits
    cases hfits with
    | forwarding => exact ⟨Nat.zero_le 1, Nat.zero_le 1⟩
    | reporting | unpublished => exact ⟨Nat.zero_le 1, hfailures _⟩
    | published => exact ⟨Nat.le_refl 1, hfailures _⟩

/-- What a direction publishes is what its forwarder ended with. -/
theorem Posted.of_mem_publishedBy (h : relay.Posted initial post) {id : ℕ} {d : Direction}
    {notice : Notice} (hnotice : notice ∈ post.publishedBy id d) :
    ∃ outcome, post.endings id d = some (outcome, false) ∧ outcome.isCancelled = false ∧
      notice = ⟨id, outcome.error?⟩ ∧
      relay.events.filter (Event.isFailureOf id d) = outcome.failures id d := by
  change notice ∈ (relay.entryOf post id d).published at hnotice
  change ∃ outcome, (relay.entryOf post id d).ending = some (outcome, false) ∧
    outcome.isCancelled = false ∧ notice = ⟨id, outcome.error?⟩ ∧
    (relay.entryOf post id d).failures = outcome.failures id d
  rcases h.entryOf_cases id d with hentry | ⟨c, -, hfits⟩
  · rw [hentry] at hnotice
    cases hnotice
  · generalize relay.entryOf post id d = entry at hfits hnotice
    generalize c.worker d = worker at hfits
    cases hfits with
    | forwarding | reporting | unpublished => cases hnotice
    | @published outcome hcancelled =>
      exact ⟨outcome, rfl, hcancelled, List.mem_singleton.1 hnotice, rfl⟩

theorem Posted.kept (h : relay.Posted initial post) {id : ℕ} {d : Direction} {outcome : Outcome}
    (hending : post.endings id d = some (outcome, false)) (hcancelled : outcome.isCancelled = false)
    (hnone : post.publishedBy id d = []) : ∃ c, relay.find? id = some c ∧
      (c.closed ∨ relay.queue.isOpen = false ∨
        (∃ f fault, c.worker d = .forwarding f ∧ f.outcome? = some (outcome, fault)) ∨
        (∃ turn, c.worker d = .reporting outcome.error? turn) ∧
          relay.events.filter (Event.isFailureOf id d) = outcome.failures id d) := by
  change (relay.entryOf post id d).ending = _ at hending
  change (relay.entryOf post id d).published = [] at hnone
  change ∃ c, relay.find? id = some c ∧ (_ ∨ _ ∨ _ ∨ _ ∧
    (relay.entryOf post id d).failures = outcome.failures id d)
  rcases h.entryOf_cases id d with hentry | ⟨c, hc, hfits⟩
  · rw [hentry] at hending
    cases hending
  · refine ⟨c, hc, ?_⟩
    generalize relay.entryOf post id d = entry at hfits hending hnone ⊢
    generalize c.worker d = worker at hfits ⊢
    cases hfits with
    | @forwarding f ending hends =>
      obtain rfl : ending = some (outcome, false) := hending
      obtain ⟨⟨ended, fault⟩, hdone, heq⟩ := Option.map_eq_some_iff.1 hends.symm
      obtain rfl : ended = outcome := heq
      exact .inr (.inr (.inl ⟨f, fault, rfl, hdone⟩))
    | reporting =>
      cases hending
      exact .inr (.inr (.inr ⟨⟨_, rfl⟩, rfl⟩))
    | published => cases hnone
    | unpublished hbefore hreason =>
      cases hending
      rcases hreason with hsilent | hclosed | hunheard
      · cases hsilent.symm.trans hcancelled
      · exact .inl hclosed
      · exact .inr (.inl hunheard)

/-- What is on record, and how the forwarders pay, tell what every direction has done and can do. -/
theorem Posted.reports (h : relay.Posted initial post) (hpays : relay.Every (Worker.PaysWithin 2))
    (howes : relay.Every Worker.Owes) : relay.Reports initial post where
  once id d := h.once id d
  silent id d hne := by
    obtain ⟨notice, hnotice⟩ := List.exists_mem_of_ne_nil _ hne
    obtain ⟨outcome, hending, hcancelled, -⟩ := h.of_mem_publishedBy hnotice
    exact ⟨outcome, hending, hcancelled⟩
  completed id d total closed hok notice hnotice := by
    -- a forwarder has one ending on record
    obtain ⟨outcome, hending, -, hreport, -⟩ := h.of_mem_publishedBy hnotice
    cases hok.symm.trans hending
    exact hreport
  failed id d error closed herror notice hnotice := by
    obtain ⟨outcome, hending, hcancelled, hreport, htold⟩ := h.of_mem_publishedBy hnotice
    cases herror.symm.trans hending
    refine ⟨hreport, htold.trans ?_⟩
    rw [Outcome.failures, hcancelled]
    rfl
  kept id d outcome hending hcancelled hnone := h.kept hending hcancelled hnone
  waits id c d error turn hc hworker := h.waits hc hworker
  notices := h.notices
  ends id c hc hclosed := Closing.ends ⟨h.nodup, hpays, howes, c, hc, hclosed⟩

/-- At first nothing is on record. -/
theorem posted_start (limiter : Limiter) (connectionLimit : UInt64) (queue : NoticeQueue) :
    (start limiter connectionLimit queue).Posted queue.notices {} where
  nodup := List.nodup_nil
  workers id c hc := by cases hc
  fresh _ _ _ := rfl
  queues id c hc := by cases hc
  notices _ := List.append_nil _

/-- In every run of a relay, with a queue of any capacity that holds any notices, whatever the owner
and the directions do: each direction reports its end as it was, at most once, and not if it was
cancelled or its connection closed; a report waits for room without being lost; and after a close
both directions end by themselves. -/
theorem reports_of_run {limiter : Limiter} {connectionLimit : UInt64} {queue : NoticeQueue}
    {actions : Schedule Action}
    (hrun : Schedule.run step (start limiter connectionLimit queue) actions = some relay) :
    relay.Reports queue.notices
      (Schedule.record step Post.note {} (start limiter connectionLimit queue) actions) := by
  obtain ⟨hposted, hpays, howes⟩ := Schedule.record_keeps
    (fun post relay => relay.Posted queue.notices post ∧ relay.Every (Worker.PaysWithin 2) ∧
      relay.Every Worker.Owes)
    (fun post relay now action relay' h hs =>
      have hs := stepped_of_step hs
      ⟨h.1.step hs, h.2.1.step Worker.lasting_paysWithin hs, h.2.2.step Worker.lasting_owes hs⟩)
    ⟨posted_start limiter connectionLimit queue, every_start limiter connectionLimit queue,
      every_start limiter connectionLimit queue⟩ hrun
  exact hposted.reports hpays howes

/-- The queue has room for one notice and is full at first. One connection reaches the end of a
source and another one fails; both wait. When the owner takes the notice that was there, the first
report follows, and the second one finds the queue full until its connection is closed. -/
def fullQueue : Schedule Action :=
  [(0, .openConnection 1), (0, .openConnection 2),
    (0, .work 1 .upstream (.forward (.received []))), (0, .work 1 .upstream (.forward (.shut none))),
    (0, .work 1 .upstream .conclude),
    (1, .work 2 .downstream (.forward (.readFailed .writeZero))),
    (1, .work 2 .downstream (.forward (.shut none))), (1, .work 2 .downstream .conclude),
    (2, .takeNotice), (2, .work 1 .upstream .announce), (3, .close 2 .completed)]

theorem reports_of_fullQueue :
    ∃ relay, Schedule.run step (start (.make 0 1000 4) 500 ⟨0, 1, true, [⟨9, none⟩], 0⟩) fullQueue =
        some relay ∧
      relay.Reports [⟨9, none⟩] (Schedule.record step Post.note {}
        (start (.make 0 1000 4) 500 ⟨0, 1, true, [⟨9, none⟩], 0⟩) fullQueue) ∧
      relay.queue.notices = [⟨1, none⟩] ∧
      relay.worker? 2 .downstream = some (.reporting (some (.io .writeZero)) 1) := by
  have hrun : Schedule.run step (start (.make 0 1000 4) 500 ⟨0, 1, true, [⟨9, none⟩], 0⟩) fullQueue =
      some _ := rfl
  have hreports := reports_of_run hrun
  exact ⟨_, hrun, hreports, rfl, rfl⟩

end Relay

end Sluice
