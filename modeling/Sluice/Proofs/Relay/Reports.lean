import Mathlib.Logic.Function.Basic
import Sluice.Proofs.Relay.Workers
import Sluice.Proofs.Schedule

/-!
# Reports of the directions

A direction that has ended reports it once, unless it was cancelled or its connection was closed. A
report that finds no room waits, and only room, the close of its connection or the loss of the owner
ends the wait.

* `Post`: how forwarders ended, which notices were published and which were taken;
* `Entry.Fits`: what is on record of a direction fits what the direction does;
* `Relay.Posted initial relay post`: it does for all directions, and no notice is lost or made up;
* `Posted.step`: every action of a relay keeps this.
-/

namespace Sluice

namespace Outcome

/-- The forwarder was cancelled. -/
def isCancelled (outcome : Outcome) : Bool :=
  match outcome with
  | .ok _ => false
  | .error error => error.isCancelled

/-- What the owner is told: the error, or none at the end of the source. -/
def error? (outcome : Outcome) : Option TunnelError :=
  match outcome with
  | .ok _ => none
  | .error error => some error

/-- The events about the failure of a direction: one if it failed, and none if it reached the end of
its source or was cancelled. -/
def failures (id : ℕ) (direction : Direction) (outcome : Outcome) : List Event :=
  if outcome.isCancelled then []
  else (outcome.error?.map fun error => Event.forwardFailed id direction error.message).toList

end Outcome

/-- The event tells that the direction failed. -/
def Event.isFailureOf (id : ℕ) (direction : Direction) : Event → Bool
  | .forwardFailed failed d _ => failed = id && d = direction
  | _ => false

/-- The outcome with which a forwarder is about to end. -/
def Worker.closing? : Worker → Option Outcome
  | .forwarding ⟨_, .closing outcome⟩ => some outcome
  | _ => none

/-- What happened to the reports of the directions. -/
structure Post where
  /-- How the forwarder of a direction ended, and whether its connection was closed by then. -/
  endings : ℕ → Direction → Option (Outcome × Bool) := fun _ _ => none
  /-- The notices that were published, each with its direction, oldest first. -/
  published : List (Direction × Notice) := []
  /-- The notices that the owner took, oldest first. -/
  taken : List Notice := []

namespace Post

/-- The notices that one direction of one connection published. -/
def publishedBy (post : Post) (id : ℕ) (direction : Direction) : List Notice :=
  (post.published.filter fun p => p.1 = direction && p.2.id = id).map (·.2)

/-- The forwarder of a direction has ended. -/
def finish (post : Post) (id : ℕ) (direction : Direction) (ending : Outcome × Bool) : Post :=
  { post with
    endings := Function.update post.endings id
      (Function.update (post.endings id) direction (some ending)) }

/-- What is on record after an action. -/
def note (post : Post) (relay : Relay) : Relay.Action → Post
  | .takeNotice => { post with taken := post.taken ++ relay.queue.notices.take 1 }
  | .work id direction (.forward (.shut _)) =>
    match relay.find? id with
    | none => post
    | some c =>
      (c.worker direction).closing?.elim post fun outcome =>
        post.finish id direction (outcome, c.closed)
  | .work id direction .announce =>
    match relay.worker? id direction with
    | some (.reporting error _) =>
      { post with published := post.published ++ [(direction, ⟨id, error⟩)] }
    | _ => post
  | _ => post

end Post

/-- What is on record about one direction. -/
structure Entry where
  /-- How its forwarder ended, and whether the connection was closed by then. -/
  ending : Option (Outcome × Bool)
  /-- The notices that it published. -/
  published : List Notice
  /-- The events about its failure. -/
  failures : List Event

/-- The entry fits what the direction does, in a connection that is closed or not, with an owner that
hears of it or not. -/
inductive Entry.Fits (id : ℕ) (direction : Direction) (closed heard : Bool) :
    Entry → Worker → Prop
  /-- Until the direction turns to its report, there is nothing but the end of its forwarder. -/
  | forwarding {f : Forward} {ending : Option (Outcome × Bool)}
      (hending : ending.map Prod.fst = f.outcome?.map Prod.fst)
      (hclosed : ∀ outcome, ending = some (outcome, true) → closed) :
      Fits id direction closed heard ⟨ending, [], []⟩ (.forwarding f)
  /-- The report waits, and a failure is on record. -/
  | reporting {outcome : Outcome} {turn : ℕ} (hcancelled : outcome.isCancelled = false) :
      Fits id direction closed heard ⟨some (outcome, false), [], outcome.failures id direction⟩
        (.reporting outcome.error? turn)
  | published {outcome : Outcome} (hcancelled : outcome.isCancelled = false) :
      Fits id direction closed heard
        ⟨some (outcome, false), [⟨id, outcome.error?⟩], outcome.failures id direction⟩ .ended
  /-- There was a reason for not reporting. -/
  | unpublished {outcome : Outcome} {before : Bool} (hbefore : before → closed)
      (hreason : outcome.isCancelled ∨ closed ∨ heard = false) :
      Fits id direction closed heard ⟨some (outcome, before), [], outcome.failures id direction⟩
        .ended

variable {id : ℕ} {direction : Direction} {closed closed' heard heard' : Bool} {entry : Entry}
  {f : Forward} {outcome : Outcome} {error : Option TunnelError} {turn : ℕ}

theorem Relay.afterForward_eq (closed : Bool) (turn : ℕ) (outcome : Outcome) :
    Relay.afterForward closed turn outcome =
      if outcome.isCancelled || closed then .ended else .reporting outcome.error? turn := by
  cases outcome <;> simp [Relay.afterForward, Outcome.isCancelled, Outcome.error?]

namespace Entry.Fits

/-- A close and the loss of the owner take no report back. -/
theorem mono {worker : Worker} (h : Fits id direction closed heard entry worker)
    (hclosed : closed → closed') (hheard : heard' → heard) :
    Fits id direction closed' heard' entry worker := by
  cases h with
  | forwarding hending hbefore => exact .forwarding hending fun o ho => hclosed (hbefore o ho)
  | reporting hcancelled => exact .reporting hcancelled
  | published hcancelled => exact .published hcancelled
  | unpublished hbefore hreason =>
    refine .unpublished (fun h => hclosed (hbefore h)) (hreason.imp_right (Or.imp hclosed ?_))
    intro hunheard
    rw [← Bool.not_eq_true]
    intro h
    cases hunheard.symm.trans (hheard h)

/-- A forwarder that has not finished is going on. -/
theorem forward {after : Forward} (h : Fits id direction closed heard entry (.forwarding f))
    (hbefore : f.outcome? = none) (hafter : after.outcome? = none) :
    Fits id direction closed heard entry (.forwarding after) := by
  cases h with
  | forwarding hending hclosed => exact .forwarding (by rw [hending, hbefore, hafter]) hclosed

/-- The forwarder ends. -/
theorem finish {after : Forward} {fault : Option Net.IoFault}
    (h : Fits id direction closed heard entry (.forwarding f))
    (hafter : after.outcome? = some (outcome, fault)) :
    Fits id direction closed heard { entry with ending := some (outcome, closed) }
      (.forwarding after) := by
  cases h with
  | forwarding =>
    refine .forwarding (by rw [hafter]; rfl) fun o ho => ?_
    exact congrArg Prod.snd (Option.some.inj ho)

/-- The direction turns to its report. -/
theorem conclude {fault : Option Net.IoFault}
    (h : Fits id direction closed heard entry (.forwarding f))
    (hdone : f.outcome? = some (outcome, fault)) (turn : ℕ) :
    Fits id direction closed heard
      { entry with failures := entry.failures ++ outcome.failures id direction }
      (Relay.afterForward closed turn outcome) := by
  cases h with
  | @forwarding _ ending hending hclosed =>
    rw [hdone] at hending
    obtain ⟨⟨ended, before⟩, rfl, heq⟩ := Option.map_eq_some_iff.1 hending
    obtain rfl : ended = outcome := heq
    rw [Relay.afterForward_eq]
    split
    next hsilent =>
      have hreason : ended.isCancelled ∨ closed := (Bool.or_eq_true _ _).mp hsilent
      refine .unpublished (fun hbefore => ?_) (hreason.imp_right .inl)
      exact hclosed ended (by rw [hbefore])
    next hreport =>
      simp only [Bool.or_eq_true, not_or, Bool.not_eq_true] at hreport
      -- the connection is not closed now, so that it was not when the forwarder ended
      obtain rfl : before = false := by
        cases before with
        | false => rfl
        | true => cases (hclosed ended rfl).symm.trans hreport.2
      exact .reporting hreport.1

/-- The report is published. -/
theorem announce (h : Fits id direction closed heard entry (.reporting error turn)) :
    Fits id direction closed heard { entry with published := entry.published ++ [⟨id, error⟩] }
      .ended := by
  cases h with
  | reporting hcancelled => exact .published hcancelled

/-- The report is not needed any more. -/
theorem leave (h : Fits id direction closed heard entry (.reporting error turn))
    (hreason : closed ∨ heard = false) : Fits id direction closed heard entry .ended := by
  cases h with
  | reporting hcancelled => exact .unpublished nofun (.inr hreason)

end Entry.Fits

namespace Post

variable {relay : Relay} {action : Relay.Action} {c : Connection}

/-- A direction that does not work does not change what is on record of its end and its notices. -/
theorem note_of_idle (post : Post) (relay : Relay)
    (hidle : ∀ work, action ≠ .work id direction work) :
    (post.note relay action).endings id direction = post.endings id direction ∧
      (post.note relay action).publishedBy id direction = post.publishedBy id direction := by
  unfold note
  split
  · exact ⟨rfl, rfl⟩
  next other d fault =>
    have hne : id = other → direction ≠ d := by
      rintro rfl rfl
      exact hidle _ rfl
    split
    · exact ⟨rfl, rfl⟩
    · cases (Connection.worker _ d).closing? with
      | none => exact ⟨rfl, rfl⟩
      | some outcome =>
        refine ⟨?_, rfl⟩
        simp only [Option.elim_some, finish]
        -- the record is updated twice, at the connection and there at the direction
        by_cases hid : id = other
        · subst hid
          rw [Function.update_self, Function.update_of_ne (hne rfl)]
        · rw [Function.update_of_ne hid]
  next other d =>
    split
    · refine ⟨rfl, ?_⟩
      have hne : (decide (d = direction) && decide (other = id)) = false := by
        rw [Bool.and_eq_false_iff, decide_eq_false_iff_not, decide_eq_false_iff_not]
        by_contra hboth
        rw [not_or, not_not, not_not] at hboth
        obtain ⟨rfl, rfl⟩ := hboth
        exact hidle _ rfl
      simp [publishedBy, List.filter_append, hne]
    · exact ⟨rfl, rfl⟩
  · exact ⟨rfl, rfl⟩

theorem note_of_not_shut (post : Post) (relay : Relay) {action : Forward.Action}
    (h : ∀ fault, action ≠ .shut fault) :
    post.note relay (.work id direction (.forward action)) = post := by
  cases action with
  | shut fault => exact absurd rfl (h fault)
  | _ => rfl

/-- The end of a forwarder is noted with its outcome, and with whether the connection is closed. -/
theorem note_shut (post : Post) (hc : relay.find? id = some c)
    (hworker : c.worker direction = .forwarding f) (hstage : f.stage = .closing outcome)
    (fault : Option Net.IoFault) :
    post.note relay (.work id direction (.forward (.shut fault))) =
      post.finish id direction (outcome, c.closed) := by
  obtain ⟨total, stage⟩ := f
  obtain rfl : stage = .closing outcome := hstage
  simp only [note, hc, hworker, Worker.closing?, Option.elim_some]

/-- A forwarder publishes nothing. -/
theorem note_forward (post : Post) (relay : Relay) (id : ℕ) (direction : Direction)
    (action : Forward.Action) :
    (post.note relay (.work id direction (.forward action))).published = post.published ∧
      (post.note relay (.work id direction (.forward action))).taken = post.taken := by
  cases action with
  | shut fault =>
    simp only [note]
    split
    · exact ⟨rfl, rfl⟩
    · cases (Connection.worker _ direction).closing? <;> exact ⟨rfl, rfl⟩
  | _ => exact ⟨rfl, rfl⟩

theorem note_announce (post : Post) (hc : relay.find? id = some c)
    (hworker : c.worker direction = .reporting error turn) :
    post.note relay (.work id direction .announce) =
      { post with published := post.published ++ [(direction, ⟨id, error⟩)] } := by
  simp only [note, Relay.worker?, hc, Option.map_some, hworker]

end Post

namespace Relay

variable {relay relay' : Relay} {post : Post} {initial : List Notice} {now : ℕ} {action : Action}
  {work : Work} {c : Connection}

/-- What is on record about a direction of a connection. -/
def entryOf (relay : Relay) (post : Post) (id : ℕ) (direction : Direction) : Entry where
  ending := post.endings id direction
  published := post.publishedBy id direction
  failures := relay.events.filter (Event.isFailureOf id direction)

/-- What is on record fits what the directions do, and the notices that were there at first and those
that were published are those that were taken and those in the queue. -/
structure Posted (initial : List Notice) (relay : Relay) (post : Post) : Prop where
  nodup : relay.ids.Nodup
  workers : ∀ id c, relay.find? id = some c → ∀ d,
    Entry.Fits id d c.closed relay.queue.isOpen (relay.entryOf post id d) (c.worker d)
  /-- Of a connection that was never opened there is nothing on record. -/
  fresh : ∀ id ∉ relay.ids, ∀ d, relay.entryOf post id d = ⟨none, [], []⟩
  /-- All connections report to the queue of the relay. -/
  queues : ∀ id c, relay.find? id = some c → c.queue = relay.queue.number
  notices : relay.queue.isOpen →
    initial ++ post.published.map (·.2) = post.taken ++ relay.queue.notices

/-- Of the events at the end of a forwarder, its failure is about its own direction. -/
theorem filter_endEvents (id other : ℕ) (direction d : Direction) (outcome : Outcome)
    (fault : Option Net.IoFault) :
    (endEvents id direction outcome fault).filter (Event.isFailureOf other d) =
      if id = other ∧ direction = d then outcome.failures id direction else [] := by
  have hclosing : ((fault.map fun fault => Event.closeFailed id direction.destination
      fault.text).toList).filter (Event.isFailureOf other d) = [] := by
    cases fault <;> rfl
  simp only [endEvents, List.filter_append, hclosing, List.nil_append]
  cases outcome with
  | ok => simp [Outcome.failures, Outcome.error?, Outcome.isCancelled]
  | error error =>
    by_cases hcancelled : error.isCancelled
    · simp [Outcome.failures, Outcome.isCancelled, hcancelled]
    · simp [Outcome.failures, Outcome.isCancelled, Outcome.error?, hcancelled, List.filter_cons,
        Event.isFailureOf]

/-- Events about other things are no failures. -/
theorem filter_isFailureOf_append (events : List Event) {news : List Event}
    (hnews : ∀ e ∈ news, e.isFailureOf id direction = false) :
    (events ++ news).filter (Event.isFailureOf id direction) =
      events.filter (Event.isFailureOf id direction) := by
  have hnone : news.filter (Event.isFailureOf id direction) = [] :=
    List.filter_eq_nil_iff.2 fun e he => by simp [hnews e he]
  rw [List.filter_append, hnone, List.append_nil]

/-- A direction that does not work has no failure on record that was not there. -/
theorem Stepped.filter_isFailureOf (hs : relay.Stepped now action relay')
    (hidle : ∀ work, action ≠ .work id direction work) :
    relay'.events.filter (Event.isFailureOf id direction) =
      relay.events.filter (Event.isFailureOf id direction) := by
  cases hs with
  | openConnection => exact filter_isFailureOf_append _ (by simp [Event.isFailureOf])
  | close | drop =>
    obtain ⟨news, hnews, hclosed⟩ := relay.events_close _ _
    rw [hnews]
    exact filter_isFailureOf_append _ fun e he => by rw [hclosed e he]; rfl
  | setTunnelRate | setConnectionRate | setDefaultRate | takeNotice | hangUp => rfl
  | @work other d work relay' hwork =>
    cases hwork with
    | @conclude c f outcome fault hc hworker hdone =>
      have hne : ¬(other = id ∧ d = direction) := by
        rintro ⟨rfl, rfl⟩
        exact hidle _ rfl
      simp only [List.filter_append, filter_endEvents, if_neg hne, List.append_nil]
    | _ => rfl

theorem entryOf_step (hs : relay.Stepped now action relay')
    (hidle : ∀ work, action ≠ .work id direction work) :
    relay'.entryOf (post.note relay action) id direction = relay.entryOf post id direction := by
  obtain ⟨hending, hpublished⟩ := Post.note_of_idle post relay hidle
  rw [entryOf, hending, hpublished, hs.filter_isFailureOf hidle, entryOf]

/-- What a direction does fits what is then on record. -/
theorem Posted.fits_of_worked (h : relay.Posted initial post)
    (hw : relay.Worked now id direction work relay') {c' : Connection}
    (hc' : relay'.find? id = some c') :
    Entry.Fits id direction c'.closed relay'.queue.isOpen
      (relay'.entryOf (post.note relay (.work id direction work)) id direction)
      (c'.worker direction) := by
  have hheard {c : Connection} (hc : relay.find? id = some c) :
      relay.isHeard c = relay.queue.isOpen := by simp [isHeard, h.queues id c hc]
  cases hw with
  | @forward c f after action tunnel own delivered carried hc hworker hstep =>
    have hfits := h.workers id c hc direction
    rw [hworker] at hfits
    -- the direction gets a new state, and the connection stays as it is, in this case and the others
    cases hc'.symm.trans (find?_setWorker_limiter hc direction (.forwarding after) own)
    rw [Connection.worker_limiter, Connection.worker_setWorker_self]
    change Entry.Fits id direction (c.setWorker direction _).closed relay.queue.isOpen _ _
    rw [Connection.closed_setWorker]
    obtain ⟨hbefore, ⟨hshut, hafter⟩ | ⟨outcome, fault, rfl, hstage, hafter⟩⟩ :=
      Forward.outcome?_of_step hstep
    · rw [Post.note_of_not_shut post relay hshut]
      exact hfits.forward hbefore hafter
    · rw [Post.note_shut post hc hworker hstage]
      have hending : (post.finish id direction (outcome, c.closed)).endings id direction =
          some (outcome, c.closed) := by
        simp only [Post.finish, Function.update_self]
      rw [entryOf, hending]
      exact hfits.finish hafter
  | @conclude c f outcome fault hc hworker hdone =>
    have hfits := h.workers id c hc direction
    rw [hworker] at hfits
    cases hc'.symm.trans
      (find?_setWorker hc direction (afterForward c.closed relay.queue.turns outcome))
    rw [Connection.closed_setWorker, Connection.worker_setWorker_self, entryOf, List.filter_append,
      filter_endEvents, if_pos ⟨rfl, rfl⟩]
    exact hfits.conclude hdone relay.queue.turns
  | @announce c error turn queue hc hworker hisHeard hpush =>
    have hfits := h.workers id c hc direction
    rw [hworker] at hfits
    obtain ⟨-, hpushed⟩ := Option.ite_none_right_eq_some.1 hpush
    cases hpushed
    cases hc'.symm.trans (find?_setWorker hc direction .ended)
    have hpublished : ({ post with published := post.published ++ [(direction, ⟨id, error⟩)] } :
        Post).publishedBy id direction = post.publishedBy id direction ++ [⟨id, error⟩] := by
      simp [Post.publishedBy, List.filter_append]
    rw [Connection.closed_setWorker, Connection.worker_setWorker_self,
      Post.note_announce post hc hworker, entryOf, hpublished]
    exact hfits.announce
  | @withdraw c error turn hc hworker hclosed =>
    have hfits := h.workers id c hc direction
    rw [hworker] at hfits
    cases hc'.symm.trans (find?_setWorker hc direction .ended)
    rw [Connection.closed_setWorker, Connection.worker_setWorker_self]
    exact hfits.leave (.inl hclosed)
  | @abandon c error turn hc hworker hisHeard =>
    have hfits := h.workers id c hc direction
    rw [hworker] at hfits
    cases hc'.symm.trans (find?_setWorker hc direction .ended)
    rw [Connection.closed_setWorker, Connection.worker_setWorker_self]
    exact hfits.leave (.inr ((hheard hc).symm.trans hisHeard))

/-- What the directions do fits what is then on record. -/
theorem Posted.fits_of_stepped (h : relay.Posted initial post)
    (hs : relay.Stepped now action relay') {id : ℕ} {c' : Connection}
    (hc' : relay'.find? id = some c') (d : Direction) :
    Entry.Fits id d c'.closed relay'.queue.isOpen (relay'.entryOf (post.note relay action) id d)
      (c'.worker d) := by
  by_cases hwork : ∃ work, action = .work id d work
  · obtain ⟨work, rfl⟩ := hwork
    cases hs with
    | work hw => exact h.fits_of_worked hw hc'
  · have hidle : ∀ work, action ≠ .work id d work := fun work heq => hwork ⟨work, heq⟩
    rw [entryOf_step hs hidle]
    rcases hs.find?_cases h.nodup hc' with ⟨c, hc, -, hclosed, hworker⟩ | ⟨hid, -, hworker⟩
    · rw [hworker d hidle]
      exact (h.workers id c hc d).mono hclosed hs.queue.2
    · rw [hworker, h.fresh id hid]
      exact .forwarding rfl nofun

/-- No notice is lost or made up as long as the owner hears of it. -/
theorem Posted.notices_of_stepped (h : relay.Posted initial post)
    (hs : relay.Stepped now action relay') (hopen : relay'.queue.isOpen) :
    initial ++ (post.note relay action).published.map (·.2) =
      (post.note relay action).taken ++ relay'.queue.notices := by
  have hnotices := h.notices (hs.queue.2 hopen)
  cases hs with
  | openConnection | setTunnelRate | setConnectionRate | setDefaultRate => exact hnotices
  | close closed reason | drop closed =>
    rw [queue_close]
    exact hnotices
  | @takeNotice notice rest hqueue =>
    rw [hqueue] at hnotices
    simp only [Post.note, hqueue]
    rw [hnotices]
    exact List.append_cons ..
  | hangUp => cases hopen
  | @work id direction work relay' hw =>
    cases hw with
    | @forward c f after action =>
      obtain ⟨hpublished, htaken⟩ := Post.note_forward post relay id direction action
      rw [hpublished, htaken]
      exact hnotices
    | @announce c error turn queue hc hworker hheard hpush =>
      obtain ⟨-, hpushed⟩ := Option.ite_none_right_eq_some.1 hpush
      cases hpushed
      rw [Post.note_announce post hc hworker]
      simp only [List.map_append, List.map_cons, List.map_nil, ← List.append_assoc, hnotices]
    | conclude | withdraw | abandon => exact hnotices

/-- Every action is on record as it happened. -/
theorem Posted.step (h : relay.Posted initial post) (hs : relay.Stepped now action relay') :
    relay'.Posted initial (post.note relay action) where
  nodup := hs.nodup h.nodup
  workers id c' hc' d := h.fits_of_stepped hs hc' d
  fresh id hid d := by
    have hid' : id ∉ relay.ids := by
      intro hmem
      obtain ⟨c, hc⟩ := exists_find?_of_mem_ids h.nodup hmem
      obtain ⟨c', hc', -⟩ := hs.find?_eq_some hc
      exact hid (mem_ids_of_find? hc')
    rw [entryOf_step hs, h.fresh id hid']
    -- what is not there does not work
    rintro work rfl
    cases hs with
    | work hw => exact hid' hw.mem_ids
  queues id c' hc' := by
    rw [hs.queue.1]
    rcases hs.find?_cases h.nodup hc' with ⟨c, hc, hqueue, -⟩ | ⟨-, hqueue, -⟩
    · exact hqueue.trans (h.queues id c hc)
    · exact hqueue
  notices hopen := h.notices_of_stepped hs hopen

end Relay

end Sluice
