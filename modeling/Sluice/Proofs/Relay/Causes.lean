import Mathlib.Logic.Function.Basic
import Sluice.Proofs.Forward.Traffic
import Sluice.Proofs.Relay.Connections

/-!
# Why directions end

A direction that reports its end tells why: it has carried its source to the end, or it has failed
and said so in an event. The report stays true on its way through the queue, whatever happens to the
connections meanwhile.

* `Relay.Logbook` keeps the traffic of every direction of every connection, and `Relay.note` adds to
  it what a direction does;
* `Ends`: what it means that a direction ended in the way that is reported;
* `Relay.Told relay book`: the directions and the notices of a relay tell the truth;
* `Relay.Keeps`: what the owner does to a relay makes no report untrue;
* `Relay.Told.worked`: neither does what the directions do.
-/

namespace Sluice

/-- The source was read to its end, and all of it is written. -/
def Traffic.IsComplete (t : Traffic) : Prop := t.sourceEnd = some .eof ∧ t.written = t.read

/-- What is complete stays so. -/
theorem Traffic.IsComplete.note {t : Traffic} {f : Forward} {limiters : List Limiter}
    {cancelled : Bool} {now : ℕ} {action : Forward.Action} {move : Forward.Move}
    (h : t.IsComplete) (hfits : t.Fits f)
    (hs : f.step limiters cancelled now action = some move) : (t.note f action).IsComplete := by
  -- a forwarder that works has not seen its source stop
  have hstopped {total size : ℕ} {pending : List UInt8} (hflows : t.Flows total size pending) :
      (t.note f action).IsComplete := by cases hflows.sourceEnd_eq.symm.trans h.1
  cases Forward.stepped_of_step hs with
  | shut fault hstage => exact h
  | heeded hcancelled hstage => exact h
  | ended hstage | received hstage | readFailed fault hstage | granted hstage | waiting hstage
  | payFailed hstage | tookNone hstage | tookSome hstage | tookAll hstage
  | writeFailed fault hstage =>
    rw [Fits, hstage] at hfits
    exact hstopped hfits

/-- The direction of the connection ended in the way that it reports. -/
def Ends (t : Traffic) (events : List Event) (id : ℕ) (direction : Direction) :
    Option TunnelError → Prop
  | none => t.IsComplete
  | some error => .forwardFailed id direction error.message ∈ events

/-- What is reported stays true when more is complete and more is on record. -/
theorem Ends.mono {t t' : Traffic} {events events' : List Event} {id : ℕ} {direction : Direction}
    {error : Option TunnelError} (h : Ends t events id direction error)
    (hcomplete : t.IsComplete → t'.IsComplete) (hle : events ⊆ events') :
    Ends t' events' id direction error := by
  cases error with
  | none => exact hcomplete h
  | some error => exact hle h

/-- What has passed through the direction and what is on record fit the state of the direction. -/
def Worker.Told (t : Traffic) (events : List Event) (id : ℕ) (direction : Direction) :
    Worker → Prop
  | .forwarding f => t.Fits f
  | .reporting error _ => Ends t events id direction error
  | .ended => True

theorem Worker.Told.mono {t : Traffic} {events events' : List Event} {id : ℕ}
    {direction : Direction} {worker : Worker} (h : worker.Told t events id direction)
    (hle : events ⊆ events') : worker.Told t events' id direction := by
  cases worker with
  | reporting error turn => exact Ends.mono h (fun h => h) hle
  | forwarding f => exact h
  | ended => trivial

namespace Relay

/-- The traffic of each direction of each connection. -/
abbrev Logbook := ℕ → Direction → Traffic

/-- The logbook after a direction has worked. -/
def note (book : Logbook) (relay : Relay) (id : ℕ) (direction : Direction) : Work → Logbook
  | .forward action =>
    match relay.worker? id direction with
    | some (.forwarding f) =>
      Function.update book id
        (Function.update (book id) direction ((book id direction).note f action))
    | _ => book
  | _ => book

/-- The directions and the notices of a relay tell the truth, and a connection that was never opened
has carried nothing. -/
structure Told (relay : Relay) (book : Logbook) : Prop where
  workers : ∀ c ∈ relay.connections, ∀ d, (c.worker d).Told (book c.id d) relay.events c.id d
  notices : ∀ notice ∈ relay.queue.notices,
    ∃ d, Ends (book notice.id d) relay.events notice.id d notice.error
  fresh : ∀ id ∉ relay.ids, ∀ d, book id d = {}

variable {relay relay' relay'' : Relay} {book : Logbook} {now id : ℕ} {direction : Direction}
  {action : Work} {t : Traffic} {events events' : List Event}

/-! ## What the owner does -/

/-- The relay `relay'` has the connections of `relay`, whose directions are where they were; events
may be new, and notices may be gone. -/
structure Keeps (relay relay' : Relay) : Prop where
  connections : ∀ c' ∈ relay'.connections, ∃ c ∈ relay.connections, c'.id = c.id ∧
    ∀ d, c'.worker d = c.worker d
  ids : relay'.ids = relay.ids
  events : relay.events ⊆ relay'.events
  notices : relay'.queue.notices ⊆ relay.queue.notices

theorem Told.keeps (h : relay.Told book) (hk : relay.Keeps relay') : relay'.Told book where
  workers c' hc' d := by
    obtain ⟨c, hc, hid, hworker⟩ := hk.connections c' hc'
    rw [hworker, hid]
    exact (h.workers c hc d).mono hk.events
  notices notice hnotice := by
    obtain ⟨d, hends⟩ := h.notices notice (hk.notices hnotice)
    exact ⟨d, hends.mono (fun h => h) hk.events⟩
  fresh id hid := h.fresh id (hk.ids ▸ hid)

namespace Keeps

theorem trans (h : relay.Keeps relay') (h' : relay'.Keeps relay'') : relay.Keeps relay'' where
  connections c'' hc'' := by
    obtain ⟨c', hc', hid', hworker'⟩ := h'.connections c'' hc''
    obtain ⟨c, hc, hid, hworker⟩ := h.connections c' hc'
    exact ⟨c, hc, hid'.trans hid, fun d => (hworker' d).trans (hworker d)⟩
  ids := h'.ids.trans h.ids
  events := List.Subset.trans h.events h'.events
  notices := List.Subset.trans h'.notices h.notices

/-- Events and notices aside, nothing happened. -/
theorem of_connections_eq (hconnections : relay'.connections = relay.connections)
    (hevents : relay.events ⊆ relay'.events)
    (hnotices : relay'.queue.notices ⊆ relay.queue.notices) : relay.Keeps relay' where
  connections c hc := ⟨c, hconnections ▸ hc, rfl, fun _ => rfl⟩
  ids := by rw [Relay.ids, Relay.ids, hconnections]
  events := hevents
  notices := hnotices

/-- The connections changed, but neither their numbers nor their directions. -/
theorem of_map (f : Connection → Connection) (hid : ∀ c, (f c).id = c.id)
    (hworker : ∀ c d, (f c).worker d = c.worker d)
    (hconnections : relay'.connections = relay.connections.map f)
    (hevents : relay.events ⊆ relay'.events)
    (hnotices : relay'.queue.notices ⊆ relay.queue.notices) : relay.Keeps relay' where
  connections c' hc' := by
    rw [hconnections] at hc'
    obtain ⟨c, hc, rfl⟩ := List.mem_map.1 hc'
    exact ⟨c, hc, hid c, hworker c⟩
  ids := by simp [Relay.ids, hconnections, hid]
  events := hevents
  notices := hnotices

theorem emit (relay : Relay) (e : Event) : relay.Keeps (relay.emit e) :=
  of_connections_eq rfl (List.subset_append_left ..) (List.Subset.refl _)

theorem close (relay : Relay) (id : ℕ) (reason : CloseReason) :
    relay.Keeps (relay.close id reason) := by
  have hrefl : relay.Keeps relay :=
    of_connections_eq rfl (List.Subset.refl _) (List.Subset.refl _)
  refine close_cases (motive := relay.Keeps) id reason hrefl ?_
  refine of_map (fun c => if c.id = id then { c with closed := true } else c) (fun c => ?_)
    (fun c d => ?_) rfl (List.subset_append_left ..) (List.Subset.refl _)
  · split <;> rfl
  · split
    · exact c.worker_closed true d
    · rfl

theorem foldl_close (relay : Relay) (list : List ℕ) (reason : CloseReason) :
    relay.Keeps (list.foldl (·.close · reason) relay) := by
  induction list generalizing relay with
  | nil => exact of_connections_eq rfl (List.Subset.refl _) (List.Subset.refl _)
  | cons id rest ih => exact (close relay id reason).trans (ih _)

theorem hangUp (relay : Relay) : relay.Keeps relay.hangUp :=
  of_connections_eq rfl (List.Subset.refl _) (List.nil_subset _)

end Keeps

theorem Keeps.withNotices {notices : List Notice} (h : notices ⊆ relay.queue.notices) :
    relay.Keeps (relay.withNotices notices) :=
  .of_connections_eq rfl (List.Subset.refl _) h

/-- Nothing has passed through a new connection. -/
theorem Told.openConnection (h : relay.Told book) (hid : id ∉ relay.ids) (now : ℕ) :
    (relay.openConnection now id).Told book where
  workers c hc d := by
    rcases List.mem_append.1 hc with hc | hc
    · exact (h.workers c hc d).mono (List.subset_append_left ..)
    · -- the number is new, and so is the record of what passed under it
      obtain rfl := List.mem_singleton.1 hc
      have hfits : (book id d).Fits {} := h.fresh id hid d ▸ Traffic.fits_new
      cases d <;> exact hfits
  notices notice hnotice := by
    obtain ⟨d, hends⟩ := h.notices notice hnotice
    exact ⟨d, hends.mono (fun h => h) (List.subset_append_left ..)⟩
  fresh other hother := h.fresh other fun hmem => hother <| by
    rw [ids_openConnection]
    exact List.mem_append_left _ hmem

/-! ## What the directions do -/

/-- A direction that has finished reports how. -/
theorem told_afterForward {f : Forward} {outcome : Outcome} {fault : Option Net.IoFault}
    (hfits : t.Fits f) (hdone : f.outcome? = some (outcome, fault)) (closed : Bool) (turn : ℕ) :
    (afterForward closed turn outcome).Told t (events ++ endEvents id direction outcome fault) id
      direction := by
  have hconcluded := hfits.concluded hdone
  cases outcome with
  | ok n =>
    simp only [afterForward]
    split
    · trivial
    · have heof := hconcluded.of_ok n rfl
      exact ⟨heof, (hconcluded.of_stop _ heof).1⟩
  | error error =>
    simp only [afterForward]
    split
    · trivial
    next hreport =>
      -- the error is not a cancellation, so that it is on record
      simp only [Bool.or_eq_true, not_or, Bool.not_eq_true] at hreport
      simp [Worker.Told, Ends, endEvents, hreport.1]

theorem note_forward {c : Connection} {f : Forward} (hc : relay.find? id = some c)
    (hworker : c.worker direction = .forwarding f) (action : Forward.Action) :
    note book relay id direction (.forward action) = Function.update book id
      (Function.update (book id) direction ((book id direction).note f action)) := by
  simp [note, worker?, hc, hworker]

/-- A direction adds to the record of its own connection only. -/
theorem note_of_ne (book : Logbook) (relay : Relay) {other : ℕ} (h : other ≠ id)
    (direction : Direction) (action : Work) :
    note book relay id direction action other = book other := by
  cases action with
  | forward action =>
    unfold note
    rcases relay.worker? id direction with _ | _ | _ | _
    · rfl
    · exact Function.update_of_ne h ..
    · rfl
    · rfl
  | _ => rfl

/-- What is complete stays so, whatever a direction does. -/
theorem Told.isComplete_note (h : relay.Told book)
    (hw : relay.Worked now id direction action relay') {other : ℕ} {d : Direction}
    (hcomplete : (book other d).IsComplete) :
    (note book relay id direction action other d).IsComplete := by
  cases hw with
  | @forward c f after action tunnel own delivered carried hc hworker hstep =>
    obtain ⟨hmem, rfl⟩ := mem_of_find? hc
    rw [note_forward hc hworker]
    by_cases hother : other = c.id
    · subst hother
      rw [Function.update_self]
      by_cases hd : d = direction
      · subst hd
        have hfits := h.workers _ hmem d
        rw [hworker] at hfits
        rw [Function.update_self]
        exact hcomplete.note hfits hstep
      · rwa [Function.update_of_ne hd]
    · rwa [Function.update_of_ne hother]
  | _ => exact hcomplete

/-- Where one direction of the connections of a number gets a new state that is true, all tell the
truth. -/
theorem Told.workers_modify {f : Connection → Connection} {worker : Worker} {book' : Logbook}
    (h : relay.Told book) (hid : ∀ c, (f c).id = c.id)
    (hself : ∀ c, (f c).worker direction = worker)
    (hne : ∀ c d, d ≠ direction → (f c).worker d = c.worker d)
    (hbook : ∀ other d, other ≠ id ∨ d ≠ direction → book' other d = book other d)
    (hevents : relay.events ⊆ events)
    (htold : worker.Told (book' id direction) events id direction) :
    ∀ c ∈ (relay.modify id f).connections, ∀ d, (c.worker d).Told (book' c.id d) events c.id d := by
  intro c' hc' d
  obtain ⟨c, hc, rfl⟩ := List.mem_map.1 hc'
  have hworker := (h.workers c hc d).mono hevents
  split
  next heq =>
    rw [hid]
    by_cases hd : d = direction
    · subst hd
      rw [hself, heq]
      exact htold
    · rw [hne c d hd, hbook _ _ (.inr hd)]
      exact hworker
  next hother =>
    rw [hbook _ _ (.inl hother)]
    exact hworker

/-- Whatever a direction does, all tell the truth. -/
theorem Told.worked (h : relay.Told book)
    (hw : relay.Worked now id direction action relay') :
    relay'.Told (note book relay id direction action) := by
  -- of the three claims only the one about the directions depends on what the direction does
  have hfresh : ∀ other ∉ relay'.ids, ∀ d, note book relay id direction action other d = {} := by
    intro other hother d
    rw [hw.ids_eq] at hother
    have hne : other ≠ id := fun heq => hother (heq ▸ hw.mem_ids)
    rw [note_of_ne book relay hne]
    exact h.fresh other hother d
  have hset worker (c : Connection) d (hd : d ≠ direction) :
      (c.setWorker direction worker).worker d = c.worker d := c.worker_setWorker_of_ne worker hd
  have hcomplete {other : ℕ} {d : Direction} : (book other d).IsComplete →
      (note book relay id direction action other d).IsComplete := h.isComplete_note hw
  cases hw with
  | @forward c f after action tunnel own delivered carried hc hworker hstep =>
    obtain ⟨hmem, rfl⟩ := mem_of_find? hc
    have hfits := h.workers c hmem direction
    rw [hworker] at hfits
    rw [note_forward hc hworker] at hfresh hcomplete ⊢
    refine ⟨?_, fun notice hnotice => ?_, hfresh⟩
    · refine h.workers_modify (fun c => c.id_setWorker ..)
        (fun c => (Connection.worker_limiter ..).trans (c.worker_setWorker_self ..))
        (fun c d hd => (Connection.worker_limiter ..).trans (hset _ c d hd))
        (fun other d hne => ?_) (List.Subset.refl _) ?_
      · -- the record is updated twice, at the connection and there at the direction
        by_cases hother : other = c.id
        · subst hother
          rw [Function.update_self, Function.update_of_ne (hne.resolve_left (· rfl))]
        · rw [Function.update_of_ne hother]
      · rw [Function.update_self, Function.update_self]
        exact hfits.step hstep
    · obtain ⟨d, hends⟩ := h.notices notice hnotice
      exact ⟨d, hends.mono hcomplete (List.Subset.refl _)⟩
  | conclude hc hworker hdone =>
    obtain ⟨hmem, rfl⟩ := mem_of_find? hc
    have hfits := h.workers _ hmem direction
    rw [hworker] at hfits
    refine ⟨?_, fun notice hnotice => ?_, hfresh⟩
    · exact h.workers_modify (fun c => c.id_setWorker ..) (fun c => c.worker_setWorker_self ..)
        (hset _) (fun _ _ _ => rfl) (List.subset_append_left ..) (told_afterForward hfits hdone _ _)
    · obtain ⟨d, hends⟩ := h.notices notice hnotice
      exact ⟨d, hends.mono hcomplete (List.subset_append_left ..)⟩
  | announce hc hworker hheard hpush =>
    obtain ⟨hmem, rfl⟩ := mem_of_find? hc
    have hends := h.workers _ hmem direction
    rw [hworker] at hends
    refine ⟨?_, fun notice hnotice => ?_, hfresh⟩
    · exact h.workers_modify (fun c => c.id_setWorker ..) (fun c => c.worker_setWorker_self ..)
        (hset _) (fun _ _ _ => rfl) (List.Subset.refl _) trivial
    · obtain ⟨-, hqueue⟩ := Option.ite_none_right_eq_some.1 hpush
      cases hqueue
      rcases List.mem_append.1 hnotice with hold | hnew
      · exact h.notices notice hold
      · -- the new notice says what the direction had to report
        obtain rfl := List.mem_singleton.1 hnew
        exact ⟨direction, hends⟩
  | withdraw hc hworker hclosed =>
    refine ⟨?_, h.notices, hfresh⟩
    exact h.workers_modify (fun c => c.id_setWorker ..) (fun c => c.worker_setWorker_self ..)
      (hset _) (fun _ _ _ => rfl) (List.Subset.refl _) trivial
  | abandon hc hworker hheard =>
    refine ⟨?_, h.notices, hfresh⟩
    exact h.workers_modify (fun c => c.id_setWorker ..) (fun c => c.worker_setWorker_self ..)
      (hset _) (fun _ _ _ => rfl) (List.Subset.refl _) trivial

end Relay

end Sluice
