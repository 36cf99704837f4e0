import Sluice.Proofs.Relay.Drain
import Sluice.Proofs.Tunnel.Arrivals
import Sluice.Proofs.Tunnel.Limits

/-!
# The loss of a listener

When a listener is lost, so are its connections, before the wait for the next one is announced. The
next listener starts with no connection, and with all else as it was: the numbers of the clients, the
limits, what is in the bucket of the tunnel, and the counters. Limits may change meanwhile, and a
forwarder that has paid for a chunk may still write it.

* `Tunnel.applied t actions`: the limits that take effect in a run;
* `Tunnel.Outage before applied finished t`: a listener was lost in the tunnel `before`, and since
  then the limits `applied` took effect and the chunks `finished` were written;
* `Outage.step`: every action but the taking of an arrival from the next listener keeps this;
* `Tunnel.Loss before fault lost`: all that is to be said about one loss of a listener;
* `Tunnel.loss_of_run`: it is true of every loss in every run.
-/

namespace Sluice.Tunnel

open Event (openedId? closedId?)

/-- The limits that take effect by an action. -/
def appliedBy (t : Tunnel) (now : ℕ) : Action → Schedule Limits
  | .takeUpdate => (t.update.map fun u => (now, u.limits)).toList
  | _ => []

/-- The limits that take effect in a run, each with its instant. -/
def applied (t : Tunnel) : Schedule Action → Schedule Limits
  | [] => []
  | (now, action) :: rest =>
    match t.step now action with
    | none => []
    | some next => t.appliedBy now action ++ next.applied rest

/-- In the tunnel `before` a listener was lost, which has led to `t`. -/
structure Outage (before : Tunnel) (applied : Schedule Limits) (finished : List Chunk) (t : Tunnel) :
    Prop where
  /-- No connection is open, and none is on its way. -/
  active : t.relay.active = []
  dialing : t.owner.dialing? = none
  /-- The next client gets the number that it would have got. -/
  accepted : t.accepted = before.accepted
  /-- The bucket is what it was, but for the rates that were set. -/
  limiter : t.relay.limiter =
    applied.foldl (fun limiter x => limiter.setRate x.1 x.2.tunnel) before.relay.limiter
  /-- The limits are those that took effect last. -/
  limits : t.limits = (applied.getLast?.map (·.2)).getD before.limits
  connectionLimit : t.relay.connectionLimit =
    (applied.getLast?.map (·.2.connection)).getD before.relay.connectionLimit
  /-- Each change of the limits is reported, for no active connection. -/
  reported : t.events.filterMap Event.limitsUpdated? =
    before.events.filterMap Event.limitsUpdated? ++ applied.map fun x => (x.2, 0)
  /-- Nothing was counted but the chunks that were written. -/
  counters : t.counters = finished.foldl Counters.carry { before.counters with active := 0 }
  /-- Each of them was paid for when the listener was lost. -/
  paid : ∀ chunk ∈ finished, before.relay.IsPaid chunk
  /-- None is counted twice. -/
  once : finished.Nodup
  /-- What can still be written was paid for, too, and is not yet counted. -/
  left : ∀ chunk, t.relay.IsPaid chunk → before.relay.IsPaid chunk ∧ chunk ∉ finished
  owes : t.relay.Every Worker.Owes

variable {t t' before : Tunnel} {now : ℕ} {action : Action} {limits : Schedule Limits}
  {finished : List Chunk} {fault : Net.IoFault}

/-! ## The owner -/

/-- Only who takes a client dials. -/
theorem Turn.dialing?_eq_none {owner owner' : Owner} {phase phase' : Phase} {news : List Event}
    (h : Turn action owner phase news owner' phase') (haction : action ≠ .takeArrival)
    (howner : owner.dialing? = none) : owner'.dialing? = none := by
  cases h with
  | announce => exact absurd rfl haction
  | aside | takeUpdate => exact howner
  | openConnection | failDial => cases howner
  | _ => rfl

/-- An owner without a listener takes nothing from one. -/
theorem Turn.isAttending_eq_false {owner owner' : Owner} {phase phase' : Phase} {news : List Event}
    (h : Turn action owner phase news owner' phase') (haction : action.isOpening = false)
    (howner : owner.isAttending = false) : owner'.isAttending = false := by
  cases h with
  | aside | takeUpdate => exact howner
  | openConnection | failDial | announce | takeNotice => cases howner
  | openFirst | bound => cases haction
  | _ => rfl

/-- Until another listener comes into service, no arrival is taken. -/
theorem ne_takeArrival_of_run {actions : List (ℕ × Action)} (hrun : t.run actions = some t')
    (hone : ∀ a ∈ actions, a.2.isOpening = false) (howner : t.owner.isAttending = false) :
    ∀ a ∈ actions, a.2 ≠ .takeArrival := by
  induction actions generalizing t with
  | nil => exact nofun
  | cons head rest ih =>
    obtain ⟨next, hnext, hrest⟩ := Option.bind_eq_some_iff.1 hrun
    obtain ⟨hhead, htail⟩ := List.forall_mem_cons.1 hone
    have hs := stepped_of_step hnext
    obtain ⟨news, -, hturn⟩ := hs.turn
    refine List.forall_mem_cons.2 ⟨fun htake => ?_, ih hrest htail
      (hturn.isAttending_eq_false hhead howner)⟩
    rw [htake] at hs
    cases hs with
    | announce hserving | loseListener hserving =>
      rw [hserving] at howner
      cases howner

/-! ## The loss -/

/-- What is active was opened and not closed. -/
theorem Books.mem_active_iff (h : t.Books) (id : ℕ) :
    id ∈ t.relay.active ↔
      id ∈ t.events.filterMap openedId? ∧ id ∉ t.events.filterMap closedId? := by
  have hagrees := Ledger.agrees_of_replay h.relay.replay
  have hnodup := hagrees.opened.nodup_iff.1 hagrees.nodup_opened
  rw [events, hagrees.opened.mem_iff, List.mem_append]
  constructor
  · intro hactive
    exact ⟨.inr hactive, fun hclosed => (List.nodup_append.1 hnodup).2.2 id hclosed id hactive rfl⟩
  · rintro ⟨hclosed | hactive, hnot⟩
    · exact absurd hclosed hnot
    · exact hactive

/-- The loss closes all connections and changes nothing else. -/
theorem Books.outage (h : t.Books) (howner : t.owner = .serving)
    (harrival : t.arrival = some (.error fault)) (howes : t.relay.Every Worker.Owes) (now : ℕ) :
    Outage t [] [] (t.loseListener now fault) := by
  have hs : t.Stepped now .takeArrival (t.loseListener now fault) := .loseListener howner harrival
  let told := t.relay.emit (.acceptFailed fault.text)
  have hlost := (h.loseListener howner now fault).relay
  have hactive : (t.loseListener now fault).relay.active = [] :=
    ((h.relay.emit_of_isNeutral rfl).closeAll .listenerLost).2
  have hworker (id : ℕ) (d : Direction) :
      (told.closeAll .listenerLost).worker? id d = told.worker? id d :=
    Relay.view_closeAll (·.worker? id d) (fun relay closed => relay.worker?_close closed _ id d) told
  refine ⟨hactive, rfl, rfl, ?_, rfl, ?_, ?_, ?_, nofun, .nil, ?_, hs.every Worker.lasting_owes howes⟩
  · exact Relay.view_closeAll (·.limiter) (fun relay id => (relay.limits_close id _).1) told
  · exact Relay.view_closeAll (·.connectionLimit) (fun relay id => (relay.limits_close id _).2) told
  · rw [hs.filterMap_limitsUpdated? nofun, List.map_nil, List.append_nil]
  · -- the books say that the counter of active connections is down at zero
    have hzero : (t.loseListener now fault).counters.active = 0 := by
      rw [Tunnel.counters, hlost.active, hactive]
      rfl
    calc (t.loseListener now fault).counters
        = { (t.loseListener now fault).counters with active := 0 } := by rw [← hzero]
      _ = { t.counters with active := 0 } :=
          Relay.view_closeAll (fun relay => { relay.counters with active := 0 })
            (fun relay id => relay.counters_close id _) told
  · intro chunk hpaid
    have hsame := congrArg (·.bind Worker.chunk?) (hworker chunk.id chunk.direction)
    exact ⟨hsame.symm.trans hpaid, List.not_mem_nil⟩

namespace Outage

/-- What the outage leaves does not depend on listeners, requests and notices. -/
theorem congr (h : Outage before limits finished t)
    (hconnections : t'.relay.connections = t.relay.connections)
    (hdialing : t'.owner.dialing? = none) (haccepted : t'.accepted = t.accepted)
    (hlimiter : t'.relay.limiter = t.relay.limiter)
    (hlimit : t'.relay.connectionLimit = t.relay.connectionLimit) (hlimits : t'.limits = t.limits)
    (hreported : t'.events.filterMap Event.limitsUpdated? =
      t.events.filterMap Event.limitsUpdated?)
    (hcounters : t'.counters = t.counters) : Outage before limits finished t' where
  active := by rw [Relay.active, hconnections]; exact h.active
  dialing := hdialing
  accepted := haccepted.trans h.accepted
  limiter := hlimiter.trans h.limiter
  limits := hlimits.trans h.limits
  connectionLimit := hlimit.trans h.connectionLimit
  reported := hreported.trans h.reported
  counters := hcounters.trans h.counters
  paid := h.paid
  once := h.once
  left chunk hpaid := by
    refine h.left chunk ?_
    rwa [Relay.IsPaid, Relay.chunk?, Relay.worker?, Relay.find?, hconnections] at hpaid
  owes c hc := h.owes c (hconnections ▸ hc)

/-- New limits take effect. -/
theorem apply (h : Outage before limits finished t) (now : ℕ) (u : Update) :
    Outage before (limits ++ [(now, u.limits)]) finished (t.apply now u) := by
  obtain ⟨f, hf, heq⟩ := t.apply_eq now u
  have hlimiter : ∀ c, ∃ l, f c = { c with limiter := l } := fun c => (hf c).imp fun _ h => h.1
  rw [heq]
  refine ⟨(t.relay.active_map_limiter hlimiter).trans h.active, h.dialing, h.accepted, ?_, ?_, ?_, ?_,
    h.counters, h.paid, h.once, fun chunk hpaid => h.left chunk ?_, h.owes.map_limiter hlimiter⟩
  · rw [List.foldl_append, ← h.limiter]
    rfl
  · rw [List.getLast?_append]
    rfl
  · rw [List.getLast?_append]
    rfl
  · have hcount : t.relay.active.length = 0 := by rw [h.active, List.length_nil]
    rw [events, List.filterMap_append, hcount, List.map_append, ← List.append_assoc]
    exact congrArg (· ++ [(u.limits, 0)]) h.reported
  · rw [Relay.IsPaid, ← hpaid]
    exact (congrArg (·.bind Worker.chunk?) (Relay.worker?_map_limiter hlimiter ..)).symm

/-- A direction writes nothing, or a chunk that it has paid for. -/
theorem worked (h : Outage before limits finished t) {id : ℕ} {direction : Direction}
    {work : Relay.Work} {relay : Relay} (hw : t.relay.Worked now id direction work relay)
    (hreported : relay.events.filterMap Event.limitsUpdated? =
      t.events.filterMap Event.limitsUpdated?) :
    ∃ more, Outage before limits (finished ++ more) { t with relay } := by
  obtain ⟨hlimiter, hlimit, hcases⟩ := hw.drains h.active h.owes
  have hkept : Outage before limits finished { t with relay := { relay with
      counters := t.counters, connections := t.relay.connections } } :=
    h.congr rfl h.dialing rfl hlimiter hlimit rfl hreported rfl
  have hactive := hw.active_eq.trans h.active
  have howes := h.owes.worked Worker.lasting_owes hw
  rcases hcases with ⟨hcounters, hleft⟩ | ⟨chunk, hpaid, hcounters, hleft⟩
  · refine ⟨[], ?_⟩
    rw [List.append_nil]
    exact { hkept with
      active := hactive
      counters := hcounters.trans h.counters
      left := fun chunk hchunk => h.left chunk (hleft chunk hchunk)
      owes := howes }
  · obtain ⟨hbefore, hnew⟩ := h.left chunk hpaid
    refine ⟨[chunk], { hkept with
      active := hactive
      counters := ?_
      paid := ?_
      once := ?_
      left := fun other hother => ?_
      owes := howes }⟩
    · rw [List.foldl_append, ← h.counters]
      exact hcounters
    · exact List.forall_mem_append.2 ⟨h.paid, List.forall_mem_singleton.2 hbefore⟩
    · exact h.once.append (List.nodup_singleton _) (List.disjoint_singleton.2 hnew)
    · obtain ⟨hother, hne⟩ := hleft other hother
      obtain ⟨hpaid, hunwritten⟩ := h.left other hother
      refine ⟨hpaid, fun hmem => ?_⟩
      rcases List.mem_append.1 hmem with hold | hchunk
      · exact hunwritten hold
      · exact hne (List.mem_singleton.1 hchunk)

/-- Every action but the taking of an arrival keeps the outage. -/
theorem step (h : Outage before limits finished t) (hs : t.Stepped now action t')
    (htake : action ≠ .takeArrival) :
    ∃ more, Outage before (limits ++ t.appliedBy now action) (finished ++ more) t' := by
  obtain ⟨news, -, hturn⟩ := hs.turn
  have hdialing := hturn.dialing?_eq_none htake h.dialing
  have hreported := hs.filterMap_limitsUpdated?
  have hkeep {t' : Tunnel} (hnone : t.appliedBy now action = [])
      (h' : Outage before limits finished t') :
      ∃ more, Outage before (limits ++ t.appliedBy now action) (finished ++ more) t' :=
    ⟨[], by rwa [hnone, List.append_nil, List.append_nil]⟩
  cases hs with
  | refuseUpdate | requestUpdate | giveUp | shutDown | drop | finish | handUpdate | arrive | discard
  | handArrival | retire | openFirst | heed | wake | bound | failBind =>
    exact hkeep rfl (h.congr rfl hdialing rfl rfl rfl rfl (hreported (by simp)) rfl)
  | announce | loseListener => exact absurd rfl htake
  | openConnection howner | failDial howner | timeOutDial howner | abandonDial howner =>
    have hnone := h.dialing
    rw [howner] at hnone
    cases hnone
  | @takeNotice notice relay howner hnotice =>
    obtain ⟨rest, -, rfl⟩ := Relay.takeNotice_eq_some.1 hnotice
    -- no connection is left to be closed by a notice
    have hclose : (t.relay.withNotices rest).close notice.id (reasonOf notice) =
        t.relay.withNotices rest := by
      refine Relay.close_of_not_mem ?_
      rw [Relay.active_withNotices, h.active]
      exact List.not_mem_nil
    rw [hclose] at hreported ⊢
    exact hkeep rfl (h.congr rfl hdialing rfl rfl rfl rfl (hreported (by simp)) rfl)
  | @takeUpdate u howner hupdate =>
    refine ⟨[], ?_⟩
    rw [appliedBy, hupdate, List.append_nil]
    exact h.apply now u
  | stop =>
    have hclear : t.clear .shutdown = { t with arrival := none, relay := t.relay.hangUp } := by
      rw [clear, Relay.closeAll, h.active, List.foldl_nil]
    rw [hclear] at hreported ⊢
    exact hkeep rfl (h.congr rfl rfl rfl rfl rfl rfl (hreported (by simp)) rfl)
  | work hw =>
    obtain ⟨more, hmore⟩ := h.worked hw (hreported (by simp))
    exact ⟨more, by rwa [show t.appliedBy now (.work ..) = [] from rfl, List.append_nil]⟩

/-- A run that takes no arrival keeps the outage. -/
theorem run (h : Outage before limits finished t) {later : List (ℕ × Action)}
    (hrun : t.run later = some t') (htake : ∀ a ∈ later, a.2 ≠ .takeArrival) :
    ∃ more, Outage before (limits ++ t.applied later) (finished ++ more) t' := by
  induction later generalizing t limits finished with
  | nil =>
    cases hrun
    exact ⟨[], by simpa [applied] using h⟩
  | cons head rest ih =>
    obtain ⟨next, hnext, hrest⟩ := Option.bind_eq_some_iff.1 hrun
    obtain ⟨hhead, htail⟩ := List.forall_mem_cons.1 htake
    obtain ⟨first, hfirst⟩ := h.step (stepped_of_step hnext) hhead
    obtain ⟨more, hmore⟩ := ih hfirst hrest htail
    refine ⟨first ++ more, ?_⟩
    have hstep : t.step head.1 head.2 = some next := hnext
    rw [applied, hstep, ← List.append_assoc, ← List.append_assoc]
    exact hmore

end Outage

/-- A listener was lost in the tunnel `before`, by the fault, which has left the tunnel `lost`. -/
structure Loss (before : Tunnel) (fault : Net.IoFault) (lost : Tunnel) : Prop where
  /-- The connections that were opened and not closed are closed, each of them once, before the wait
  is announced. -/
  closes : ∃ closed : List ℕ, closed.Nodup ∧
    (∀ id, id ∈ closed ↔
      id ∈ before.events.filterMap openedId? ∧ id ∉ before.events.filterMap closedId?) ∧
    lost.events = before.events ++ .acceptFailed fault.text ::
      (closed.map (.connectionClosed · .listenerLost) ++
        [.listenRetryScheduled before.plan.retryInterval])
  retrying : lost.phase = .retrying
  /-- No arrival is taken before another listener comes into service. -/
  quiet : ∀ later t, lost.run later = some t → (∀ a ∈ later, a.2.isOpening = false) →
    ∀ a ∈ later, a.2 ≠ .takeArrival
  /-- As long as no arrival is taken, from another listener then, no connection is active, and all
  else is as it was before, but for new limits and for chunks that were paid for. -/
  carries : ∀ later t, lost.run later = some t → (∀ a ∈ later, a.2 ≠ .takeArrival) →
    t.counters.active = 0 ∧ ∃ finished, Outage before (lost.applied later) finished t

/-- In every run, a fault that the owner takes from a listener closes the connections of the tunnel
and nothing else: with the next listener the tunnel goes on from where it was. -/
theorem loss_of_run {plan : TunnelPlan} {listener : Listener} {first : ℕ}
    {earlier : List (ℕ × Action)} {lost : Tunnel}
    (hearlier : (start plan first listener).run earlier = some t)
    (harrival : t.arrival = some (.error fault)) (hlost : t.step now .takeArrival = some lost) :
    Loss t fault lost := by
  obtain ⟨hbooks, howes⟩ : t.Books ∧ t.relay.Every Worker.Owes := by
    refine run_keeps (motive := fun t => t.Books ∧ t.relay.Every Worker.Owes)
      (fun t now action t' _ h hs => ?_) ⟨books_start plan first listener, ?_⟩ hearlier
    · exact ⟨h.1.step hs, hs.every Worker.lasting_owes h.2⟩
    · exact fun _ hc => absurd hc List.not_mem_nil
  have hs := stepped_of_step hlost
  have hafter := hbooks.step hs
  cases hs with
  | announce howner hclient => cases hclient.symm.trans harrival
  | @loseListener other howner hfault =>
    cases hfault.symm.trans harrival
    have houtage := hbooks.outage howner harrival howes now
    refine ⟨⟨t.relay.active, ?_, hbooks.mem_active_iff, ?_⟩, rfl, ?_, ?_⟩
    · exact hbooks.relay.nodup.sublist t.relay.active_sublist_ids
    · exact hbooks.events_loseListener now fault
    · exact fun later t' hrun hone => ne_takeArrival_of_run hrun hone rfl
    · intro later t' hrun htake
      obtain ⟨finished, hleft⟩ := houtage.run hrun htake
      refine ⟨?_, finished, hleft⟩
      rw [Tunnel.counters, (hafter.run hrun).relay.active, hleft.active]
      rfl

/-- A client is served, and three bytes of it are paid for, when the listener fails. -/
def paidBeforeFault : List (ℕ × Action) :=
  [(0, .openFirst), (0, .arrive (.ok ⟨.v4 10 0 0 1, 4000, 0⟩)), (0, .handArrival),
    (0, .takeArrival), (1000000, .endDial (.ok ())),
    (1000000, .work 1 .upstream (.forward (.received [1, 2, 3]))),
    (1000000, .work 1 .upstream (.forward .pay)), (1000000, .work 1 .upstream (.forward .pay)),
    (2000000, .arrive (.error .writeZero)), (2000000, .handArrival)]

/-- The limits change, and the three bytes are written, before the second attempt to listen
succeeds. -/
def writtenMeanwhile : List (ℕ × Action) :=
  [(2000000, .requestUpdate ⟨2000, 900⟩), (2000000, .handUpdate), (3000000, .takeUpdate),
    (3000000, .work 1 .upstream (.forward (.took 3))),
    (3000000, .work 1 .upstream (.forward .heed)), (7000000, .wake),
    (7000000, .bound (.error .writeZero)), (12000000, .wake),
    (12000000, .bound (.ok (.stable ⟨.v4 127 0 0 1, 80, 0⟩)))]

theorem loss_of_paidBeforeFault :
    ∃ t lost t', (start ⟨"web", "in", "out", ⟨1000, 500⟩, .ofMillis 5, .ofMillis 3⟩ 0
          (.stable ⟨.v4 127 0 0 1, 80, 0⟩)).run paidBeforeFault = some t ∧
      t.arrival = some (.error .writeZero) ∧ t.step 2000000 .takeArrival = some lost ∧
      Loss t .writeZero lost ∧ lost.run writtenMeanwhile = some t' ∧
      t'.limits = ⟨2000, 900⟩ ∧ t'.counters = ⟨1, 0, 3, 0⟩ := by
  have hearlier : (start ⟨"web", "in", "out", ⟨1000, 500⟩, .ofMillis 5, .ofMillis 3⟩ 0
      (.stable ⟨.v4 127 0 0 1, 80, 0⟩)).run paidBeforeFault = some _ := rfl
  refine ⟨_, _, _, hearlier, rfl, rfl, ?_, rfl, rfl, rfl⟩
  exact loss_of_run hearlier rfl rfl

end Sluice.Tunnel
