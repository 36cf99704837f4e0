import Sluice.Proofs.Relay.Causes
import Sluice.Proofs.Tunnel.Chronicle
import Sluice.Proofs.Tunnel.Lifecycle

/-!
# Why connections are closed

A connection is closed for one of four reasons, and the reason that is reported is the true one.

* `CloseReason.Holds traffic before id reason`: the cause that the reason names is on record;
* `Tunnel.logbook` is the traffic of every connection in a run;
* `Tunnel.Attributed book t`: every close so far has its cause, and those to come will have one;
* `Tunnel.Stepped.attributed`: every action keeps this.
-/

namespace Sluice

/-- After the events, the connection was opened under the listener that was found last and is not
lost. -/
def Event.OpenedLast (events : List Event) (id : ℕ) : Prop :=
  ∃ before limit between, events = before ++ .connectionOpened id limit :: between ∧
    ∀ e ∈ between, e.listenerEvent? = none

/-- The cause that the reason for closing a connection names: one of its directions, whose traffic
is given, has carried its source to the end, or has failed; the listener under which the connection
was opened is lost; the tunnel shuts down. -/
def CloseReason.Holds (traffic : Direction → Traffic) (before : List Event) (id : ℕ) :
    CloseReason → Prop
  | .completed => ∃ direction, (traffic direction).IsComplete
  | .failed message => ∃ direction, .forwardFailed id direction message ∈ before
  | .listenerLost => ∃ opened error rest,
    before = opened ++ .acceptFailed error :: rest ∧ Event.OpenedLast opened id
  | .shutdown => .shutdownStarted ∈ before

/-- Every connection that was closed had the cause for it. -/
def Explained (book : Relay.Logbook) (events : List Event) : Prop :=
  ∀ before id reason after, events = before ++ .connectionClosed id reason :: after →
    reason.Holds (book id) before id

variable {book book' : Relay.Logbook} {events news : List Event} {id : ℕ}

theorem Event.OpenedLast.append (h : Event.OpenedLast events id)
    (hnews : ∀ e ∈ news, e.listenerEvent? = none) : Event.OpenedLast (events ++ news) id := by
  obtain ⟨before, limit, between, rfl, hbetween⟩ := h
  exact ⟨before, limit, between ++ news, by simp, List.forall_mem_append.2 ⟨hbetween, hnews⟩⟩

namespace Explained

/-- What is explained stays so when more becomes complete. -/
theorem mono (h : Explained book events)
    (hbook : ∀ id d, (book id d).IsComplete → (book' id d).IsComplete) :
    Explained book' events := by
  intro before id reason after heq
  have hholds := h before id reason after heq
  cases reason with
  | completed => exact hholds.imp fun d => hbook id d
  | _ => exact hholds

/-- New events are explained if their closes have a cause by then. -/
theorem append (h : Explained book events)
    (hnews : ∀ before id reason after, news = before ++ .connectionClosed id reason :: after →
      reason.Holds (book id) (events ++ before) id) : Explained book (events ++ news) := by
  intro before id reason after heq
  rcases List.append_eq_append_iff.1 heq with ⟨rest, rfl, hrest⟩ | ⟨rest, rfl, hrest⟩
  · exact hnews rest id reason after hrest
  · -- the close is the first of the new events, or one of the old ones
    cases rest with
    | nil => simpa using hnews [] id reason after hrest.symm
    | cons e rest =>
      obtain ⟨rfl, -⟩ := List.cons_eq_cons.1 hrest
      exact h before id reason rest rfl

/-- Events that close nothing need no explanation. -/
theorem append_of_forall (h : Explained book events) (hnews : ∀ e ∈ news, e.closedId? = none) :
    Explained book (events ++ news) := by
  refine h.append fun before id reason after heq => ?_
  have hclosed : (Event.connectionClosed id reason).closedId? = none :=
    hnews _ (heq ▸ List.mem_append_right _ List.mem_cons_self)
  cases hclosed

end Explained

namespace Tunnel

variable {t t' : Tunnel} {now : ℕ} {action : Action}

/-- The logbook after an action. -/
def note (book : Relay.Logbook) (t : Tunnel) : Action → Relay.Logbook
  | .work id direction work => Relay.note book t.relay id direction work
  | _ => book

/-- The traffic of every direction of every connection in a run. -/
def logbook (t : Tunnel) (actions : Schedule Action) : Relay.Logbook :=
  Schedule.record step note (fun _ _ => {}) t actions

/-- Every close so far has its cause, and those to come will have one: directions and notices tell
the truth, and what is active was opened under the listener in service. -/
structure Attributed (book : Relay.Logbook) (t : Tunnel) : Prop where
  told : t.relay.Told book
  opened : ∀ id ∈ t.relay.active, Event.OpenedLast t.events id
  idle : t.owner.isWaiting → t.relay.active = []
  explained : Explained book t.events

theorem attributed_start (plan : TunnelPlan) (first : ℕ) (listener : Listener) :
    Attributed (fun _ _ => {}) (start plan first listener) where
  told := ⟨by simp [start], by simp [start], fun _ _ _ => rfl⟩
  opened := by simp [start, Relay.active]
  idle _ := rfl
  explained := by simp [Explained, start, events, List.singleton_eq_append_iff]

namespace Attributed

/-- The owner reports what is not about listeners, and opens nothing. -/
theorem extend (h : Attributed book t) (hkeeps : t.relay.Keeps t'.relay)
    (hactive : t'.relay.active ⊆ t.relay.active) (hidle : t'.owner.isWaiting → t.owner.isWaiting)
    (hevents : t'.events = t.events ++ news) (hnews : ∀ e ∈ news, e.listenerEvent? = none)
    (hexplained : Explained book (t.events ++ news)) : Attributed book t' where
  told := h.told.keeps hkeeps
  opened id hid := by
    rw [hevents]
    exact (h.opened id (hactive hid)).append hnews
  idle howner := by
    have hnone := h.idle (hidle howner)
    exact List.subset_nil.1 (hnone ▸ hactive)
  explained := hevents ▸ hexplained

/-- The owner reports one event that neither is about listeners nor closes anything. -/
theorem emit (h : Attributed book t) {e : Event} (hlistener : e.listenerEvent? = none)
    (hclosed : e.closedId? = none) (hkeeps : t.relay.Keeps t'.relay)
    (hactive : t'.relay.active ⊆ t.relay.active) (hidle : t'.owner.isWaiting → t.owner.isWaiting)
    (hevents : t'.events = t.events ++ [e]) : Attributed book t' :=
  h.extend hkeeps hactive hidle hevents (by simpa using hlistener)
    (h.explained.append_of_forall (by simpa using hclosed))

/-- Nothing happens to the relay. -/
theorem of_relay_eq (h : Attributed book t) (hrelay : t'.relay = t.relay)
    (hidle : t'.owner.isWaiting → t.owner.isWaiting) : Attributed book t' where
  told := hrelay ▸ h.told
  opened := by
    rw [events, hrelay]
    exact h.opened
  idle howner := by
    rw [hrelay]
    exact h.idle (hidle howner)
  explained := by
    rw [events, hrelay]
    exact h.explained

/-- All is closed at once, for a reason that holds of everything active. -/
theorem explained_closeAll (h : Attributed book t) {first : List Event} {reason : CloseReason}
    (hfirst : ∀ e ∈ first, e.closedId? = none)
    (hnews : ∀ e ∈ news, ∃ id ∈ t.relay.active, e = .connectionClosed id reason)
    (hholds : ∀ id ∈ t.relay.active, ∀ closes,
      reason.Holds (book id) (t.events ++ first ++ closes) id) :
    Explained book (t.events ++ first ++ news) := by
  refine (h.explained.append_of_forall hfirst).append fun before id other after heq => ?_
  obtain ⟨id', hid, hsame⟩ := hnews _ (heq ▸ List.mem_append_right _ List.mem_cons_self)
  cases hsame
  exact hholds id hid before

/-- A notice that is taken tells why its connection is closed. -/
theorem takeNotice {notice : Notice} {relay : Relay} (h : Attributed book t) (hbooks : t.Books)
    (howner : t.owner = .serving) (hnotice : t.relay.takeNotice = some (notice, relay)) :
    Attributed book { t with relay := relay.close notice.id (reasonOf notice) } := by
  obtain ⟨rest, hrest, rfl⟩ := Relay.takeNotice_eq_some.1 hnotice
  have htaken := hbooks.relay.withNotices rest
  have hkeeps : t.relay.Keeps (t.relay.withNotices rest) :=
    .withNotices (hrest ▸ List.subset_cons_self ..)
  obtain ⟨closes, hcloses, hall⟩ :=
    (t.relay.withNotices rest).events_close notice.id (reasonOf notice)
  refine h.extend (hkeeps.trans (.close ..)) ?_ (by simp [howner]) hcloses ?_ ?_
  · rw [(htaken.close notice.id (reasonOf notice)).2]
    exact List.erase_subset
  · intro e he
    rw [hall e he]
    rfl
  · refine h.explained.append fun before id reason after heq => ?_
    have hsame := hall _ (heq ▸ List.mem_append_right _ List.mem_cons_self)
    cases hsame
    -- the notice was true when it was sent, and it still is
    obtain ⟨direction, hends⟩ := h.told.notices notice (hrest ▸ List.mem_cons_self)
    unfold reasonOf
    cases herror : notice.error with
    | none =>
      rw [herror] at hends
      exact ⟨direction, hends⟩
    | some error =>
      rw [herror] at hends
      exact ⟨direction, List.mem_append_left _ hends⟩

/-- When the listener is lost, everything active was opened under it. -/
theorem loseListener (h : Attributed book t) (hbooks : t.Books) (howner : t.owner = .serving)
    (now : ℕ) (fault : Net.IoFault) : Attributed book (t.loseListener now fault) := by
  have hemit : (t.emit (.acceptFailed fault.text)).Books :=
    .of_relay (hbooks.relay.emit_of_isNeutral rfl) (by simp [Tunnel.emit, howner])
  have hactive : (t.loseListener now fault).relay.active = [] := (hemit.clear .listenerLost).2
  obtain ⟨closes, hcloses, hall⟩ :=
    (t.relay.emit (.acceptFailed fault.text)).events_closeAll .listenerLost
  have hevents : (t.loseListener now fault).events = t.events ++ [.acceptFailed fault.text] ++
      closes ++ [.listenRetryScheduled t.plan.retryInterval] := by
    show ((t.relay.emit (.acceptFailed fault.text)).closeAll .listenerLost).events ++ _ = _
    rw [hcloses]
    rfl
  refine ⟨h.told.keeps ?_, by simp [hactive], fun _ => hactive, ?_⟩
  · exact (((Relay.Keeps.emit ..).trans (.foldl_close ..)).trans (.hangUp _)).trans (.emit ..)
  · rw [hevents]
    have hclosed : Explained book (t.events ++ [.acceptFailed fault.text] ++ closes) :=
      h.explained_closeAll (by simp [Event.closedId?]) hall
        fun id hid more => ⟨t.events, fault.text, more, by simp, h.opened id hid⟩
    exact hclosed.append_of_forall (by simp [Event.closedId?])

/-- When the owner leaves, the end has begun. -/
theorem stop (h : Attributed book t) (hbooks : t.Books) (hchronicle : Chronicle t.owner t.events)
    (howner : t.owner = .ending) (hrelay : t'.relay = (t.clear .shutdown).relay) :
    Attributed book t' := by
  have hactive := (hbooks.clear .shutdown).2
  obtain ⟨closes, hcloses, hall⟩ := t.relay.events_closeAll .shutdown
  rw [howner] at hchronicle
  obtain ⟨before, after, hbegun, -⟩ := hchronicle.leaving_inv rfl
  refine ⟨?_, ?_, fun _ => by rw [hrelay, hactive], ?_⟩
  · rw [hrelay]
    exact h.told.keeps ((Relay.Keeps.foldl_close ..).trans (.hangUp _))
  · simp [hrelay, hactive]
  · have hevents : t'.events = t.events ++ [] ++ closes := by
      rw [List.append_nil, events, hrelay]
      exact hcloses
    rw [hevents]
    refine h.explained_closeAll (by simp) hall fun id hid more => ?_
    have hmem : .shutdownStarted ∈ t.events := by simp [hbegun]
    simpa [CloseReason.Holds] using .inl hmem

end Attributed

/-- Every action keeps this. -/
theorem Stepped.attributed (hs : t.Stepped now action t') (h : Attributed book t)
    (hbooks : t.Books) (hchronicle : Chronicle t.owner t.events) :
    Attributed (note book t action) t' := by
  cases hs with
  | refuseUpdate | requestUpdate | giveUp | shutDown | drop | handUpdate | arrive | discard
  | handArrival | retire => exact h.of_relay_eq rfl id
  | finish hclosing hfinished =>
    exact h.emit rfl rfl (.emit ..) (List.Subset.refl _) id rfl
  | openFirst howner =>
    exact h.extend (.of_connections_eq rfl (List.Subset.refl _) (List.nil_subset _))
      (List.Subset.refl _) (fun h => by cases h) (List.append_nil _).symm (by simp)
      (by simpa using h.explained)
  | announce howner harrival =>
    exact h.emit rfl rfl (.emit ..) (List.Subset.refl _) (fun h => by cases h) rfl
  | loseListener howner harrival => exact h.loseListener hbooks howner now _
  | @openConnection id deadline answer howner =>
    refine ⟨h.told.openConnection (hbooks.relay_of_owner howner).not_mem_ids now, ?_,
      (fun h => by cases h), ?_⟩
    · intro other hother
      rw [Relay.active_openConnection] at hother
      rcases List.mem_append.1 hother with hold | hnew
      · exact (h.opened other hold).append (by simp [Event.listenerEvent?])
      · obtain rfl := List.mem_singleton.1 hnew
        exact ⟨t.events, t.relay.connectionLimit, [], rfl, by simp⟩
    · exact h.explained.append_of_forall (by simp [Event.closedId?])
  | failDial howner | timeOutDial howner | abandonDial howner =>
    exact h.emit rfl rfl (.emit ..) (List.Subset.refl _) (fun h => by cases h) rfl
  | takeNotice howner hnotice => exact h.takeNotice hbooks howner hnotice
  | @takeUpdate u howner hupdate =>
    obtain ⟨f, hf, heq⟩ := t.apply_eq now u
    have hlimiter c : ∃ l, f c = { c with limiter := l } := (hf c).imp fun _ h => h.1
    refine h.emit rfl rfl ?_ ?_ ?_ (t.events_apply now u)
    · rw [heq]
      refine .of_map f (fun c => ?_) (fun c d => ?_) rfl (List.subset_append_left ..)
        (List.Subset.refl _)
      · obtain ⟨l, hl⟩ := hlimiter c
        rw [hl]
      · obtain ⟨l, hl⟩ := hlimiter c
        rw [hl, Connection.worker_limiter]
    · rw [heq]
      have hactive := t.relay.active_map_limiter hlimiter
      exact fun id hid => (congrArg (id ∈ ·) hactive).mp hid
    · rw [heq]
      exact id
  | heed howner hshut =>
    exact h.emit rfl rfl (.emit ..) (List.Subset.refl _) (fun h => by cases h) rfl
  | stop howner => exact h.stop hbooks hchronicle howner rfl
  | wake howner hdue => exact h.of_relay_eq rfl (by simp [howner, Owner.isWaiting])
  | bound howner =>
    -- nothing is active, so that the new listener loses no connection
    have hnone := h.idle (by simp [howner, Owner.isWaiting])
    refine ⟨h.told.keeps ?_, fun id hid => ?_, (fun h => by cases h), ?_⟩
    · exact (Relay.Keeps.emit ..).trans
        (.of_connections_eq rfl (List.Subset.refl _) (List.nil_subset _))
    · exact absurd hid (hnone ▸ List.not_mem_nil)
    · exact h.explained.append_of_forall (by simp [Event.closedId?])
  | failBind howner =>
    have hnone := h.idle (by simp [howner, Owner.isWaiting])
    refine ⟨h.told.keeps ((Relay.Keeps.emit ..).trans (.emit ..)), fun id hid => ?_,
      fun _ => hnone, ?_⟩
    · exact absurd hid (hnone ▸ List.not_mem_nil)
    · exact (h.explained.append_of_forall (by simp [Event.closedId?])).append_of_forall
        (by simp [Event.closedId?])
  | work hwork =>
    obtain ⟨news, hnews, hdirection⟩ := hwork.events
    have hother : ∀ e ∈ news, e.listenerEvent? = none ∧ e.closedId? = none := fun e he => by
      have := hdirection e he
      cases e <;> first | exact ⟨rfl, rfl⟩ | cases this
    refine ⟨h.told.worked hwork, fun id hid => ?_, fun howner => ?_, ?_⟩
    · rw [events, hnews]
      exact (h.opened id (hwork.active_eq ▸ hid)).append fun e he => (hother e he).1
    · exact hwork.active_eq.trans (h.idle howner)
    · rw [events, hnews]
      exact (h.explained.append_of_forall fun e he => (hother e he).2).mono
        fun id d => h.told.isComplete_note hwork

end Tunnel

end Sluice
