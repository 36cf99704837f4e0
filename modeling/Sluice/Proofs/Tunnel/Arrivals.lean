import Sluice.Proofs.Tunnel.Chronicle
import Sluice.Proofs.Tunnel.Lifecycle
import Sluice.Tunnel.Outside

/-!
# What becomes of arrivals

Between the listener and its announcement a client passes through two places: the hand of the acceptor
and the slot from which the owner takes arrivals. There it can wait, be announced in its turn, or be
let go of when the end was asked for; it cannot be overtaken.

* `Tunnel.Action.arrival?`: what the listener returns;
* `Tunnel.Taking news returned dropped t`: the arrivals that a listener has returned are those that
  were announced, then those that wait or were dropped;
* `Tunnel.Lost base before after fault returned t`: the listener is lost, and all that it had returned
  before was announced;
* `Taking.step`, `Lost.step`: every action but the opening of the next listener keeps one of the two;
* `Tunnel.accounted_of_run`: what this says about every run on one listener.
-/

namespace Sluice

open Event (acceptedId? settledId?)
open Net (SocketAddress IoFault)

namespace Event

/-- The client that the event announces. -/
def announced? : Event → Option SocketAddress
  | .connectionAccepted _ peer => some peer
  | _ => none

/-- The event is about an arrival that the owner has taken. -/
def isOfIntake : Event → Bool
  | .connectionAccepted .. | .acceptFailed _ => true
  | _ => false

theorem filterMap_announced?_of_not_isOfIntake {events : List Event}
    (h : ∀ e ∈ events, e.isOfIntake = false) : events.filterMap announced? = [] := by
  refine List.filterMap_eq_nil_iff.2 fun e he => ?_
  have hquiet := h e he
  cases e <;> first | rfl | cases hquiet

end Event

/-- The owner takes arrivals, or dials for the one that it took last. -/
def Owner.isAttending : Owner → Bool
  | .serving | .dialing .. => true
  | _ => false

/-- The arrival that the acceptor is handing over. -/
def Acceptor.hand? : Acceptor → Option Arrival
  | .handing arrival => some arrival
  | _ => none

/-- How many arrivals the acceptor can still have in hand before it hands one over. -/
def Acceptor.places : Acceptor → ℕ
  | .ended => 0
  | _ => 1

theorem Acceptor.length_hand?_le (acceptor : Acceptor) :
    acceptor.hand?.toList.length ≤ acceptor.places := by
  cases acceptor <;> simp [hand?, places]

namespace Tunnel

/-- The arrival that a listener returns by the action. -/
def Action.arrival? : Action → Option Arrival
  | .arrive arrival => some arrival
  | _ => none

/-- The action puts a listener into service. -/
def Action.isOpening : Action → Bool
  | .openFirst | .bound (.ok _) => true
  | _ => false

variable {t t' : Tunnel} {now : ℕ} {action : Action} {base news before after : List Event}
  {returned dropped : List Arrival} {fault : IoFault}

/-- The clients that are announced in `events`, as the listener returned them. -/
def announcedIn (events : List Event) : List Arrival :=
  (events.filterMap Event.announced?).map .ok

theorem announcedIn_append (events events' : List Event) :
    announcedIn (events ++ events') = announcedIn events ++ announcedIn events' := by
  simp [announcedIn]

theorem announcedIn_of_quiet (h : ∀ e ∈ news, e.isOfIntake = false) : announcedIn news = [] := by
  rw [announcedIn, Event.filterMap_announced?_of_not_isOfIntake h, List.map_nil]

/-- Only an owner that takes an arrival reports anything about arrivals. -/
theorem Turn.quiet {owner owner' : Owner} {phase phase' : Phase}
    (h : Turn action owner phase news owner' phase') (haction : action ≠ .takeArrival) :
    ∀ e ∈ news, e.isOfIntake = false := by
  cases h with
  | announce | loseListener => exact absurd rfl haction
  | aside hnews =>
    intro e he
    have hdirection := hnews e he
    cases e <;> first | rfl | cases hdirection
  | takeNotice hnews | stop hnews =>
    intro e he
    obtain ⟨id, rfl⟩ := hnews e he
    rfl
  | _ => simp [Event.isOfIntake]

/-- A listener is in service, or the end was asked for while it was. Of what it returned, the clients
in `news` were announced, in order; then come the arrival in the slot, those that were dropped, and
the one in the hand of the acceptor. -/
structure Taking (news : List Event) (returned dropped : List Arrival) (t : Tunnel) : Prop where
  spread : returned =
    announcedIn news ++ (t.arrival.toList ++ dropped ++ t.acceptor.hand?.toList)
  /-- With what the acceptor can still take, no more than two arrivals are not announced. -/
  room : t.arrival.toList.length + dropped.length + t.acceptor.places ≤ 2
  /-- No fault has reached the owner yet. -/
  unfailed : ∀ error, .acceptFailed error ∉ news
  /-- A fault is the last that an acceptor hands over. -/
  fault : ∀ fault, t.arrival = some (.error fault) → t.acceptor = .ended ∧ dropped = []
  /-- Nothing is dropped before the end is asked for, nor while more can be handed over. -/
  dropped : dropped ≠ [] → t.isShut ∧ (t.acceptor = .ended ∨ t.owner = .stopped)
  /-- An owner that is gone has left the slot empty. -/
  stopped : t.owner = .stopped → t.arrival = none
  owner : t.owner.isAttending ∨ t.isShut ∧ t.owner.isLeaving

/-- The listener is lost. What it returned is what was announced before, and at last the fault. -/
structure Lost (base before after : List Event) (fault : IoFault) (returned : List Arrival)
    (t : Tunnel) : Prop where
  returned : returned = announcedIn before ++ [.error fault]
  /-- No dial was under way when the fault was reported. -/
  settled : (base ++ before).filterMap settledId? = (base ++ before).filterMap acceptedId?
  unfailed : ∀ error, .acceptFailed error ∉ before
  after : ∀ e ∈ after, e.isOfIntake = false
  arrival : t.arrival = none
  acceptor : t.acceptor = .ended
  owner : t.owner.isAttending = false

namespace Taking

/-- Neither the places where arrivals wait nor what is reported about them has changed. -/
theorem congr (h : t.Taking news returned dropped) {more : List Event}
    (hmore : ∀ e ∈ more, e.isOfIntake = false) (harrival : t'.arrival = t.arrival)
    (hacceptor : t'.acceptor = t.acceptor) (hshut : t.isShut → t'.isShut)
    (hstopped : t.owner = .stopped ↔ t'.owner = .stopped)
    (howner : t'.owner.isAttending ∨ t'.isShut ∧ t'.owner.isLeaving) :
    t'.Taking (news ++ more) returned dropped where
  spread := by
    rw [announcedIn_append, announcedIn_of_quiet hmore, List.append_nil, harrival, hacceptor]
    exact h.spread
  room := by
    rw [harrival, hacceptor]
    exact h.room
  unfailed error he := by
    rcases List.mem_append.1 he with he | he
    · exact h.unfailed error he
    · cases hmore _ he
  fault fault hfault := by
    rw [hacceptor]
    exact h.fault fault (harrival ▸ hfault)
  dropped hdropped := by
    obtain ⟨hheld, hgone⟩ := h.dropped hdropped
    rw [hacceptor]
    exact ⟨hshut hheld, hgone.imp_right hstopped.1⟩
  stopped howner' := harrival.trans (h.stopped (hstopped.2 howner'))
  owner := howner

/-- The same, when the owner is where it was. -/
theorem aside (h : t.Taking news returned dropped) {more : List Event}
    (hmore : ∀ e ∈ more, e.isOfIntake = false) (harrival : t'.arrival = t.arrival)
    (hacceptor : t'.acceptor = t.acceptor) (hshut : t.isShut → t'.isShut)
    (howner : t'.owner = t.owner) : t'.Taking (news ++ more) returned dropped := by
  refine h.congr hmore harrival hacceptor hshut (by rw [howner]) ?_
  rw [howner]
  exact h.owner.imp_right fun hleaving => ⟨hshut hleaving.1, hleaving.2⟩

theorem arrive (h : t.Taking news returned dropped) (hacceptor : t.acceptor = .accepting)
    (arrival : Arrival) :
    Taking news (returned ++ [arrival]) dropped { t with acceptor := .handing arrival } where
  spread := by
    rw [h.spread, hacceptor]
    simp [Acceptor.hand?]
  room := by
    have hroom := h.room
    rw [hacceptor] at hroom
    exact hroom
  unfailed := h.unfailed
  fault fault hfault := by
    obtain ⟨hended, -⟩ := h.fault fault hfault
    cases hacceptor.symm.trans hended
  dropped hdropped := by
    obtain ⟨hheld, hgone⟩ := h.dropped hdropped
    -- an acceptor that waits for its listener is not gone
    refine ⟨hheld, .inr (hgone.resolve_left fun hended => ?_)⟩
    cases hacceptor.symm.trans hended
  stopped := h.stopped
  owner := h.owner

/-- The acceptor hands over what it has in hand, and nothing was dropped before. -/
theorem handArrival (h : t.Taking news returned dropped) {arrival : Arrival}
    (hacceptor : t.acceptor = .handing arrival) (hreceiving : t.isReceiving)
    (hslot : t.arrival = none) :
    Taking news returned dropped
      { t with arrival := some arrival, acceptor := afterHanding arrival } := by
  have hnone : dropped = [] := by
    by_contra hdropped
    rcases (h.dropped hdropped).2 with hended | hstopped
    · cases hacceptor.symm.trans hended
    · simp [isReceiving, hstopped] at hreceiving
  subst hnone
  have hworking : t.owner ≠ .stopped := fun hstopped => by simp [isReceiving, hstopped] at hreceiving
  refine ⟨?_, ?_, h.unfailed, ?_, by simp, fun hstopped => absurd hstopped hworking, h.owner⟩
  · rw [h.spread, hslot, hacceptor]
    cases arrival <;> simp [Acceptor.hand?, afterHanding]
  · cases arrival <;> simp [afterHanding, Acceptor.places]
  · rintro fault hfault
    obtain rfl := Option.some.inj hfault
    exact ⟨rfl, rfl⟩

/-- The acceptor leaves and drops what it has in hand. -/
theorem leave (h : t.Taking news returned dropped) (hshut : t.isShut)
    (hacceptor : t.acceptor ≠ .ended) :
    Taking news returned (dropped ++ t.acceptor.hand?.toList) { t with acceptor := .ended } where
  spread := by
    rw [h.spread]
    simp [Acceptor.hand?]
  room := by
    have hroom := h.room
    have hhand := t.acceptor.length_hand?_le
    simp only [List.length_append, Acceptor.places]
    omega
  unfailed := h.unfailed
  fault fault hfault := absurd (h.fault fault hfault).1 hacceptor
  dropped _ := ⟨hshut, .inl rfl⟩
  stopped := h.stopped
  owner := h.owner

/-- An owner that takes no arrivals has announced the end, which was asked for. -/
theorem isShut_of_not_isReceiving (h : t.Taking news returned dropped)
    (hreceiving : t.isReceiving = false) : t.isShut := by
  rcases h.owner with hattending | ⟨hshut, -⟩
  · cases howner : t.owner <;> simp_all [Owner.isAttending, isReceiving]
  · exact hshut

/-- The client in the slot is announced. -/
theorem announce (h : t.Taking news returned dropped) {peer : SocketAddress}
    (harrival : t.arrival = some (.ok peer)) (howner : t.owner = .serving) (now : ℕ) :
    (t.announce now peer).Taking (news ++ [.connectionAccepted (t.accepted + 1) peer]) returned
      dropped where
  spread := by
    have hnew : announcedIn [.connectionAccepted (t.accepted + 1) peer] = [.ok peer] := rfl
    -- the client moves from the slot to the announced ones
    change returned = announcedIn (news ++ _) ++ ([] ++ dropped ++ t.acceptor.hand?.toList)
    rw [h.spread, harrival, announcedIn_append, hnew]
    simp
  room := by
    have hroom := h.room
    rw [harrival, Option.toList_some, List.length_singleton] at hroom
    change 0 + dropped.length + t.acceptor.places ≤ 2
    omega
  unfailed error he := by
    rcases List.mem_append.1 he with he | he
    · exact h.unfailed error he
    · simp at he
  fault fault hfault := by cases hfault
  dropped hdropped := by
    obtain ⟨hheld, hgone⟩ := h.dropped hdropped
    exact ⟨hheld, .inl (hgone.resolve_right (by simp [howner]))⟩
  stopped _ := rfl
  owner := .inl rfl

/-- The fault in the slot is the last arrival, and all others were announced and dialed. -/
theorem loseListener (h : t.Taking news returned dropped) (hbooks : t.Books)
    (hevents : t.events = base ++ news) (harrival : t.arrival = some (.error fault))
    (howner : t.owner = .serving) (now : ℕ) (after : List Event)
    (hafter : ∀ e ∈ after, e.isOfIntake = false) :
    (t.loseListener now fault).Lost base news after fault returned := by
  obtain ⟨hended, rfl⟩ := h.fault fault harrival
  refine ⟨?_, ?_, h.unfailed, hafter, rfl, hended, rfl⟩
  · rw [h.spread, harrival, hended]
    rfl
  · -- the owner dials nobody, so that the dials of all announced clients have ended
    have hagrees := Ledger.agrees_of_replay (hbooks.relay_of_owner howner).replay
    rw [← hevents]
    exact ((List.append_nil _).symm.trans hagrees.settled).trans hagrees.accepted.symm

/-- The owner leaves and drops what is in the slot. -/
theorem stop (h : t.Taking news returned dropped) (howner : t.owner = .ending)
    {more : List Event} (hmore : ∀ e ∈ more, e.isOfIntake = false)
    (harrival : t'.arrival = none) (hacceptor : t'.acceptor = t.acceptor)
    (hshut : t'.isShut = t.isShut) (hstopped : t'.owner = .stopped) :
    t'.Taking (news ++ more) returned (t.arrival.toList ++ dropped) := by
  have hasked : t.isShut := by
    rcases h.owner with hattending | ⟨hasked, -⟩
    · simp [howner, Owner.isAttending] at hattending
    · exact hasked
  refine ⟨?_, ?_, ?_, by simp [harrival], fun _ => ⟨hshut ▸ hasked, .inr hstopped⟩,
    fun _ => harrival, .inr ⟨hshut ▸ hasked, by rw [hstopped]; rfl⟩⟩
  · rw [announcedIn_append, announcedIn_of_quiet hmore, List.append_nil, harrival, hacceptor]
    exact h.spread
  · have hroom := h.room
    simp only [harrival, hacceptor, Option.toList_none, List.length_nil, List.length_append]
    omega
  · intro error he
    rcases List.mem_append.1 he with he | he
    · exact h.unfailed error he
    · cases hmore _ he

end Taking

/-- Unless the owner takes an arrival, no action but the opening of the next listener loses one. -/
theorem Taking.step (h : t.Taking news returned dropped) (hs : t.Stepped now action t')
    (htake : action ≠ .takeArrival) (hopening : action.isOpening = false) :
    ∃ more dropped', t'.events = t.events ++ more ∧
      t'.Taking (news ++ more) (returned ++ action.arrival?.toList) dropped' := by
  obtain ⟨more, hmore, hturn⟩ := hs.turn
  have hquiet := hturn.quiet htake
  have hshut := hs.stays_shut
  -- the places where arrivals wait change only where nothing is reported
  have hsilent {returned' dropped' : List Arrival} (hevents : t'.events = t.events)
      (hnext : t'.Taking news returned' dropped') :
      t'.Taking (news ++ more) returned' dropped' := by
    obtain rfl : more = [] := List.append_right_eq_self.1 (hmore.symm.trans hevents)
    rwa [List.append_nil]
  have hnone {dropped' : List Arrival} (haction : action.arrival? = none)
      (hnext : t'.Taking (news ++ more) returned dropped') :
      t'.Taking (news ++ more) (returned ++ action.arrival?.toList) dropped' := by
    rwa [haction, Option.toList_none, List.append_nil]
  cases hs with
  | refuseUpdate | requestUpdate | giveUp | shutDown | drop | finish | handUpdate | work =>
    exact ⟨more, dropped, hmore, hnone rfl (h.aside hquiet rfl rfl hshut rfl)⟩
  | takeNotice howner =>
    exact ⟨more, dropped, hmore, hnone rfl (h.aside hquiet rfl rfl hshut rfl)⟩
  | @takeUpdate u howner hupdate =>
    exact ⟨more, dropped, hmore, hnone rfl (h.aside hquiet rfl rfl hshut rfl)⟩
  | @arrive arrival hacceptor =>
    exact ⟨more, dropped, hmore, hsilent rfl (h.arrive hacceptor arrival)⟩
  | @discard arrival hacceptor hreceiving =>
    have hleft := h.leave (h.isShut_of_not_isReceiving hreceiving) (by simp [hacceptor])
    exact ⟨more, _, hmore, hnone rfl (hsilent rfl hleft)⟩
  | handArrival hacceptor hreceiving hslot =>
    have hhanded := h.handArrival hacceptor hreceiving hslot
    exact ⟨more, dropped, hmore, hnone rfl (hsilent rfl hhanded)⟩
  | retire hunneeded hacceptor =>
    have hleft := h.leave (by
      rcases (Bool.or_eq_true _ _).mp hunneeded with hasked | hreceiving
      · exact hasked
      · exact h.isShut_of_not_isReceiving (by simpa using hreceiving)) hacceptor
    exact ⟨more, _, hmore, hnone rfl (hsilent rfl hleft)⟩
  | announce | loseListener => exact absurd rfl htake
  | openFirst | bound => cases hopening
  | openConnection howner | failDial howner | timeOutDial howner | abandonDial howner =>
    refine ⟨more, dropped, hmore, hnone rfl (h.congr hquiet rfl rfl hshut ?_ (.inl rfl))⟩
    -- the owner serves again, whatever became of the dial
    exact iff_of_false (by simp [howner]) nofun
  | heed howner hasked =>
    refine ⟨more, dropped, hmore, hnone rfl (h.congr hquiet rfl rfl hshut ?_ ?_)⟩
    · rcases howner with howner | ⟨deadline, howner⟩ <;> simp [howner]
    · exact .inr ⟨hshut hasked, rfl⟩
  | stop howner =>
    exact ⟨more, _, hmore, hnone rfl (h.stop howner hquiet rfl rfl rfl rfl)⟩
  | wake howner | failBind howner =>
    -- an owner that waits for a listener has lost the one in service
    have howner' := h.owner
    simp [howner, Owner.isAttending, Owner.isLeaving] at howner'

/-- A listener that is lost returns no more. -/
theorem Lost.step (h : t.Lost base before after fault returned) (hs : t.Stepped now action t')
    (hopening : action.isOpening = false) :
    action.arrival? = none ∧ ∃ more, t'.events = t.events ++ more ∧
      t'.Lost base before (after ++ more) fault returned := by
  have hidle {owner : Owner} (howner : t.owner = owner) : owner.isAttending = false :=
    howner ▸ h.owner
  have htake : action ≠ .takeArrival := by
    rintro rfl
    cases hs with
    | announce howner | loseListener howner => cases hidle howner
  obtain ⟨more, hmore, hturn⟩ := hs.turn
  have hquiet : ∀ e ∈ after ++ more, e.isOfIntake = false :=
    List.forall_mem_append.2 ⟨h.after, hturn.quiet htake⟩
  -- the acceptor is gone, and what the owner can do brings no arrival
  have hkeep (harrival : t'.arrival = none) (hacceptor : t'.acceptor = .ended)
      (howner : t'.owner.isAttending = false) :
      ∃ more, t'.events = t.events ++ more ∧
        t'.Lost base before (after ++ more) fault returned :=
    ⟨more, hmore, h.returned, h.settled, h.unfailed, hquiet, harrival, hacceptor, howner⟩
  cases hs with
  | refuseUpdate | requestUpdate | giveUp | shutDown | drop | finish | handUpdate | takeUpdate
  | work => exact ⟨rfl, hkeep h.arrival h.acceptor h.owner⟩
  | heed | wake | failBind => exact ⟨rfl, hkeep h.arrival h.acceptor rfl⟩
  | stop => exact ⟨rfl, hkeep rfl h.acceptor rfl⟩
  | arrive hacceptor | discard hacceptor | handArrival hacceptor =>
    cases hacceptor.symm.trans h.acceptor
  | retire hunneeded hacceptor => exact absurd h.acceptor hacceptor
  | announce howner | loseListener howner => cases hidle howner
  | openConnection howner | failDial howner | timeOutDial howner | abandonDial howner =>
    cases hidle howner
  | takeNotice howner => cases hidle howner
  | openFirst | bound => cases hopening

/-- The arrivals of a listener are spread over announcements and places, or it is lost. -/
inductive Intake (base news : List Event) (returned : List Arrival) (t : Tunnel) : Prop
  | taking {dropped : List Arrival} (h : t.Taking news returned dropped)
  | lost {before after : List Event} {fault : IoFault}
      (hnews : news = before ++ .acceptFailed fault.text :: after)
      (h : t.Lost base before after fault returned)

/-- A listener that comes into service has not returned anything. -/
theorem taking_of_opening (hs : t.Stepped now action t') (hopening : action.isOpening) :
    t'.Taking [] [] [] := by
  cases hs with
  | openFirst | bound =>
    exact ⟨rfl, by simp [serve, Acceptor.places], by simp, by simp [serve], by simp,
      by simp [serve], .inl rfl⟩
  | _ => cases hopening

theorem Intake.step (h : Intake base news returned t) (hbooks : t.Books)
    (hevents : t.events = base ++ news) (hs : t.Stepped now action t')
    (hopening : action.isOpening = false) :
    ∃ news', t'.events = base ++ news' ∧
      Intake base news' (returned ++ action.arrival?.toList) t' := by
  cases h with
  | taking h =>
    by_cases htake : action = .takeArrival
    · subst htake
      rw [show Action.takeArrival.arrival? = none from rfl, Option.toList_none, List.append_nil]
      cases hs with
      | announce howner harrival =>
        exact ⟨_, by rw [← List.append_assoc, ← hevents]; rfl,
          .taking (h.announce harrival howner now)⟩
      | @loseListener fault howner harrival =>
        -- all that the loss reports after the fault is about connections and the wait
        refine ⟨_, by rw [hbooks.events_loseListener, hevents, List.append_assoc], .lost rfl
          (h.loseListener hbooks hevents harrival howner now _ fun e he => ?_)⟩
        rcases List.mem_append.1 he with he | he
        · obtain ⟨id, -, rfl⟩ := List.mem_map.1 he
          rfl
        · obtain rfl := List.mem_singleton.1 he
          rfl
    · obtain ⟨more, dropped', hmore, hnext⟩ := h.step hs htake hopening
      exact ⟨news ++ more, by rw [hmore, hevents, List.append_assoc], .taking hnext⟩
  | @lost before after fault hnews h =>
    obtain ⟨hnone, more, hmore, hnext⟩ := h.step hs hopening
    rw [hnone, Option.toList_none, List.append_nil]
    exact ⟨news ++ more, by rw [hmore, hevents, List.append_assoc],
      .lost (by rw [hnews, List.append_assoc, List.cons_append]) hnext⟩

/-- As long as no other listener comes into service, no arrival is lost. -/
theorem Intake.run {actions : List (ℕ × Action)} (h : Intake base news returned t)
    (hbooks : t.Books) (hevents : t.events = base ++ news) (hrun : t.run actions = some t')
    (hone : ∀ a ∈ actions, a.2.isOpening = false) :
    ∃ news', t'.events = base ++ news' ∧
      Intake base news' (returned ++ actions.filterMap (·.2.arrival?)) t' := by
  induction actions generalizing t news returned with
  | nil =>
    cases hrun
    exact ⟨news, hevents, by simpa using h⟩
  | cons head rest ih =>
    obtain ⟨next, hnext, hrest⟩ := Option.bind_eq_some_iff.1 hrun
    have hs := stepped_of_step hnext
    obtain ⟨news', hevents', h'⟩ := h.step hbooks hevents hs (hone head List.mem_cons_self)
    obtain ⟨last, hlast, hall⟩ := ih h' (hbooks.step hs) hevents' hrest fun a ha =>
      hone a (List.mem_cons_of_mem _ ha)
    refine ⟨last, hlast, ?_⟩
    rw [List.filterMap_cons]
    cases harrival : head.2.arrival? <;> simpa [harrival] using hall

/-- What became of the arrivals `returned` of a listener that came into service when `base` was on
record, while `news` was added to the record. -/
structure Accounted (base news : List Event) (returned : List Arrival) (t : Tunnel) : Prop where
  /-- The clients that were announced are the first ones that the listener returned, in order. -/
  announced : news.filterMap Event.announced? <+: returned.filterMap Except.toOption
  /-- At no time are more than two clients not announced. -/
  waiting : (returned.filterMap Except.toOption).length ≤
    (news.filterMap Event.announced?).length + 2
  /-- As long as the listener is in service and nobody asks for the end, those that are not announced
  wait in the slot or in the hand of the acceptor. -/
  complete : t.isShut = false → t.owner.isAttending →
    returned = announcedIn news ++ (t.arrival.toList ++ t.acceptor.hand?.toList)
  /-- When the loss of the listener is reported, all that it had returned before the fault was
  announced, and all announced clients of the tunnel were dialed to the end. No client follows. -/
  lost : ∀ before error after, news = before ++ .acceptFailed error :: after →
    (∃ fault : IoFault, error = fault.text ∧ returned = announcedIn before ++ [.error fault]) ∧
      (base ++ before).filterMap settledId? = (base ++ before).filterMap acceptedId? ∧
      after.filterMap Event.announced? = []
  /-- When the owner is gone, a client that was not announced is closed: no place holds it, or only
  the hand of an acceptor that can leave at any time. -/
  closed : t.owner = .stopped → t.arrival = none ∧ (t.acceptor = .ended ∧ t.unannounced = 0 ∨
    ∀ now, ∃ t', t.step now .retire = some t' ∧ t'.acceptor = .ended ∧ t'.unannounced = 0)

/-- Once the owner is gone, the acceptor can leave, and then no client is waiting. -/
theorem unannounced_of_stopped (howner : t.owner = .stopped) (harrival : t.arrival = none) :
    t.acceptor = .ended ∧ t.unannounced = 0 ∨
      ∀ now, ∃ t', t.step now .retire = some t' ∧ t'.acceptor = .ended ∧ t'.unannounced = 0 := by
  have hnobody : unannounced { t with acceptor := .ended } = 0 := by simp [unannounced, harrival]
  have hunneeded : (t.isShut || !t.isReceiving) = true := by simp [isReceiving, howner]
  cases hacceptor : t.acceptor with
  | ended =>
    refine .inl ⟨rfl, ?_⟩
    rwa [← hacceptor] at hnobody
  | accepting | handing =>
    exact .inr fun now => ⟨_, by rw [step, retire, if_pos hunneeded, hacceptor], rfl, hnobody⟩

/-- Announcements leave nothing out of a client's address. -/
theorem filterMap_toOption_announcedIn (events : List Event) :
    (announcedIn events).filterMap Except.toOption = events.filterMap Event.announced? := by
  rw [announcedIn, List.filterMap_map]
  exact List.filterMap_some

theorem Taking.accounted (h : t.Taking news returned dropped) : Accounted base news returned t where
  announced := by
    rw [h.spread, List.filterMap_append, filterMap_toOption_announcedIn]
    exact List.prefix_append _ _
  waiting := by
    have hroom := h.room
    have hhand := t.acceptor.length_hand?_le
    have hle := List.length_filterMap_le (Except.toOption (α := SocketAddress) (ε := IoFault))
      (t.arrival.toList ++ dropped ++ t.acceptor.hand?.toList)
    rw [h.spread, List.filterMap_append, filterMap_toOption_announcedIn, List.length_append]
    simp only [List.length_append] at hle
    omega
  complete hheld howner := by
    have hnone : dropped = [] := by
      by_contra hdropped
      cases hheld.symm.trans (h.dropped hdropped).1
    rw [h.spread, hnone, List.append_nil]
  lost before error after hsplit := by
    refine absurd ?_ (h.unfailed error)
    simp [hsplit]
  closed howner := ⟨h.stopped howner, unannounced_of_stopped howner (h.stopped howner)⟩

/-- All clients of a listener that is lost were announced. -/
theorem Lost.announced_eq (h : t.Lost base before after fault returned) :
    (before ++ .acceptFailed fault.text :: after).filterMap Event.announced? =
      returned.filterMap Except.toOption := by
  calc (before ++ .acceptFailed fault.text :: after).filterMap Event.announced?
      = before.filterMap Event.announced? := by
        rw [List.filterMap_append, List.filterMap_cons_none rfl,
          Event.filterMap_announced?_of_not_isOfIntake h.after, List.append_nil]
    _ = returned.filterMap Except.toOption := by
        rw [h.returned, List.filterMap_append, filterMap_toOption_announcedIn]
        exact (List.append_nil _).symm

theorem Lost.accounted (h : t.Lost base before after fault returned) :
    Accounted base (before ++ .acceptFailed fault.text :: after) returned t where
  announced := by rw [h.announced_eq]
  waiting := by rw [h.announced_eq]; exact Nat.le_add_right ..
  complete hheld howner := by cases howner.symm.trans h.owner
  lost before' error after' hsplit := by
    -- the fault is reported once, so that the record splits in one way only
    have hnot : Event.acceptFailed error ∉ after := fun he => by cases h.after _ he
    obtain ⟨rfl, herror, rfl⟩ :=
      (List.append_cons_inj_of_notMem (h.unfailed error) hnot).1 hsplit
    cases herror
    exact ⟨⟨fault, rfl, h.returned⟩, h.settled,
      Event.filterMap_announced?_of_not_isOfIntake h.after⟩
  closed howner := ⟨h.arrival, unannounced_of_stopped howner h.arrival⟩

/-- In every run on one listener, from its coming into service to that of the next one, clients are
announced in the order in which the listener returned them. At most two of them are waiting at any
time, none is left out when the listener is lost, and those that are left out at the end are closed. -/
theorem accounted_of_run {plan : TunnelPlan} {listener : Listener} {first : ℕ}
    {earlier later : List (ℕ × Action)} {opened : Tunnel}
    (hearlier : (start plan first listener).run earlier = some t)
    (hopening : t.step now action = some opened) (hopens : action.isOpening)
    (hlater : opened.run later = some t') (hone : ∀ a ∈ later, a.2.isOpening = false) :
    ∃ news, t'.events = opened.events ++ news ∧
      Accounted opened.events news (later.filterMap (·.2.arrival?)) t' := by
  have hs := stepped_of_step hopening
  have hbooks := (books_start plan first listener).run hearlier
  have hintake : Intake opened.events [] [] opened := .taking (taking_of_opening hs hopens)
  obtain ⟨news, hnews, hall⟩ :=
    hintake.run (hbooks.step hs) (List.append_nil _).symm hlater hone
  refine ⟨news, hnews, ?_⟩
  rw [List.nil_append] at hall
  cases hall with
  | taking h => exact h.accounted
  | lost hsplit h =>
    subst hsplit
    exact h.accounted

/-- Two clients and then a fault arrive while the first client is dialed; the second one cannot be
served. -/
def twoThenFault : List (ℕ × Action) :=
  [(0, .arrive (.ok ⟨.v4 10 0 0 1, 4000, 0⟩)), (0, .handArrival), (0, .takeArrival),
    (0, .arrive (.ok ⟨.v4 10 0 0 2, 4000, 0⟩)), (0, .handArrival),
    (0, .arrive (.error .writeZero)), (1000000, .endDial (.ok ())), (1000000, .takeArrival),
    (1000000, .handArrival), (4000000, .timeOutDial), (4000000, .takeArrival)]

theorem accounted_of_twoThenFault :
    ∃ opened t news,
      (start ⟨"web", "in", "out", ⟨1000, 500⟩, .ofMillis 5, .ofMillis 3⟩ 0
        (.stable ⟨.v4 127 0 0 1, 80, 0⟩)).step 0 .openFirst = some opened ∧
      opened.run twoThenFault = some t ∧ t.events = opened.events ++ news ∧
      Accounted opened.events news (twoThenFault.filterMap (·.2.arrival?)) t ∧
      t.events.filterMap Event.announced? =
        [⟨.v4 10 0 0 1, 4000, 0⟩, ⟨.v4 10 0 0 2, 4000, 0⟩] := by
  have hopening : (start ⟨"web", "in", "out", ⟨1000, 500⟩, .ofMillis 5, .ofMillis 3⟩ 0
      (.stable ⟨.v4 127 0 0 1, 80, 0⟩)).step 0 .openFirst = some (serve _ _) := rfl
  have hlater : ((start ⟨"web", "in", "out", ⟨1000, 500⟩, .ofMillis 5, .ofMillis 3⟩ 0
      (.stable ⟨.v4 127 0 0 1, 80, 0⟩)).serve (some ⟨.v4 127 0 0 1, 80, 0⟩)).run twoThenFault =
        some _ := rfl
  have hearlier : (start ⟨"web", "in", "out", ⟨1000, 500⟩, .ofMillis 5, .ofMillis 3⟩ 0
      (.stable ⟨.v4 127 0 0 1, 80, 0⟩)).run [] = some _ := rfl
  obtain ⟨news, hnews, hall⟩ := accounted_of_run hearlier hopening rfl hlater (by decide)
  exact ⟨_, _, news, hopening, hlater, hnews, hall, rfl⟩

end Tunnel

end Sluice
