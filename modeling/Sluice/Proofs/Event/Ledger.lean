import Mathlib.Data.List.Perm.Basic
import Mathlib.Data.List.Range
import Mathlib.Data.List.TakeWhile
import Mathlib.Data.Nat.Notation
import Sluice.Event

/-!
# The ledger of connections

What the events of a tunnel say about its connections can be kept in a ledger: how many clients were
announced, which of them is being dialed, and which connections are open.

* `Ledger.record` enters one event and refuses it when it does not fit what was entered before;
* `Ledger.replay` enters a whole record of events;
* `Ledger.Agrees l events`: what the ledger holds, in terms of the events alone;
* `Lifecycle events dialing` is the law that each connection is announced, settled and closed in
  turn. `Ledger.lifecycle` shows it for every record of events that can be replayed.
-/

namespace Sluice

namespace Event

/-- The client that the event announces. -/
def acceptedId? : Event → Option ℕ
  | .connectionAccepted id _ => some id
  | _ => none

/-- The client whose dial the event ends, either way. -/
def settledId? : Event → Option ℕ
  | .dialFailed id .. => some id
  | .connectionOpened id _ => some id
  | _ => none

/-- The connection that the event opens. -/
def openedId? : Event → Option ℕ
  | .connectionOpened id _ => some id
  | _ => none

/-- The connection that the event closes. -/
def closedId? : Event → Option ℕ
  | .connectionClosed id _ => some id
  | _ => none

/-- The event says nothing about the state of a connection. -/
def isNeutral : Event → Bool
  | .connectionAccepted .. | .dialFailed .. | .connectionOpened .. | .connectionClosed ..
  | .stopped => false
  | _ => true

/-- No client is announced. -/
def Quiet (events : List Event) : Prop := ∀ e ∈ events, e.acceptedId? = none

/-- The events before the next client is announced. -/
def untilNext (events : List Event) : List Event := events.takeWhile (·.acceptedId? = none)

end Event

open Event (acceptedId? settledId? openedId? closedId? Quiet untilNext)

/-- The law of connections in a record of events, when the given client is being dialed. -/
structure Lifecycle (events : List Event) (dialing : Option ℕ) : Prop where
  /-- Clients are announced by the numbers 1, 2, 3 and so on. -/
  accepted : ∃ n, events.filterMap acceptedId? = List.range' 1 n
  /-- After a client is announced and before the next one, exactly one event ends its dial and no
  event ends another dial, unless this client is still being dialed. -/
  settled : ∀ before id peer after, events = before ++ .connectionAccepted id peer :: after →
    (untilNext after).filterMap settledId? = [id] ∨
      (Quiet after ∧ after.filterMap settledId? = [] ∧ dialing = some id)
  /-- No dial ends twice. -/
  settled_once : (events.filterMap settledId?).Nodup
  /-- No connection is closed twice. -/
  closed_once : (events.filterMap closedId?).Nodup
  /-- A connection is closed after it was opened. -/
  closed_after : ∀ before id reason after, events = before ++ .connectionClosed id reason :: after →
    id ∈ before.filterMap openedId?
  /-- When the end is announced, every connection opened before was closed before. -/
  stopped : ∀ before after, events = before ++ .stopped :: after →
    ∀ id ∈ before.filterMap openedId?, id ∈ before.filterMap closedId?

/-- What the events so far say about connections. -/
structure Ledger where
  /-- The number of clients announced. -/
  accepted : ℕ := 0
  /-- The client that is being dialed. -/
  dialing : Option ℕ := none
  /-- The open connections, in the order in which they were opened. -/
  active : List ℕ := []
deriving DecidableEq

namespace Ledger

/-- Enter an event, unless it does not fit. -/
def record (l : Ledger) : Event → Option Ledger
  | .connectionAccepted id _ =>
    if l.dialing = none ∧ id = l.accepted + 1 then
      some { l with accepted := id, dialing := some id }
    else none
  | .dialFailed id .. => if l.dialing = some id then some { l with dialing := none } else none
  | .connectionOpened id _ =>
    if l.dialing = some id then some { l with dialing := none, active := l.active ++ [id] }
    else none
  | .connectionClosed id _ =>
    if id ∈ l.active then some { l with active := l.active.erase id } else none
  | .stopped => if l.active = [] then some l else none
  | _ => some l

/-- Enter a whole record of events. -/
def replay (events : List Event) : Option Ledger := events.foldlM record {}

variable {l l' : Ledger} {events : List Event} {e : Event}

theorem replay_concat (events : List Event) (e : Event) :
    replay (events ++ [e]) = (replay events).bind (·.record e) := by
  simp only [replay, List.foldlM_append, List.foldlM_cons, List.foldlM_nil]
  cases events.foldlM record {} with
  | none => rfl
  | some l => cases h : l.record e <;> simp [h]

/-- A neutral event changes no ledger. -/
theorem record_of_isNeutral (l : Ledger) (h : e.isNeutral) : l.record e = some l := by
  cases e <;> first | rfl | cases h

/-- What holds of the empty ledger and outlasts every entry holds of every ledger that events can
lead to. -/
theorem replay_induction {motive : List Event → Ledger → Prop} (hempty : motive [] {})
    (hrecord : ∀ events e l l', motive events l → l.record e = some l' → motive (events ++ [e]) l')
    (h : replay events = some l) : motive events l := by
  induction events using List.reverseRecOn generalizing l with
  | nil =>
    cases h
    exact hempty
  | append_singleton events e ih =>
    rw [replay_concat] at h
    obtain ⟨l₁, hl₁, hentry⟩ := Option.bind_eq_some_iff.1 h
    exact hrecord events e l₁ l (ih hl₁) hentry

/-- Neutral events change no ledger. -/
theorem replay_append_of_isNeutral (events : List Event) {neutral : List Event}
    (h : ∀ e ∈ neutral, e.isNeutral) : replay (events ++ neutral) = replay events := by
  induction neutral generalizing events with
  | nil => rw [List.append_nil]
  | cons e rest ih =>
    rw [List.append_cons, ih _ fun e he => h e (List.mem_cons_of_mem _ he), replay_concat]
    cases replay events with
    | none => rfl
    | some l => exact l.record_of_isNeutral (h e List.mem_cons_self)

/-- What is left of a record that can be replayed can be replayed. -/
theorem exists_replay_of_append {before after : List Event}
    (h : replay (before ++ after) = some l) : ∃ l', replay before = some l' := by
  rw [replay, List.foldlM_append] at h
  exact ⟨_, (Option.bind_eq_some_iff.1 h).choose_spec.1⟩

/-- An event in a record that can be replayed fits what was entered before it. -/
theorem exists_record_of_split {before after : List Event}
    (h : replay (before ++ e :: after) = some l) :
    ∃ l₁ l₂, replay before = some l₁ ∧ l₁.record e = some l₂ := by
  rw [List.append_cons] at h
  obtain ⟨l₂, hl₂⟩ := exists_replay_of_append h
  rw [replay_concat] at hl₂
  obtain ⟨l₁, hl₁, hrecord⟩ := Option.bind_eq_some_iff.1 hl₂
  exact ⟨l₁, l₂, hl₁, hrecord⟩

/-! ## What a ledger holds -/

theorem openedId?_of_isNeutral (h : e.isNeutral) : e.openedId? = none := by
  cases e <;> first | rfl | cases h

theorem filterMap_concat {α β : Type} (f : α → Option β) (xs : List α) (x : α) :
    (xs ++ [x]).filterMap f = xs.filterMap f ++ (f x).toList := by
  cases h : f x <;> simp [h]

/-- The ledger is what the events amount to. -/
structure Agrees (l : Ledger) (events : List Event) : Prop where
  accepted : events.filterMap acceptedId? = List.range' 1 l.accepted
  settled : events.filterMap settledId? ++ l.dialing.toList = List.range' 1 l.accepted
  opened : (events.filterMap openedId?).Perm (events.filterMap closedId? ++ l.active)

/-- An event that is about no connection changes nothing. -/
theorem Agrees.concat (h : l.Agrees events) (haccepted : e.acceptedId? = none)
    (hsettled : e.settledId? = none) (hopened : e.openedId? = none)
    (hclosed : e.closedId? = none) : l.Agrees (events ++ [e]) := by
  constructor <;> simp only [filterMap_concat]
  · rw [haccepted, Option.toList_none, List.append_nil, h.accepted]
  · rw [hsettled, Option.toList_none, List.append_nil, h.settled]
  · rw [hopened, hclosed, Option.toList_none, List.append_nil, List.append_nil]
    exact h.opened

/-- Entering an event keeps the ledger in agreement. -/
theorem Agrees.record (h : l.Agrees events) (hr : l.record e = some l') :
    l'.Agrees (events ++ [e]) := by
  have ⟨haccepted, hsettled, hopened⟩ := h
  cases e
  case connectionAccepted id peer =>
    simp only [Ledger.record, Option.ite_none_right_eq_some, Option.some.injEq] at hr
    obtain ⟨⟨hdialing, rfl⟩, rfl⟩ := hr
    -- nothing is being dialed, so that all announced clients are settled
    rw [hdialing, Option.toList_none, List.append_nil] at hsettled
    constructor <;> simp only [filterMap_concat]
    · simp [acceptedId?, haccepted, List.range'_1_concat, Nat.add_comm]
    · simp [settledId?, hsettled, List.range'_1_concat, Nat.add_comm]
    · simpa [openedId?, closedId?] using hopened
  case dialFailed id remote error =>
    simp only [Ledger.record, Option.ite_none_right_eq_some, Option.some.injEq] at hr
    obtain ⟨hdialing, rfl⟩ := hr
    rw [hdialing] at hsettled
    constructor <;> simp only [filterMap_concat]
    · simpa [acceptedId?] using haccepted
    · simpa [settledId?] using hsettled
    · simpa [openedId?, closedId?] using hopened
  case connectionOpened id limit =>
    simp only [Ledger.record, Option.ite_none_right_eq_some, Option.some.injEq] at hr
    obtain ⟨hdialing, rfl⟩ := hr
    rw [hdialing] at hsettled
    constructor <;> simp only [filterMap_concat]
    · simpa [acceptedId?] using haccepted
    · simpa [settledId?] using hsettled
    · simpa [openedId?, closedId?] using hopened.append_right [id]
  case connectionClosed id reason =>
    simp only [Ledger.record, Option.ite_none_right_eq_some, Option.some.injEq] at hr
    obtain ⟨hid, rfl⟩ := hr
    constructor <;> simp only [filterMap_concat]
    · simpa [acceptedId?] using haccepted
    · simpa [settledId?] using hsettled
    · -- the connection moves from the open ones to the closed ones
      have hmove := (List.perm_cons_erase hid).append_left (events.filterMap closedId?)
      simpa [openedId?, closedId?] using hopened.trans hmove
  case stopped =>
    simp only [Ledger.record, Option.ite_none_right_eq_some, Option.some.injEq] at hr
    obtain ⟨-, rfl⟩ := hr
    exact h.concat rfl rfl rfl rfl
  all_goals
    cases hr
    exact h.concat rfl rfl rfl rfl

/-- A ledger agrees with the events that were entered. -/
theorem agrees_of_replay (h : replay events = some l) : l.Agrees events := by
  refine replay_induction (motive := fun events l => l.Agrees events) ⟨rfl, rfl, .nil⟩ ?_ h
  intro events e l l' hagrees hrecord
  exact hagrees.record hrecord

/-! ## The order of announcements and dials -/

/-- Whether a further client is announced after an announcement, how often its dial has ended before
that, and what is being dialed at last. -/
def Settling (events : List Event) (dialing : Option ℕ) : Prop :=
  ∀ before id peer after, events = before ++ .connectionAccepted id peer :: after →
    (¬ Quiet after ∧ (untilNext after).filterMap settledId? = [id]) ∨
      (Quiet after ∧ after.filterMap settledId? = [id] ∧ dialing = none) ∨
      (Quiet after ∧ after.filterMap settledId? = [] ∧ dialing = some id)

theorem quiet_concat : Quiet (events ++ [e]) ↔ Quiet events ∧ e.acceptedId? = none := by
  simp [Quiet, or_imp, forall_and]

theorem untilNext_of_quiet (h : Quiet events) : untilNext events = events := by
  rw [untilNext, List.takeWhile_eq_self_iff]
  simpa [Quiet] using h

/-- What precedes the next announcement is settled once there is one. -/
theorem untilNext_concat (h : ¬ (Quiet events ∧ e.acceptedId? = none)) :
    untilNext (events ++ [e]) = untilNext events := by
  by_cases hq : Quiet events
  · have he : e.acceptedId? ≠ none := fun he => h ⟨hq, he⟩
    rw [untilNext_of_quiet hq, untilNext, List.takeWhile_append_of_pos (by simpa [Quiet] using hq)]
    simp [he]
  · rw [untilNext, List.takeWhile_append, if_neg, untilNext]
    intro hlen
    refine hq ?_
    have heq := (List.takeWhile_prefix _).eq_of_length hlen
    simpa [Quiet] using List.takeWhile_eq_self_iff.1 heq

/-- An event announces a client, ends a dial, or leaves both alone. -/
theorem dialing_of_record (hr : l.record e = some l') :
    (∃ id, e.acceptedId? = some id ∧ l.dialing = none ∧ l'.dialing = some id) ∨
      (e.acceptedId? = none ∧
        ∃ id, e.settledId? = some id ∧ l.dialing = some id ∧ l'.dialing = none) ∨
      (e.acceptedId? = none ∧ e.settledId? = none ∧ l'.dialing = l.dialing) := by
  cases e <;>
    simp only [record, Option.ite_none_right_eq_some, Option.some.injEq] at hr
  case connectionAccepted id peer =>
    obtain ⟨⟨hdialing, -⟩, rfl⟩ := hr
    exact .inl ⟨id, rfl, hdialing, rfl⟩
  case dialFailed id remote error =>
    obtain ⟨hdialing, rfl⟩ := hr
    exact .inr (.inl ⟨rfl, id, rfl, hdialing, rfl⟩)
  case connectionOpened id limit =>
    obtain ⟨hdialing, rfl⟩ := hr
    exact .inr (.inl ⟨rfl, id, rfl, hdialing, rfl⟩)
  case connectionClosed id reason =>
    obtain ⟨-, rfl⟩ := hr
    exact .inr (.inr ⟨rfl, rfl, rfl⟩)
  case stopped =>
    obtain ⟨-, rfl⟩ := hr
    exact .inr (.inr ⟨rfl, rfl, rfl⟩)
  all_goals
    subst hr
    exact .inr (.inr ⟨rfl, rfl, rfl⟩)

/-- An element of a list with one more at the end is the last one or stood there before. -/
theorem concat_eq_append_cons {α : Type} {xs before after : List α} {x y : α}
    (h : xs ++ [x] = before ++ y :: after) :
    (after = [] ∧ y = x) ∨ ∃ rest, after = rest ++ [x] ∧ xs = before ++ y :: rest := by
  rcases List.eq_nil_or_concat after with rfl | ⟨rest, z, rfl⟩
  · obtain ⟨-, heq⟩ := List.append_inj' h rfl
    exact .inl ⟨rfl, (List.singleton_inj.1 heq).symm⟩
  · rw [List.concat_eq_append, ← List.cons_append, ← List.append_assoc] at h
    obtain ⟨hxs, heq⟩ := List.append_inj' h rfl
    rw [List.singleton_inj.1 heq]
    exact .inr ⟨rest, List.concat_eq_append, hxs⟩

/-- Entering an event keeps announcements and dials in order. -/
theorem Settling.record (h : Settling events l.dialing) (hr : l.record e = some l') :
    Settling (events ++ [e]) l'.dialing := by
  intro before id peer after heq
  rcases concat_eq_append_cons heq with ⟨rfl, rfl⟩ | ⟨rest, rfl, rfl⟩
  · -- the event is the announcement itself
    simp only [Ledger.record, Option.ite_none_right_eq_some, Option.some.injEq] at hr
    obtain ⟨-, rfl⟩ := hr
    exact .inr (.inr ⟨by simp [Quiet], rfl, rfl⟩)
  have hstep := dialing_of_record hr
  -- where the announcement stood before, and what the event adds to what follows it
  rcases h before id peer rest rfl with ⟨hnext, hspan⟩ | ⟨hquiet, hspan, hnone⟩ |
      ⟨hquiet, hspan, hsome⟩
  · -- the next client was announced before, and nothing changes
    refine .inl ⟨fun hall => hnext (quiet_concat.1 hall).1, ?_⟩
    rw [untilNext_concat fun hall => hnext hall.1, hspan]
  · rcases hstep with ⟨next, haccepted, -, -⟩ | ⟨-, ended, -, hsome, -⟩ |
        ⟨haccepted, hsettled, hsame⟩
    · -- the next client is announced, after the dial has ended
      have hne : ¬ (Quiet rest ∧ e.acceptedId? = none) := fun hall => by simp [haccepted] at hall
      refine .inl ⟨mt quiet_concat.1 hne, ?_⟩
      rw [untilNext_concat hne, untilNext_of_quiet hquiet, hspan]
    · -- no dial can end that is not going on
      simp [hnone] at hsome
    · refine .inr (.inl ⟨quiet_concat.2 ⟨hquiet, haccepted⟩, ?_, hsame.trans hnone⟩)
      rw [filterMap_concat, hspan, hsettled, Option.toList_none, List.append_nil]
  · rcases hstep with ⟨next, -, hnone, -⟩ | ⟨haccepted, ended, hsettled, hended, hnone⟩ |
        ⟨haccepted, hsettled, hsame⟩
    · -- no client is announced while one is being dialed
      simp [hsome] at hnone
    · -- the dial ends, and it is the one that was announced last
      refine .inr (.inl ⟨quiet_concat.2 ⟨hquiet, haccepted⟩, ?_, hnone⟩)
      obtain rfl : id = ended := Option.some.inj (hsome.symm.trans hended)
      rw [filterMap_concat, hspan, hsettled, Option.toList_some, List.nil_append]
    · refine .inr (.inr ⟨quiet_concat.2 ⟨hquiet, haccepted⟩, ?_, hsame.trans hsome⟩)
      rw [filterMap_concat, hspan, hsettled, Option.toList_none, List.append_nil]

theorem settling_of_replay (h : replay events = some l) : Settling events l.dialing := by
  refine replay_induction (motive := fun events l => Settling events l.dialing) ?_ ?_ h
  · intro before id peer after heq
    simp at heq
  · intro events e l l' hsettling hrecord
    exact hsettling.record hrecord

/-! ## The law of connections -/

/-- Whatever opens a connection ends a dial. -/
theorem opened_sublist_settled (events : List Event) :
    (events.filterMap openedId?).Sublist (events.filterMap settledId?) := by
  induction events with
  | nil => exact .slnil
  | cons e events ih =>
    cases e
    case connectionOpened id limit => exact ih.cons_cons id
    case dialFailed id remote error => exact ih.cons id
    all_goals exact ih

theorem Agrees.nodup_settled (h : l.Agrees events) :
    (events.filterMap settledId? ++ l.dialing.toList).Nodup := by
  rw [h.settled]
  exact List.nodup_range'

theorem Agrees.nodup_opened (h : l.Agrees events) : (events.filterMap openedId?).Nodup :=
  (List.nodup_append.1 h.nodup_settled).1.sublist (opened_sublist_settled events)

theorem Agrees.dialing_not_mem_opened {id : ℕ} (h : l.Agrees events) (hd : l.dialing = some id) :
    id ∉ events.filterMap openedId? := by
  intro hid
  have hnodup := h.nodup_settled
  rw [hd] at hnodup
  exact (List.nodup_append.1 hnodup).2.2 id ((opened_sublist_settled events).subset hid) id
    (by simp) rfl

/-- Every record of events that can be replayed obeys the law of connections. -/
theorem lifecycle (h : replay events = some l) : Lifecycle events l.dialing where
  accepted := ⟨l.accepted, (agrees_of_replay h).accepted⟩
  settled before id peer after heq := by
    rcases settling_of_replay h before id peer after heq with ⟨-, hspan⟩ | ⟨hquiet, hspan, -⟩ |
        ⟨hquiet, hspan, hsome⟩
    · exact .inl hspan
    · exact .inl (by rw [untilNext_of_quiet hquiet, hspan])
    · exact .inr ⟨hquiet, hspan, hsome⟩
  settled_once := (List.nodup_append.1 (agrees_of_replay h).nodup_settled).1
  closed_once := by
    have hagrees := agrees_of_replay h
    exact (List.nodup_append.1 (hagrees.opened.nodup_iff.1 hagrees.nodup_opened)).1
  closed_after before id reason after heq := by
    subst heq
    obtain ⟨l₁, l₂, hl₁, hrecord⟩ := exists_record_of_split h
    simp only [record, Option.ite_none_right_eq_some] at hrecord
    -- the ledger has refused to close what is not open
    exact (agrees_of_replay hl₁).opened.mem_iff.2 (List.mem_append_right _ hrecord.1)
  stopped before after heq id hid := by
    subst heq
    obtain ⟨l₁, l₂, hl₁, hrecord⟩ := exists_record_of_split h
    simp only [record, Option.ite_none_right_eq_some] at hrecord
    -- nothing is open at the end, so that what was opened is what was closed
    have hperm := (agrees_of_replay hl₁).opened
    rw [hrecord.1, List.append_nil] at hperm
    exact hperm.mem_iff.1 hid

/-- A connection cannot be closed before it is opened. -/
example : replay [.connectionClosed 1 .completed] = none := rfl

end Ledger

end Sluice
