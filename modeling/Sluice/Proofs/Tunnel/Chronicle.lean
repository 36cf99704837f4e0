import Sluice.Proofs.Event.Listening
import Sluice.Proofs.Tunnel.Turn

/-!
# The chronicle of a tunnel

What the owner does is recorded: its events tell how listeners were lost and found, when the end
began, and how it was reached.

* `Event.isOfEnd`: the events that can follow after the end began;
* `Tunnel.Chronicle owner events`: the events so far fit what the owner does;
* `Tunnel.Stepped.chronicle`: every action keeps the chronicle.
-/

namespace Sluice

open Event (listenerEvents)
open ListenerEvent (law Awaiting)
open Net (SocketAddress)

/-- The event can follow after the end of the tunnel began. -/
def Event.isOfEnd : Event → Bool
  | .forwardFailed .. | .closeFailed .. | .connectionClosed _ .shutdown | .stopped => true
  | _ => false

theorem Event.isOfEnd_of_isOfDirection {e : Event} (h : e.isOfDirection) : e.isOfEnd := by
  cases e <;> first | rfl | cases h

theorem Event.listenerEvent?_of_isOfEnd {e : Event} (h : e.isOfEnd) : e.listenerEvent? = none := by
  cases e <;> first | rfl | cases h

theorem Event.ne_shutdownStarted_of_isOfEnd {e : Event} (h : e.isOfEnd) : e ≠ .shutdownStarted := by
  rintro rfl
  cases h

/-- The owner has a listener. -/
def Owner.isListening : Owner → Bool
  | .opening _ | .serving | .dialing .. => true
  | _ => false

/-- The owner waits for a listener. -/
def Owner.isWaiting : Owner → Bool
  | .retrying _ | .binding => true
  | _ => false

/-- The owner has announced the end. -/
def Owner.isLeaving : Owner → Bool
  | .ending | .stopped => true
  | _ => false

namespace Tunnel

/-- What the owner does and what is on record fit together. -/
inductive Chronicle : Owner → List Event → Prop
  | listening {owner : Owner} {events : List Event} (howner : owner.isListening)
      (hlaw : listenerEvents events ∈ law.matches') (hnot : .shutdownStarted ∉ events) :
      Chronicle owner events
  | waiting {owner : Owner} {events : List Event} (howner : owner.isWaiting)
      (hlaw : Awaiting (listenerEvents events)) (hnot : .shutdownStarted ∉ events) :
      Chronicle owner events
  | leaving {owner : Owner} {before after : List Event} (howner : owner.isLeaving)
      (hlaw : listenerEvents before ∈ law.matches' ∨ Awaiting (listenerEvents before))
      (hnot : .shutdownStarted ∉ before) (hafter : ∀ e ∈ after, e.isOfEnd) :
      Chronicle owner (before ++ .shutdownStarted :: after)

variable {t t' : Tunnel} {now : ℕ} {action : Action} {owner owner' : Owner} {phase phase' : Phase}
  {events news : List Event}

namespace Chronicle

theorem listening_inv (h : Chronicle owner events) (howner : owner.isListening) :
    listenerEvents events ∈ law.matches' ∧ .shutdownStarted ∉ events := by
  cases h with
  | listening _ hlaw hnot => exact ⟨hlaw, hnot⟩
  | waiting hwaiting => cases owner <;> first | cases howner; done | cases hwaiting
  | leaving hleaving => cases owner <;> first | cases howner; done | cases hleaving

theorem waiting_inv (h : Chronicle owner events) (howner : owner.isWaiting) :
    Awaiting (listenerEvents events) ∧ .shutdownStarted ∉ events := by
  cases h with
  | listening hlistening => cases owner <;> first | cases howner; done | cases hlistening
  | waiting _ hlaw hnot => exact ⟨hlaw, hnot⟩
  | leaving hleaving => cases owner <;> first | cases howner; done | cases hleaving

theorem leaving_inv (h : Chronicle owner events) (howner : owner.isLeaving) :
    ∃ before after, events = before ++ .shutdownStarted :: after ∧
      (listenerEvents before ∈ law.matches' ∨ Awaiting (listenerEvents before)) ∧
      .shutdownStarted ∉ before ∧ ∀ e ∈ after, e.isOfEnd := by
  cases h with
  | listening hlistening => cases owner <;> first | cases howner; done | cases hlistening
  | waiting hwaiting => cases owner <;> first | cases howner; done | cases hwaiting
  | leaving _ hlaw hnot hafter => exact ⟨_, _, rfl, hlaw, hnot, hafter⟩

/-- Events that are not about listeners leave a tunnel listening. -/
theorem listening_append (h : Chronicle owner events) (howner : owner.isListening)
    (howner' : owner'.isListening)
    (hnews : ∀ e ∈ news, e.listenerEvent? = none ∧ e ≠ .shutdownStarted) :
    Chronicle owner' (events ++ news) := by
  obtain ⟨hlaw, hnot⟩ := h.listening_inv howner
  refine .listening howner' ?_ ?_
  · rwa [Event.listenerEvents_append_of_forall fun e he => (hnews e he).1]
  · simpa [hnot] using fun he => (hnews _ he).2 rfl

/-- Events that are not about listeners leave a tunnel waiting. -/
theorem waiting_append (h : Chronicle owner events) (howner : owner.isWaiting)
    (howner' : owner'.isWaiting)
    (hnews : ∀ e ∈ news, e.listenerEvent? = none ∧ e ≠ .shutdownStarted) :
    Chronicle owner' (events ++ news) := by
  obtain ⟨hlaw, hnot⟩ := h.waiting_inv howner
  refine .waiting howner' ?_ ?_
  · rwa [Event.listenerEvents_append_of_forall fun e he => (hnews e he).1]
  · simpa [hnot] using fun he => (hnews _ he).2 rfl

/-- Events of the end leave a tunnel at its end. -/
theorem leaving_append (h : Chronicle owner events) (howner : owner.isLeaving)
    (howner' : owner'.isLeaving) (hnews : ∀ e ∈ news, e.isOfEnd) :
    Chronicle owner' (events ++ news) := by
  obtain ⟨before, after, rfl, hlaw, hnot, hafter⟩ := h.leaving_inv howner
  rw [List.append_assoc, List.cons_append]
  exact .leaving howner' hlaw hnot (List.forall_mem_append.2 ⟨hafter, hnews⟩)

/-- Events of the end fit whatever the owner does. -/
theorem append (h : Chronicle owner events) (hnews : ∀ e ∈ news, e.isOfEnd) :
    Chronicle owner (events ++ news) := by
  have hother : ∀ e ∈ news, e.listenerEvent? = none ∧ e ≠ .shutdownStarted := fun e he =>
    ⟨Event.listenerEvent?_of_isOfEnd (hnews e he), Event.ne_shutdownStarted_of_isOfEnd (hnews e he)⟩
  cases h with
  | listening howner hlaw hnot =>
    exact (Chronicle.listening howner hlaw hnot).listening_append howner howner hother
  | waiting howner hlaw hnot =>
    exact (Chronicle.waiting howner hlaw hnot).waiting_append howner howner hother
  | leaving howner hlaw hnot hafter =>
    exact (Chronicle.leaving howner hlaw hnot hafter).leaving_append howner howner hnews

/-- The loss of the listener is on record, and so is the wait that follows. -/
theorem loseListener {closes : List Event} {error : String} {delay : Duration} {deadline : ℕ}
    (h : Chronicle .serving events)
    (hcloses : ∀ e ∈ closes, ∃ id, e = .connectionClosed id .listenerLost) :
    Chronicle (.retrying deadline)
      (events ++ .acceptFailed error :: (closes ++ [.listenRetryScheduled delay])) := by
  obtain ⟨hlaw, hevents⟩ := h.listening_inv rfl
  have hnone : closes.filterMap Event.listenerEvent? = [] := by
    refine List.filterMap_eq_nil_iff.2 fun e he => ?_
    obtain ⟨id, rfl⟩ := hcloses e he
    rfl
  have hnot : .shutdownStarted ∉ closes := fun he => by
    obtain ⟨id, heq⟩ := hcloses _ he
    cases heq
  refine .waiting rfl ?_ (by simp [hevents, hnot])
  have hawaiting := ListenerEvent.awaiting_of_mem_law hlaw
  simpa [listenerEvents, Event.listenerEvent?, hnone] using hawaiting

/-- The end begins. -/
theorem heed (h : Chronicle owner events)
    (howner : owner = .serving ∨ ∃ deadline, owner = .retrying deadline) :
    Chronicle .ending (events ++ [.shutdownStarted]) := by
  rcases howner with rfl | ⟨deadline, rfl⟩
  · obtain ⟨hlaw, hnot⟩ := h.listening_inv rfl
    exact .leaving rfl (.inl hlaw) hnot (by simp)
  · obtain ⟨hlaw, hnot⟩ := h.waiting_inv rfl
    exact .leaving rfl (.inr hlaw) hnot (by simp)

/-- Every turn of the owner keeps the chronicle. -/
theorem turn (h : Chronicle owner events) (hturn : Turn action owner phase news owner' phase') :
    Chronicle owner' (events ++ news) := by
  cases hturn with
  | aside hnews => exact h.append fun e he => Event.isOfEnd_of_isOfDirection (hnews e he)
  | finish => exact h.append (by simp [Event.isOfEnd])
  | announce => exact h.listening_append rfl rfl (by simp [Event.listenerEvent?])
  | openConnection | failDial => exact h.listening_append rfl rfl (by simp [Event.listenerEvent?])
  | takeNotice hnews =>
    refine h.listening_append rfl rfl fun e he => ?_
    obtain ⟨id, rfl⟩ := hnews e he
    exact ⟨rfl, by simp⟩
  | takeUpdate howner =>
    rcases howner with rfl | ⟨deadline, rfl⟩
    · exact h.listening_append rfl rfl (by simp [Event.listenerEvent?])
    · exact h.waiting_append rfl rfl (by simp [Event.listenerEvent?])
  | openFirst => exact h.listening_append rfl rfl (by simp)
  | loseListener hcloses => exact h.loseListener hcloses
  | wake => exact h.waiting_append rfl rfl (by simp)
  | bound =>
    obtain ⟨hlaw, hnot⟩ := h.waiting_inv rfl
    refine .listening rfl ?_ (by simp [hnot])
    simpa [listenerEvents, Event.listenerEvent?] using hlaw.started
  | failBind =>
    obtain ⟨hlaw, hnot⟩ := h.waiting_inv rfl
    refine .waiting rfl ?_ (by simp [hnot])
    simpa [listenerEvents, Event.listenerEvent?] using hlaw.retry
  | heed howner => exact h.heed howner
  | stop hcloses =>
    refine h.leaving_append rfl rfl fun e he => ?_
    obtain ⟨id, rfl⟩ := hcloses e he
    rfl

/-- The events so far obey the law of listeners. -/
theorem listeners (h : Chronicle owner events) :
    listenerEvents events ∈ law.matches' ∨ Awaiting (listenerEvents events) := by
  cases h with
  | listening _ hlaw _ => exact .inl hlaw
  | waiting _ hlaw _ => exact .inr hlaw
  | leaving _ hlaw _ hafter =>
    rwa [Event.listenerEvents_append_of_forall]
    exact List.forall_mem_cons.2 ⟨rfl, fun e he => Event.listenerEvent?_of_isOfEnd (hafter e he)⟩

/-- The end begins once, and only its own events follow. -/
theorem isOfEnd_of_split {before after : List Event} (h : Chronicle owner events)
    (hsplit : events = before ++ .shutdownStarted :: after) :
    .shutdownStarted ∉ before ∧ ∀ e ∈ after, e.isOfEnd := by
  cases h with
  | listening _ _ hnot | waiting _ _ hnot => simp [hsplit] at hnot
  | leaving _ _ hnot hafter =>
    obtain ⟨rfl, -, rfl⟩ := (List.append_cons_inj_of_notMem hnot fun he =>
      Event.ne_shutdownStarted_of_isOfEnd (hafter _ he) rfl).1 hsplit
    exact ⟨hnot, hafter⟩

end Chronicle

/-- A tunnel begins its chronicle with its first listener. -/
theorem chronicle_start (plan : TunnelPlan) (first : ℕ) (listener : Listener) :
    Chronicle (start plan first listener).owner (start plan first listener).events :=
  .listening rfl ListenerEvent.started_mem_law (by simp [start, events])

/-- Every action keeps the chronicle. -/
theorem Stepped.chronicle (hs : t.Stepped now action t') (h : Chronicle t.owner t.events) :
    Chronicle t'.owner t'.events := by
  obtain ⟨news, hnews, hturn⟩ := hs.turn
  rw [hnews]
  exact h.turn hturn

end Tunnel

end Sluice
