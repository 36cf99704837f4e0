import Mathlib.Computability.RegularExpressions
import Sluice.Event

/-!
# The law of listeners

The events about the listener of a tunnel, in the order of their reports, form words of a regular
language: the tunnel listens; whenever it loses its listener it waits and tries again, as often as
that fails, until it listens again.

* `ListenerEvent.law` is the regular expression;
* `ListenerEvent.Awaiting word`: the listener is lost after `word` and not yet found again;
* `Event.listenerEvents events` are the events about the listener, and `Event.lastStarted? events`
  is the address of the last one.
-/

namespace Sluice

/-- What an event says about the listener of a tunnel. -/
inductive ListenerEvent where
  /-- The tunnel listens. -/
  | started
  /-- The listener stopped working. -/
  | lost
  /-- An attempt to listen failed. -/
  | failed
  /-- The next attempt to listen follows after a wait. -/
  | scheduled
deriving DecidableEq, Repr

namespace Event

/-- What the event says about the listener. -/
def listenerEvent? : Event → Option ListenerEvent
  | .listenStarted _ => some .started
  | .acceptFailed _ => some .lost
  | .listenFailed _ => some .failed
  | .listenRetryScheduled _ => some .scheduled
  | _ => none

/-- What the events say about the listener, oldest first. -/
def listenerEvents (events : List Event) : List ListenerEvent := events.filterMap listenerEvent?

/-- The address at which the tunnel listens since the event. -/
def startedAddress? : Event → Option Net.SocketAddress
  | .listenStarted address => some address
  | _ => none

/-- The address of the last listener that was put into service. -/
def lastStarted? (events : List Event) : Option Net.SocketAddress :=
  (events.filterMap startedAddress?).getLast?

variable {events news : List Event}

theorem listenerEvents_append (events news : List Event) :
    listenerEvents (events ++ news) = listenerEvents events ++ listenerEvents news :=
  List.filterMap_append ..

/-- Events that are not about a listener leave what was said about listeners. -/
theorem listenerEvents_append_of_forall (h : ∀ e ∈ news, e.listenerEvent? = none) :
    listenerEvents (events ++ news) = listenerEvents events := by
  rw [listenerEvents_append, listenerEvents, listenerEvents, List.filterMap_eq_nil_iff.2 h,
    List.append_nil]

theorem lastStarted?_append_of_forall (h : ∀ e ∈ news, e.listenerEvent? = none) :
    lastStarted? (events ++ news) = lastStarted? events := by
  have hnone : news.filterMap startedAddress? = [] := by
    refine List.filterMap_eq_nil_iff.2 fun e he => ?_
    have hother := h e he
    cases e <;> first | rfl | cases hother
  rw [lastStarted?, List.filterMap_append, hnone, List.append_nil, lastStarted?]

theorem lastStarted?_concat (events : List Event) (address : Net.SocketAddress) :
    lastStarted? (events ++ [.listenStarted address]) = some address := by
  simp [lastStarted?, startedAddress?]

end Event

namespace ListenerEvent

open RegularExpression (char)

/-- An attempt to listen fails, and another one is scheduled. -/
def retry : RegularExpression ListenerEvent := char .failed * char .scheduled

/-- The listener is lost and, after any number of attempts that fail, found again. -/
def recovery : RegularExpression ListenerEvent :=
  char .lost * char .scheduled * retry.star * char .started

/-- The tunnel listens, and recovers from each loss of its listener. -/
def law : RegularExpression ListenerEvent := char .started * recovery.star

/-- The listener was lost after a word of the law and is not yet found again. -/
def Awaiting (word : List ListenerEvent) : Prop :=
  ∃ before ∈ law.matches', ∃ attempts ∈ retry.star.matches',
    word = before ++ [.lost, .scheduled] ++ attempts

variable {word : List ListenerEvent}

/-- One more round stays within the star. -/
theorem append_mem_star {P : RegularExpression ListenerEvent} {round : List ListenerEvent}
    (hword : word ∈ P.star.matches') (hround : round ∈ P.matches') :
    word ++ round ∈ P.star.matches' := by
  rw [RegularExpression.matches'_star, Language.mem_kstar] at *
  obtain ⟨rounds, rfl, hrounds⟩ := hword
  refine ⟨rounds ++ [round], by simp, ?_⟩
  exact List.forall_mem_append.2 ⟨hrounds, by simpa using hround⟩

theorem nil_mem_star (P : RegularExpression ListenerEvent) : [] ∈ P.star.matches' := by
  rw [RegularExpression.matches'_star]
  exact Language.nil_mem_kstar _

theorem mem_char (e : ListenerEvent) : [e] ∈ (char e).matches' :=
  Set.mem_singleton _

theorem started_mem_law : [.started] ∈ law.matches' :=
  Language.append_mem_mul (mem_char .started) (nil_mem_star recovery)

theorem awaiting_of_mem_law (h : word ∈ law.matches') : Awaiting (word ++ [.lost, .scheduled]) :=
  ⟨word, h, [], nil_mem_star retry, by simp⟩

/-- After an attempt that fails the listener is still lost. -/
theorem Awaiting.retry (h : Awaiting word) : Awaiting (word ++ [.failed, .scheduled]) := by
  obtain ⟨before, hbefore, attempts, hattempts, rfl⟩ := h
  have hround : [.failed, .scheduled] ∈ ListenerEvent.retry.matches' :=
    Language.append_mem_mul (mem_char .failed) (mem_char .scheduled)
  exact ⟨before, hbefore, _, append_mem_star hattempts hround, by simp⟩

/-- Once the listener is found again the law is obeyed. -/
theorem Awaiting.started (h : Awaiting word) : word ++ [.started] ∈ law.matches' := by
  obtain ⟨before, hbefore, attempts, hattempts, rfl⟩ := h
  obtain ⟨first, hfirst, recoveries, hrecoveries, rfl⟩ := Language.mem_mul.1 hbefore
  have hloss : [lost, scheduled] ∈ (char lost * char scheduled).matches' :=
    Language.append_mem_mul (mem_char lost) (mem_char scheduled)
  have hround : [lost, scheduled] ++ attempts ++ [started] ∈ recovery.matches' :=
    Language.append_mem_mul (Language.append_mem_mul hloss hattempts) (mem_char started)
  have hword := Language.append_mem_mul hfirst (append_mem_star hrecoveries hround)
  simpa [law] using hword

/-- Nobody waits for a listener that was not lost. -/
example : ¬ [.started, .scheduled] ∈ law.matches' := by
  rw [← RegularExpression.rmatch_iff_matches']
  decide

end ListenerEvent

end Sluice
