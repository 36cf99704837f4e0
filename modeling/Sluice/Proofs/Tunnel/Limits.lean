import Mathlib.Data.List.Pairwise
import Sluice.Proofs.Relay.Rates
import Sluice.Proofs.Schedule
import Sluice.Proofs.Tunnel.Lifecycle
import Sluice.Proofs.Tunnel.Turn

/-!
# New limits

The user asks for new limits by calls, which have the numbers 0, 1, 2 and so on. The limits take
effect one after the other, and at any time all parts of a tunnel have the same limits in force.

* `Tunnel.Docket` is the record of what the calls asked for and of what took effect;
* `Tunnel.Docket.Lawful docket numbers t`: the limits that took effect are those of the calls
  `numbers`, in their order, and events and answers tell so;
* `Tunnel.Docket.Kept`: what every action keeps of the docket, with the calls that still wait;
* `Tunnel.limits_of_run`: at any time of any run the limits are in force everywhere, the docket is
  lawful, and new limits close no connection.
-/

namespace Sluice

/-- The limits that the event puts into force, and the number of active connections it tells. -/
def Event.limitsUpdated? : Event → Option (Limits × UInt64)
  | .limitsUpdated limits active => some (limits, .ofNat active)
  | _ => none

namespace Tunnel

/-- Limits that took effect. -/
structure Enforced where
  /-- The call that waited for them, unless it was given up. -/
  call : Option ℕ
  /-- The limits. -/
  limits : Limits
  /-- The counter of active connections at that moment. -/
  active : UInt64

/-- What was asked for and what took effect. -/
structure Docket where
  /-- The limits that the calls asked for, in the order of the calls. -/
  asked : List Limits := []
  /-- The limits that took effect, oldest first. -/
  enforced : List Enforced := []

namespace Docket

/-- Note an action that happens to the tunnel. -/
def note (docket : Docket) (t : Tunnel) : Action → Docket
  | .requestUpdate limits => { docket with asked := docket.asked ++ [limits] }
  | .takeUpdate =>
    { docket with
      enforced := docket.enforced ++
        (t.update.map fun u => ⟨u.call, u.limits, t.counters.active⟩).toList }
  | _ => docket

/-- The call of the number asked for the limits, and it is the one that waits for them, unless it
was given up. -/
def Matches (docket : Docket) (number : ℕ) (call : Option ℕ) (limits : Limits) : Prop :=
  docket.asked[number]? = some limits ∧ (call = none ∨ call = some number)

/-- The limits that took effect are those of the calls `numbers`. -/
structure Lawful (docket : Docket) (numbers : List ℕ) (t : Tunnel) : Prop where
  /-- Limits take effect in the order in which they were asked for. -/
  order : numbers.Pairwise (· < ·)
  /-- What takes effect is what the call asked for. -/
  enforced : List.Forall₂ (fun number x => docket.Matches number x.call x.limits) numbers
    docket.enforced
  /-- Each effect is reported, with the number of active connections at that moment. -/
  reported : t.events.filterMap Event.limitsUpdated? =
    docket.enforced.map fun x => (x.limits, x.active)
  /-- A call succeeds exactly if its limits took effect while it waited. -/
  granted : ∀ call, (call, none) ∈ t.answers ↔ ∃ x ∈ docket.enforced, x.call = some call
  /-- A call fails only because the tunnel is closed, and its limits never took effect. -/
  refused : ∀ call error, (call, some error) ∈ t.answers → error = .tunnelClosed ∧ call ∉ numbers
  /-- No call is answered twice. -/
  once : (t.answers.map (·.1)).Nodup
  /-- The limits in force are those that took effect last. -/
  current : t.limits = (docket.enforced.getLast?.map (·.limits)).getD t.plan.limits

/-- The docket is lawful, and the calls that wait come after those whose limits took effect. -/
structure Kept (docket : Docket) (numbers : List ℕ) (pending : List (ℕ × Update)) (t : Tunnel) :
    Prop where
  lawful : docket.Lawful numbers t
  calls : docket.asked.length = t.calls
  waiting : pending.map (·.2) = t.update.toList ++ t.requests
  fits : ∀ x ∈ pending, docket.Matches x.1 x.2.call x.2.limits
  order : (numbers ++ pending.map (·.1)).Pairwise (· < ·)
  numbers_lt : ∀ number ∈ numbers ++ pending.map (·.1), number < t.calls
  answers_lt : ∀ number ∈ t.answers.map (·.1), number < t.calls
  unanswered : ∀ x ∈ pending, x.1 ∉ t.answers.map (·.1)

end Docket

/-- The docket of a run. -/
def docket (t : Tunnel) (actions : Schedule Action) : Docket :=
  Schedule.record step Docket.note {} t actions

variable {t t' : Tunnel} {now : ℕ} {action : Action} {docket : Docket} {numbers : List ℕ}
  {pending : List (ℕ × Update)}

/-- Only new limits are reported as such. -/
theorem Turn.filterMap_limitsUpdated? {owner owner' : Owner} {phase phase' : Phase}
    {news : List Event} (h : Turn action owner phase news owner' phase')
    (haction : action ≠ .takeUpdate) : news.filterMap Event.limitsUpdated? = [] := by
  rw [List.filterMap_eq_nil_iff]
  cases h with
  | aside hnews =>
    intro e he
    have hdirection := hnews e he
    cases e <;> first | rfl | cases hdirection
  | takeNotice hcloses | stop hcloses =>
    intro e he
    obtain ⟨id, rfl⟩ := hcloses e he
    rfl
  | loseListener hcloses =>
    rw [List.forall_mem_cons, List.forall_mem_append]
    refine ⟨rfl, fun e he => ?_, by simp [Event.limitsUpdated?]⟩
    obtain ⟨id, rfl⟩ := hcloses e he
    rfl
  | takeUpdate => exact absurd rfl haction
  | _ => simp [Event.limitsUpdated?]

theorem Stepped.filterMap_limitsUpdated? (h : t.Stepped now action t')
    (haction : action ≠ .takeUpdate) :
    t'.events.filterMap Event.limitsUpdated? = t.events.filterMap Event.limitsUpdated? := by
  obtain ⟨news, hnews, hturn⟩ := h.turn
  rw [hnews, List.filterMap_append, hturn.filterMap_limitsUpdated? haction, List.append_nil]

/-! ## The desk of the user -/

namespace Docket

/-- What a call asked for does not change. -/
theorem Matches.ask {number : ℕ} {call : Option ℕ} {limits : Limits}
    (h : docket.Matches number call limits) (more : Limits) :
    Matches { docket with asked := docket.asked ++ [more] } number call limits := by
  obtain ⟨hlt, -⟩ := List.getElem?_eq_some_iff.1 h.1
  exact ⟨(List.getElem?_append_left hlt).trans h.1, h.2⟩

/-- The calls that still wait have the numbers of their requests. -/
theorem sublist_calls (h : ∀ x ∈ pending, docket.Matches x.1 x.2.call x.2.limits) :
    ((pending.map (·.2)).filterMap (·.call)).Sublist (pending.map (·.1)) := by
  induction pending with
  | nil => exact .slnil
  | cons x rest ih =>
    -- a request that was given up has no call any more, and is left out
    obtain ⟨⟨-, hcall⟩, hrest⟩ := List.forall_mem_cons.1 h
    rcases hcall with hnone | hsome
    · simpa [List.filterMap_cons, hnone] using (ih hrest).cons x.1
    · simpa [List.filterMap_cons, hsome] using ih hrest

theorem Lawful.ask (h : docket.Lawful numbers t) (more : Limits) :
    Lawful { docket with asked := docket.asked ++ [more] } numbers t where
  order := h.order
  enforced := h.enforced.imp fun _ _ hfits => hfits.ask more
  reported := h.reported
  granted := h.granted
  refused := h.refused
  once := h.once
  current := h.current

/-- The law is about nothing else than reports, answers and limits. -/
theorem Lawful.congr (h : docket.Lawful numbers t)
    (hevents : t'.events.filterMap Event.limitsUpdated? = t.events.filterMap Event.limitsUpdated?)
    (hanswers : t'.answers = t.answers) (hlimits : t'.limits = t.limits)
    (hplan : t'.plan = t.plan) : docket.Lawful numbers t' where
  order := h.order
  enforced := h.enforced
  reported := hevents.trans h.reported
  granted := by rw [hanswers]; exact h.granted
  refused := by rw [hanswers]; exact h.refused
  once := by rw [hanswers]; exact h.once
  current := by rw [hlimits, hplan]; exact h.current

/-- Calls that were not answered and whose limits did not take effect can be refused. -/
theorem Lawful.refuse (h : docket.Lawful numbers t) (refused : List ℕ) (hnodup : refused.Nodup)
    (hrefused : ∀ call ∈ refused, call ∉ numbers ∧ call ∉ t.answers.map (·.1))
    (hevents : t'.events.filterMap Event.limitsUpdated? = t.events.filterMap Event.limitsUpdated?)
    (hanswers : t'.answers =
      t.answers ++ refused.map fun call => (call, some .tunnelClosed))
    (hlimits : t'.limits = t.limits) (hplan : t'.plan = t.plan) : docket.Lawful numbers t' where
  order := h.order
  enforced := h.enforced
  reported := hevents.trans h.reported
  granted call := by
    rw [hanswers, ← h.granted call]
    simp
  refused call error hmem := by
    rw [hanswers] at hmem
    rcases List.mem_append.1 hmem with hmem | hmem
    · exact h.refused call error hmem
    · obtain ⟨call, hcall, heq⟩ := List.mem_map.1 hmem
      cases heq
      exact ⟨rfl, (hrefused call hcall).1⟩
  once := by
    rw [hanswers, List.map_append, List.map_map]
    have hcalls : refused.map ((·.1) ∘ fun call => (call, some TunnelError.tunnelClosed)) =
        refused := List.map_id _
    rw [hcalls]
    exact h.once.append hnodup fun call hmem hcall => (hrefused call hcall).2 hmem
  current := by rw [hlimits, hplan]; exact h.current

namespace Kept

/-- An action that is not about limits. -/
theorem congr (h : docket.Kept numbers pending t)
    (hevents : t'.events.filterMap Event.limitsUpdated? = t.events.filterMap Event.limitsUpdated?)
    (hanswers : t'.answers = t.answers) (hlimits : t'.limits = t.limits) (hplan : t'.plan = t.plan)
    (hcalls : t'.calls = t.calls)
    (hwaiting : t'.update.toList ++ t'.requests = t.update.toList ++ t.requests) :
    docket.Kept numbers pending t' where
  lawful := h.lawful.congr hevents hanswers hlimits hplan
  calls := h.calls.trans hcalls.symm
  waiting := h.waiting.trans hwaiting.symm
  fits := h.fits
  order := h.order
  numbers_lt := by rw [hcalls]; exact h.numbers_lt
  answers_lt := by rw [hanswers, hcalls]; exact h.answers_lt
  unanswered := by rw [hanswers]; exact h.unanswered

/-- A call joins those that wait. -/
theorem request (h : docket.Kept numbers pending t) (limits : Limits) :
    Kept { docket with asked := docket.asked ++ [limits] } numbers
      (pending ++ [(t.calls, ⟨some t.calls, limits⟩)])
      { t with calls := t.calls + 1, requests := t.requests ++ [⟨some t.calls, limits⟩] } where
  lawful := (h.lawful.ask limits).congr rfl rfl rfl rfl
  calls := by simp [h.calls]
  waiting := by simp [h.waiting]
  fits := by
    refine List.forall_mem_append.2 ⟨fun x hx => (h.fits x hx).ask limits, ?_⟩
    simp [Matches, ← h.calls]
  order := by
    rw [List.map_append, ← List.append_assoc, List.pairwise_append]
    refine ⟨h.order, List.pairwise_singleton .., fun number hnumber => ?_⟩
    simpa using h.numbers_lt number hnumber
  numbers_lt := by
    rw [List.map_append, ← List.append_assoc]
    refine List.forall_mem_append.2 ⟨fun number hnumber => ?_, by simp⟩
    exact (h.numbers_lt number hnumber).trans t.calls.lt_succ_self
  answers_lt number hnumber := (h.answers_lt number hnumber).trans t.calls.lt_succ_self
  unanswered := by
    refine List.forall_mem_append.2 ⟨h.unanswered, ?_⟩
    simp only [List.mem_singleton, forall_eq]
    exact fun hcalls => (h.answers_lt _ hcalls).false

/-- A call after the end is refused. -/
theorem refuse (h : docket.Kept numbers pending t) (limits : Limits) :
    Kept { docket with asked := docket.asked ++ [limits] } numbers pending
      { t with
        calls := t.calls + 1
        answers := t.answers ++ [(t.calls, some .tunnelClosed)] } where
  lawful := by
    refine (h.lawful.ask limits).refuse [t.calls] ?_ ?_ rfl rfl rfl rfl
    · exact List.nodup_singleton _
    · simp only [List.mem_singleton, forall_eq]
      refine ⟨fun hmem => ?_, fun hmem => (h.answers_lt _ hmem).false⟩
      exact (h.numbers_lt _ (List.mem_append_left _ hmem)).false
  calls := by simp [h.calls]
  waiting := h.waiting
  fits x hx := (h.fits x hx).ask limits
  order := h.order
  numbers_lt number hnumber := (h.numbers_lt number hnumber).trans t.calls.lt_succ_self
  answers_lt := by
    rw [List.map_append]
    refine List.forall_mem_append.2 ⟨fun number hnumber => ?_, by simp⟩
    exact (h.answers_lt number hnumber).trans t.calls.lt_succ_self
  unanswered x hx := by
    -- the new call has a greater number than all that wait
    have hlt := h.numbers_lt x.1 (List.mem_append_right _ (List.mem_map_of_mem hx))
    simpa [hlt.ne] using h.unanswered x hx

/-- Calls that are given up leave those that wait, or wait no more. -/
theorem giveUp (h : docket.Kept numbers pending t) (call : ℕ) :
    ∃ left, docket.Kept numbers left (t.giveUp call) := by
  -- a request in the slot is kept without its call, and one in the queue is taken out
  obtain ⟨slot, queue, rfl, hslot, hqueue⟩ := List.map_eq_append_iff.1 h.waiting
  let forget (u : Update) : Update := if u.call = some call then { u with call := none } else u
  let left := slot.map (fun x => (x.1, forget x.2)) ++ queue.filter (·.2.call ≠ some call)
  -- those that are left have the same numbers as before, and less to wait for
  have hkeys : (left.map (·.1)).Sublist ((slot ++ queue).map (·.1)) := by
    simp only [left, List.map_append, List.map_map]
    exact (List.Sublist.refl _).append (List.filter_sublist.map _)
  have hleft : ∀ x ∈ left, ∃ y ∈ slot ++ queue, x.1 = y.1 ∧ x.2.limits = y.2.limits ∧
      (x.2.call = none ∨ x.2.call = y.2.call) := by
    refine List.forall_mem_append.2 ⟨List.forall_mem_map.2 fun x hx => ?_, fun x hx => ?_⟩
    · refine ⟨x, List.mem_append_left _ hx, rfl, ?_⟩
      simp only [forget]
      split
      · exact ⟨rfl, .inl rfl⟩
      · exact ⟨rfl, .inr rfl⟩
    · exact ⟨x, List.mem_append_right _ (List.mem_of_mem_filter hx), rfl, rfl, .inr rfl⟩
  refine ⟨left, h.lawful.congr rfl rfl rfl rfl, h.calls, ?_, ?_, ?_, ?_, h.answers_lt, ?_⟩
  · simp only [left, Tunnel.giveUp, List.map_append, List.map_map, ← hqueue, List.filter_map]
    rw [Option.toList_map, ← hslot, List.map_map]
    rfl
  · intro x hx
    obtain ⟨y, hy, hnumber, hlimits, hcall⟩ := hleft x hx
    obtain ⟨hasked, hy⟩ := h.fits y hy
    rw [Matches, hnumber, hlimits]
    refine ⟨hasked, ?_⟩
    rcases hcall with hcall | hcall
    · exact .inl hcall
    · rwa [hcall]
  · exact h.order.sublist ((List.Sublist.refl _).append hkeys)
  · exact fun number hnumber =>
      h.numbers_lt number (((List.Sublist.refl _).append hkeys).subset hnumber)
  · intro x hx
    obtain ⟨y, hy, hnumber, -⟩ := hleft x hx
    rw [hnumber]
    exact h.unanswered y hy

/-- The oldest of the calls that wait takes effect. -/
theorem apply (h : docket.Kept numbers pending t) {u : Update} (hupdate : t.update = some u)
    (hbooks : t.Books) (now : ℕ) :
    ∃ numbers left, Kept
      { docket with enforced := docket.enforced ++ [⟨u.call, u.limits, t.counters.active⟩] }
      numbers left (t.apply now u) := by
  obtain ⟨f, -, heq⟩ := t.apply_eq now u
  have hwaiting := h.waiting
  rw [hupdate, Option.toList_some, List.singleton_append, List.map_eq_cons_iff] at hwaiting
  obtain ⟨⟨number, u⟩, left, rfl, rfl, hleft⟩ := hwaiting
  obtain ⟨hfits, hrest⟩ := List.forall_mem_cons.1 h.fits
  obtain ⟨hnew, hunanswered⟩ := List.forall_mem_cons.1 h.unanswered
  simp only at hfits hnew
  have horder := h.order
  have hlt := h.numbers_lt
  rw [List.map_cons, List.append_cons] at horder hlt
  -- no other call is answered than this one
  have hcall : u.call.toList.Sublist [number] := by
    rcases hfits.2 with hnone | hsome
    · simp [hnone]
    · simp [hsome]
  have hkeys :
      (t.answers ++ (u.call.map fun call => (call, (none : Option TunnelError))).toList).map
        (·.1) = t.answers.map (·.1) ++ u.call.toList := by
    rw [List.map_append, ← Option.toList_map, Option.map_map]
    simp [Function.comp_def]
  have hanswers := (List.Sublist.refl (t.answers.map (·.1))).append hcall
  rw [← hkeys] at hanswers
  rw [heq]
  refine ⟨numbers ++ [number], left, ⟨?_, ?_, ?_, ?_, ?_, ?_, ?_⟩, h.calls, hleft, hrest, horder,
    hlt, ?_, ?_⟩
  · exact (List.pairwise_append.1 horder).1
  · exact List.rel_append h.lawful.enforced (.cons hfits .nil)
  · -- the event tells the number of active connections, which the counters hold too
    simp only [events, List.filterMap_append, List.map_append, List.map_cons, List.map_nil]
    rw [← h.lawful.reported, counters, hbooks.relay.active]
    rfl
  · intro call
    simp [h.lawful.granted, or_and_right, exists_or]
  · intro call error hmem
    have hold : (call, some error) ∈ t.answers := by simpa using hmem
    obtain ⟨hclosed, hother⟩ := h.lawful.refused call error hold
    refine ⟨hclosed, ?_⟩
    rw [List.mem_append, List.mem_singleton, not_or]
    refine ⟨hother, ?_⟩
    rintro rfl
    exact hnew (List.mem_map_of_mem hold)
  · exact (h.lawful.once.append (List.nodup_singleton _) (by simpa using hnew)).sublist hanswers
  · simp
  · intro call hmem
    rcases List.mem_append.1 (hanswers.subset hmem) with hold | hnumber
    · exact h.answers_lt call hold
    · rw [List.mem_singleton.1 hnumber]
      exact hlt number (by simp)
  · intro x hx hmem
    rcases List.mem_append.1 (hanswers.subset hmem) with hold | hnumber
    · exact hunanswered x hx hold
    · -- the calls that still wait have greater numbers
      have hgreater := (List.pairwise_append.1 horder).2.2 number (by simp) x.1
        (List.mem_map_of_mem hx)
      exact hgreater.ne' (List.mem_singleton.1 hnumber)

/-- At the end all calls that wait are refused. -/
theorem stop (h : docket.Kept numbers pending t)
    (hevents : t'.events.filterMap Event.limitsUpdated? = t.events.filterMap Event.limitsUpdated?)
    (hanswers : t'.answers = t.answers ++ refusals (t.update.toList ++ t.requests))
    (hlimits : t'.limits = t.limits) (hplan : t'.plan = t.plan) (hcalls : t'.calls = t.calls)
    (hwaiting : t'.update.toList ++ t'.requests = []) : docket.Kept numbers [] t' := by
  rw [← h.waiting] at hanswers
  -- those that were not given up are refused, by their own numbers
  let refused := (pending.map (·.2)).filterMap (·.call)
  have hsublist : refused.Sublist (pending.map (·.1)) := sublist_calls h.fits
  have hkeys : t'.answers =
      t.answers ++ refused.map fun call => (call, some TunnelError.tunnelClosed) := by
    rw [hanswers, refusals, List.map_filterMap]
  obtain ⟨hnumbers, hpending, hless⟩ := List.pairwise_append.1 h.order
  refine ⟨h.lawful.refuse refused ?_ (fun call hcall => ⟨?_, ?_⟩) hevents hkeys hlimits hplan,
    h.calls.trans hcalls.symm, hwaiting.symm, by simp, by simpa using hnumbers, ?_, ?_, by simp⟩
  · exact (hpending.imp Nat.ne_of_lt).sublist hsublist
  · -- what took effect has smaller numbers than all that waits
    exact fun hmem => (hless call hmem call (hsublist.subset hcall)).false
  · obtain ⟨x, hx, rfl⟩ := List.mem_map.1 (hsublist.subset hcall)
    exact h.unanswered x hx
  · rw [hcalls]
    exact fun number hnumber =>
      h.numbers_lt number (List.mem_append_left _ (by simpa using hnumber))
  · rw [hkeys, hcalls, List.map_append, List.map_map]
    refine List.forall_mem_append.2 ⟨h.answers_lt, List.forall_mem_map.2 fun call hcall => ?_⟩
    exact h.numbers_lt call (List.mem_append_right _ (hsublist.subset hcall))

/-- Every action keeps the docket. -/
theorem step (h : docket.Kept numbers pending t) (hbooks : t.Books)
    (hs : t.Stepped now action t') :
    ∃ numbers pending, (docket.note t action).Kept numbers pending t' := by
  have hevents := hs.filterMap_limitsUpdated?
  cases hs with
  | refuseUpdate hheld howner => exact ⟨_, _, h.refuse _⟩
  | requestUpdate hheld howner => exact ⟨_, _, h.request _⟩
  | giveUp =>
    obtain ⟨left, hleft⟩ := h.giveUp _
    exact ⟨numbers, left, hleft⟩
  | handUpdate hslot hrequests =>
    refine ⟨numbers, pending, h.congr (hevents nofun) rfl rfl rfl rfl ?_⟩
    rw [hslot, hrequests]
    rfl
  | takeUpdate howner hupdate =>
    rw [note, hupdate]
    exact h.apply hupdate hbooks now
  | stop howner => exact ⟨numbers, [], h.stop (hevents nofun) rfl rfl rfl rfl rfl⟩
  | _ => exact ⟨numbers, pending, h.congr (hevents nofun) rfl rfl rfl rfl rfl⟩

end Kept

/-- Before the first call there is nothing on the docket. -/
theorem kept_start (plan : TunnelPlan) (now : ℕ) (listener : Listener) :
    Kept {} [] [] (start plan now listener) where
  lawful := ⟨.nil, .nil, rfl, by simp [start], by simp [start], .nil, rfl⟩
  calls := rfl
  waiting := rfl
  fits := by simp
  order := .nil
  numbers_lt := by simp
  answers_lt := by simp [start]
  unanswered := by simp

end Docket

/-! ## Limits in force -/

theorem rated_start (plan : TunnelPlan) (now : ℕ) (listener : Listener) :
    (start plan now listener).relay.Rated plan.limits :=
  ⟨rfl, rfl, by simp [start]⟩

/-- New limits are in force everywhere at once. -/
theorem rated_apply (t : Tunnel) (now : ℕ) (u : Update) :
    (t.apply now u).relay.Rated (t.apply now u).limits := by
  -- the tunnel's own limiter, the rate of later connections, and the limiters of open ones
  obtain ⟨f, hf, heq⟩ := t.apply_eq now u
  rw [heq]
  refine ⟨Limiter.rate_setRate .., rfl, List.forall_mem_map.2 fun c hc hopen => ?_⟩
  obtain ⟨l, hl, hrate⟩ := hf c
  rw [hl] at hopen ⊢
  exact hrate (Relay.mem_active.2 ⟨c, hc, rfl, hopen⟩)

/-- The limits of the user are in force everywhere after every action. -/
theorem Stepped.rated (hs : t.Stepped now action t') (hbooks : t.Books)
    (h : t.relay.Rated t.limits) : t'.relay.Rated t'.limits := by
  cases hs with
  | openConnection howner => exact h.openConnection now _
  | takeNotice howner hnotice =>
    obtain ⟨rest, -, rfl⟩ := Relay.takeNotice_eq_some.1 hnotice
    have htake : (t.relay.withNotices rest).Rated t.limits := h.congr rfl rfl rfl
    exact htake.close _ _
  | @loseListener fault howner harrival =>
    have hemit : (t.relay.emit (.acceptFailed fault.text)).Rated t.limits := h.congr rfl rfl rfl
    exact (hemit.closeAll .listenerLost).congr rfl rfl rfl
  | takeUpdate howner hupdate => exact t.rated_apply now _
  | stop howner => exact (h.closeAll .shutdown).congr rfl rfl rfl
  | work hwork => exact h.worked hbooks.relay.nodup hwork
  | _ => exact h.congr rfl rfl rfl

/-- New limits close no connection. -/
theorem active_of_takeUpdate (h : t.step now .takeUpdate = some t') :
    t'.relay.active = t.relay.active ∧
      ∃ limits count, t'.events = t.events ++ [.limitsUpdated limits count] := by
  -- new limits change limiters of connections, and nothing else of them
  cases stepped_of_step h with
  | @takeUpdate u howner hupdate =>
    refine ⟨?_, u.limits, t.relay.active.length, t.events_apply now u⟩
    obtain ⟨f, hf, heq⟩ := t.apply_eq now u
    rw [heq]
    exact t.relay.active_map_limiter fun c => (hf c).imp fun _ h => h.1

/-- At any time of any run the limits that the user sees are in force everywhere; the limits that
took effect are, in order, those of some calls, which alone succeed; and new limits close no
connection. -/
theorem limits_of_run {plan : TunnelPlan} {listener : Listener} {first : ℕ}
    {actions : List (ℕ × Action)} (hrun : (start plan first listener).run actions = some t) :
    t.relay.Rated t.limits ∧
      (∃ numbers, ((start plan first listener).docket actions).Lawful numbers t) ∧
      ∀ now t', t.step now .takeUpdate = some t' →
        t'.relay.active = t.relay.active ∧
          ∃ limits count, t'.events = t.events ++ [.limitsUpdated limits count] := by
  have hstart := books_start plan first listener
  have hrated : t.Books ∧ t.relay.Rated t.limits := by
    refine run_keeps (motive := fun t => t.Books ∧ t.relay.Rated t.limits)
      (fun t now action t' _ h hs => ?_) ⟨hstart, rated_start plan first listener⟩ hrun
    exact ⟨h.1.step hs, hs.rated h.1 h.2⟩
  have hdocket : t.Books ∧ ∃ numbers pending,
      ((start plan first listener).docket actions).Kept numbers pending t := by
    rw [run_eq] at hrun
    refine Schedule.record_keeps
      (fun (docket : Docket) t => t.Books ∧ ∃ numbers pending, docket.Kept numbers pending t)
      (fun docket t now action t' h hs => ?_)
      ⟨hstart, [], [], Docket.kept_start plan first listener⟩ hrun
    obtain ⟨hbooks, numbers, pending, hkept⟩ := h
    have hstepped := stepped_of_step hs
    exact ⟨hbooks.step hstepped, hkept.step hbooks hstepped⟩
  obtain ⟨-, numbers, pending, hkept⟩ := hdocket
  exact ⟨hrated.2, ⟨numbers, hkept.lawful⟩, fun _ _ => active_of_takeUpdate⟩

/-- Three calls ask for new limits. The first one succeeds, the second one is given up when its
request is already handed over, and the third one is still waiting when the tunnel ends. -/
def threeCalls : List (ℕ × Action) :=
  [(0, .openFirst), (0, .arrive (.ok ⟨.v4 10 0 0 1, 4000, 0⟩)), (0, .handArrival),
    (0, .takeArrival), (1000000, .endDial (.ok ())),
    (2000000, .requestUpdate ⟨2000, 900⟩), (2000000, .handUpdate),
    (2000000, .requestUpdate ⟨3000, 700⟩), (2000000, .takeUpdate), (3000000, .handUpdate),
    (3000000, .giveUp 1), (3000000, .requestUpdate ⟨10, 10⟩), (4000000, .takeUpdate),
    (5000000, .shutDown), (5000000, .heed), (5000000, .stop)]

theorem limits_of_threeCalls :
    ∃ t, (start ⟨"web", "in", "out", ⟨1000, 500⟩, .ofMillis 5, .ofMillis 3⟩ 0
          (.stable ⟨.v4 127 0 0 1, 80, 0⟩)).run threeCalls = some t ∧
      t.relay.Rated ⟨3000, 700⟩ ∧ t.answers = [(0, none), (2, some .tunnelClosed)] ∧
      ∃ numbers, ((start ⟨"web", "in", "out", ⟨1000, 500⟩, .ofMillis 5, .ofMillis 3⟩ 0
          (.stable ⟨.v4 127 0 0 1, 80, 0⟩)).docket threeCalls).Lawful numbers t := by
  have hrun : (start ⟨"web", "in", "out", ⟨1000, 500⟩, .ofMillis 5, .ofMillis 3⟩ 0
      (.stable ⟨.v4 127 0 0 1, 80, 0⟩)).run threeCalls = some _ := rfl
  obtain ⟨hrated, hlawful, -⟩ := limits_of_run hrun
  exact ⟨_, hrun, hrated, rfl, hlawful⟩

end Tunnel

end Sluice
