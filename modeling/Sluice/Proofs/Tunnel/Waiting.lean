import Sluice.Proofs.Timer
import Sluice.Proofs.Tunnel.Chronicle
import Sluice.Proofs.Tunnel.Limits
import Sluice.Tunnel.Initiative

/-!
# Waiting to listen again

An owner without a listener waits before it attempts to listen again. The user can ask for new
limits meanwhile, give calls up, and ask for the end.

* `Tunnel.IsPrompt t first actions last`: time passes only while the owner and the user have nothing
  to do by themselves;
* `Tunnel.diary t since actions`: what is asked for during a wait, and what takes effect;
* `Tunnel.Waits deadline begun now diary t`: the deadline stands, and whatever was asked for before
  took effect at once. `Tunnel.Waits.step` and `Tunnel.Waits.pause` say that every action and every
  pause keep it;
* `Tunnel.waits_of_step`: a wait begins so in every run.
-/

namespace Sluice.Tunnel

/-! ## Time passes -/

/-- Neither the owner nor the user's side of the tunnel has anything to do by itself. -/
def IsIdle (t : Tunnel) (now : ℕ) : Prop :=
  t.ownerInitiative? now = none ∧ t.userInitiative? = none

/-- The tunnel is idle from one instant up to another one. -/
def MayPause (t : Tunnel) (now later : ℕ) : Prop := ∀ m, now ≤ m → m < later → t.IsIdle m

/-- The actions happen promptly: time passes only while the tunnel is idle. -/
def IsPrompt (t : Tunnel) (first : ℕ) (actions : Schedule Action) (last : ℕ) : Prop :=
  Schedule.Pauses step MayPause t first actions last

/-- The action ends a wait to listen again. -/
def Action.endsWait : Action → Bool
  | .wake | .heed => true
  | _ => false

/-- The user asks for the end. -/
def Action.asksEnd : Action → Bool
  | .shutDown | .drop => true
  | _ => false

/-! ## The diary of a wait -/

/-- What is put down about a wait. -/
inductive Entry where
  /-- New limits were asked for. -/
  | asked (u : Update)
  /-- The call was given up. -/
  | gaveUp (call : ℕ)
  /-- Limits took effect. -/
  | enforced (x : Enforced)
  /-- The end was asked for. -/
  | ended

/-- What was put down so far, with the instants. -/
abbrev Diary := List (ℕ × Entry)

namespace Diary

/-- The limits that were asked for, with the instants. -/
def asked (diary : Diary) : List (ℕ × Update) :=
  diary.filterMap fun
    | (now, .asked u) => some (now, u)
    | _ => none

/-- The limits that took effect, with the instants. -/
def enforced (diary : Diary) : List (ℕ × Enforced) :=
  diary.filterMap fun
    | (now, .enforced x) => some (now, x)
    | _ => none

end Diary

/-- What is put down about an action. -/
def entries (t : Tunnel) (now : ℕ) : Action → Diary
  | .requestUpdate limits => [(now, .asked ⟨some t.calls, limits⟩)]
  | .giveUp call => [(now, .gaveUp call)]
  | .takeUpdate =>
    (t.update.map fun u => (now, .enforced ⟨u.call, u.limits, t.counters.active⟩)).toList
  | .shutDown | .drop => [(now, .ended)]
  | _ => []

/-- The requests that are not answered yet, oldest first. -/
def desk (t : Tunnel) : List Update := t.update.toList ++ t.requests

/-- What is put down when the wait begins: what was asked for before counts as asked for now. -/
def opening (t : Tunnel) (since : ℕ) : Diary :=
  t.desk.map (fun u => (since, .asked u)) ++ if t.isShut then [(since, .ended)] else []

/-- The diary of a wait that begins at `since`. -/
def diary (t : Tunnel) (since : ℕ) (actions : Schedule Action) : Diary :=
  t.opening since ++ Schedule.journal step entries t actions

/-- The owner has been waiting until `now`, and the diary tells what happened meanwhile. The wait
began with the tunnel `begun`. -/
structure Waits (deadline : ℕ) (begun : Tunnel) (now : ℕ) (diary : Diary) (t : Tunnel) : Prop where
  /-- The deadline stands. -/
  owner : t.owner = .retrying deadline
  /-- It is not over yet. -/
  le : now ≤ deadline
  /-- No connection is active. -/
  active : t.relay.active = []
  /-- The tunnel is shut if its end was asked for, -/
  shut : t.isShut ↔ ∃ s, (s, .ended) ∈ diary
  /-- which can only have been now. -/
  ended : ∀ s, (s, .ended) ∈ diary → s = now
  /-- Limits took effect in the order in which they were asked for, and at once. Those that were
  asked for now may still wait. -/
  order : ((diary.enforced.map fun x => (x.1, x.2.limits)) ++
    t.desk.map fun u => (now, u.limits)).Sublist (diary.asked.map fun x => (x.1, x.2.limits))
  /-- Every call that was not given up at once was answered at once, unless it was made now. -/
  settled : ∀ x ∈ diary.asked, (x.1, ⟨x.2.call, x.2.limits, 0⟩) ∈ diary.enforced ∨
    (x.1 = now ∧ x.2 ∈ t.desk) ∨ ∃ call, x.2.call = some call ∧ (x.1, .gaveUp call) ∈ diary
  /-- No connection was active. -/
  inactive : ∀ x ∈ diary.enforced, x.2.active = 0
  /-- The limits that took effect last are in force everywhere. -/
  current : t.limits = (diary.enforced.getLast?.map (·.2.limits)).getD begun.limits
  rated : t.relay.Rated t.limits
  /-- Each effect was answered if the call was not given up, -/
  answers : t.answers = begun.answers ++ diary.enforced.filterMap fun x => x.2.call.map (·, none)
  /-- and reported. -/
  reported : t.events.filterMap Event.limitsUpdated? =
    begun.events.filterMap Event.limitsUpdated? ++
      diary.enforced.map fun x => (x.2.limits, x.2.active)

variable {t t' begun : Tunnel} {now later deadline since : ℕ} {action : Action} {diary : Diary}

/-! ## The beginning of a wait -/

/-- An owner that waits for a listener has no active connection. -/
theorem Stepped.active_of_isWaiting (hs : t.Stepped now action t') (hbooks : t.Books)
    (h : t.owner.isWaiting → t.relay.active = []) (howner : t'.owner.isWaiting) :
    t'.relay.active = [] := by
  cases hs with
  | @loseListener fault hserving =>
    have hemit : (t.emit (.acceptFailed fault.text)).Books :=
      .of_relay (hbooks.relay.emit_of_isNeutral rfl) (by simp [emit, hserving])
    exact (hemit.clear .listenerLost).2
  | failBind hbinding => exact h (by simp [hbinding, Owner.isWaiting])
  | wake hretrying => exact h (by simp [hretrying, Owner.isWaiting])
  | takeUpdate => exact (t.active_apply now _).trans (h howner)
  | takeNotice hserving => simp [hserving, Owner.isWaiting] at howner
  | work hwork => exact hwork.active_eq.trans (h howner)
  | refuseUpdate | requestUpdate | giveUp | shutDown | drop | finish | handUpdate | arrive | discard
  | handArrival | retire => exact h howner
  | _ => cases howner

/-- The owner begins to wait when a listener is lost or an attempt to listen fails. -/
theorem Stepped.deadline_eq (hs : t.Stepped since action t')
    (howner : ∀ deadline, t.owner ≠ .retrying deadline) (howner' : t'.owner = .retrying deadline) :
    deadline = Timer.deadline since t.plan.retryInterval := by
  cases hs with
  | loseListener | failBind => exact (Owner.retrying.inj howner').symm
  | refuseUpdate | requestUpdate | giveUp | shutDown | drop | finish | handUpdate | arrive | discard
  | handArrival | retire | takeUpdate | takeNotice | work => exact absurd howner' (howner deadline)
  | _ => cases howner'

/-! ## Pauses -/

/-- An owner that waits lets time pass if nothing is asked and the time is not over. -/
theorem isIdle_iff (howner : t.owner = .retrying deadline) :
    t.IsIdle now ↔ t.isShut = false ∧ t.desk = [] ∧ now < deadline := by
  rw [IsIdle, ownerInitiative?, userInitiative?, howner, desk]
  constructor
  · rintro ⟨howns, huser⟩
    have hheld : t.isShut = false := by
      by_contra hshut
      simp [Bool.of_not_eq_false hshut] at howns
    have hslot : t.update = none := by
      by_contra hsome
      simp [hheld, Option.ne_none_iff_isSome.1 hsome] at howns
    have hrequests : t.requests = [] := by
      by_contra hne
      simp [hslot, hne] at huser
    have hlt : now < deadline := by simpa [hheld, hslot] using howns
    exact ⟨hheld, by simp [hslot, hrequests], hlt⟩
  · rintro ⟨hheld, hdesk, hlt⟩
    obtain ⟨hslot, hrequests⟩ := List.append_eq_nil_iff.1 hdesk
    have hhandle : t.handle = .held := by simpa [isShut] using hheld
    rw [Option.toList_eq_nil_iff] at hslot
    simp [hheld, hhandle, hslot, hrequests, hlt]

/-- Time passes in a wait only while nobody waits for anything but the deadline. -/
theorem MayPause.of_lt (h : t.MayPause now later) (howner : t.owner = .retrying deadline)
    (hlt : now < later) : t.isShut = false ∧ t.desk = [] ∧ later ≤ deadline := by
  obtain ⟨hheld, hdesk, -⟩ := (isIdle_iff howner).1 (h now le_rfl hlt)
  obtain ⟨-, -, hlast⟩ := (isIdle_iff howner).1 (h (later - 1) (by omega) (by omega))
  exact ⟨hheld, hdesk, by omega⟩

theorem mayPause_of_desk (howner : t.owner = .retrying deadline) (hheld : t.isShut = false)
    (hdesk : t.desk = []) (hle : later ≤ deadline) : t.MayPause now later :=
  fun _ _ hlt => (isIdle_iff howner).2 ⟨hheld, hdesk, hlt.trans_le hle⟩

/-- No time passes between two actions at one instant. -/
theorem mayPause_self (t : Tunnel) (now : ℕ) : t.MayPause now now :=
  fun _ hle hlt => absurd hlt (Nat.not_lt.2 hle)

/-- An attempt to listen takes its time. -/
theorem mayPause_of_binding (howner : t.owner = .binding) (huser : t.userInitiative? = none) :
    t.MayPause now later :=
  fun _ _ _ => ⟨by rw [ownerInitiative?, howner], huser⟩

theorem IsPrompt.cons {actions : Schedule Action} {first last : ℕ} (hpause : t.MayPause first now)
    (hstep : t.step now action = some t') (h : t'.IsPrompt now actions last) :
    t.IsPrompt first ((now, action) :: actions) last := by
  refine ⟨hpause, ?_⟩
  rw [hstep]
  exact h

/-! ## The wait -/

namespace Diary

variable {diary' : Diary}

@[simp]
theorem asked_append : (diary ++ diary').asked = diary.asked ++ diary'.asked :=
  List.filterMap_append

@[simp]
theorem enforced_append : (diary ++ diary').enforced = diary.enforced ++ diary'.enforced :=
  List.filterMap_append

end Diary

@[simp]
theorem asked_opening : (t.opening since).asked = t.desk.map (since, ·) := by
  rw [opening, Diary.asked_append]
  split <;> simp [Diary.asked, List.filterMap_map]

@[simp]
theorem enforced_opening : (t.opening since).enforced = [] := by
  rw [opening, Diary.enforced_append]
  split <;> simp [Diary.enforced]

theorem ended_mem_opening {s : ℕ} : (s, .ended) ∈ t.opening since ↔ t.isShut ∧ s = since := by
  cases hshut : t.isShut <;> simp [opening, hshut]

/-- Giving a call up leaves the order of the limits that are asked for. -/
theorem desk_giveUp (t : Tunnel) (call now : ℕ) :
    ((t.giveUp call).desk.map fun u => (now, u.limits)).Sublist
      (t.desk.map fun u => (now, u.limits)) := by
  have hslot : (t.giveUp call).update.map (fun u => (now, u.limits)) =
      t.update.map fun u => (now, u.limits) := by
    rw [Tunnel.giveUp, Option.map_map]
    refine Option.map_congr fun u _ => ?_
    simp only [Function.comp_apply]
    split <;> rfl
  rw [desk, desk, List.map_append, List.map_append, ← Option.toList_map, ← Option.toList_map, hslot]
  exact (List.Sublist.refl _).append (List.filter_sublist.map _)

/-- Giving a call up leaves all others. -/
theorem mem_desk_giveUp {u : Update} {call : ℕ} (hu : u ∈ t.desk) (hcall : u.call ≠ some call) :
    u ∈ (t.giveUp call).desk := by
  rw [desk, List.mem_append] at hu ⊢
  refine hu.imp (fun hslot => ?_) fun hqueue => List.mem_filter.2 ⟨hqueue, by simpa using hcall⟩
  rw [Option.mem_toList] at hslot ⊢
  exact Option.mem_map.2 ⟨u, hslot, if_neg hcall⟩

namespace Waits

/-- A wait begins with what was asked before. -/
theorem of_opening (howner : t.owner = .retrying deadline) (hle : since ≤ deadline)
    (hactive : t.relay.active = []) (hrated : t.relay.Rated t.limits) :
    Waits deadline t since (t.opening since) t where
  owner := howner
  le := hle
  active := hactive
  shut := by simp [ended_mem_opening]
  ended s hs := (ended_mem_opening.1 hs).2
  order := by simp [Function.comp_def]
  settled x hx := by
    rw [asked_opening, List.mem_map] at hx
    obtain ⟨u, hu, rfl⟩ := hx
    exact .inr (.inl ⟨rfl, hu⟩)
  inactive := by simp
  current := by simp
  rated := hrated
  answers := by simp
  reported := by simp

/-- A wait goes on while time passes. -/
theorem pause (h : Waits deadline begun now diary t) (hle : now ≤ later)
    (hpause : t.MayPause now later) : Waits deadline begun later diary t := by
  obtain rfl | hlt := hle.eq_or_lt
  · exact h
  obtain ⟨hheld, hdesk, hlater⟩ := hpause.of_lt h.owner hlt
  have hnone : ∀ s, (s, .ended) ∉ diary := fun s hs => by
    have hshut := h.shut.2 ⟨s, hs⟩
    rw [hheld] at hshut
    cases hshut
  refine { h with
    le := hlater
    ended := fun s hs => absurd hs (hnone s)
    order := ?_
    settled := ?_ }
  · simpa [hdesk] using h.order
  · intro x hx
    simpa [hdesk] using h.settled x hx

/-- A wait goes on with an action by which no limits take effect. What it leaves on the desk was
there before or is asked for now, and what it takes from there is given up. -/
theorem extend {news : Diary} (h : Waits deadline begun now diary t) (howner : t'.owner = t.owner)
    (hactive : t'.relay.active = t.relay.active) (hlimits : t'.limits = t.limits)
    (hrated : t'.relay.Rated t'.limits) (hanswers : t'.answers = t.answers)
    (hreported : t'.events.filterMap Event.limitsUpdated? =
      t.events.filterMap Event.limitsUpdated?)
    (henforced : news.enforced = [])
    (hshut : t'.isShut ↔ t.isShut ∨ ∃ s, (s, .ended) ∈ news)
    (hended : ∀ s, (s, .ended) ∈ news → s = now)
    (horder : (t'.desk.map fun u => (now, u.limits)).Sublist
      ((t.desk.map fun u => (now, u.limits)) ++ news.asked.map fun x => (x.1, x.2.limits)))
    (hdesk : ∀ u ∈ t.desk, u ∈ t'.desk ∨ ∃ call, u.call = some call ∧ (now, .gaveUp call) ∈ news)
    (hasked : ∀ x ∈ news.asked, x.1 = now ∧ x.2 ∈ t'.desk) :
    Waits deadline begun now (diary ++ news) t' := by
  have hsame : (diary ++ news).enforced = diary.enforced := by
    rw [Diary.enforced_append, henforced, List.append_nil]
  refine ⟨howner.trans h.owner, h.le, hactive.trans h.active, ?shut, ?ended, ?order, ?settled,
    hsame ▸ h.inactive, hsame ▸ hlimits.trans h.current, hrated, hsame ▸ hanswers.trans h.answers,
    hsame ▸ hreported.trans h.reported⟩
  case shut =>
    rw [hshut, h.shut]
    simp [exists_or]
  case ended => exact fun s hs => (List.mem_append.1 hs).elim (h.ended s) (hended s)
  case order =>
    rw [hsame, Diary.asked_append, List.map_append]
    refine ((List.Sublist.refl _).append horder).trans ?_
    rw [← List.append_assoc]
    exact h.order.append (.refl _)
  case settled =>
    rw [hsame, Diary.asked_append]
    refine List.forall_mem_append.2 ⟨fun x hx => ?_, fun x hx => .inr (.inl (hasked x hx))⟩
    obtain hdone | ⟨hnow, hmem⟩ | ⟨call, hcall, hgave⟩ := h.settled x hx
    · exact .inl hdone
    · obtain hleft | ⟨call, hcall, hgave⟩ := hdesk x.2 hmem
      · exact .inr (.inl ⟨hnow, hleft⟩)
      · exact .inr (.inr ⟨call, hcall, List.mem_append_right _ (hnow ▸ hgave)⟩)
    · exact .inr (.inr ⟨call, hcall, List.mem_append_left _ hgave⟩)

/-- A wait goes on with an action that is not about limits or the end. -/
theorem congr (h : Waits deadline begun now diary t) (howner : t'.owner = t.owner)
    (hactive : t'.relay.active = t.relay.active) (hhandle : t'.handle = t.handle)
    (hdesk : t'.desk = t.desk) (hlimits : t'.limits = t.limits) (hrated : t'.relay.Rated t'.limits)
    (hanswers : t'.answers = t.answers)
    (hreported : t'.events.filterMap Event.limitsUpdated? =
      t.events.filterMap Event.limitsUpdated?) : Waits deadline begun now (diary ++ []) t' :=
  h.extend howner hactive hlimits hrated hanswers hreported rfl (by simp [isShut, hhandle])
    (by simp) (by simp [hdesk, Diary.asked]) (fun _ hu => .inl (hdesk ▸ hu)) (by simp [Diary.asked])

/-- New limits are asked for. -/
theorem request (h : Waits deadline begun now diary t) (limits : Limits) :
    Waits deadline begun now (diary ++ [(now, .asked ⟨some t.calls, limits⟩)])
      { t with calls := t.calls + 1, requests := t.requests ++ [⟨some t.calls, limits⟩] } := by
  refine h.extend rfl rfl rfl h.rated rfl rfl rfl (by simp [isShut]) (by simp) ?_
    (fun u hu => .inl ?_) ?_
  · simp [desk, Diary.asked]
  · rw [desk, ← List.append_assoc]
    exact List.mem_append_left _ hu
  · simp [desk, Diary.asked]

/-- A call is given up. -/
theorem giveUp (h : Waits deadline begun now diary t) (call : ℕ) :
    Waits deadline begun now (diary ++ [(now, .gaveUp call)]) (t.giveUp call) := by
  refine h.extend rfl rfl rfl h.rated rfl rfl rfl (by simp [isShut, Tunnel.giveUp]) (by simp) ?_
    (fun u hu => ?_) (by simp [Diary.asked])
  · simpa [Diary.asked] using desk_giveUp t call now
  · by_cases hcall : u.call = some call
    · exact .inr ⟨call, hcall, List.mem_singleton_self _⟩
    · exact .inl (mem_desk_giveUp hu hcall)

/-- The end is asked for. -/
theorem ask_end (h : Waits deadline begun now diary t) {handle : Handle}
    (hhandle : handle ≠ .held) :
    Waits deadline begun now (diary ++ [(now, .ended)]) { t with handle } :=
  h.extend rfl rfl rfl h.rated rfl rfl rfl (by simp [isShut, hhandle]) (by simp)
    (by simp [desk, Diary.asked]) (fun _ hu => .inl hu) (by simp [Diary.asked])

/-- Limits take effect. -/
theorem takeUpdate (h : Waits deadline begun now diary t) (hbooks : t.Books) {u : Update}
    (hupdate : t.update = some u) :
    Waits deadline begun now
      (diary ++ [(now, .enforced ⟨u.call, u.limits, t.counters.active⟩)]) (t.apply now u) := by
  have hzero : t.counters.active = 0 := by
    rw [counters, hbooks.relay.active, h.active]
    rfl
  obtain ⟨f, hf, heq⟩ := t.apply_eq now u
  have hdesk : t.desk = u :: (t.apply now u).desk := by
    rw [heq, desk, desk, hupdate]
    rfl
  have horder := h.order
  have hsettled := h.settled
  rw [hdesk] at horder hsettled
  refine ⟨?_, h.le, ?_, ?_, ?_, ?_, ?_, ?_, ?_, t.rated_apply now u, ?_, ?_⟩
  · rw [heq]
    exact h.owner
  · exact (t.active_apply now u).trans h.active
  · rw [heq]
    simpa [isShut] using h.shut
  · simpa using h.ended
  · simpa [Diary.asked, Diary.enforced] using horder
  · intro x hx
    have hx : x ∈ diary.asked := by simpa [Diary.asked] using hx
    rw [Diary.enforced_append]
    obtain hdone | ⟨hnow, hmem⟩ | ⟨call, hcall, hgave⟩ := hsettled x hx
    · exact .inl (List.mem_append_left _ hdone)
    · obtain heq | hrest := List.mem_cons.1 hmem
      · refine .inl (List.mem_append_right _ ?_)
        simp [Diary.enforced, heq, hzero, hnow]
      · exact .inr (.inl ⟨hnow, hrest⟩)
    · exact .inr (.inr ⟨call, hcall, List.mem_append_left _ hgave⟩)
  · rw [Diary.enforced_append]
    exact List.forall_mem_append.2 ⟨h.inactive, by simpa [Diary.enforced] using hzero⟩
  · rw [heq, Diary.enforced_append]
    simp [Diary.enforced]
  · rw [heq, Diary.enforced_append, List.filterMap_append, ← List.append_assoc, ← h.answers]
    cases hcall : u.call <;> simp [Diary.enforced]
  · rw [t.events_apply, List.filterMap_append, h.reported, Diary.enforced_append]
    simp [Diary.enforced, Event.limitsUpdated?, hzero, h.active]

/-- Every action but those that end a wait leaves the owner waiting. -/
theorem step (h : Waits deadline begun now diary t) (hbooks : t.Books)
    (hs : t.Stepped now action t') (hends : action.endsWait = false) :
    Waits deadline begun now (diary ++ t.entries now action) t' := by
  have hrated := hs.rated hbooks h.rated
  have hreported := hs.filterMap_limitsUpdated?
  have howner := h.owner
  cases hs with
  | requestUpdate => exact h.request _
  | giveUp => exact h.giveUp _
  | shutDown | drop => exact h.ask_end nofun
  | @takeUpdate u _ hupdate =>
    rw [entries, hupdate]
    exact h.takeUpdate hbooks hupdate
  | handUpdate hslot hrequests =>
    exact h.congr rfl rfl rfl (by simp [desk, hslot, hrequests]) rfl hrated rfl (hreported nofun)
  | arrive | discard | handArrival | retire =>
    exact h.congr rfl rfl rfl rfl rfl hrated rfl (hreported nofun)
  | work hwork =>
    exact h.congr rfl hwork.active_eq rfl rfl rfl hrated rfl (hreported nofun)
  | wake | heed => cases hends
  | finish _ hfinished =>
    rw [owner_of_isFinished hfinished] at howner
    cases howner
  | _ => simp_all

end Waits

/-- The listener is lost, or an attempt to listen failed: the wait begins. -/
theorem waits_of_step {plan : TunnelPlan} {listener : Listener} {first : ℕ}
    {before : List (ℕ × Action)} (hbefore : (start plan first listener).run before = some t)
    (hbegin : t.step since action = some t') (howner : ∀ deadline, t.owner ≠ .retrying deadline)
    (hretrying : t'.owner = .retrying deadline) :
    deadline = Timer.deadline since plan.retryInterval ∧ t'.Books ∧
      Waits deadline t' since (t'.opening since) t' := by
  have hs := stepped_of_step hbegin
  obtain ⟨hplan, hbooks, hrated, hactive⟩ :=
    run_keeps (motive := fun t => t.plan = plan ∧ t.Books ∧ t.relay.Rated t.limits ∧
        (t.owner.isWaiting → t.relay.active = []))
      (fun _ _ _ _ _ ⟨hplan, hbooks, hrated, hactive⟩ hs =>
        ⟨hs.plan_eq.trans hplan, hbooks.step hs, hs.rated hbooks hrated,
          hs.active_of_isWaiting hbooks hactive⟩)
      ⟨rfl, books_start plan first listener, rated_start plan first listener, fun _ => rfl⟩ hbefore
  have hdeadline := hs.deadline_eq howner hretrying
  rw [hplan] at hdeadline
  refine ⟨hdeadline, hbooks.step hs, .of_opening hretrying ?_ ?_ (hs.rated hbooks hrated)⟩
  · rw [hdeadline]
    exact Timer.le_deadline since plan.retryInterval
  · exact hs.active_of_isWaiting hbooks hactive (by rw [hretrying]; rfl)

end Sluice.Tunnel
