import Mathlib.Data.List.Chain
import Mathlib.Data.Nat.Notation

/-!
# Schedules

A schedule is a list of actions, each with its instant. Given what one action does to a state, this
module says what a schedule amounts to:

* `InOrder first actions last`: the instants ascend from `first` to `last`;
* `Schedule.run step s actions`: the state in the end, if all actions can happen;
* `Schedule.total step amount s actions`: the sum of what each action contributes;
* `Schedule.trail step view s actions`: the values of a view after each action;
* `Schedule.journal step entries s actions`: what each action puts down;
* `Schedule.record step note g s actions`: what is on record when each action was noted;
* `Schedule.part step pick s actions`: what the actions mean to one part of the state;
* `Schedule.Obeys step note law g s actions`: the actions are lawful, given what is on record;
* `Schedule.Pauses step fits s first actions last`: whenever time passes, the state fits the pause.

A total, a trail, a journal, a record and a part end at the first action that cannot happen, and so
does a law.
-/

namespace Sluice

/-- Actions at instants, in the order in which they happen. -/
abbrev Schedule (α : Type) := List (ℕ × α)

namespace Schedule

variable {σ α β γ : Type}

/-- The instants of the actions ascend from `first` to `last`. -/
def InOrder (first : ℕ) : Schedule α → ℕ → Prop
  | [], last => first ≤ last
  | (now, _) :: rest, last => first ≤ now ∧ InOrder now rest last

/-- The state after a schedule, or none if one of its actions cannot happen. -/
def run (step : σ → ℕ → α → Option σ) (s : σ) : Schedule α → Option σ
  | [] => some s
  | (now, action) :: rest =>
    match step s now action with
    | none => none
    | some next => run step next rest

/-- What the actions of a schedule contribute together, each by its `amount`. -/
def total (step : σ → ℕ → α → Option σ) (amount : σ → ℕ → α → ℕ) (s : σ) : Schedule α → ℕ
  | [] => 0
  | (now, action) :: rest =>
    match step s now action with
    | none => 0
    | some next => amount s now action + total step amount next rest

/-- The values of a view after each action of a schedule, with the instants of the actions. -/
def trail (step : σ → ℕ → α → Option σ) (view : σ → β) (s : σ) : Schedule α → Schedule β
  | [] => []
  | (now, action) :: rest =>
    match step s now action with
    | none => []
    | some next => (now, view next) :: trail step view next rest

/-- What the actions of a schedule put down, each its `entries`. -/
def journal (step : σ → ℕ → α → Option σ) (entries : σ → ℕ → α → List β) (s : σ) :
    Schedule α → List β
  | [] => []
  | (now, action) :: rest =>
    match step s now action with
    | none => []
    | some next => entries s now action ++ journal step entries next rest

/-- What is on record after the actions of a schedule, each of which is noted when it happens, with
the state before it. -/
def record (step : σ → ℕ → α → Option σ) (note : γ → σ → α → γ) (g : γ) (s : σ) :
    Schedule α → γ
  | [] => g
  | (now, action) :: rest =>
    match step s now action with
    | none => g
    | some next => record step note (note g s action) next rest

/-- What the actions of a schedule mean to one part of the state, each by what `pick` makes of it. -/
def part (step : σ → ℕ → α → Option σ) (pick : σ → α → Option β) (s : σ) : Schedule α → Schedule β
  | [] => []
  | (now, action) :: rest =>
    match step s now action with
    | none => []
    | some next => ((pick s action).map (now, ·)).toList ++ part step pick next rest

/-- Every action is lawful, given what is on record of those before it and the state that they left. -/
def Obeys (step : σ → ℕ → α → Option σ) (note : γ → σ → α → γ) (law : γ → σ → α → Prop) (g : γ)
    (s : σ) : Schedule α → Prop
  | [] => True
  | (now, action) :: rest =>
    law g s action ∧
      match step s now action with
      | none => True
      | some next => Obeys step note law (note g s action) next rest

/-- Whenever time passes, before an action or after the last one, the state `fits` the pause. -/
def Pauses (step : σ → ℕ → α → Option σ) (fits : σ → ℕ → ℕ → Prop) (s : σ) (first : ℕ) :
    Schedule α → ℕ → Prop
  | [], last => fits s first last
  | (now, action) :: rest, last =>
    fits s first now ∧
      match step s now action with
      | none => True
      | some next => Pauses step fits next now rest last

instance decidableObeys {step : σ → ℕ → α → Option σ} {note : γ → σ → α → γ}
    {law : γ → σ → α → Prop} [hlaw : ∀ g s action, Decidable (law g s action)] (g : γ) (s : σ) :
    (actions : Schedule α) → Decidable (Obeys step note law g s actions)
  | [] => isTrue trivial
  | (now, action) :: rest =>
    have : Decidable (match step s now action with
        | none => True
        | some next => Obeys step note law (note g s action) next rest) :=
      match step s now action with
      | none => isTrue trivial
      | some next => decidableObeys (note g s action) next rest
    inferInstanceAs (Decidable (_ ∧ _))

theorem InOrder.le {first last : ℕ} {actions : Schedule α} (h : InOrder first actions last) :
    first ≤ last := by
  induction actions generalizing first with
  | nil => exact h
  | cons action rest ih => exact Nat.le_trans h.1 (ih h.2)

theorem InOrder.le_of_mem {first last : ℕ} {actions : Schedule α}
    (h : InOrder first actions last) {x : ℕ × α} (hx : x ∈ actions) : first ≤ x.1 := by
  induction actions generalizing first with
  | nil => cases hx
  | cons head rest ih =>
    obtain rfl | hx := List.mem_cons.1 hx
    · exact h.1
    · exact Nat.le_trans h.1 (ih h.2 hx)

/-- The actions after another one happen later. -/
theorem InOrder.of_append {first last now : ℕ} {action : α} {before after : Schedule α}
    (h : InOrder first (before ++ (now, action) :: after) last) : InOrder now after last := by
  induction before generalizing first with
  | nil => exact h.2
  | cons head rest ih => exact ih h.2

/-- What holds at first, outlasts pauses and is kept by each action holds in the end. -/
theorem run_keeps {step : σ → ℕ → α → Option σ} (inv : ℕ → σ → Prop)
    (hpause : ∀ now later s, now ≤ later → inv now s → inv later s)
    (hstep : ∀ now s action s', inv now s → step s now action = some s' → inv now s')
    {first last : ℕ} {actions : Schedule α} {s s' : σ} (ho : InOrder first actions last)
    (hs : inv first s) (hrun : run step s actions = some s') : inv last s' := by
  induction actions generalizing first s with
  | nil =>
    cases hrun
    exact hpause _ _ _ ho hs
  | cons head rest ih =>
    rw [run] at hrun
    split at hrun
    · cases hrun
    next next hnext => exact ih ho.2 (hstep _ _ _ _ (hpause _ _ _ ho.1 hs) hnext) hrun

/-- What every action of a schedule keeps is kept by the schedule. -/
theorem run_keeps_of_mem {step : σ → ℕ → α → Option σ} {inv : σ → Prop} {actions : Schedule α}
    (hstep : ∀ s now action s', (now, action) ∈ actions → inv s → step s now action = some s' →
      inv s')
    {s s' : σ} (hs : inv s) (hrun : run step s actions = some s') : inv s' := by
  induction actions generalizing s with
  | nil =>
    cases hrun
    exact hs
  | cons head rest ih =>
    rw [run] at hrun
    split at hrun
    · cases hrun
    next next hnext =>
      refine ih (fun _ _ _ _ hmem => ?_) (hstep _ _ _ _ List.mem_cons_self hs hnext) hrun
      exact hstep _ _ _ _ (List.mem_cons_of_mem _ hmem)

/-- What every action relates, the values of a view before and after it, is related along the
trail. -/
theorem isChain_trail {step : σ → ℕ → α → Option σ} {view : σ → β} {R : β → β → Prop}
    (inv : σ → Prop) {actions : Schedule α}
    (hstep : ∀ s now action s', (now, action) ∈ actions → inv s → step s now action = some s' →
      inv s' ∧ R (view s) (view s')) {s : σ} (hs : inv s) :
    List.IsChain R (view s :: (trail step view s actions).map (·.2)) := by
  induction actions generalizing s with
  | nil => exact .singleton _
  | cons head rest ih =>
    simp only [trail]
    split
    · exact .singleton _
    next next hnext =>
      obtain ⟨hinv, hview⟩ := hstep _ _ _ _ List.mem_cons_self hs hnext
      refine .cons_cons hview (ih (fun _ _ _ _ hmem => ?_) hinv)
      exact hstep _ _ _ _ (List.mem_cons_of_mem _ hmem)

/-- What every action keeps of a state and the record so far is kept by a schedule. -/
theorem record_keeps {step : σ → ℕ → α → Option σ} {note : γ → σ → α → γ} (inv : γ → σ → Prop)
    (hstep : ∀ g s now action s', inv g s → step s now action = some s' → inv (note g s action) s')
    {g : γ} {s s' : σ} {actions : Schedule α} (hs : inv g s) (hrun : run step s actions = some s') :
    inv (record step note g s actions) s' := by
  induction actions generalizing g s with
  | nil =>
    cases hrun
    exact hs
  | cons head rest ih =>
    rw [run] at hrun
    simp only [record]
    split at hrun
    · cases hrun
    next next hnext => exact ih (hstep _ _ _ _ _ hs hnext) hrun

/-- What every lawful action keeps of a state and the record so far is kept by a schedule. -/
theorem record_keeps_of_obeys {step : σ → ℕ → α → Option σ} {note : γ → σ → α → γ}
    {law : γ → σ → α → Prop} (inv : γ → σ → Prop) {actions : Schedule α}
    (hstep : ∀ g s now action s', (now, action) ∈ actions → law g s action → inv g s →
      step s now action = some s' → inv (note g s action) s')
    {g : γ} {s s' : σ} (hlaw : Obeys step note law g s actions) (hs : inv g s)
    (hrun : run step s actions = some s') : inv (record step note g s actions) s' := by
  induction actions generalizing g s with
  | nil =>
    cases hrun
    exact hs
  | cons head rest ih =>
    rw [run] at hrun
    simp only [record]
    obtain ⟨hhead, hrest⟩ := hlaw
    split at hrun
    · cases hrun
    next next hnext =>
      rw [hnext] at hrest
      refine ih (fun _ _ _ _ _ hmem => ?_) hrest (hstep _ _ _ _ _ List.mem_cons_self hhead hs hnext)
        hrun
      exact hstep _ _ _ _ _ (List.mem_cons_of_mem _ hmem)

/-- What every action keeps of a state, the record and the sums so far is kept by a schedule. -/
theorem record_total_keeps {ι : Type} {step : σ → ℕ → α → Option σ} {note : γ → σ → α → γ}
    {amount : ι → σ → ℕ → α → ℕ} (inv : γ → (ι → ℕ) → σ → Prop)
    (hstep : ∀ g sums s now action s', inv g sums s → step s now action = some s' →
      inv (note g s action) (fun i => sums i + amount i s now action) s')
    {g : γ} {sums : ι → ℕ} {s s' : σ} {actions : Schedule α} (hs : inv g sums s)
    (hrun : run step s actions = some s') :
    inv (record step note g s actions) (fun i => sums i + total step (amount i) s actions) s' := by
  induction actions generalizing g sums s with
  | nil =>
    cases hrun
    exact hs
  | cons head rest ih =>
    rw [run] at hrun
    simp only [record, total]
    split at hrun
    · cases hrun
    next next hnext => simpa only [Nat.add_assoc] using ih (hstep _ _ _ _ _ _ hs hnext) hrun

/-- What every action keeps of a state and the actions of its part so far is kept by a schedule. -/
theorem part_keeps {step : σ → ℕ → α → Option σ} {pick : σ → α → Option β}
    (inv : Schedule β → σ → Prop) {actions : Schedule α}
    (hstep : ∀ g s now action s', (now, action) ∈ actions → inv g s → step s now action = some s' →
      inv (g ++ ((pick s action).map (now, ·)).toList) s')
    {g : Schedule β} {s s' : σ} (hs : inv g s) (hrun : run step s actions = some s') :
    inv (g ++ part step pick s actions) s' := by
  induction actions generalizing g s with
  | nil =>
    cases hrun
    rwa [part, List.append_nil]
  | cons head rest ih =>
    rw [run] at hrun
    simp only [part]
    split at hrun
    · cases hrun
    next next hnext =>
      rw [← List.append_assoc]
      refine ih (fun _ _ _ _ _ hmem => ?_) (hstep _ _ _ _ _ List.mem_cons_self hs hnext) hrun
      exact hstep _ _ _ _ _ (List.mem_cons_of_mem _ hmem)

/-- What every action keeps of a state, the record and the journal so far is kept by a schedule. -/
theorem record_journal_keeps {step : σ → ℕ → α → Option σ} {note : γ → σ → α → γ}
    {entries : σ → ℕ → α → List β} (inv : γ → List β → σ → Prop) {actions : Schedule α}
    (hstep : ∀ g b s now action s', (now, action) ∈ actions → inv g b s →
      step s now action = some s' → inv (note g s action) (b ++ entries s now action) s')
    {g : γ} {b : List β} {s s' : σ} (hs : inv g b s) (hrun : run step s actions = some s') :
    inv (record step note g s actions) (b ++ journal step entries s actions) s' := by
  induction actions generalizing g b s with
  | nil =>
    cases hrun
    rwa [record, journal, List.append_nil]
  | cons head rest ih =>
    rw [run] at hrun
    simp only [record, journal]
    split at hrun
    · cases hrun
    next next hnext =>
      rw [← List.append_assoc]
      refine ih (fun _ _ _ _ _ _ hmem => ?_) (hstep _ _ _ _ _ _ List.mem_cons_self hs hnext) hrun
      exact hstep _ _ _ _ _ _ (List.mem_cons_of_mem _ hmem)

/-- What every action keeps of a state and the journal so far is kept by a schedule. -/
theorem journal_keeps {step : σ → ℕ → α → Option σ} {entries : σ → ℕ → α → List β}
    (inv : List β → σ → Prop)
    (hstep : ∀ b s now action s', inv b s → step s now action = some s' →
      inv (b ++ entries s now action) s')
    {b : List β} {s s' : σ} {actions : Schedule α} (hs : inv b s)
    (hrun : run step s actions = some s') : inv (b ++ journal step entries s actions) s' :=
  -- nothing is on record
  @record_journal_keeps _ _ _ Unit step (fun _ _ _ => ()) entries (fun _ => inv) actions
    (fun _ b s now action s' _ => hstep b s now action s') () _ _ _ hs hrun

/-- What actions put down whatever the state is in the journal if one of them happens. -/
theorem mem_journal_iff {step : σ → ℕ → α → Option σ} {entries : σ → ℕ → α → List β} {b : β}
    {puts : ℕ → α → Prop} (hentries : ∀ s now action, b ∈ entries s now action ↔ puts now action)
    {s s' : σ} {actions : Schedule α} (hrun : run step s actions = some s') :
    b ∈ journal step entries s actions ↔ ∃ x ∈ actions, puts x.1 x.2 := by
  induction actions generalizing s with
  | nil => simp [journal]
  | cons head rest ih =>
    rw [run] at hrun
    simp only [journal]
    split at hrun
    · cases hrun
    next next hnext => rw [List.mem_append, hentries, ih hrun, List.exists_mem_cons_iff]

/-- What outlasts the pauses, and is kept of a state and the journal so far by every action but
those that end it, is kept up to the first action that ends it. -/
theorem journal_keeps_until {step : σ → ℕ → α → Option σ} {fits : σ → ℕ → ℕ → Prop}
    {entries : σ → ℕ → α → List β} {ends : α → Bool} (inv : ℕ → List β → σ → Prop)
    (hpause : ∀ b s now later, now ≤ later → fits s now later → inv now b s → inv later b s)
    (hstep : ∀ b s now action s', ends action = false → inv now b s →
      step s now action = some s' → inv now (b ++ entries s now action) s')
    {first last : ℕ} {b : List β} {s s' : σ} {actions : Schedule α}
    (ho : InOrder first actions last) (hp : Pauses step fits s first actions last)
    (hs : inv first b s) (hrun : run step s actions = some s') :
    ∃ now during rest middle, actions = during ++ rest ∧ (∀ x ∈ during, ends x.2 = false) ∧
      run step s during = some middle ∧ run step middle rest = some s' ∧
      inv now (b ++ journal step entries s during) middle ∧
      (now = last ∧ rest = [] ∨ ∃ action after, rest = (now, action) :: after ∧ ends action) := by
  induction actions generalizing first b s with
  | nil =>
    refine ⟨last, [], [], s, rfl, by simp, rfl, hrun, ?_, .inl ⟨rfl, rfl⟩⟩
    rw [journal, List.append_nil]
    exact hpause _ _ _ _ ho hp hs
  | cons head rest ih =>
    obtain ⟨now, action⟩ := head
    have hnow := hpause _ _ _ _ ho.1 hp.1 hs
    by_cases hends : ends action = true
    · refine ⟨now, [], (now, action) :: rest, s, rfl, by simp, rfl, hrun, ?_,
        .inr ⟨_, _, rfl, hends⟩⟩
      rwa [journal, List.append_nil]
    · rw [Bool.not_eq_true] at hends
      rw [run] at hrun
      cases hnext : step s now action with
      | none =>
        rw [hnext] at hrun
        cases hrun
      | some next =>
        rw [hnext] at hrun
        have hpauses := hp.2
        rw [hnext] at hpauses
        obtain ⟨later, during, rest', middle, rfl, hduring, hrun', hrest, hinv, hend⟩ :=
          ih ho.2 hpauses (hstep _ _ _ _ _ hends hnow hnext) hrun
        refine ⟨later, (now, action) :: during, rest', middle, rfl,
          List.forall_mem_cons.2 ⟨hends, hduring⟩, ?_, hrest, ?_, hend⟩
        · simpa [run, hnext] using hrun'
        · simpa [journal, hnext] using hinv

/-- Where no action contributes anything, nothing comes together. -/
theorem total_eq_zero {step : σ → ℕ → α → Option σ} {amount : σ → ℕ → α → ℕ} (inv : σ → Prop)
    (hstep : ∀ s now action s', inv s → step s now action = some s' →
      inv s' ∧ amount s now action = 0)
    {s : σ} (hs : inv s) (actions : Schedule α) : total step amount s actions = 0 := by
  induction actions generalizing s with
  | nil => rfl
  | cons head rest ih =>
    rw [total]
    split
    · rfl
    next next hnext =>
      obtain ⟨hinv, hzero⟩ := hstep _ _ _ _ hs hnext
      rw [hzero, ih hinv]

/-- A view that grows with every action by what the action contributes grows in a run by the sum. -/
theorem view_run {step : σ → ℕ → α → Option σ} {amount : σ → ℕ → α → ℕ} {view : σ → ℕ}
    (hstep : ∀ s now action s', step s now action = some s' →
      view s' = view s + amount s now action)
    {s s' : σ} {actions : Schedule α} (hrun : run step s actions = some s') :
    view s' = view s + total step amount s actions := by
  induction actions generalizing s with
  | nil =>
    cases hrun
    rfl
  | cons head rest ih =>
    rw [run] at hrun
    simp only [total]
    split at hrun
    · cases hrun
    next next hnext => rw [ih hrun, hstep _ _ _ _ hnext, Nat.add_assoc]

end Schedule

end Sluice
