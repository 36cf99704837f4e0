import Sluice.Proofs.Limiter.Account

/-!
# Machines that pay a limiter

A machine is *metered* by a limiter when every byte that it passes on was debited there before. The
machine may hold bytes that it has paid for and not yet passed on, and the limiter may be made while
the machine runs.

* `Change now l n l'`: what one action does to the limiter, `n` bytes being debited;
* `Metered step limiter? held passed inv`: each action passes on no more than what was held and what
  it pays;
* `Metered.add_total_le`: what a metered machine passes on in a run is within the budget that its
  account starts with and the allowance of the rates.
-/

namespace Sluice.Limiter

/-- The rate of a limiter, and `0` as long as there is none. -/
def rateOf (limiter? : Option Limiter) : UInt64 := limiter?.elim 0 (·.rate)

/-- What one action does to a limiter, with the bytes that it debits. -/
inductive Change (now : ℕ) : Option Limiter → ℕ → Option Limiter → Prop
  | absent : Change now none 0 none
  | made (rate : UInt64) : Change now none 0 (some (.ofRate now rate))
  | debited {l after : Limiter} {n : ℕ} (h : l.Debits now n after) :
      Change now (some l) n (some after)
  | rated (l : Limiter) (rate : UInt64) : Change now (some l) 0 (some (l.setRate now rate))

/-- The account of a limiter. As long as there is none, the budget has room for a burst. -/
def Account (now spent budget since : ℕ) : Option Limiter → Prop
  | none => since ≤ now ∧ spent + chunkSize ≤ budget
  | some l => l.Covered now spent budget since

/-- A machine that debits at a limiter what it passes on. It may hold bytes that it has paid for. -/
structure Metered {σ α : Type} (step : σ → ℕ → α → Option σ) (limiter? : σ → Option Limiter)
    (held : σ → ℕ) (passed : σ → ℕ → α → ℕ) (inv : σ → Prop) : Prop where
  step_inv : ∀ {s now action s'}, inv s → step s now action = some s' → inv s'
  step_pays : ∀ {s now action s'}, inv s → step s now action = some s' →
    ∃ n, Change now (limiter? s) n (limiter? s') ∧ passed s now action + held s' ≤ held s + n

variable {l after : Limiter} {limiter? after? : Option Limiter}
  {now later n spent budget since last : ℕ} {rate : UInt64}

/-- Where nothing is debited and no rate is set, a limiter stays as it is. -/
theorem Change.of_eq (h : after? = limiter?) : Change now limiter? 0 after? := by
  subst h
  cases after? with
  | none => exact .absent
  | some l => exact .debited (.inl ⟨rfl, rfl⟩)

/-- An action keeps a limiter sound, and keeps its burst. -/
theorem Change.sound (h : Change now (some l) n (some after)) (hl : l.Sound now) :
    after.Sound now ∧ after.burst = l.burst := by
  cases h with
  | debited hd => exact ⟨hd.sound hl, hd.burst_eq⟩
  | rated _ rate => exact ⟨hl.setRate rate, burst_setRate ..⟩

/-- A budget with room for the burst covers whatever is in the bucket. -/
theorem Sound.covered (hl : l.Sound now) (hle : since ≤ now) (hroom : spent + l.burst ≤ budget) :
    l.Covered now spent budget since where
  sound := hl
  since_le := hle
  covered := by
    have hlevel := hl.level_le_burst
    have hroom' : (spent : ℚ) + l.burst ≤ budget := by exact_mod_cast hroom
    have hperiod : (0 : ℚ) ≤ ((now : ℚ) - since) / interval l.rate := by
      rw [← Nat.cast_sub hle]
      positivity
    linarith

theorem Account.wait (h : Account now spent budget since limiter?) (hle : now ≤ later) :
    Account later spent budget since limiter? := by
  cases limiter? with
  | none => exact ⟨h.1.trans hle, h.2⟩
  | some l => exact Covered.wait h hle

theorem Account.anti {less : ℕ} (h : Account now spent budget since limiter?)
    (hle : less ≤ spent) : Account now less budget since limiter? := by
  cases limiter? with
  | none => exact ⟨h.1, (Nat.add_le_add_right hle _).trans h.2⟩
  | some l => exact Covered.anti h hle

theorem Account.spent_le (h : Account now spent budget since limiter?) :
    spent ≤ budget + quota (rateOf limiter?) (now - since) := by
  cases limiter? with
  | none => exact (Nat.le_of_add_right_le h.2).trans (Nat.le_add_right _ _)
  | some l => exact Covered.spent_le h

/-- An action keeps the account; if it changes the rate, it closes a period. -/
theorem Account.change (h : Account now spent budget since limiter?)
    (hc : Change now limiter? n after?) :
    if rateOf after? = rateOf limiter? then Account now (spent + n) budget since after?
    else Account now (spent + n) (budget + quota (rateOf limiter?) (now - since)) now after? := by
  cases hc with
  | absent => simpa using h
  | made rate =>
    -- the room that was kept for a burst is the burst of the new limiter
    obtain ⟨hsince, hroom⟩ := h
    have hsound := sound_make now rate (.ofNat chunkSize)
    split
    · exact hsound.covered hsince hroom
    · exact hsound.covered le_rfl (hroom.trans (Nat.le_add_right _ _))
  | debited hd =>
    rw [if_pos (show rateOf (some _) = rateOf (some _) from hd.rate_eq)]
    exact Covered.debit h hd
  | rated l rate =>
    by_cases hr : l.rate = rate
    · rw [← hr, setRate_rate, if_pos rfl]
      exact h
    · rw [if_neg (by simpa [rateOf] using Ne.symm hr)]
      exact Covered.setRate h hr

/-- What a metered machine passes on in a run, with what was spent before, is within the budget and
the allowance of the rates. -/
theorem Metered.add_total_le {σ α : Type} {step : σ → ℕ → α → Option σ}
    {limiter? : σ → Option Limiter} {held : σ → ℕ} {passed : σ → ℕ → α → ℕ} {inv : σ → Prop}
    (hm : Metered step limiter? held passed inv) {s : σ} {actions : Schedule α} (hs : inv s)
    (ha : Account now (spent + held s) budget since (limiter? s))
    (ho : Schedule.InOrder now actions last) :
    spent + Schedule.total step passed s actions ≤
      budget + allowance since (rateOf (limiter? s))
        (Schedule.trail step (fun s => rateOf (limiter? s)) s actions) last := by
  induction actions generalizing s now spent budget since with
  | nil => exact (ha.anti (Nat.le_add_right _ _) |>.wait ho).spent_le
  | cons head rest ih =>
    obtain ⟨instant, action⟩ := head
    obtain ⟨hle, ho⟩ := ho
    have ha := ha.wait hle
    rw [Schedule.total, Schedule.trail]
    cases hstep : step s instant action with
    | none => exact (ha.anti (Nat.le_add_right _ _) |>.wait ho.le).spent_le
    | some next =>
      -- what is passed on now moves from the bytes held to the bytes spent
      obtain ⟨n, hchange, hpaid⟩ := hm.step_pays hs hstep
      have hnext := ha.change hchange
      have hspent : spent + passed s instant action + held next ≤ spent + held s + n := by omega
      simp only [allowance]
      rw [← Nat.add_assoc]
      -- a new rate begins a new period
      split at hnext
      next hrate =>
        rw [if_pos hrate, ← hrate]
        exact ih (hm.step_inv hs hstep) (hnext.anti hspent) ho
      next hrate =>
        rw [if_neg hrate, ← Nat.add_assoc]
        exact ih (hm.step_inv hs hstep) (hnext.anti hspent) ho

end Sluice.Limiter
