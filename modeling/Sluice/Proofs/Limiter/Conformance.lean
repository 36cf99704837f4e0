import Sluice.Proofs.Limiter.Crowd

/-!
# Conformance to the configured rate

A bucket gains one token per interval, and the interval is a whole number of nanoseconds. It is
rounded down, so that a bucket may fill faster than its rate says. This file finds out for which
rates a limiter passes no more than the rate and one burst:

* `quota_le_of_conforming`: for rates that divide a second into whole nanoseconds, and for those
  above the highest rate that is told apart, the interval errs on the safe side;
* `conforms_iff`: for all other rates above `0` the limiter passes too much.
-/

namespace Sluice

open Limiter (allowance interval quota)

namespace Limiter

variable {since last : ℕ} {rate : UInt64}

/-- As long as the rate stays the same there is one period. -/
theorem allowance_of_forall_eq {changes : Schedule UInt64} (h : ∀ p ∈ changes, p.2 = rate) :
    allowance since rate changes last = quota rate (last - since) := by
  induction changes with
  | nil => rfl
  | cons head rest ih =>
    obtain ⟨now, next⟩ := head
    rw [allowance, if_pos (h _ List.mem_cons_self)]
    exact ih fun p hp => h p (List.mem_cons_of_mem _ hp)

theorem interval_of_lt (h : rate.toNat ≤ 1000000000) : interval rate = 1000000000 / rate.toNat := by
  rw [interval, toNat_min_maxRate, Nat.min_eq_left h]

theorem interval_of_ge (h : 1000000000 ≤ rate.toNat) : interval rate = 1 := by
  rw [interval, toNat_min_maxRate, Nat.min_eq_right h]

/-- A rate that divides a second into whole nanoseconds, or is above the highest rate that is told
apart, lets through no more than it says. -/
theorem quota_le_of_conforming (h : 1000000000 ≤ rate.toNat ∨ rate.toNat ∣ 1000000000)
    (length : ℕ) : quota rate length ≤ rate.toNat * length / 1000000000 := by
  rw [quota_eq]
  by_cases hge : 1000000000 ≤ rate.toNat
  · rw [interval_of_ge hge, Nat.div_one, Nat.le_div_iff_mul_le (by omega), Nat.mul_comm]
    exact Nat.mul_le_mul_right _ hge
  · have hdvd := h.resolve_left hge
    have hpos : 0 < rate.toNat := Nat.pos_of_dvd_of_pos hdvd (by omega)
    rw [interval_of_lt (by omega)]
    conv_rhs => rw [← Nat.mul_div_cancel' hdvd]
    rw [Nat.mul_div_mul_left _ _ hpos]

/-- For all other rates the interval is over before the rate has let a whole byte through. -/
theorem rate_mul_interval_lt (h : ¬1000000000 ≤ rate.toNat) (hdvd : ¬rate.toNat ∣ 1000000000) :
    rate.toNat * interval rate < 1000000000 := by
  rw [interval_of_lt (by omega)]
  exact lt_of_le_of_ne (Nat.mul_div_le _ _) fun heq => hdvd ⟨_, heq.symm⟩

end Limiter

namespace Crowd

/-- The action leaves the rate as it is. -/
def Action.KeepsRate (rate : UInt64) : Action → Prop
  | .setRate next => next = rate
  | _ => True

variable {crowd next : Crowd} {now : ℕ} {action : Action} {rate : UInt64} {burst : UInt32}

theorem rate_step (h : crowd.step now action = some next) (hkeeps : action.KeepsRate rate)
    (hrate : crowd.limiter.rate = rate) : next.limiter.rate = rate := by
  cases action with
  | setRate next =>
    cases h
    exact (Limiter.rate_setRate ..).trans hkeeps
  | turn number cancelled =>
    obtain ⟨acquire, -, rfl⟩ := Option.map_eq_some_iff.1 h
    exact (acquire.debits_attempt crowd.limiter cancelled now).rate_eq.trans hrate
  | start bytes =>
    cases h
    exact hrate
  | drop number =>
    cases h
    exact hrate

theorem trail_rate_eq {actions : Schedule Action} (hkeeps : ∀ p ∈ actions, p.2.KeepsRate rate)
    (hrate : crowd.limiter.rate = rate) :
    ∀ p ∈ Schedule.trail step (fun crowd => crowd.limiter.rate) crowd actions, p.2 = rate := by
  induction actions generalizing crowd with
  | nil => simp [Schedule.trail]
  | cons head rest ih =>
    obtain ⟨now, action⟩ := head
    rw [Schedule.trail]
    cases hstep : crowd.step now action with
    | none => simp
    | some next =>
      have hnext := rate_step hstep (hkeeps _ List.mem_cons_self) hrate
      rw [List.forall_mem_cons]
      exact ⟨hnext, ih (fun p hp => hkeeps p (List.mem_cons_of_mem _ hp)) hnext⟩

/-- A burst at once and one byte after one interval. -/
def burstThenByte (rate : UInt64) (burst : ℕ) : Schedule Action :=
  [(0, .start burst), (0, .turn 0 false), (0, .start 1), (interval rate, .turn 1 false)]

theorem inOrder_burstThenByte (rate : UInt64) (burst : ℕ) :
    Schedule.InOrder 0 (burstThenByte rate burst) (interval rate) := by
  simp [burstThenByte, Schedule.InOrder]

theorem keepsRate_burstThenByte (rate : UInt64) (burst : ℕ) :
    ∀ p ∈ burstThenByte rate burst, p.2.KeepsRate rate := by
  simp [burstThenByte, Action.KeepsRate]

/-- One interval after the burst a limiter grants another byte. -/
theorem total_burstThenByte (hr : rate ≠ 0) (burst : UInt32) :
    Schedule.total step debited (make 0 rate burst) (burstThenByte rate (max 1 burst.toNat)) =
      max 1 burst.toNat + 1 := by
  have hsound := Limiter.sound_make 0 rate burst
  have hlevel := Limiter.level_make 0 rate burst
  rw [if_neg hr] at hlevel
  obtain ⟨empty, hburst, hempty⟩ :=
    Acquire.attempt_of_le_level hsound (n := max 1 burst.toNat) (by omega) le_rfl hlevel.ge
  have hinterval : (interval rate : ℚ) ≠ 0 := by exact_mod_cast (Limiter.interval_pos hr).ne'
  -- the bucket is empty after the burst, and holds one token after the interval
  have hone : ((1 : ℕ) : ℚ) ≤ empty.level (interval rate) := by
    rw [(hempty.sound hsound).level_later (Nat.zero_le _), hempty.level_eq hsound, hempty.rate_eq,
      Limiter.rate_make, if_neg hr, hlevel, sub_self, zero_add, Nat.cast_zero, sub_zero,
      div_self hinterval, le_min_iff]
    exact ⟨by exact_mod_cast empty.burst_pos, by norm_num⟩
  obtain ⟨final, hbyte, -⟩ :=
    Acquire.attempt_of_le_level ((hempty.sound hsound).mono (Nat.zero_le _)) Nat.one_pos
      empty.burst_pos hone
  simp [burstThenByte, Schedule.total, step, debited, acquire?, make, remains, Acquire.paid, hburst,
    hbyte]

/-- A limiter whose rate stays the same passes no more than the rate and one burst, whatever is
asked of it and for how long, exactly when the rate divides a second into whole nanoseconds, is at
least the highest rate that is told apart, or is `0`. -/
theorem conforms_iff (rate : UInt64) (burst : UInt32) :
    (∀ (made length : ℕ) (actions : Schedule Action),
        Schedule.InOrder made actions (made + length) →
        (∀ p ∈ actions, p.2.KeepsRate rate) →
        Schedule.total step debited (make made rate burst) actions ≤
          max 1 burst.toNat + rate.toNat * length / 1000000000) ↔
      rate = 0 ∨ 1000000000 ≤ rate.toNat ∨ rate.toNat ∣ 1000000000 := by
  constructor
  · intro h
    by_contra hnot
    obtain ⟨hr, hlt, hdvd⟩ : rate ≠ 0 ∧ ¬1000000000 ≤ rate.toNat ∧ ¬rate.toNat ∣ 1000000000 := by
      tauto
    have hle := h 0 (interval rate) (burstThenByte rate (max 1 burst.toNat))
      (by rw [Nat.zero_add]; exact inOrder_burstThenByte ..) (keepsRate_burstThenByte _ _)
    rw [total_burstThenByte hr, Nat.div_eq_of_lt (Limiter.rate_mul_interval_lt hlt hdvd)] at hle
    omega
  · intro hconforming made length actions ho hkeeps
    have hsound : (make made rate burst).limiter.Sound made := Limiter.sound_make made rate burst
    have hrate : (make made rate burst).limiter.rate = rate := rfl
    have hle := total_debited_le hsound ho
    rw [hrate, Limiter.allowance_of_forall_eq (trail_rate_eq hkeeps hrate),
      Nat.add_sub_cancel_left] at hle
    have hquota : quota rate length ≤ rate.toNat * length / 1000000000 := by
      rcases hconforming with rfl | hconforming
      · simp [quota]
      · exact Limiter.quota_le_of_conforming hconforming length
    refine hle.trans (Nat.add_le_add ?_ hquota)
    split
    · exact Nat.zero_le _
    · exact le_rfl

/-- At 600 million bytes per second the interval is one nanosecond instead of one and two thirds. In
the millisecond after the burst of a million bytes a limiter lets another million through. -/
theorem exceeds_at_600000000 :
    Schedule.InOrder 0 [(0, Action.start 1000000), (0, .turn 0 false), (0, .start 1000000),
        (1000000, .turn 1 false)] 1000000 ∧
      (∀ p ∈ [(0, Action.start 1000000), (0, .turn 0 false), (0, .start 1000000),
        (1000000, .turn 1 false)], p.2.KeepsRate 600000000) ∧
      1000000 + 600000000 * 1000000 / 1000000000 <
        Schedule.total step debited (make 0 600000000 1000000)
          [(0, .start 1000000), (0, .turn 0 false), (0, .start 1000000),
            (1000000, .turn 1 false)] := by
  refine ⟨by simp [Schedule.InOrder], by simp [Action.KeepsRate], ?_⟩
  decide

end Crowd

end Sluice
