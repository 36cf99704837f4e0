import Sluice.Proofs.Limiter.Acquire
import Sluice.Proofs.Limiter.Meter

/-!
# Any number of acquires at one limiter

A crowd is a limiter with the acquires that are made at it. They take turns in any order, each
making one request at a time; an acquire may be cancelled or dropped at any point, and the rate may
be changed between any two turns.

* `Crowd.step` is one action at an instant, `Crowd.debited` the bytes that it debits.
* `Crowd.debited_le_allowance` bounds the bytes debited in any window of a run: by a burst and the
  quotas of the periods of constant rate, and without the burst when the rate is `0` at the start.
-/

namespace Sluice

open Limiter (Change Metered allowance)

/-- A limiter with the acquires that are made at it, by number. An acquire that has ended or was
dropped leaves its place empty. A request and a change of the rate are single steps, since whoever
makes them awaits nothing before they are done. -/
structure Crowd where
  /-- The limiter. -/
  limiter : Limiter
  /-- The acquires in the order in which they began. -/
  acquires : List (Option Acquire) := []

namespace Crowd

/-- A new limiter at which no acquire was made. -/
def make (now : ℕ) (rate : UInt64) (burst : UInt32) : Crowd := { limiter := .make now rate burst }

/-- What can happen at a limiter. -/
inductive Action where
  /-- An acquire for so many bytes begins. -/
  | start (bytes : ℕ)
  /-- An acquire makes one request, or notices that it is cancelled. -/
  | turn (number : ℕ) (cancelled : Bool)
  /-- An acquire is dropped. -/
  | drop (number : ℕ)
  /-- The rate is changed. -/
  | setRate (rate : UInt64)
deriving DecidableEq

/-- The acquire of the given number, if it is still going on. -/
def acquire? (crowd : Crowd) (number : ℕ) : Option Acquire := crowd.acquires[number]?.join

/-- What is left of an acquire after a request. -/
def remains : Acquire.Progress → Option Acquire
  | .waiting acquire => some acquire
  | _ => none

/-- The crowd after an action, or none if the action cannot happen. -/
def step (crowd : Crowd) (now : ℕ) : Action → Option Crowd
  | .start bytes => some { crowd with acquires := crowd.acquires ++ [some ⟨bytes, none⟩] }
  | .turn number cancelled =>
    (crowd.acquire? number).map fun acquire =>
      let (progress, limiter) := acquire.attempt crowd.limiter cancelled now
      { limiter, acquires := crowd.acquires.set number (remains progress) }
  | .drop number => some { crowd with acquires := crowd.acquires.set number none }
  | .setRate rate => some { crowd with limiter := crowd.limiter.setRate now rate }

/-- The bytes that an action debits. -/
def debited (crowd : Crowd) (now : ℕ) : Action → ℕ
  | .turn number cancelled =>
    (crowd.acquire? number).elim 0 fun acquire =>
      acquire.paid (acquire.attempt crowd.limiter cancelled now).1
  | _ => 0

variable {crowd next : Crowd} {now made start last : ℕ} {action : Action}

/-- An action either debits what a request pays or changes the rate. -/
theorem change_step (h : crowd.step now action = some next) :
    Change now (some crowd.limiter) (crowd.debited now action) (some next.limiter) := by
  cases action with
  | start bytes =>
    cases h
    exact .of_eq rfl
  | drop number =>
    cases h
    exact .of_eq rfl
  | setRate rate =>
    cases h
    exact .rated crowd.limiter rate
  | turn number cancelled =>
    obtain ⟨acquire, hacquire, rfl⟩ := Option.map_eq_some_iff.1 h
    rw [debited, hacquire, Option.elim_some]
    exact .debited (acquire.debits_attempt crowd.limiter cancelled now)

/-- A crowd passes on nothing but what it debits. -/
theorem metered : Metered step (fun crowd => some crowd.limiter) (fun _ => 0) debited
    (fun _ => True) where
  step_inv _ _ := trivial
  step_pays _ h := ⟨_, change_step h, by omega⟩

/-- The limiter of a crowd stays sound, with the burst that it was made with. -/
theorem sound_run {rate : UInt64} {burst : UInt32} {before : Schedule Action}
    (ho : Schedule.InOrder made before start)
    (hrun : Schedule.run step (make made rate burst) before = some crowd) :
    crowd.limiter.Sound start ∧ crowd.limiter.burst = max 1 burst.toNat := by
  refine Schedule.run_keeps
    (fun now crowd => crowd.limiter.Sound now ∧ crowd.limiter.burst = max 1 burst.toNat)
    ?_ ?_ ho ⟨Limiter.sound_make made rate burst, rfl⟩ hrun
  · intro now later crowd hle h
    exact ⟨h.1.mono hle, h.2⟩
  · intro now crowd action next h hstep
    obtain ⟨hsound, hburst⟩ := (change_step hstep).sound h.1
    exact ⟨hsound, hburst.trans h.2⟩

/-- At rate `0` nothing is debited. -/
theorem debited_of_rate_zero (hl : crowd.limiter.Sound now) (hr : crowd.limiter.rate = 0)
    (now' : ℕ) (action : Action) : crowd.debited now' action = 0 := by
  have hb := hl.bucket_eq_none_iff.2 hr
  cases action with
  | turn number cancelled =>
    rw [debited]
    cases hacquire : crowd.acquire? number with
    | none => rfl
    | some acquire =>
      obtain ⟨hzero, -⟩ | ⟨-, hdebit⟩ := acquire.debits_attempt crowd.limiter cancelled now'
      · exact hzero
      · simp [Limiter.debit, hb] at hdebit
  | start bytes => rfl
  | drop number => rfl
  | setRate rate => rfl

/-- What is debited from now on is at most a burst and the quotas of the periods of constant rate;
without the burst when the rate is `0` now. -/
theorem total_debited_le {actions : Schedule Action} (hl : crowd.limiter.Sound start)
    (ho : Schedule.InOrder start actions last) :
    Schedule.total step debited crowd actions ≤
      (if crowd.limiter.rate = 0 then 0 else crowd.limiter.burst) +
        allowance start crowd.limiter.rate
          (Schedule.trail step (fun crowd => crowd.limiter.rate) crowd actions) last := by
  have haccount : Limiter.Account start (0 + 0)
      (if crowd.limiter.rate = 0 then 0 else crowd.limiter.burst) start (some crowd.limiter) := by
    refine ⟨hl, le_rfl, ?_⟩
    split
    next hr => simp [hl.level_of_rate_zero hr]
    next => simpa using hl.level_le_burst
  simpa [Limiter.rateOf] using metered.add_total_le trivial haccount ho

/-- In every window of a run the bytes debited are at most a burst and the quotas of the periods of
constant rate; without the burst when the rate is `0` at the start of the window; and nothing is
debited while the rate is `0`. -/
theorem debited_le_allowance {rate : UInt64} {burst : UInt32} {before window : Schedule Action}
    (hbefore : Schedule.InOrder made before start)
    (hrun : Schedule.run step (make made rate burst) before = some crowd)
    (hwindow : Schedule.InOrder start window last) :
    Schedule.total step debited crowd window ≤
        (if crowd.limiter.rate = 0 then 0 else max 1 burst.toNat) +
          allowance start crowd.limiter.rate
            (Schedule.trail step (fun crowd => crowd.limiter.rate) crowd window) last ∧
      (crowd.limiter.rate = 0 → ∀ now action, crowd.debited now action = 0) := by
  obtain ⟨hsound, hburst⟩ := sound_run hbefore hrun
  rw [← hburst]
  exact ⟨total_debited_le hsound hwindow, debited_of_rate_zero hsound⟩

/-- A burst was debited at 1000 bytes per second; then the rate is doubled, paused and doubled again
while an acquire for more than a burst goes on. -/
theorem debited_le_allowance_of_changes :
    ∃ crowd, Schedule.run step (make 0 1000 500) [(0, .start 500), (0, .turn 0 false)] =
        some crowd ∧
      Schedule.InOrder 0 [(0, Action.start 500), (0, .turn 0 false)] 0 ∧
      Schedule.InOrder 0 [(0, Action.setRate 2000), (0, .start 900), (250000000, .turn 1 false),
        (300000000, .setRate 0), (400000000, .setRate 4000), (500000000, .turn 1 false)]
          500000000 ∧
      Schedule.total step debited crowd [(0, .setRate 2000), (0, .start 900),
          (250000000, .turn 1 false), (300000000, .setRate 0), (400000000, .setRate 4000),
          (500000000, .turn 1 false)] ≤
        500 + allowance 0 crowd.limiter.rate
          (Schedule.trail step (fun crowd => crowd.limiter.rate) crowd
            [(0, .setRate 2000), (0, .start 900), (250000000, .turn 1 false),
              (300000000, .setRate 0), (400000000, .setRate 4000), (500000000, .turn 1 false)])
          500000000 := by
  have hbefore : Schedule.InOrder 0 [(0, Action.start 500), (0, .turn 0 false)] 0 := by
    simp [Schedule.InOrder]
  have hwindow : Schedule.InOrder 0 [(0, Action.setRate 2000), (0, .start 900),
      (250000000, .turn 1 false), (300000000, .setRate 0), (400000000, .setRate 4000),
      (500000000, .turn 1 false)] 500000000 := by
    simp [Schedule.InOrder]
  exact ⟨_, rfl, hbefore, hwindow, (debited_le_allowance hbefore rfl hwindow).1⟩

end Crowd

end Sluice
