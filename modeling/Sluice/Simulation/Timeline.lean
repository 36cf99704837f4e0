import Sluice.Timer

/-!
# Virtual time

A simulated system runs on a clock that stands still while anything can happen and then jumps to the
next timer. A `Timeline` says how to read and set the clock of a system, when its next timer fires,
and how to let everything happen that can happen now.

* `Timeline.advanceUntil` lets time pass up to an instant, or until a condition holds.
* `Timeline.advance` lets time pass up to an instant, with all timers due at that instant.
-/

namespace Sluice.Simulation

/-- How time works in a simulated system. -/
structure Timeline (σ : Type) where
  /-- The instant at which the system stands. -/
  now : σ → Nat
  /-- The system with its clock set to an instant. -/
  setNow : σ → Nat → σ
  /-- The earliest instant at which a timer fires. -/
  due : σ → Option Nat
  /-- The system after everything that can happen now. -/
  settle : σ → σ

namespace Timeline

variable {σ : Type}

/-- Let time pass from `now` to `last`, from timer to timer, and stop early when `stop` holds. -/
def advanceFrom (line : Timeline σ) (stop : σ → Bool) (last now : Nat) (s : σ) : σ :=
  if stop s then s
  else
    match line.due s with
    | none => line.setNow s last
    | some due =>
      let next := max due (now + Timer.grain)
      if _h : next ≤ last then
        advanceFrom line stop last next (line.settle (line.setNow s next))
      else line.setNow s last
termination_by last - now
decreasing_by
  have : now < max due (now + Timer.grain) := by unfold Timer.grain; omega
  omega

/-- Let time pass up to the instant `last`, or until `stop` holds. -/
def advanceUntil (line : Timeline σ) (stop : σ → Bool) (last : Nat) (s : σ) : σ :=
  line.advanceFrom stop last (line.now s) s

/-- Let time pass up to the instant `last`. -/
def advance (line : Timeline σ) (last : Nat) (s : σ) : σ :=
  line.advanceUntil (fun _ => false) last s

end Timeline

end Sluice.Simulation
