import Sluice.Proofs.Forward.Step
import Sluice.Proofs.Limiter.Acquire

/-!
# What a forwarder can still do by itself

Without its sockets a forwarder can only pay for the chunk that it has read, notice that it is
cancelled, and close its destination. All this comes to an end without time passing.

* `Forward.Action.isOwn`: the actions that need no bytes to come or to go;
* `Stage.effort limiters now`: a bound on the own actions that a forwarder can still do at the
  instant `now`, which `Forward.effort_step` shows to sink with each of them;
* `Stage.PaysWithin count`: a forwarder pays at one of its limiters;
* `Forward.exists_own_step`: a cancelled forwarder that has not finished has something to do.
-/

namespace Sluice

/-- The action needs no bytes to come or to go. -/
def Forward.Action.isOwn : Forward.Action → Bool
  | .pay | .heed | .shut _ => true
  | _ => false

namespace Stage

/-- A bound on the own actions that a forwarder can still do at an instant. What is still to be paid
comes first, at the limiter that is asked and at those that follow. -/
def effort (limiters : List Limiter) (now : ℕ) : Stage → ℕ
  | .paying chunk paid acquire =>
    6 + (limiters.length - 1 - paid) * (2 * chunk.length + 2) +
      limiters[paid]?.elim 0 (acquire.effort · now)
  | .reading | .writing .. => 5
  | .closing _ => 4
  | .finished .. => 3

/-- A forwarder that pays does so at one of its limiters. -/
def PaysWithin (count : ℕ) : Stage → Prop
  | .paying _ paid _ => paid < count
  | _ => True

variable {limiters limiters' : List Limiter} {now : ℕ}

/-- The effort depends on the revisions of the limiters only. -/
theorem effort_congr (stage : Stage)
    (h : limiters'.map (·.revision) = limiters.map (·.revision)) :
    stage.effort limiters' now = stage.effort limiters now := by
  cases stage with
  | paying chunk paid acquire =>
    have hlength : limiters'.length = limiters.length := by simpa using congrArg List.length h
    have hrevision : limiters'[paid]?.map (·.revision) = limiters[paid]?.map (·.revision) := by
      rw [← List.getElem?_map, ← List.getElem?_map, h]
    simp only [effort, hlength]
    cases hl : limiters[paid]? <;> cases hl' : limiters'[paid]? <;> simp [hl, hl'] at hrevision ⊢
    simp [Acquire.effort, acquire.isAwake_congr hrevision]
  | _ => rfl

/-- New revisions can wake up the one acquire of the stage. -/
theorem effort_le (stage : Stage) (h : limiters'.length = limiters.length) :
    stage.effort limiters' now ≤ stage.effort limiters now + 1 := by
  cases stage with
  | paying chunk paid acquire =>
    have hacquire : limiters'[paid]?.elim 0 (acquire.effort · now) ≤
        limiters[paid]?.elim 0 (acquire.effort · now) + 1 := by
      by_cases hpaid : paid < limiters.length
      · rw [List.getElem?_eq_getElem hpaid, List.getElem?_eq_getElem (h ▸ hpaid)]
        exact acquire.effort_le ..
      · simp [h, Nat.le_of_not_lt hpaid]
    simp only [effort, h]
    omega
  | _ => exact Nat.le_succ _

end Stage

namespace Forward

variable {f : Forward} {limiters : List Limiter} {cancelled : Bool} {now : ℕ} {action : Action}
  {move : Move}

theorem paysWithin_payingFrom (chunk : List UInt8) (paid count : ℕ) :
    (payingFrom chunk paid count).PaysWithin count := by
  rw [payingFrom]
  split
  next h => exact h
  next => trivial

/-- Having paid at one limiter, a forwarder has less to do, at the next one or without limiters. -/
theorem effort_payingFrom_lt (chunk : List UInt8) (paid now : ℕ) :
    (payingFrom chunk (paid + 1) limiters.length).effort limiters now <
      6 + (limiters.length - 1 - paid) * (2 * chunk.length + 2) := by
  rw [payingFrom]
  split
  next hnext =>
    have hcount : limiters.length - 1 - paid = limiters.length - 1 - (paid + 1) + 1 := by omega
    rw [Stage.effort, List.getElem?_eq_getElem hnext, hcount, Nat.add_mul]
    simp [Acquire.effort, Acquire.isAwake]
    omega
  next =>
    rw [Stage.effort]
    omega

/-- A request replaces no bucket. -/
theorem revisions_set (acquire : Acquire) {paid : ℕ} {asked : Limiter}
    (hasked : limiters[paid]? = some asked) :
    (limiters.set paid (acquire.attempt asked cancelled now).2).map (·.revision) =
      limiters.map (·.revision) := by
  have hrevision := (acquire.debits_attempt asked cancelled now).revision_eq
  refine List.ext_getElem? fun i => ?_
  rw [List.getElem?_map, List.getElem?_map, List.getElem?_set]
  split
  next heq =>
    obtain ⟨hpaid, -⟩ := List.getElem?_eq_some_iff.1 hasked
    rw [if_pos hpaid, ← heq, hasked, Option.map_some, hrevision, Option.map_some]
  next => rfl

/-- No action of a forwarder replaces the bucket of a limiter. -/
theorem revisions_of_step (h : f.step limiters cancelled now action = some move) :
    move.limiters.map (·.revision) = limiters.map (·.revision) := by
  cases stepped_of_step h with
  | granted hstage hasked | waiting hstage hasked | payFailed hstage hasked =>
    exact revisions_set _ hasked
  | _ => rfl

/-- Every own action takes off effort. -/
theorem effort_step (h : f.step limiters cancelled now action = some move) (hown : action.isOwn)
    (hpay : action = .pay → f.isAboutToPay limiters cancelled now) :
    move.forward.stage.effort move.limiters now < f.stage.effort limiters now := by
  rw [Stage.effort_congr _ (revisions_of_step h)]
  cases stepped_of_step h with
  | granted hstage hasked hprogress =>
    rw [hstage, Stage.effort, hasked, Option.elim_some]
    exact (effort_payingFrom_lt _ _ now).trans_le (Nat.le_add_right ..)
  | @waiting chunk paid acquire next limiter hstage hasked hprogress =>
    have hready := hpay rfl
    have hawake : cancelled ∨ acquire.isAwake limiter now := by
      simpa [isAboutToPay, hstage, hasked] using hready
    -- the bucket stays, so that the next request finds the limiter as this one left it
    have hrevision := (acquire.debits_attempt limiter cancelled now).revision_eq
    have hless := Acquire.effort_attempt hawake hprogress
    simp only [Acquire.effort, next.isAwake_congr hrevision] at hless
    simp only [hstage, Stage.effort, hasked, Option.elim_some, Acquire.effort]
    omega
  | payFailed hstage hasked hprogress =>
    simp only [hstage, Stage.effort]
    omega
  | heeded hcancelled hstage =>
    obtain hstage | ⟨size, rest, hstage⟩ := hstage
    all_goals simp [hstage, Stage.effort]
  | shut fault hstage => simp [hstage, Stage.effort]
  | ended | received | readFailed | tookNone | tookSome | tookAll | writeFailed => cases hown

/-- A forwarder goes on paying at its limiters only. -/
theorem paysWithin_step (h : f.step limiters cancelled now action = some move)
    (hpays : f.stage.PaysWithin limiters.length) :
    move.forward.stage.PaysWithin limiters.length := by
  cases stepped_of_step h with
  | received | granted => exact paysWithin_payingFrom ..
  | waiting hstage => rwa [hstage] at hpays
  | _ => trivial

/-- A cancelled forwarder that has not finished has something to do by itself. -/
theorem exists_own_step (hpays : f.stage.PaysWithin limiters.length) (hopen : f.outcome? = none)
    (now : ℕ) : ∃ action move, action.isOwn ∧
      (action = .pay → f.isAboutToPay limiters true now) ∧
      f.step limiters true now action = some move := by
  cases hstage : f.stage with
  | reading => exact ⟨.heed, _, rfl, by simp, by simp [step, hstage]; rfl⟩
  | paying chunk paid acquire =>
    rw [hstage] at hpays
    have hlimiter := List.getElem?_eq_getElem hpays
    exact ⟨.pay, _, rfl, fun _ => by simp [isAboutToPay, hstage],
      by simp [step, hstage, hlimiter]; rfl⟩
  | writing size rest => exact ⟨.heed, _, rfl, by simp, by simp [step, hstage]; rfl⟩
  | closing outcome => exact ⟨.shut none, _, rfl, by simp, by simp [step, hstage]; rfl⟩
  | finished outcome fault => simp [outcome?, hstage] at hopen

end Forward

end Sluice
