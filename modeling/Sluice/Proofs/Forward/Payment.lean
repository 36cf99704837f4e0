import Sluice.Proofs.Forward.Step
import Sluice.Proofs.Limiter.Acquire

/-!
# Paying before writing

A forwarder hands nothing to its destination that was not debited before at each of its limiters.

* `Forward.prepaid f i`: the bytes that the forwarder has paid for at its limiter `i` and has not
  yet handed over;
* `Forward.debited`: the bytes that an action debits at each limiter;
* `Forward.pays_of_step`: whatever happens, the bytes handed over, with those prepaid afterwards,
  are at most those prepaid before and those debited meanwhile.
-/

namespace Sluice

/-- The bytes of a stage that are paid for at limiter `i`. While a forwarder pays, it has paid for
the whole chunk at the first limiters, for a part of it at the next one, and for nothing at the
others. -/
def Stage.prepaid (i : ℕ) : Stage → ℕ
  | .paying chunk paid acquire =>
    if i < paid then chunk.length
    else if i = paid then chunk.length - acquire.remaining
    else 0
  | .writing _ rest => rest.length
  | _ => 0

/-- At each limiter no more is prepaid than at the one before it. -/
theorem Stage.prepaid_anti (stage : Stage) {i j : ℕ} (hij : i ≤ j) :
    stage.prepaid j ≤ stage.prepaid i := by
  cases stage with
  | paying chunk paid acquire =>
    simp only [prepaid]
    split_ifs <;> omega
  | _ => exact le_rfl

namespace Forward

variable {f : Forward} {limiters : List Limiter} {cancelled : Bool} {now i : ℕ} {action : Action}
  {move : Move} {l : Limiter}

/-- The bytes that the forwarder has paid for at limiter `i` and has not yet handed over. -/
def prepaid (f : Forward) (i : ℕ) : ℕ := f.stage.prepaid i

/-- A forwarder that has paid for its chunk at the first limiters has paid for all of it there, and
for nothing at the others. -/
theorem prepaid_payingFrom {count : ℕ} (chunk : List UInt8) (paid : ℕ) (hi : i < count) :
    (payingFrom chunk paid count).prepaid i = if i < paid then chunk.length else 0 := by
  rw [payingFrom]
  split
  · simp [Stage.prepaid]
  next hcount =>
    have hpaid : i < paid := by omega
    simp [Stage.prepaid, hpaid]

/-- The bytes that an action debits at limiter `i`. -/
def debited (f : Forward) (limiters : List Limiter) (cancelled : Bool) (now : ℕ)
    (action : Action) (i : ℕ) : ℕ :=
  match f.stage, action with
  | .paying _ paid acquire, .pay =>
    if i = paid then
      limiters[paid]?.elim 0 fun l => acquire.paid (acquire.attempt l cancelled now).1
    else 0
  | _, _ => 0

/-- A request debits what it pays at the limiter that is asked, and nothing at the others. -/
theorem debits_set (acquire : Acquire) {paid : ℕ} {asked : Limiter}
    (hasked : limiters[paid]? = some asked) (hl : limiters[i]? = some l) :
    ∃ after, (limiters.set paid (acquire.attempt asked cancelled now).2)[i]? = some after ∧
      l.Debits now (if i = paid then acquire.paid (acquire.attempt asked cancelled now).1 else 0)
        after := by
  by_cases hi : i = paid
  · subst hi
    obtain rfl : l = asked := Option.some.inj (hl.symm.trans hasked)
    have hlt := (List.getElem?_eq_some_iff.1 hl).1
    rw [if_pos rfl]
    exact ⟨_, List.getElem?_set_self hlt, acquire.debits_attempt l cancelled now⟩
  · rw [if_neg hi, List.getElem?_set_ne (Ne.symm hi)]
    exact ⟨l, hl, .inl ⟨rfl, rfl⟩⟩

/-- Nothing else happens to the limiters of a forwarder. -/
theorem debits_of_step (h : f.step limiters cancelled now action = some move)
    (hl : limiters[i]? = some l) :
    ∃ after, move.limiters[i]? = some after ∧
      l.Debits now (f.debited limiters cancelled now action i) after := by
  cases stepped_of_step h with
  | granted hstage hasked | waiting hstage hasked | payFailed hstage hasked =>
    simp only [debited, hstage, hasked, Option.elim_some]
    exact debits_set _ hasked hl
  | heeded hcancelled hstage =>
    obtain hstage | ⟨size, rest, hstage⟩ := hstage
    all_goals
      simp only [debited, hstage]
      exact ⟨l, hl, .inl ⟨rfl, rfl⟩⟩
  | ended hstage | received hstage | readFailed fault hstage | tookNone hstage | tookSome hstage
  | tookAll hstage | writeFailed fault hstage | shut fault hstage =>
    simp only [debited, hstage]
    exact ⟨l, hl, .inl ⟨rfl, rfl⟩⟩

/-- Whatever happens to a forwarder, the bytes handed over and those prepaid afterwards were prepaid
before or are debited now. -/
theorem pays_of_step (h : f.step limiters cancelled now action = some move)
    (hl : limiters[i]? = some l) :
    ∃ n after, move.limiters[i]? = some after ∧ l.Debits now n after ∧
      move.delivered.length + move.forward.prepaid i ≤ f.prepaid i + n := by
  have hi : i < limiters.length := (List.getElem?_eq_some_iff.1 hl).1
  obtain ⟨after, hafter, hdebits⟩ := debits_of_step h hl
  refine ⟨_, after, hafter, hdebits, ?_⟩
  cases stepped_of_step h with
  | received hstage hne hle =>
    rw [prepaid, prepaid_payingFrom _ 0 hi]
    simp
  | granted hstage hasked hprogress =>
    -- the request paid for all that was left of the chunk
    rw [prepaid, prepaid_payingFrom _ _ hi]
    simp only [prepaid, Stage.prepaid, debited, hstage, hasked, Option.elim_some, hprogress,
      Acquire.paid, List.length_nil]
    split_ifs <;> omega
  | waiting hstage hasked hprogress =>
    simp only [prepaid, Stage.prepaid, debited, hstage, hasked, Option.elim_some, hprogress,
      Acquire.paid, List.length_nil]
    split_ifs <;> omega
  | tookSome hstage hpos hlt =>
    simp only [prepaid, Stage.prepaid, hstage, List.length_take, List.length_drop]
    omega
  | tookAll hstage => simp [prepaid, Stage.prepaid, hstage]
  | _ => exact Nat.zero_le _

/-- A forwarder that has finished holds nothing. -/
theorem prepaid_of_outcome? {outcome : Outcome} {fault : Option Net.IoFault}
    (h : f.outcome? = some (outcome, fault)) (i : ℕ) : f.prepaid i = 0 := by
  rw [outcome?] at h
  split at h
  next hstage => simp [prepaid, hstage, Stage.prepaid]
  next => cases h

end Forward

end Sluice
