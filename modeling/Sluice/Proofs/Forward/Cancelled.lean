import Sluice.Proofs.Forward.Step
import Sluice.Proofs.Limiter.Acquire

/-!
# Cancelled forwarders

A forwarder that is cancelled pays for nothing more. It may finish the chunk that it has paid for, and
whatever its source and its destination do, it soon comes to an end.

* `Stage.Owes`: a forwarder that pays has something left to pay for;
* `Stage.chunk?`: the chunk that is paid for and on its way to the destination;
* `Forward.cancelled_step`: what a cancelled forwarder can still do;
* `Stage.rank`: a bound on the actions of a cancelled forwarder, which `Forward.rank_step` shows to
  sink with each of them.
-/

namespace Sluice

namespace Stage

/-- A forwarder that pays has a chunk in hand and something left to pay for. -/
def Owes : Stage → Prop
  | .paying chunk _ acquire => 0 < chunk.length ∧ 0 < acquire.remaining
  | _ => True

/-- The size of the chunk that is paid for and not yet written to its end. -/
def chunk? : Stage → Option ℕ
  | .writing size _ => some size
  | _ => none

/-- A bound on what can still happen to a forwarder that is cancelled. -/
def rank : Stage → ℕ
  | .writing _ rest => 4 + rest.length
  | .reading => 3
  | .paying .. => 2
  | .closing _ => 1
  | .finished .. => 0

end Stage

namespace Forward

variable {f : Forward} {limiters : List Limiter} {cancelled : Bool} {now : ℕ} {action : Action}
  {move : Move}

theorem owes_payingFrom {chunk : List UInt8} (h : 0 < chunk.length) (paid count : ℕ) :
    (payingFrom chunk paid count).Owes := by
  rw [payingFrom]
  split
  · exact ⟨h, h⟩
  · trivial

/-- A forwarder asks its limiters for nothing but the rest of a chunk. -/
theorem owes_step (h : f.step limiters cancelled now action = some move) (howes : f.stage.Owes) :
    move.forward.stage.Owes := by
  cases stepped_of_step h with
  | received hstage hne => exact owes_payingFrom (List.length_pos_iff.2 hne) ..
  | granted hstage =>
    rw [hstage] at howes
    exact owes_payingFrom howes.1 ..
  | waiting hstage hl hprogress =>
    rw [hstage] at howes
    exact ⟨howes.1, Acquire.remaining_pos_of_attempt hprogress⟩
  | _ => trivial

/-- A cancelled forwarder pays at no limiter. It carries nothing, or the one chunk that it has paid
for, and it gets no other. -/
theorem cancelled_step (h : f.step limiters true now action = some move) (howes : f.stage.Owes)
    (hpays : 0 < limiters.length) :
    move.limiters = limiters ∧
      (move.carried = 0 ∧ (move.forward.stage.chunk? = none ∨
          move.forward.stage.chunk? = f.stage.chunk?) ∨
        f.stage.chunk? = some move.carried ∧ move.forward.stage.chunk? = none) := by
  cases stepped_of_step h with
  | @received chunk hstage =>
    rw [payingFrom, if_pos hpays]
    exact ⟨rfl, .inl ⟨rfl, .inl rfl⟩⟩
  | granted hstage hl hprogress | waiting hstage hl hprogress =>
    rw [hstage] at howes
    simp [Acquire.attempt_of_cancelled howes.2] at hprogress
  | @payFailed chunk paid acquire l error hstage hl hprogress =>
    rw [hstage] at howes
    -- the limiter that was asked is put back as it was
    rw [Acquire.attempt_of_cancelled howes.2]
    refine ⟨?_, .inl ⟨rfl, .inl rfl⟩⟩
    obtain ⟨hpaid, rfl⟩ := List.getElem?_eq_some_iff.1 hl
    exact List.set_getElem_self hpaid
  | tookSome hstage =>
    exact ⟨rfl, .inl ⟨rfl, .inr (by rw [hstage]; rfl)⟩⟩
  | tookAll hstage => exact ⟨rfl, .inr ⟨by rw [hstage]; rfl, rfl⟩⟩
  | _ => exact ⟨rfl, .inl ⟨rfl, .inl rfl⟩⟩

/-- Whatever happens to a cancelled forwarder brings it nearer to its end. -/
theorem rank_step (h : f.step limiters true now action = some move) (howes : f.stage.Owes)
    (hpays : 0 < limiters.length) : move.forward.stage.rank < f.stage.rank := by
  cases stepped_of_step h with
  | received hstage =>
    rw [payingFrom, if_pos hpays, hstage]
    exact Nat.lt_succ_self 2
  | granted hstage hl hprogress | waiting hstage hl hprogress =>
    rw [hstage] at howes
    simp [Acquire.attempt_of_cancelled howes.2] at hprogress
  | tookSome hstage hpos hlt =>
    rw [hstage]
    simp only [Stage.rank, List.length_drop]
    omega
  | tookNone hstage | tookAll hstage | writeFailed fault hstage =>
    rw [hstage]
    simp only [Stage.rank]
    omega
  | heeded hcancelled hstage =>
    obtain hstage | ⟨size, rest, hstage⟩ := hstage
    all_goals
      rw [hstage]
      simp only [Stage.rank]
      omega
  | ended hstage | readFailed fault hstage | payFailed hstage | shut fault hstage =>
    rw [hstage]
    simp [Stage.rank]

end Forward

end Sluice
