import Mathlib.Data.Nat.Notation
import Sluice.Forward

/-!
# What can happen to a forwarder

Every action that can happen to a forwarder changes it in one of a few ways, each in one stage. This
file lists them; the properties of a forwarder follow by cases.

* `Forward.Stepped f limiters cancelled now action move`: a row for each way;
* `Forward.stepped_of_step`: there are no others.
-/

namespace Sluice.Forward

open Net (IoFault)

/-- The ways in which an action changes a forwarder. -/
inductive Stepped (f : Forward) (limiters : List Limiter) (cancelled : Bool) (now : ℕ) :
    Action → Move → Prop
  /-- The source is at its end. -/
  | ended (hstage : f.stage = .reading) :
      Stepped f limiters cancelled now (.received [])
        ⟨⟨f.total, .closing (.ok f.total)⟩, limiters, [], 0⟩
  /-- The source delivers a chunk. -/
  | received {chunk : List UInt8} (hstage : f.stage = .reading) (hne : chunk ≠ [])
      (hle : chunk.length ≤ chunkSize) :
      Stepped f limiters cancelled now (.received chunk)
        ⟨⟨f.total, payingFrom chunk 0 limiters.length⟩, limiters, [], 0⟩
  | readFailed (fault : IoFault) (hstage : f.stage = .reading) :
      Stepped f limiters cancelled now (.readFailed fault)
        ⟨⟨f.total, .closing (.error (.io fault))⟩, limiters, [], 0⟩
  /-- The chunk is paid for at one more limiter. -/
  | granted {chunk : List UInt8} {paid : ℕ} {acquire : Acquire} {l : Limiter}
      (hstage : f.stage = .paying chunk paid acquire) (hl : limiters[paid]? = some l)
      (hprogress : (acquire.attempt l cancelled now).1 = .granted) :
      Stepped f limiters cancelled now .pay
        ⟨⟨f.total, payingFrom chunk (paid + 1) limiters.length⟩,
          limiters.set paid (acquire.attempt l cancelled now).2, [], 0⟩
  /-- The limiter is to be asked again. -/
  | waiting {chunk : List UInt8} {paid : ℕ} {acquire next : Acquire} {l : Limiter}
      (hstage : f.stage = .paying chunk paid acquire) (hl : limiters[paid]? = some l)
      (hprogress : (acquire.attempt l cancelled now).1 = .waiting next) :
      Stepped f limiters cancelled now .pay
        ⟨⟨f.total, .paying chunk paid next⟩,
          limiters.set paid (acquire.attempt l cancelled now).2, [], 0⟩
  | payFailed {chunk : List UInt8} {paid : ℕ} {acquire : Acquire} {l : Limiter}
      {error : TunnelError}
      (hstage : f.stage = .paying chunk paid acquire) (hl : limiters[paid]? = some l)
      (hprogress : (acquire.attempt l cancelled now).1 = .failed error) :
      Stepped f limiters cancelled now .pay
        ⟨⟨f.total, .closing (.error error)⟩,
          limiters.set paid (acquire.attempt l cancelled now).2, [], 0⟩
  /-- The destination takes nothing, which is an error. -/
  | tookNone {size : ℕ} {rest : List UInt8} (hstage : f.stage = .writing size rest) :
      Stepped f limiters cancelled now (.took 0)
        ⟨⟨f.total, .closing (.error (.io .writeZero))⟩, limiters, [], 0⟩
  /-- The destination takes some of the bytes. -/
  | tookSome {size count : ℕ} {rest : List UInt8} (hstage : f.stage = .writing size rest)
      (hpos : 0 < count) (hlt : count < rest.length) :
      Stepped f limiters cancelled now (.took count)
        ⟨⟨f.total, .writing size (rest.drop count)⟩, limiters, rest.take count, 0⟩
  /-- The destination takes the last bytes of the chunk. -/
  | tookAll {size : ℕ} {rest : List UInt8} (hstage : f.stage = .writing size rest) :
      Stepped f limiters cancelled now (.took rest.length)
        ⟨⟨f.total + size, .reading⟩, limiters, rest, size⟩
  | writeFailed {size : ℕ} {rest : List UInt8} (fault : IoFault)
      (hstage : f.stage = .writing size rest) :
      Stepped f limiters cancelled now (.writeFailed fault)
        ⟨⟨f.total, .closing (.error (.io fault))⟩, limiters, [], 0⟩
  /-- The forwarder notices in the middle of its work that it is cancelled. -/
  | heeded (hcancelled : cancelled = true)
      (hstage : f.stage = .reading ∨ ∃ size rest, f.stage = .writing size rest) :
      Stepped f limiters cancelled now .heed
        ⟨⟨f.total, .closing (.error .cancelled)⟩, limiters, [], 0⟩
  | shut {outcome : Outcome} (fault : Option IoFault) (hstage : f.stage = .closing outcome) :
      Stepped f limiters cancelled now (.shut fault)
        ⟨⟨f.total, .finished outcome fault⟩, limiters, [], 0⟩

/-- Whatever happens to a forwarder happens in one of these ways. -/
theorem stepped_of_step {f : Forward} {limiters : List Limiter} {cancelled : Bool} {now : ℕ}
    {action : Action} {move : Move} (h : f.step limiters cancelled now action = some move) :
    Stepped f limiters cancelled now action move := by
  cases action with
  | received bytes =>
    simp only [step] at h
    split at h
    next hstage =>
      split at h
      next hempty =>
        cases h
        obtain rfl : bytes = [] := by simpa using hempty
        exact .ended hstage
      next hne =>
        obtain ⟨hle, h⟩ := Option.ite_none_right_eq_some.1 h
        cases h
        exact .received hstage (by simpa using hne) hle
    next => cases h
  | readFailed fault =>
    simp only [step] at h
    split at h <;> cases h
    exact .readFailed fault ‹_›
  | pay =>
    simp only [step] at h
    split at h
    next chunk paid acquire hstage =>
      split at h
      · cases h
      next l hl =>
        cases h
        cases hprogress : (acquire.attempt l cancelled now).1 with
        | granted => exact .granted hstage hl hprogress
        | failed error => exact .payFailed hstage hl hprogress
        | waiting next => exact .waiting hstage hl hprogress
    next => cases h
  | took count =>
    simp only [step] at h
    split at h
    next size rest hstage =>
      -- more bytes than were offered cannot be taken
      split at h
      next hzero =>
        cases h
        subst hzero
        exact .tookNone hstage
      next hpos =>
        split at h
        next hlt =>
          cases h
          exact .tookSome hstage (Nat.pos_of_ne_zero hpos) hlt
        next =>
          split at h
          next hall =>
            cases h
            subst hall
            exact .tookAll hstage
          next => cases h
    next => cases h
  | writeFailed fault =>
    simp only [step] at h
    split at h <;> cases h
    exact .writeFailed fault ‹_›
  | heed =>
    simp only [step] at h
    split at h
    next hcancelled =>
      -- a forwarder that pays is told by the limiter, and one that closes is not told any more
      split at h <;> cases h
      next hstage => exact .heeded hcancelled (.inl hstage)
      next size rest hstage => exact .heeded hcancelled (.inr ⟨size, rest, hstage⟩)
    next => cases h
  | shut fault =>
    simp only [step] at h
    split at h <;> cases h
    exact .shut fault ‹_›

variable {f : Forward} {limiters : List Limiter} {cancelled : Bool} {now : ℕ} {action : Action}
  {move : Move}

/-- No limiter comes or goes. -/
theorem length_limiters_of_step (h : f.step limiters cancelled now action = some move) :
    move.limiters.length = limiters.length := by
  cases stepped_of_step h <;> simp

/-- The bytes counted are added to the total of the forwarder. -/
theorem total_of_step (h : f.step limiters cancelled now action = some move) :
    move.forward.total = f.total + move.carried := by
  cases stepped_of_step h <;> rfl

/-- A forwarder whose work has ended can only close its destination. -/
theorem step_isSome_of_closing {outcome : Outcome} (h : f.stage = .closing outcome) :
    (f.step limiters cancelled now action).isSome ↔ ∃ fault, action = .shut fault := by
  cases action <;> simp [step, h]

/-- Nothing happens to a forwarder that has finished. -/
theorem step_of_outcome? (h : f.outcome?.isSome) :
    f.step limiters cancelled now action = none := by
  unfold outcome? at h
  split at h
  next hstage => cases action <;> simp [step, hstage]
  next => cases h

/-- A forwarder finishes by closing its destination, and by nothing else. -/
theorem outcome?_of_step (h : f.step limiters cancelled now action = some move) :
    f.outcome? = none ∧
      ((∀ fault, action ≠ .shut fault) ∧ move.forward.outcome? = none ∨
        ∃ outcome fault, action = .shut fault ∧ f.stage = .closing outcome ∧
          move.forward.outcome? = some (outcome, fault)) := by
  refine ⟨?_, ?_⟩
  · cases hdone : f.outcome? with
    | none => rfl
    | some ended => cases h.symm.trans (step_of_outcome? (by rw [hdone]; rfl))
  · cases stepped_of_step h with
    | shut fault hstage => exact .inr ⟨_, fault, rfl, hstage, rfl⟩
    | received | granted =>
      refine .inl ⟨nofun, ?_⟩
      simp only [payingFrom]
      split <;> rfl
    | _ => exact .inl ⟨nofun, rfl⟩

end Sluice.Forward
