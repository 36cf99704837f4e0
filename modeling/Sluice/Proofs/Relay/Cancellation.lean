import Sluice.Proofs.Forward.Cancelled
import Sluice.Proofs.Forward.Effort
import Sluice.Proofs.Limiter.Bill
import Sluice.Proofs.Relay.Lane

/-!
# Forwarders that are cancelled

From the moment in which it is cancelled, a forwarder pays nothing. It may write the rest of a chunk
that is paid for at all its limiters, and nothing else, and it ends before any time passes. None of
this depends on what its source and its destination do, on who else pays at its limiters, or on
which of several actions comes first.

* `Stage.owed`: the bytes that are paid for and not yet written;
* `Lane.Explains`: an outcome is that of a cancelled forwarder, or comes from the streams;
* `Lane.Ends`: the forwarder comes to its end by itself, and at once;
* `Lane.Halts`: all that is said of a forwarder that is cancelled at some moment of a run, which
  `Lane.halts_of_run` shows of every run and every moment.
-/

namespace Sluice

/-! ## Stages -/

namespace Stage

/-- The bytes that are paid for at every limiter and that the destination has not yet taken. -/
def owed : Stage → List UInt8
  | .writing _ rest => rest
  | _ => []

/-- How the work has ended. -/
def result? : Stage → Option Outcome
  | .closing outcome => some outcome
  | .finished outcome _ => some outcome
  | _ => none

@[simp] theorem owed_payingFrom_of_pos (chunk : List UInt8) {count : ℕ} (h : 0 < count) :
    (Forward.payingFrom chunk 0 count).owed = [] := by
  rw [Forward.payingFrom, if_pos h]
  rfl

@[simp] theorem result?_payingFrom (chunk : List UInt8) (paid count : ℕ) :
    (Forward.payingFrom chunk paid count).result? = none := by
  rw [Forward.payingFrom]
  split <;> rfl

end Stage

namespace Forward

/-- The outcome to which an action of the source or of the destination leads. -/
def Action.stops? (total : ℕ) : Action → Option Outcome
  | .received [] => some (.ok total)
  | .readFailed fault => some (.error (.io fault))
  | .writeFailed fault => some (.error (.io fault))
  | .took 0 => some (.error (.io .writeZero))
  | _ => none

variable {f : Forward} {limiters : List Limiter} {cancelled : Bool} {now : ℕ} {action : Action}
  {move : Move} {outcome : Outcome}

theorem result?_of_outcome? {fault : Option Net.IoFault}
    (h : f.outcome? = some (outcome, fault)) : f.stage.result? = some outcome := by
  unfold outcome? at h
  split at h
  next hstage =>
    cases h
    rw [hstage]
    rfl
  next => cases h

/-- Once the work has ended, its outcome stays. -/
theorem result?_of_step (h : f.step limiters cancelled now action = some move)
    (hresult : f.stage.result? = some outcome) :
    move.forward.stage.result? = some outcome ∧ move.forward.total = f.total := by
  cases stepped_of_step h with
  | shut fault hstage =>
    rw [hstage] at hresult
    exact ⟨hresult, rfl⟩
  | heeded hcancelled hstage =>
    obtain hstage | ⟨size, rest, hstage⟩ := hstage
    all_goals
      rw [hstage] at hresult
      cases hresult
  | ended hstage | received hstage | readFailed fault hstage | granted hstage | waiting hstage
  | payFailed hstage | tookNone hstage | tookSome hstage | tookAll hstage
  | writeFailed fault hstage =>
    rw [hstage] at hresult
    cases hresult

/-- The work ends because the forwarder is cancelled, or because of its source or its destination;
never because of a limiter. -/
theorem ends_of_step (h : f.step limiters cancelled now action = some move)
    (hfits : ∀ l ∈ limiters, l.Fits) (hgoing : f.stage.result? = none)
    (hresult : move.forward.stage.result? = some outcome) :
    outcome = .error .cancelled ∨ action.stops? move.forward.total = some outcome := by
  cases stepped_of_step h with
  | ended | readFailed | tookNone | writeFailed => exact .inr hresult
  | heeded =>
    cases hresult
    exact .inl rfl
  | payFailed hstage hl hprogress =>
    obtain ⟨rfl, -⟩ :=
      Acquire.eq_cancelled_of_failed (hfits _ (List.mem_of_getElem? hl)) hprogress
    cases hresult
    exact .inl rfl
  | shut fault hstage =>
    rw [hstage] at hgoing
    cases hgoing
  | received | granted => simp at hresult
  | waiting | tookSome | tookAll => cases hresult

/-- A forwarder that is cancelled debits nothing. -/
theorem debited_of_cancelled (howes : f.stage.Owes) (i : ℕ) :
    f.debited limiters true now action i = 0 := by
  unfold debited
  split
  next chunk paid acquire hstage =>
    rw [hstage] at howes
    split
    · cases limiters[paid]? with
      | none => rfl
      | some l => rw [Option.elim_some, Acquire.attempt_of_cancelled howes.2, Acquire.paid]
    · rfl
  · rfl

/-- What a cancelled forwarder writes is paid for already. -/
theorem drains_of_step {t : Traffic} (h : f.step limiters true now action = some move)
    (howes : f.stage.Owes) (hpays : 0 < limiters.length) :
    (t.note f action).written ++ move.forward.stage.owed <+: t.written ++ f.stage.owed := by
  rw [Traffic.written_note h]
  cases stepped_of_step h with
  | received => simp [Stage.owed_payingFrom_of_pos _ hpays]
  | granted hstage hl hprogress | waiting hstage hl hprogress =>
    rw [hstage] at howes
    simp [Acquire.attempt_of_cancelled howes.2] at hprogress
  | tookSome hstage | tookAll hstage => simp [hstage, Stage.owed]
  | _ => simp [Stage.owed]

end Forward

/-- What is paid for and not yet written is the rest of a chunk that was read. -/
theorem Traffic.Fits.owed {t : Traffic} {f : Forward} (h : t.Fits f) :
    t.written ++ f.stage.owed <+: t.read ∧ f.stage.owed.length ≤ chunkSize := by
  cases hstage : f.stage with
  | writing size rest =>
    have hflows : t.Flows f.total size rest := by
      rw [Fits, hstage] at h
      exact h
    refine ⟨?_, hflows.length_pending_le.trans hflows.size_le⟩
    rw [hflows.read_eq]
    exact List.prefix_rfl
  | _ =>
    refine ⟨?_, Nat.zero_le _⟩
    change t.written ++ [] <+: t.read
    rw [List.append_nil]
    exact h.carried.1

/-- Each limiter has debited what is written and what is paid for. -/
theorem Forward.Settled.owed_le {debits : ℕ → ℕ} {t : Traffic} {f : Forward} {count : ℕ}
    (h : Settled debits t f count) (hfits : t.Fits f) :
    ∀ i < count, t.written.length + f.stage.owed.length ≤ debits i := by
  intro i hi
  cases hstage : f.stage with
  | writing size rest =>
    simp only [Settled, hstage] at h
    exact (h.2 i hi).ge
  | _ => exact (h.falls hfits).written_le i hi

/-! ## Lanes -/

namespace Lane

variable {lane next after : Lane} {now : ℕ} {action : Action} {later : Schedule Action}
  {t t₀ : Traffic} {owed : List UInt8} {outcome : Outcome}

/-- The action is one of the forwarder. -/
def Action.isWork : Action → Bool
  | .work _ => true
  | _ => false

@[simp] theorem Action.isWork_work (work : Forward.Action) : (Action.work work).isWork = true := rfl

/-- The outcome is that of a cancelled forwarder, or one of the actions of the source and of the
destination led to it. -/
def Explains (actions : Schedule Action) (total : ℕ) (outcome : Outcome) : Prop :=
  outcome = .error .cancelled ∨
    ∃ now action, (now, .work action) ∈ actions ∧ action.stops? total = some outcome

/-- The forwarder has limiters, whose buckets hold a burst each. If it pays, then at one of them, for
the rest of a chunk. -/
structure Proper (lane : Lane) : Prop where
  length_pos : 0 < lane.limiters.length
  fits : ∀ l ∈ lane.limiters, l.Fits
  pays : lane.forward.stage.PaysWithin lane.limiters.length
  owes : lane.forward.stage.Owes

/-- Whatever happens, every bucket goes on to hold a burst. -/
theorem fits_step (hfits : ∀ l ∈ lane.limiters, l.Fits) (h : lane.step now action = some next) :
    ∀ l ∈ next.limiters, l.Fits := by
  intro l hmem
  cases action with
  | work action =>
    obtain ⟨move, hmove, rfl⟩ := Option.map_eq_some_iff.1 h
    obtain ⟨i, hi⟩ := List.mem_iff_getElem?.1 hmem
    have hlt : i < lane.limiters.length := by
      rw [← Forward.length_limiters_of_step hmove]
      exact (List.getElem?_eq_some_iff.1 hi).1
    obtain ⟨after, hafter, hdebits⟩ :=
      Forward.debits_of_step hmove (List.getElem?_eq_getElem hlt)
    cases hafter.symm.trans hi
    exact (hfits _ (List.getElem_mem hlt)).debits hdebits
  | cancel =>
    cases h
    exact hfits l hmem
  | setRate i rate =>
    cases h
    obtain ⟨j, hj⟩ := List.mem_iff_getElem?.1 hmem
    rw [List.getElem?_modify] at hj
    obtain ⟨before, hbefore, rfl⟩ := Option.map_eq_some_iff.1 hj
    have hbefore := hfits before (List.mem_of_getElem? hbefore)
    split
    · exact hbefore.setRate now rate
    · exact hbefore
  | debit i bytes =>
    obtain ⟨limiter, hlimiter, h⟩ := Option.bind_eq_some_iff.1 h
    split at h <;> cases h
    next after hdebit =>
      rcases List.mem_or_eq_of_mem_set hmem with hmem | rfl
      · exact hfits l hmem
      · exact (hfits limiter (List.mem_of_getElem? hlimiter)).of_debit hdebit

/-- An action is one of the forwarder, or leaves it alone. -/
theorem forward_step (h : lane.step now action = some next) :
    (∃ work move, action = .work work ∧
        lane.forward.step lane.limiters lane.cancelled now work = some move ∧
        next.forward = move.forward ∧ next.limiters = move.limiters ∧
        next.cancelled = lane.cancelled) ∨
      action.isWork = false ∧ next.forward = lane.forward ∧
        next.limiters.length = lane.limiters.length ∧
        (lane.cancelled = true → next.cancelled = true) := by
  cases action with
  | work work =>
    obtain ⟨move, hmove, rfl⟩ := Option.map_eq_some_iff.1 h
    exact .inl ⟨work, move, rfl, hmove, rfl, rfl, rfl⟩
  | cancel =>
    cases h
    exact .inr ⟨rfl, rfl, rfl, fun _ => rfl⟩
  | setRate i rate =>
    cases h
    exact .inr ⟨rfl, rfl, List.length_modify .., id⟩
  | debit i bytes =>
    obtain ⟨limiter, -, h⟩ := Option.bind_eq_some_iff.1 h
    split at h <;> cases h
    exact .inr ⟨rfl, rfl, List.length_set, id⟩

theorem Proper.step (h : lane.Proper) (hs : lane.step now action = some next) : next.Proper := by
  have hfits := fits_step h.fits hs
  rcases forward_step hs with ⟨work, move, -, hmove, hforward, hlimiters, -⟩ |
      ⟨-, hforward, hlength, -⟩
  · have hlength := Forward.length_limiters_of_step hmove
    refine ⟨?_, hfits, ?_, ?_⟩
    · rw [hlimiters, hlength]
      exact h.length_pos
    · rw [hforward, hlimiters, hlength]
      exact Forward.paysWithin_step hmove h.pays
    · rw [hforward]
      exact Forward.owes_step hmove h.owes
  · refine ⟨hlength ▸ h.length_pos, hfits, ?_, ?_⟩
    · rw [hforward, hlength]
      exact h.pays
    · rw [hforward]
      exact h.owes

/-- The forwarder of the lane is cancelled. -/
structure Cancelled (lane : Lane) : Prop where
  proper : lane.Proper
  cancelled : lane.cancelled = true

theorem Cancelled.step (h : lane.Cancelled) (hs : lane.step now action = some next) :
    next.Cancelled := by
  refine ⟨h.proper.step hs, ?_⟩
  rcases forward_step hs with ⟨-, -, -, -, -, -, hcancelled⟩ | ⟨-, -, -, hcancelled⟩
  · exact hcancelled.trans h.cancelled
  · exact hcancelled h.cancelled

/-- A forwarder that is cancelled debits nothing. -/
theorem Cancelled.debited_eq_zero (h : lane.Cancelled) (i now : ℕ) (action : Action) :
    lane.debited i now action = 0 := by
  cases action with
  | work action =>
    rw [debited, h.cancelled]
    exact Forward.debited_of_cancelled h.proper.owes i
  | _ => rfl

/-- It leaves its limiters as they are. -/
theorem Cancelled.limiters_eq (h : lane.Cancelled) {work : Forward.Action}
    (hs : lane.step now (.work work) = some next) : next.limiters = lane.limiters := by
  obtain ⟨move, hmove, rfl⟩ := Option.map_eq_some_iff.1 hs
  rw [h.cancelled] at hmove
  exact (Forward.cancelled_step hmove h.proper.owes h.proper.length_pos).1

/-- Whatever it does brings it nearer to its end, and nobody else takes it further away. -/
theorem Cancelled.rank_step (h : lane.Cancelled) (hs : lane.step now action = some next) :
    (if action.isWork then 1 else 0) + next.forward.stage.rank ≤ lane.forward.stage.rank := by
  rcases forward_step hs with ⟨work, move, rfl, hmove, hforward, -⟩ | ⟨hwork, hforward, -⟩
  · rw [h.cancelled] at hmove
    have hlt := Forward.rank_step hmove h.proper.owes h.proper.length_pos
    rw [hforward, if_pos (Action.isWork_work work)]
    omega
  · rw [hforward, if_neg (by simp [hwork]), Nat.zero_add]

/-- The forwarder comes to its end by itself: no bytes have to come or go, and no time passes. -/
structure Ends (lane : Lane) : Prop where
  /-- Until it has finished, it has something to do that waits for nothing. -/
  going : lane.forward.outcome? = none → ∀ now, ∃ action, action.isOwn ∧
    (action = .pay → lane.forward.isAboutToPay lane.limiters lane.cancelled now) ∧
      (lane.step now (.work action)).isSome
  /-- Whatever happens from now on, it works only so often. -/
  bounded : ∀ later after, Schedule.run step lane later = some after →
    later.countP (·.2.isWork) + after.forward.stage.rank ≤ lane.forward.stage.rank
  /-- At any instant it may end, by nothing but its own doing. -/
  at_once : ∀ now, ∃ later after, Schedule.run step lane later = some after ∧
    (∀ entry ∈ later, entry.1 = now ∧ ∃ action, entry.2 = .work action ∧ action.isOwn) ∧
    after.forward.outcome?.isSome

theorem Cancelled.exists_own_step (h : lane.Cancelled) (hgoing : lane.forward.outcome? = none)
    (now : ℕ) : ∃ action next, action.isOwn ∧
      (action = .pay → lane.forward.isAboutToPay lane.limiters lane.cancelled now) ∧
      lane.step now (.work action) = some next := by
  obtain ⟨action, move, hown, hpay, hmove⟩ := Forward.exists_own_step h.proper.pays hgoing now
  refine ⟨action, _, hown, ?_, Option.map_eq_some_iff.2 ⟨move, ?_, rfl⟩⟩
  · rwa [h.cancelled]
  · rwa [h.cancelled]

theorem Cancelled.countP_add_rank_le (h : lane.Cancelled)
    (hrun : Schedule.run Lane.step lane later = some after) :
    later.countP (·.2.isWork) + after.forward.stage.rank ≤ lane.forward.stage.rank := by
  induction later generalizing lane with
  | nil =>
    cases hrun
    exact (Nat.zero_add _).le
  | cons head rest ih =>
    rw [Schedule.run] at hrun
    split at hrun
    · cases hrun
    next next hnext =>
      have hrest := ih (h.step hnext) hrun
      have hhead := h.rank_step hnext
      rw [List.countP_cons]
      omega

theorem Cancelled.exists_run (h : lane.Cancelled) (now : ℕ) :
    ∃ later after, Schedule.run Lane.step lane later = some after ∧
      (∀ entry ∈ later, entry.1 = now ∧ ∃ action, entry.2 = .work action ∧ action.isOwn) ∧
      after.forward.outcome?.isSome := by
  induction hrank : lane.forward.stage.rank using Nat.strong_induction_on generalizing lane with
  | _ rank ih =>
    cases hgoing : lane.forward.outcome? with
    | some ended => exact ⟨[], lane, rfl, nofun, by rw [hgoing]; rfl⟩
    | none =>
      obtain ⟨action, next, hown, -, hnext⟩ := h.exists_own_step hgoing now
      have hlt := h.rank_step hnext
      rw [if_pos (Action.isWork_work action), hrank] at hlt
      obtain ⟨later, after, hrun, hlater, hended⟩ := ih _ (by omega) (h.step hnext) rfl
      refine ⟨(now, .work action) :: later, after, ?_, ?_, hended⟩
      · rw [Schedule.run]
        simp only [hnext, hrun]
      · exact List.forall_mem_cons.2 ⟨⟨rfl, action, rfl, hown⟩, hlater⟩

theorem Cancelled.ends (h : lane.Cancelled) : lane.Ends where
  going hgoing now := by
    obtain ⟨action, next, hown, hpay, hnext⟩ := h.exists_own_step hgoing now
    exact ⟨action, hown, hpay, by rw [hnext]; rfl⟩
  bounded _ _ hrun := h.countP_add_rank_le hrun
  at_once now := h.exists_run now

/-! ## How the work ends -/

/-- The lane is as it should be, and if the work has ended, one of the actions led to that. -/
structure Explained (actions : Schedule Action) (lane : Lane) : Prop where
  proper : lane.Proper
  explains : ∀ outcome, lane.forward.stage.result? = some outcome →
    Explains actions lane.forward.total outcome

theorem Explained.step {actions : Schedule Action} (h : lane.Explained actions)
    (hmem : (now, action) ∈ actions) (hs : lane.step now action = some next) :
    next.Explained actions := by
  refine ⟨h.proper.step hs, fun outcome hresult => ?_⟩
  rcases forward_step hs with ⟨work, move, rfl, hmove, hforward, -⟩ | ⟨-, hforward, -⟩
  · rw [hforward] at hresult ⊢
    cases hended : lane.forward.stage.result? with
    | none =>
      refine (Forward.ends_of_step hmove h.proper.fits hended hresult).imp_right fun hstops => ?_
      exact ⟨now, work, hmem, hstops⟩
    | some ended =>
      obtain ⟨hsame, htotal⟩ := Forward.result?_of_step hmove hended
      cases hsame.symm.trans hresult
      rw [htotal]
      exact h.explains _ hended
  · rw [hforward] at hresult ⊢
    exact h.explains outcome hresult

/-- However a run ends the work of a forwarder, it explains how. -/
theorem explained_of_run (h : lane.Proper) (hgoing : lane.forward.stage.result? = none)
    (hrun : Schedule.run Lane.step lane later = some after) : after.Explained later := by
  have hlane : lane.Explained later := ⟨h, fun outcome hresult => by simp [hgoing] at hresult⟩
  exact Schedule.run_keeps_of_mem (fun _ _ _ _ hmem h hs => h.step hmem hs) hlane hrun

theorem result?_step (hs : lane.step now action = some next)
    (hresult : lane.forward.stage.result? = some outcome) :
    next.forward.stage.result? = some outcome := by
  rcases forward_step hs with ⟨work, move, -, hmove, hforward, -⟩ | ⟨-, hforward, -⟩
  · rw [hforward]
    exact (Forward.result?_of_step hmove hresult).1
  · rwa [hforward]

/-- Once the work has ended, its outcome stays. -/
theorem result?_of_run (hresult : lane.forward.stage.result? = some outcome)
    (hrun : Schedule.run Lane.step lane later = some after) :
    after.forward.stage.result? = some outcome :=
  @Schedule.run_keeps_of_mem _ _ _ (fun lane => lane.forward.stage.result? = some outcome) later
    (fun _ _ _ _ _ h hs => result?_step hs h) _ _ hresult hrun

/-! ## What is still written -/

/-- What was written since a moment is the beginning of what was paid for then, and so it stays
whatever more of it is written. -/
structure Drains (t₀ : Traffic) (owed : List UInt8) (t : Traffic) (lane : Lane) : Prop where
  cancelled : lane.Cancelled
  written_isPrefix : t₀.written <+: t.written
  owed_isPrefix : t.written ++ lane.forward.stage.owed <+: t₀.written ++ owed

theorem Drains.step (h : lane.Drains t₀ owed t) (hs : lane.step now action = some next) :
    next.Drains t₀ owed (note t lane action) := by
  have hcancelled := h.cancelled.step hs
  rcases forward_step hs with ⟨work, move, rfl, hmove, hforward, -⟩ | ⟨hwork, hforward, -⟩
  · have hwritten : (note t lane (.work work)).written = t.written ++ move.delivered :=
      Traffic.written_note hmove
    refine ⟨hcancelled, ?_, ?_⟩
    · rw [hwritten]
      exact h.written_isPrefix.trans (List.prefix_append _ _)
    · rw [h.cancelled.cancelled] at hmove
      have hdrains := Forward.drains_of_step (t := t) hmove h.cancelled.proper.owes
        h.cancelled.proper.length_pos
      rw [hforward]
      exact hdrains.trans h.owed_isPrefix
  · have hnote : note t lane action = t := by
      cases action with
      | work work => cases hwork
      | _ => rfl
    rw [hnote]
    exact ⟨hcancelled, h.written_isPrefix, hforward ▸ h.owed_isPrefix⟩

/-- What is still written is the beginning of what is paid for. -/
theorem Drains.exists_written_eq (h : lane.Drains t₀ owed t) :
    ∃ rest, t.written = t₀.written ++ rest ∧ rest <+: owed := by
  obtain ⟨rest, hrest⟩ := h.written_isPrefix
  refine ⟨rest, hrest.symm, ?_⟩
  have hprefix := (List.prefix_append _ _).trans h.owed_isPrefix
  rw [← hrest] at hprefix
  exact (List.prefix_append_right_inj _).1 hprefix

theorem drains_of_run (h : lane.Cancelled) (t₀ : Traffic)
    (hrun : Schedule.run Lane.step lane later = some after) :
    after.Drains t₀ lane.forward.stage.owed (Schedule.record Lane.step note t₀ lane later) := by
  refine Schedule.record_keeps (Drains t₀ lane.forward.stage.owed) ?_
    ⟨h, List.prefix_rfl, List.prefix_rfl⟩ hrun
  exact fun _ _ _ _ _ h hs => h.step hs

/-! ## All of it -/

/-- A forwarder started on the lane `fresh` and was cancelled on the lane `halted`, when `t` had
passed through it. Then the actions `later` brought it to the lane `after`, when `t'` had passed
through it. -/
structure Halts (fresh halted after : Lane) (before later : Schedule Action) (t t' : Traffic) :
    Prop where
  /-- Since it was cancelled, it debited nothing at any limiter. -/
  debits_eq : ∀ i, Schedule.total step (debited i) halted later = 0
  /-- Whatever it does next leaves the limiters as they are. -/
  limiters_eq : ∀ now work next, after.step now (.work work) = some next →
    next.limiters = after.limiters
  /-- It wrote at most what was paid for and not yet written: -/
  written_eq : ∃ rest, t'.written = t.written ++ rest ∧ rest <+: halted.forward.stage.owed
  /-- that was read before it was cancelled, -/
  owed_isPrefix : t.written ++ halted.forward.stage.owed <+: t.read
  /-- is a part of one chunk, -/
  length_owed_le : halted.forward.stage.owed.length ≤ chunkSize
  /-- and all of it was debited at each limiter before. -/
  owed_le_debits : ∀ i < fresh.limiters.length,
    t.written.length + halted.forward.stage.owed.length ≤
      Schedule.total step (debited i) fresh before
  /-- It ends as cancelled, or as its source or its destination make it end meanwhile. -/
  of_going : halted.forward.stage.result? = none → ∀ outcome fault,
    after.forward.outcome? = some (outcome, fault) →
      Explains later after.forward.total outcome
  /-- If its work had ended before, it ends in the way that was decided then. -/
  of_ended : ∀ ended, halted.forward.stage.result? = some ended →
    Explains before halted.forward.total ended ∧
      ∀ outcome fault, after.forward.outcome? = some (outcome, fault) → outcome = ended
  /-- It comes to its end by itself, and no time passes. -/
  ends : after.Ends

theorem booked_of_run {fresh : Lane} {before : Schedule Action} (hnew : fresh.forward = {})
    (hrun : Schedule.run step fresh before = some lane) :
    Booked fresh (Schedule.record step note {} fresh before)
      (fun i => Schedule.total step (debited i) fresh before) lane := by
  have hbooked : Booked fresh (Schedule.record step note {} fresh before)
      (fun i => 0 + Schedule.total step (debited i) fresh before) lane := by
    refine Schedule.record_total_keeps (Booked fresh) ?_ (booked_new fresh hnew) hrun
    exact fun _ _ _ _ _ _ h hs => h.step hs
  simpa using hbooked

/-- A lane is as it should be at first. -/
theorem proper_new (hnew : lane.forward = {}) (hlimiters : 0 < lane.limiters.length)
    (hfits : ∀ l ∈ lane.limiters, l.Fits) : lane.Proper := by
  refine ⟨hlimiters, hfits, ?_, ?_⟩
  all_goals
    rw [hnew]
    trivial

/-- A forwarder with at least one limiter is cancelled at any moment of any run, whatever its
source, its destination and its limiters do and whatever comes first. From then on nothing is
debited for it; at most the rest of a chunk is written that was paid for at every limiter before,
and nothing that it reads later; and it ends at once, as cancelled or as its source or its
destination make it end at that moment. -/
theorem halts_of_run {fresh lane halted after : Lane} {before later : Schedule Action}
    (hnew : fresh.forward = {}) (hlimiters : 0 < fresh.limiters.length)
    (hfits : ∀ l ∈ fresh.limiters, l.Fits)
    (hbefore : Schedule.run step fresh before = some lane)
    (hcancel : lane.step now .cancel = some halted)
    (hlater : Schedule.run step halted later = some after) :
    Halts fresh halted after before later (Schedule.record step note {} fresh before)
      (Schedule.record step note (Schedule.record step note {} fresh before) halted later) := by
  have hbooked := booked_of_run hnew hbefore
  have hfresh := proper_new hnew hlimiters hfits
  have hproper : lane.Proper :=
    Schedule.run_keeps_of_mem (fun _ _ _ _ _ h hs => h.step hs) hfresh hbefore
  have hcancelled : halted.Cancelled := ⟨hproper.step hcancel, by cases hcancel; rfl⟩
  have hforward : halted.forward = lane.forward := by
    cases hcancel
    rfl
  have hafter : after.Cancelled :=
    Schedule.run_keeps_of_mem (fun _ _ _ _ _ h hs => h.step hs) hcancelled hlater
  have hdrains := drains_of_run hcancelled (Schedule.record step note {} fresh before) hlater
  have howed := hbooked.fits.owed
  rw [← hforward] at howed
  refine ⟨fun i => ?_, fun now work next hs => hafter.limiters_eq hs, hdrains.exists_written_eq,
    howed.1, howed.2, ?_, ?_, ?_, hafter.ends⟩
  · exact Schedule.total_eq_zero Cancelled (fun _ _ _ _ h hs => ⟨h.step hs, h.debited_eq_zero ..⟩)
      hcancelled later
  · rw [hforward]
    exact hbooked.settled.owed_le hbooked.fits
  · intro hgoing outcome fault houtcome
    exact (explained_of_run hcancelled.proper hgoing hlater).explains outcome
      (Forward.result?_of_outcome? houtcome)
  · intro ended hended
    have hresult := result?_of_run hended hlater
    refine ⟨?_, fun outcome fault houtcome => ?_⟩
    · rw [hforward] at hended ⊢
      have hgoing : fresh.forward.stage.result? = none := by
        rw [hnew]
        rfl
      exact (explained_of_run hfresh hgoing hbefore).explains ended hended
    · exact Option.some.inj ((Forward.result?_of_outcome? houtcome).symm.trans hresult)

/-- A new lane with two limiters, the second of which is paused. -/
def secondPaused : Lane where
  limiters := [.make 0 1000 8, .make 0 0 8]
  direction := .upstream

/-- Four bytes are paid for at both limiters, and one of them is written. -/
def oneOfFour : Schedule Action :=
  [(0, .work (.received [1, 2, 3, 4])), (0, .work .pay), (1000000, .work .pay),
    (2000000, .setRate 1 1000), (2000000, .work .pay), (6000000, .work .pay),
    (7000000, .work (.took 1))]

/-- The other three are written after the forwarder was cancelled, and it reads two more. Then the
first limiter tells it. -/
def threeAndTwoMore : Schedule Action :=
  [(7000000, .work (.took 3)), (7000000, .work (.received [5, 6])), (7000000, .debit 0 1),
    (7000000, .work .pay), (7000000, .work (.shut none))]

theorem halts_threeAndTwoMore :
    ∃ lane halted after, secondPaused.forward = {} ∧ 0 < secondPaused.limiters.length ∧
      (∀ l ∈ secondPaused.limiters, l.Fits) ∧
      Schedule.run step secondPaused oneOfFour = some lane ∧
      lane.step 7000000 .cancel = some halted ∧
      Schedule.run step halted threeAndTwoMore = some after ∧
      halted.forward.stage.owed = [2, 3, 4] ∧
      Halts secondPaused halted after oneOfFour threeAndTwoMore
        (Schedule.record step note {} secondPaused oneOfFour)
        (Schedule.record step note (Schedule.record step note {} secondPaused oneOfFour) halted
          threeAndTwoMore) := by
  have hlimiters : 0 < secondPaused.limiters.length := Nat.two_pos
  have hfits : ∀ l ∈ secondPaused.limiters, l.Fits := by
    simp [secondPaused, Limiter.fits_make]
  have hruns : (Schedule.run step secondPaused oneOfFour).any (fun lane =>
      (lane.step 7000000 .cancel).any fun halted =>
        (Schedule.run step halted threeAndTwoMore).isSome &&
          decide (halted.forward.stage.owed = [2, 3, 4])) = true := by
    decide +kernel
  obtain ⟨lane, hlane, hruns⟩ := (Option.any_eq_true _ _).1 hruns
  obtain ⟨halted, hhalted, hruns⟩ := (Option.any_eq_true _ _).1 hruns
  obtain ⟨hafter, howed⟩ := Bool.and_eq_true_iff.1 hruns
  obtain ⟨after, hafter⟩ := Option.isSome_iff_exists.1 hafter
  exact ⟨lane, halted, after, rfl, hlimiters, hfits, hlane, hhalted, hafter,
    of_decide_eq_true howed, halts_of_run rfl hlimiters hfits hlane hhalted hafter⟩

end Lane

end Sluice
