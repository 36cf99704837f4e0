import Sluice.Proofs.Limiter.Chunks
import Sluice.Proofs.Limiter.Crowd

/-!
# The bill of an acquire

Whatever happens to a limiter while an acquire goes on, and whoever else acquires there, no chunk of
the acquire is debited twice, and none is left out.

* `Acquire.Turn`: a turn of an acquire, with what it debits;
* `Acquire.Owes burst bytes turns n`: after the turns the chunks of `n` bytes are left to be paid.
  `Acquire.Owes.turn` says what one more turn makes of that;
* `Crowd.turnsOf number`: the turns of an acquire among all that happens at a limiter;
* `Crowd.Billed`: the debits of an acquire are the first of its chunks, and all of them once it is
  granted. `Crowd.billed_of_run` says so of every acquire at any time of any run.
-/

namespace Sluice

namespace Acquire

/-- A turn of an acquire: one request at the limiter. -/
structure Turn where
  /-- The instant of the turn. -/
  instant : ℕ
  /-- The acquire is cancelled. -/
  cancelled : Bool
  /-- The limiter that is asked. -/
  before : Limiter
  /-- The limiter after the turn. -/
  after : Limiter
  /-- What becomes of the acquire. -/
  progress : Progress
  /-- The bytes that the acquire has fewer to go. -/
  paid : ℕ

/-- The turn of an acquire at an instant. -/
def turn (a : Acquire) (l : Limiter) (cancelled : Bool) (now : ℕ) : Turn :=
  let (progress, after) := a.attempt l cancelled now
  ⟨now, cancelled, l, after, progress, a.paid progress⟩

/-- The result of an acquire that has ended. -/
def Progress.result? : Progress → Option (Except TunnelError Unit)
  | .granted => some (.ok ())
  | .failed error => some (.error error)
  | .waiting _ => none

/-- The turn debits at the limiter what it pays, and no more when the acquire is cancelled. It fails
only for that reason, and unless the acquire is for no bytes: that is granted in any case. -/
structure Turn.Lawful (bytes : ℕ) (turn : Turn) : Prop where
  debits : turn.before.Debits turn.instant turn.paid turn.after
  paid_of_cancelled : turn.cancelled = true → turn.paid = 0
  failed_iff : ∀ error, turn.progress = .failed error ↔
    0 < bytes ∧ turn.cancelled = true ∧ error = .cancelled
  of_zero : bytes = 0 → turn.progress = .granted ∧ turn.paid = 0 ∧ turn.after = turn.before

/-- The debits that are made in the turns. -/
def debits (turns : List Turn) : List ℕ := (turns.map (·.paid)).filter (0 < ·)

/-- The results that the turns come to. -/
def results (turns : List Turn) : List (Except TunnelError Unit) :=
  turns.filterMap (·.progress.result?)

variable {turns later : List Turn}

@[simp] theorem debits_append : debits (turns ++ later) = debits turns ++ debits later := by
  simp [debits]

@[simp] theorem results_append : results (turns ++ later) = results turns ++ results later := by
  simp [results]

/-- What is debited in a turn. -/
theorem debits_singleton (turn : Turn) :
    debits [turn] = if turn.paid = 0 then [] else [turn.paid] := by
  by_cases h : turn.paid = 0 <;> simp [debits, h, Nat.pos_of_ne_zero]

theorem results_singleton (turn : Turn) : results [turn] = turn.progress.result?.toList := by
  cases h : turn.progress.result? <;> simp [results, h]

/-! ## One turn -/

variable {a : Acquire} {l : Limiter} {cancelled : Bool} {now burst bytes n : ℕ}

/-- An acquire of no bytes is granted, even if it is cancelled. -/
theorem attempt_of_zero (h : a.remaining = 0) (l : Limiter) (cancelled : Bool) (now : ℕ) :
    a.attempt l cancelled now = (.granted, l) := by
  rw [attempt, if_pos h]

/-- An acquire that is cancelled pays nothing. -/
theorem paid_turn_of_cancelled (a : Acquire) (l : Limiter) (now : ℕ) :
    (a.turn l true now).paid = 0 := by
  rcases Nat.eq_zero_or_pos a.remaining with hzero | hpos
  · simp only [Acquire.turn, attempt_of_zero hzero, paid, hzero]
  · simp only [Acquire.turn, attempt_of_cancelled hpos, paid]

/-- An acquire is granted only when what remains fits into a burst. -/
theorem remaining_le_of_granted (h : (a.attempt l cancelled now).1 = .granted) :
    a.remaining ≤ l.burst := by
  unfold attempt at h
  split at h
  next hzero => exact hzero ▸ Nat.zero_le _
  · split at h
    · cases h
    · split at h
      · simp only at h
        split at h
        · split at h
          next hall => exact hall ▸ Nat.min_le_right _ _
          · cases h
        all_goals cases h
      · cases h

/-- At a bucket that holds a burst an acquire fails only because it is cancelled. -/
theorem eq_cancelled_of_failed (hl : l.Fits) {error : TunnelError}
    (h : (a.attempt l cancelled now).1 = .failed error) :
    error = .cancelled ∧ cancelled = true ∧ 0 < a.remaining := by
  unfold attempt at h
  split at h
  · cases h
  next hremaining =>
    split at h
    next hcancelled =>
      cases h
      exact ⟨rfl, hcancelled, Nat.pos_of_ne_zero hremaining⟩
    · split at h
      · simp only at h
        split at h
        · split at h <;> cases h
        · cases h
        · cases h
        next hdebit => exact absurd hdebit (hl.debit_ne_oversized (Nat.min_le_right _ _))
      · cases h

/-- What was debited so far and the chunks of what remains are the chunks of the acquire. -/
structure Owes (burst bytes : ℕ) (turns : List Turn) (remaining : ℕ) : Prop where
  chunks_eq : debits turns ++ chunks burst remaining = chunks burst bytes
  bytes_eq_zero : remaining = 0 → bytes = 0

theorem Owes.sum_eq (h : Owes burst bytes turns n) (hpos : 0 < burst) :
    (debits turns).sum + n = bytes := by
  rw [← (splits_chunks hpos bytes).sum_eq, ← h.chunks_eq, List.sum_append,
    (splits_chunks hpos n).sum_eq]

theorem Owes.le (h : Owes burst bytes turns n) (hpos : 0 < burst) : n ≤ bytes := by
  have hsum := h.sum_eq hpos
  omega

/-- The course that an acquire took in some turns: it goes on, or was granted, or is gone before its
time. -/
inductive Course (burst bytes : ℕ) (turns : List Turn) : Option Acquire → Prop where
  | going (a : Acquire) (howes : Owes burst bytes turns a.remaining)
      (hresults : results turns = []) : Course burst bytes turns (some a)
  | granted (hdebits : debits turns = chunks burst bytes) (hresults : results turns = [.ok ()]) :
      Course burst bytes turns none
  | gone (remaining : ℕ) (howes : Owes burst bytes turns remaining)
      (hresults : results turns = [] ∨ results turns = [.error .cancelled]) :
      Course burst bytes turns none

/-- Every turn of an acquire is lawful, at a bucket that holds a burst. -/
theorem Owes.lawful_turn (h : Owes burst bytes turns a.remaining) (hl : l.Fits)
    (hburst : l.burst = burst) (cancelled : Bool) (now : ℕ) :
    (a.turn l cancelled now).Lawful bytes where
  debits := a.debits_attempt l cancelled now
  paid_of_cancelled hcancelled := by
    change cancelled = true at hcancelled
    subst hcancelled
    exact a.paid_turn_of_cancelled l now
  failed_iff error := by
    constructor
    · intro hfailed
      obtain ⟨rfl, hcancelled, hpos⟩ := eq_cancelled_of_failed hl hfailed
      exact ⟨hpos.trans_le (h.le (hburst ▸ l.burst_pos)), hcancelled, rfl⟩
    · rintro ⟨hbytes, hcancelled, rfl⟩
      change cancelled = true at hcancelled
      subst hcancelled
      have hpos : 0 < a.remaining :=
        Nat.pos_of_ne_zero fun hzero => hbytes.ne' (h.bytes_eq_zero hzero)
      simp only [Acquire.turn, attempt_of_cancelled hpos]
  of_zero hzero := by
    have hremaining : a.remaining = 0 := Nat.le_zero.1 (hzero ▸ h.le (hburst ▸ l.burst_pos))
    simp only [Acquire.turn, attempt_of_zero hremaining, paid, hremaining, and_self]

/-- An acquire that is dropped is gone. -/
theorem Course.drop {place : Option Acquire} (h : Course burst bytes turns place) :
    Course burst bytes turns none := by
  cases h with
  | going a howes hresults => exact .gone a.remaining howes (.inl hresults)
  | granted hdebits hresults => exact .granted hdebits hresults
  | gone remaining howes hresults => exact .gone remaining howes hresults

namespace Course

variable {place : Option Acquire}

/-- What is debited are the first chunks. -/
theorem first_chunks (h : Course burst bytes turns place) : debits turns <+: chunks burst bytes := by
  cases h with
  | going a howes hresults => exact ⟨_, howes.chunks_eq⟩
  | granted hdebits hresults => exact hdebits ▸ List.prefix_rfl
  | gone remaining howes hresults => exact ⟨_, howes.chunks_eq⟩

theorem results_eq (h : Course burst bytes turns place) :
    results turns = [] ∨ results turns = [.ok ()] ∨ results turns = [.error .cancelled] := by
  cases h with
  | going a howes hresults => exact .inl hresults
  | granted hdebits hresults => exact .inr (.inl hresults)
  | gone remaining howes hresults => exact hresults.imp_right .inr

/-- Only when all chunks are debited an acquire is granted. -/
theorem debits_eq_of_granted (h : Course burst bytes turns place) (hok : .ok () ∈ results turns) :
    debits turns = chunks burst bytes := by
  cases h with
  | going a howes hresults => simp [hresults] at hok
  | granted hdebits hresults => exact hdebits
  | gone remaining howes hresults =>
    rcases hresults with hresults | hresults <;> simp [hresults] at hok

/-- Unless an acquire is granted, some of its bytes are not paid. -/
theorem sum_lt (h : Course burst bytes turns place) (hpos : 0 < burst)
    (hok : .ok () ∉ results turns) (hbytes : 0 < bytes) : (debits turns).sum < bytes := by
  have hlt {remaining : ℕ} (howes : Owes burst bytes turns remaining) :
      (debits turns).sum < bytes := by
    have hsum := howes.sum_eq hpos
    have hremaining : remaining ≠ 0 := fun hzero => hbytes.ne' (howes.bytes_eq_zero hzero)
    omega
  cases h with
  | going a howes hresults => exact hlt howes
  | granted hdebits hresults => simp [hresults] at hok
  | gone remaining howes hresults => exact hlt howes

/-- An acquire with a result has ended. -/
theorem eq_none (h : Course burst bytes turns place) (hresults : results turns ≠ []) :
    place = none := by
  cases h with
  | going a howes hnone => exact absurd hnone hresults
  | granted => rfl
  | gone => rfl

end Course

theorem paid_turn (a : Acquire) (l : Limiter) (cancelled : Bool) (now : ℕ) :
    (a.turn l cancelled now).paid = a.paid (a.attempt l cancelled now).1 := rfl

namespace Owes

/-- An acquire that is granted has paid all its chunks. -/
theorem of_granted (h : Owes burst bytes turns a.remaining) (hburst : l.burst = burst)
    (hprogress : (a.attempt l cancelled now).1 = .granted) :
    debits (turns ++ [a.turn l cancelled now]) = chunks burst bytes := by
  have hle : a.remaining ≤ burst := hburst ▸ remaining_le_of_granted hprogress
  rw [debits_append, debits_singleton, paid_turn, hprogress, paid, ← h.chunks_eq]
  split
  next hzero => rw [hzero, chunks_zero]
  next hremaining => rw [chunks_of_le (Nat.pos_of_ne_zero hremaining) hle]

/-- An acquire that fails pays nothing. -/
theorem of_failed {error : TunnelError} (h : Owes burst bytes turns a.remaining)
    (hprogress : (a.attempt l cancelled now).1 = .failed error) :
    Owes burst bytes (turns ++ [a.turn l cancelled now]) a.remaining := by
  refine ⟨?_, h.bytes_eq_zero⟩
  rw [debits_append, debits_singleton, paid_turn, hprogress, paid, if_pos rfl, List.append_nil,
    h.chunks_eq]

/-- An acquire that goes on has paid a whole burst or nothing. -/
theorem of_waiting {next : Acquire} (h : Owes burst bytes turns a.remaining)
    (hburst : l.burst = burst) (hprogress : (a.attempt l cancelled now).1 = .waiting next) :
    Owes burst bytes (turns ++ [a.turn l cancelled now]) next.remaining := by
  have hpos : 0 < burst := hburst ▸ l.burst_pos
  have hnext := remaining_pos_of_attempt hprogress
  refine ⟨?_, fun hzero => absurd hzero hnext.ne'⟩
  rw [debits_append, debits_singleton, paid_turn, hprogress, paid, ← h.chunks_eq,
    List.append_assoc]
  rcases waiting_of_attempt hprogress with ⟨-, -, rfl, -⟩ | ⟨-, -, after, -, rfl, -⟩ |
      ⟨-, -, wait, -, rfl, -⟩ | ⟨-, -, -, rfl, -⟩
  · rw [if_pos (Nat.sub_self _), List.nil_append]
  · -- something is left, so that the chunk was a whole burst
    have hchunk : a.chunk l = burst := by
      simp only [chunk] at hnext ⊢
      omega
    simp only [hchunk] at hnext ⊢
    have hge : burst ≤ a.remaining := by omega
    rw [Nat.sub_sub_self hge, if_neg hpos.ne', chunks_of_ge hpos hge, List.singleton_append]
  · rw [if_pos (Nat.sub_self _), List.nil_append]
  · rw [if_pos (Nat.sub_self _), List.nil_append]

end Owes

/-- The results so far and the one that the turn comes to. -/
theorem results_append_turn (hresults : results turns = []) (a : Acquire) (l : Limiter)
    (cancelled : Bool) (now : ℕ) :
    results (turns ++ [a.turn l cancelled now]) =
      (a.attempt l cancelled now).1.result?.toList := by
  rw [results_append, hresults, results_singleton, List.nil_append]
  rfl

/-- A turn takes the course of an acquire further. -/
theorem Owes.turn (h : Owes burst bytes turns a.remaining) (hresults : results turns = [])
    (hl : l.Fits) (hburst : l.burst = burst) (cancelled : Bool) (now : ℕ) :
    Course burst bytes (turns ++ [a.turn l cancelled now])
      (Crowd.remains (a.attempt l cancelled now).1) := by
  have hafter := results_append_turn hresults a l cancelled now
  cases hprogress : (a.attempt l cancelled now).1 with
  | granted =>
    rw [hprogress] at hafter
    exact .granted (h.of_granted hburst hprogress) hafter
  | failed error =>
    obtain ⟨rfl, -⟩ := eq_cancelled_of_failed hl hprogress
    rw [hprogress] at hafter
    exact .gone a.remaining (h.of_failed hprogress) (.inr hafter)
  | waiting next =>
    rw [hprogress] at hafter
    exact .going next (h.of_waiting hburst hprogress) hafter

end Acquire

/-! ## The turns of an acquire among others -/

namespace Crowd

open Acquire (Owes Course Turn chunks debits results)

variable {crowd next : Crowd} {number burst bytes now : ℕ} {turns : List Turn} {action : Action}

/-- The turns of the acquire of the given number. -/
def turnsOf (number : ℕ) (crowd : Crowd) (now : ℕ) : Action → List Turn
  | .turn who cancelled =>
    if who = number then
      ((crowd.acquire? number).map (·.turn crowd.limiter cancelled now)).toList
    else []
  | _ => []

/-- The limiter lets so many bytes through at once, and its bucket holds them. -/
structure Fits (burst : ℕ) (crowd : Crowd) : Prop where
  fits : crowd.limiter.Fits
  burst_eq : crowd.limiter.burst = burst

/-- An acquire that has begun takes its course, and its turns were lawful. -/
structure Bills (number burst bytes : ℕ) (turns : List Turn) (crowd : Crowd) : Prop where
  fits : crowd.Fits burst
  number_lt : number < crowd.acquires.length
  course : Course burst bytes turns (crowd.acquire? number)
  lawful : ∀ turn ∈ turns, turn.Lawful bytes

/-- No action changes what a limiter lets through at once, or what its bucket can hold. -/
theorem Fits.step (hl : crowd.Fits burst) (h : crowd.step now action = some next) :
    next.Fits burst := by
  cases action with
  | start bytes =>
    cases h
    exact ⟨hl.fits, hl.burst_eq⟩
  | drop number =>
    cases h
    exact ⟨hl.fits, hl.burst_eq⟩
  | setRate rate =>
    cases h
    exact ⟨hl.fits.setRate now rate, (Limiter.burst_setRate ..).trans hl.burst_eq⟩
  | turn number cancelled =>
    obtain ⟨a, -, rfl⟩ := Option.map_eq_some_iff.1 h
    have hdebits := a.debits_attempt crowd.limiter cancelled now
    exact ⟨hl.fits.debits hdebits, hdebits.burst_eq.trans hl.burst_eq⟩

theorem length_acquires_step (h : crowd.step now action = some next) :
    crowd.acquires.length ≤ next.acquires.length := by
  cases action with
  | start bytes =>
    cases h
    simp
  | drop number =>
    cases h
    simp
  | setRate rate =>
    cases h
    exact le_rfl
  | turn number cancelled =>
    obtain ⟨a, -, rfl⟩ := Option.map_eq_some_iff.1 h
    simp

/-- The place of an acquire after it was filled. -/
theorem acquire?_set {limiter : Limiter} (who : ℕ) (place : Option Acquire)
    (hlt : number < crowd.acquires.length) :
    acquire? ⟨limiter, crowd.acquires.set who place⟩ number =
      if who = number then place else crowd.acquire? number := by
  unfold acquire?
  split
  next heq =>
    subst heq
    rw [List.getElem?_set_self hlt, Option.join_some]
  next hne => rw [List.getElem?_set_ne hne]

/-- An action is a turn of the acquire, or it leaves the acquire alone or drops it. -/
theorem acquire?_step (hlt : number < crowd.acquires.length)
    (h : crowd.step now action = some next) :
    (∃ cancelled a, action = .turn number cancelled ∧ crowd.acquire? number = some a ∧
        turnsOf number crowd now action = [a.turn crowd.limiter cancelled now] ∧
        next.acquire? number = remains (a.attempt crowd.limiter cancelled now).1) ∨
      turnsOf number crowd now action = [] ∧
        (next.acquire? number = crowd.acquire? number ∨
          action = .drop number ∧ next.acquire? number = none) := by
  cases action with
  | start bytes =>
    cases h
    refine .inr ⟨rfl, .inl ?_⟩
    rw [acquire?, List.getElem?_append_left hlt, acquire?]
  | drop who =>
    cases h
    refine .inr ⟨rfl, ?_⟩
    rw [acquire?_set who none hlt]
    split
    next heq => exact .inr ⟨heq ▸ rfl, rfl⟩
    next => exact .inl rfl
  | setRate rate =>
    cases h
    exact .inr ⟨rfl, .inl rfl⟩
  | turn who cancelled =>
    obtain ⟨a, ha, rfl⟩ := Option.map_eq_some_iff.1 h
    rw [acquire?_set who _ hlt, turnsOf]
    split
    next heq =>
      subst heq
      refine .inl ⟨cancelled, a, rfl, ha, ?_, rfl⟩
      rw [ha]
      rfl
    next => exact .inr ⟨rfl, .inl rfl⟩

/-- Every action keeps the bill of an acquire. -/
theorem Bills.step (h : Bills number burst bytes turns crowd)
    (hs : crowd.step now action = some next) :
    Bills number burst bytes (turns ++ turnsOf number crowd now action) next := by
  have hfits := h.fits.step hs
  have hlt := h.number_lt.trans_le (length_acquires_step hs)
  have hcourse := h.course
  rcases acquire?_step h.number_lt hs with ⟨cancelled, a, rfl, ha, hturns, hnext⟩ |
      ⟨hturns, hsame | ⟨-, hgone⟩⟩
  · -- it makes a request
    rw [ha] at hcourse
    obtain ⟨_, howes, hresults⟩ | _ | _ := hcourse
    rw [hturns]
    refine ⟨hfits, hlt, ?_, fun turn hmem => ?_⟩
    · rw [hnext]
      exact howes.turn hresults h.fits.fits h.fits.burst_eq cancelled now
    · rcases List.mem_append.1 hmem with hmem | hmem
      · exact h.lawful turn hmem
      · rw [List.mem_singleton.1 hmem]
        exact howes.lawful_turn h.fits.fits h.fits.burst_eq cancelled now
  · rw [hturns, List.append_nil]
    exact ⟨hfits, hlt, hsame ▸ hcourse, h.lawful⟩
  · -- it is dropped
    rw [hturns, List.append_nil]
    exact ⟨hfits, hlt, hgone ▸ hcourse.drop, h.lawful⟩

/-- An acquire that has ended or was dropped has no further turn. -/
theorem journal_of_none (hlt : number < crowd.acquires.length)
    (hnone : crowd.acquire? number = none) (later : Schedule Action) :
    Schedule.journal step (turnsOf number) crowd later = [] := by
  induction later generalizing crowd with
  | nil => rfl
  | cons head rest ih =>
    rw [Schedule.journal]
    split
    · rfl
    next next hnext =>
      have hlt' := hlt.trans_le (length_acquires_step hnext)
      rcases acquire?_step hlt hnext with ⟨cancelled, a, -, ha, -⟩ | ⟨hturns, hsame | ⟨-, hgone⟩⟩
      · rw [hnone] at ha
        cases ha
      · rw [hturns, ih hlt' (hsame.trans hnone), List.nil_append]
      · rw [hturns, ih hlt' hgone, List.nil_append]

/-- Turns in which an acquire is cancelled debit nothing. -/
theorem debits_journal_of_cancelled {later : Schedule Action}
    (hcancelled : ∀ now, (now, .turn number false) ∉ later) (crowd : Crowd) :
    debits (Schedule.journal step (turnsOf number) crowd later) = [] := by
  induction later generalizing crowd with
  | nil => rfl
  | cons head rest ih =>
    rw [Schedule.journal]
    split
    · rfl
    next next hnext =>
      rw [Acquire.debits_append, ih (fun now hmem => hcancelled now (List.mem_cons_of_mem _ hmem)),
        List.append_nil]
      obtain ⟨now, action⟩ := head
      cases action with
      | start bytes => rfl
      | drop who => rfl
      | setRate rate => rfl
      | turn who cancelled =>
        simp only [turnsOf]
        split
        next heq =>
          subst heq
          cases cancelled with
          | false => exact absurd List.mem_cons_self (hcancelled now)
          | true =>
            cases crowd.acquire? who with
            | none => rfl
            | some a =>
              rw [Option.map_some, Option.toList_some, Acquire.debits_singleton,
                if_pos (a.paid_turn_of_cancelled crowd.limiter now)]
        next => rfl

/-- What an acquire for so many bytes debited in its turns so far, and what becomes of it. -/
structure Billed (number burst bytes : ℕ) (turns : List Turn) (after : Crowd) : Prop where
  /-- Each turn debits what it pays, and fails only because the acquire is cancelled. -/
  lawful : ∀ turn ∈ turns, turn.Lawful bytes
  /-- The debits are the first of the chunks. -/
  first_chunks : debits turns <+: chunks burst bytes
  /-- Once the acquire is granted, all chunks are debited: as many as bursts are needed, and all of
  them whole bursts but for the last one. -/
  of_granted : .ok () ∈ results turns →
    debits turns = chunks burst bytes ∧ Acquire.Splits burst bytes (debits turns)
  /-- Before that some bytes are still to be paid. -/
  of_not_granted : .ok () ∉ results turns → 0 < bytes → (debits turns).sum < bytes
  /-- The acquire ends once at most, and as granted or as cancelled. -/
  results_eq : results turns = [] ∨ results turns = [.ok ()] ∨ results turns = [.error .cancelled]
  /-- An acquire with a result has ended. -/
  acquire?_eq_none : results turns ≠ [] → after.acquire? number = none
  /-- An acquire that has ended or was dropped has no further turn, so that it debits nothing. -/
  rests : after.acquire? number = none →
    ∀ later, Schedule.journal step (turnsOf number) after later = []
  /-- From the moment on in which it is cancelled it debits nothing either. -/
  of_cancelled : ∀ later, (∀ now, (now, .turn number false) ∉ later) →
    debits (Schedule.journal step (turnsOf number) after later) = []

theorem Bills.billed (h : Bills number burst bytes turns crowd) :
    Billed number burst bytes turns crowd := by
  have hpos : 0 < burst := h.fits.burst_eq ▸ crowd.limiter.burst_pos
  refine ⟨h.lawful, h.course.first_chunks, fun hok => ?_, h.course.sum_lt hpos, h.course.results_eq,
    h.course.eq_none, journal_of_none h.number_lt,
    fun _ hcancelled => debits_journal_of_cancelled hcancelled crowd⟩
  have hdebits := h.course.debits_eq_of_granted hok
  exact ⟨hdebits, hdebits ▸ Acquire.splits_chunks hpos bytes⟩

theorem fits_run {made : ℕ} {rate : UInt64} {burst : UInt32} {before : Schedule Action}
    (hrun : Schedule.run step (make made rate burst) before = some crowd) :
    crowd.Fits (max 1 burst.toNat) :=
  Schedule.run_keeps_of_mem (fun _ _ _ _ _ h hs => h.step hs)
    ⟨Limiter.fits_make made rate burst, rfl⟩ hrun

/-- At first an acquire owes all its chunks. -/
theorem bills_start {started : Crowd} (hl : crowd.Fits burst)
    (hstart : crowd.step now (.start bytes) = some started) :
    Bills crowd.acquires.length burst bytes [] started := by
  cases hstart
  have hacquire : acquire? ⟨crowd.limiter, crowd.acquires ++ [some ⟨bytes, none⟩]⟩
      crowd.acquires.length = some ⟨bytes, none⟩ := by
    simp [acquire?]
  have hlt : crowd.acquires.length < (crowd.acquires ++ [some (Acquire.mk bytes none)]).length := by
    simp
  refine ⟨⟨hl.fits, hl.burst_eq⟩, hlt, ?_, fun turn hmem => absurd hmem List.not_mem_nil⟩
  rw [hacquire]
  exact .going _ ⟨rfl, id⟩ rfl

/-- In every run of a limiter, of any rate and burst, with any changes of the rate and any other
acquires, an acquire debits the first of its chunks, each once; all of them when it is granted, and
not all of them when it is cancelled or dropped before. Then it debits nothing any more. It never
fails for any other reason, and for no bytes it is granted even if it is cancelled. -/
theorem billed_of_run {made : ℕ} {rate : UInt64} {burst : UInt32} {before later : Schedule Action}
    {started after : Crowd}
    (hbefore : Schedule.run step (make made rate burst) before = some crowd)
    (hstart : crowd.step now (.start bytes) = some started)
    (hlater : Schedule.run step started later = some after) :
    Billed crowd.acquires.length (max 1 burst.toNat) bytes
      (Schedule.journal step (turnsOf crowd.acquires.length) started later) after := by
  have hbills := Schedule.journal_keeps (Bills crowd.acquires.length (max 1 burst.toNat) bytes)
    (fun _ _ _ _ _ h hs => h.step hs) (bills_start (fits_run hbefore) hstart) hlater
  rw [List.nil_append] at hbills
  exact hbills.billed

/-- An acquire that waits for 200 of 700 bytes. -/
def halfPaid : Schedule Action := [(0, .start 700), (0, .turn 0 false), (0, .turn 0 false)]

/-- What happens after another one for 1200 bytes began: the first is cancelled, and the rate is set
to `0` and then to twice as much. -/
def splitAmongOthers : Schedule Action :=
  [(0, .turn 1 false), (100000000, .turn 0 true), (200000000, .setRate 0),
    (200000000, .turn 1 false), (300000000, .setRate 2000), (300000000, .turn 1 false),
    (550000000, .turn 1 false), (550000000, .turn 1 false), (800000000, .turn 1 false),
    (900000000, .turn 1 false)]

theorem billed_splitAmongOthers :
    ∃ crowd started after, Schedule.run step (make 0 1000 500) halfPaid = some crowd ∧
      crowd.step 0 (.start 1200) = some started ∧
      Schedule.run step started splitAmongOthers = some after ∧
      debits (Schedule.journal step (turnsOf 1) started splitAmongOthers) = [500, 500, 200] ∧
      Billed 1 500 1200 (Schedule.journal step (turnsOf 1) started splitAmongOthers) after := by
  have hruns : (Schedule.run step (make 0 1000 500) halfPaid).any (fun crowd =>
      decide (crowd.acquires.length = 1) && (crowd.step 0 (.start 1200)).any (fun started =>
        (Schedule.run step started splitAmongOthers).isSome &&
          decide (debits (Schedule.journal step (turnsOf 1) started splitAmongOthers) =
            [500, 500, 200]))) = true := by
    decide +kernel
  obtain ⟨crowd, hcrowd, hruns⟩ := (Option.any_eq_true _ _).1 hruns
  obtain ⟨hlength, hruns⟩ := Bool.and_eq_true_iff.1 hruns
  obtain ⟨started, hstarted, hruns⟩ := (Option.any_eq_true _ _).1 hruns
  obtain ⟨hafter, hdebits⟩ := Bool.and_eq_true_iff.1 hruns
  obtain ⟨after, hafter⟩ := Option.isSome_iff_exists.1 hafter
  have hbilled := billed_of_run hcrowd hstarted hafter
  rw [of_decide_eq_true hlength] at hbilled
  exact ⟨crowd, started, after, hcrowd, hstarted, hafter, of_decide_eq_true hdebits, hbilled⟩

end Crowd

end Sluice
