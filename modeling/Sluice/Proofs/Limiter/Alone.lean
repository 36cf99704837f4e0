import Sluice.Proofs.Limiter.Bill
import Sluice.Proofs.Limiter.Waiting

/-!
# An acquire on its own

An acquire that is the only user of a limiter asks for its chunks one after another. A chunk that is
refused is asked for again when the timer goes off, and is granted then. So the acquire comes to an
end, and the time that it takes is bounded on both sides.

* `Acquire.Alone a l now turns last`: the turns of an acquire on its own, to the last one. By
  `Acquire.Alone.unique` there is one way to go only;
* `Acquire.Finishes l now bytes turns last`: all that is said of these turns;
* `Crowd.finishes_of_run`: in every state of a run, at a whole millisecond and a rate above `0`, an
  acquire on its own finishes.
-/

namespace Sluice

open Timer (grain roundUp)
open Limiter (interval)

namespace Bucket

/-- The instant at which the bucket is full again, once it was used. -/
def fullAt (b : Bucket) : Option ℕ := b.arrival.map (b.madeAt + ·)

/-- The level is the capacity less what is gained until the bucket is full again. -/
theorem Sound.level_eq {b : Bucket} {now : ℕ} (hb : b.Sound now) :
    b.level now =
      b.capacity - (b.fullAt.elim 0 fun full => max 0 ((full : ℚ) - now)) / b.interval := by
  have hmade := hb.madeAt_le
  cases harrival : b.arrival with
  | none => simp [level_of_unused harrival, fullAt, harrival]
  | some arrival =>
    have hdebt : (b.debt now : ℚ) = max 0 (((b.madeAt + arrival : ℕ) : ℚ) - now) := by
      have hsub : b.debt now = b.madeAt + arrival - now := by
        simp only [debt, base, elapsed, harrival, Option.getD_some]
        omega
      rcases le_total now (b.madeAt + arrival) with hle | hle
      · have hle' : (now : ℚ) ≤ ((b.madeAt + arrival : ℕ) : ℚ) := by exact_mod_cast hle
        rw [hsub, Nat.cast_sub hle, max_eq_right (sub_nonneg.2 hle')]
      · have hle' : ((b.madeAt + arrival : ℕ) : ℚ) ≤ now := by exact_mod_cast hle
        rw [hsub, Nat.sub_eq_zero_of_le hle, Nat.cast_zero, max_eq_left (sub_nonpos.2 hle')]
    rw [level, hdebt, fullAt, harrival, Option.map_some, Option.elim_some]

end Bucket

namespace Limiter

/-- Nobody waits longer for some bytes than the rate takes for them. -/
theorem Sound.wait_le {l : Limiter} {now n wait : ℕ} (hl : l.Sound now) (hn : 0 < n)
    (h : l.debit now n = .refused wait) : wait ≤ interval l.rate * n := by
  rcases hl.debit_cases hn with ⟨-, h'⟩ | ⟨-, -, h'⟩ | ⟨-, -, -, after, h'⟩ |
      ⟨-, -, -, wait', h', hwait⟩
  · simp [h] at h'
  · simp [h] at h'
  · simp [h] at h'
  obtain rfl : wait = wait' := by simpa [h] using h'
  have hlevel := hl.level_nonneg
  have hinterval : (0 : ℚ) ≤ interval l.rate := by positivity
  have hle : (wait : ℚ) ≤ interval l.rate * n := by
    rw [hwait]
    nlinarith
  exact_mod_cast hle

end Limiter

namespace Acquire

/-! ## One after another -/

/-- The instant at which an acquire asks next when nothing else happens: now, or when its timer goes
off. -/
def asksAt? (a : Acquire) (l : Limiter) (now : ℕ) : Option ℕ :=
  if a.isAwake l now then some now else a.sleep.bind (·.deadline)

/-- The turns of an acquire that nobody cancels, at a limiter that nobody else uses, to its end. -/
inductive Alone : Acquire → Limiter → ℕ → List Turn → ℕ → Prop where
  | last {a : Acquire} {l : Limiter} {now later : ℕ} (hasks : a.asksAt? l now = some later)
      (hends : (a.turn l false later).progress.result? ≠ none) :
      Alone a l now [a.turn l false later] later
  | more {a next : Acquire} {l : Limiter} {now later last : ℕ} {turns : List Turn}
      (hasks : a.asksAt? l now = some later)
      (hnext : (a.turn l false later).progress = .waiting next)
      (hrest : Alone next (a.turn l false later).after later turns last) :
      Alone a l now (a.turn l false later :: turns) last

/-- The turn was for nothing: the acquire goes on without having paid. -/
def Turn.isRefusal (turn : Turn) : Bool := turn.progress.result?.isNone && turn.paid == 0

/-- An acquire on its own for so many bytes is granted in the end. It waits once for each chunk at
most, and not longer than the limiter takes for the chunk, to the next whole millisecond; it does
not get its bytes any sooner than the limiter gains those that it lacks. -/
structure Finishes (l : Limiter) (now bytes : ℕ) (turns : List Turn) (last : ℕ) : Prop where
  results_eq : results turns = [.ok ()]
  debits_eq : debits turns = chunks l.burst bytes
  /-- The last turn is at the instant `last`. -/
  instant_eq : turns.getLast?.map (·.instant) = some last
  /-- Whoever asks again after a wait is granted the chunk. -/
  isChain : turns.IsChain fun turn next => turn.isRefusal → 0 < next.paid
  /-- There is one wait for each chunk at most. -/
  length_le : (turns.filter (·.isRefusal)).length ≤ (chunks l.burst bytes).length
  last_le : last ≤ now + ((chunks l.burst bytes).map fun n => roundUp (interval l.rate * n)).sum
  le_last : interval l.rate * (bytes - l.level now) ≤ (last : ℚ) - now

variable {a : Acquire} {l after : Limiter} {now later bytes last due wait : ℕ} {turns : List Turn}

namespace Alone

/-- What an acquire on its own does is determined. -/
theorem unique {turns' : List Turn} {last' : ℕ} (h : Alone a l now turns last)
    (h' : Alone a l now turns' last') : turns' = turns ∧ last' = last := by
  induction h generalizing turns' last' with
  | last hasks hends =>
    cases h' with
    | last hasks' hends' =>
      rw [hasks] at hasks'
      cases hasks'
      exact ⟨rfl, rfl⟩
    | more hasks' hnext' hrest' =>
      rw [hasks] at hasks'
      cases hasks'
      rw [hnext'] at hends
      exact absurd rfl hends
  | more hasks hnext hrest ih =>
    cases h' with
    | last hasks' hends' =>
      rw [hasks] at hasks'
      cases hasks'
      rw [hnext] at hends'
      exact absurd rfl hends'
    | more hasks' hnext' hrest' =>
      rw [hasks] at hasks'
      cases hasks'
      rw [hnext] at hnext'
      cases hnext'
      obtain ⟨rfl, rfl⟩ := ih hrest'
      exact ⟨rfl, rfl⟩

theorem instant_eq (h : Alone a l now turns last) :
    turns.getLast?.map (·.instant) = some last := by
  induction h with
  | last hasks hends => rfl
  | more hasks hnext hrest ih =>
    cases hrest with
    | last => exact ih
    | more => exact ih

/-- In its last turn an acquire on its own is not refused. -/
theorem isRefusal_getLast (h : Alone a l now turns last) :
    ∀ turn ∈ turns.getLast?, turn.isRefusal = false := by
  induction h with
  | last hasks hends =>
    rintro turn ⟨⟩
    simp [Turn.isRefusal, hends]
  | more hasks hnext hrest ih =>
    cases hrest with
    | last => exact ih
    | more => exact ih

/-- An acquire that nobody cancels is granted in the end, and has paid all its chunks then. -/
theorem granted {burst : ℕ} {before : List Turn} (h : Alone a l now turns last) (hl : l.Fits)
    (hburst : l.burst = burst) (howes : Owes burst bytes before a.remaining)
    (hresults : results before = []) :
    results (before ++ turns) = [.ok ()] ∧ debits (before ++ turns) = chunks burst bytes := by
  induction h generalizing before with
  | @last a l now later hasks hends =>
    have hafter := results_append_turn hresults a l false later
    cases hprogress : (a.attempt l false later).1 with
    | granted =>
      rw [hprogress] at hafter
      exact ⟨hafter, howes.of_granted hburst hprogress⟩
    | failed error =>
      obtain ⟨-, hcancelled, -⟩ := eq_cancelled_of_failed hl hprogress
      cases hcancelled
    | waiting next => exact absurd (congrArg Progress.result? hprogress) hends
  | @more a next l now later last turns hasks hnext hrest ih =>
    have hdebits := a.debits_attempt l false later
    have hafter := results_append_turn hresults a l false later
    rw [show (a.attempt l false later).1 = .waiting next from hnext] at hafter
    have hrest := ih (hl.debits hdebits) (hdebits.burst_eq.trans hburst)
      (howes.of_waiting hburst hnext) hafter
    rwa [List.append_assoc] at hrest

end Alone

/-! ## One chunk -/

/-- An acquire that is granted a chunk is done or goes on at once with the next one. -/
theorem turn_of_granted (hbytes : 0 < bytes)
    (h : l.debit now (min bytes l.burst) = .granted after) :
    turn ⟨bytes, none⟩ l false now =
      ⟨now, false, l, after,
        if bytes = min bytes l.burst then .granted else .waiting ⟨bytes - min bytes l.burst, none⟩,
        min bytes l.burst⟩ := by
  by_cases hall : bytes = min bytes l.burst
  · rw [← hall] at h
    simp only [turn, attempt, isAwake, chunk, if_neg hbytes.ne', ← hall, h, paid,
      Bool.false_eq_true, if_false, if_true]
  · have hpaid : bytes - (bytes - min bytes l.burst) = min bytes l.burst :=
      Nat.sub_sub_self (min_le_left _ _)
    have hattempt : attempt ⟨bytes, none⟩ l false now =
        (.waiting ⟨bytes - min bytes l.burst, none⟩, after) := by
      have hawake : isAwake ⟨bytes, none⟩ l now = true := rfl
      rw [attempt, if_neg hbytes.ne', if_neg Bool.false_ne_true, if_pos hawake]
      simp only [chunk, h]
      exact if_neg hall
    simp only [turn, hattempt, if_neg hall, paid, hpaid]

/-- An acquire that is refused sets its timer. -/
theorem turn_of_refused (hbytes : 0 < bytes) (h : l.debit now (min bytes l.burst) = .refused wait) :
    turn ⟨bytes, none⟩ l false now =
      ⟨now, false, l, l, .waiting ⟨bytes, some ⟨l.revision, some (roundUp (now + wait))⟩⟩, 0⟩ := by
  simp only [turn, attempt, isAwake, chunk, if_neg hbytes.ne', h, paid, Nat.sub_self,
    Bool.false_eq_true, if_false, if_true]

/-- An acquire that is awake forgets what it slept for. -/
theorem turn_of_isAwake (h : a.isAwake l now = true) :
    a.turn l false now = turn ⟨a.remaining, none⟩ l false now := by
  have hawake : isAwake ⟨a.remaining, none⟩ l now = true := rfl
  have hattempt : a.attempt l false now = attempt ⟨a.remaining, none⟩ l false now := by
    rw [attempt, attempt, if_pos h, if_pos hawake]
    rfl
  have hpaid : a.paid = paid ⟨a.remaining, none⟩ := rfl
  rw [turn, turn, hattempt, hpaid]

/-- When its timer goes off, an acquire asks again as if it had started only then. -/
theorem Alone.of_asleep {deadline : ℕ} (hlate : now < deadline)
    (hnext : (turn ⟨bytes, none⟩ l false now).progress =
      .waiting ⟨bytes, some ⟨l.revision, some deadline⟩⟩)
    (hafter : (turn ⟨bytes, none⟩ l false now).after = l)
    (hrest : Alone ⟨bytes, none⟩ l deadline turns last) :
    Alone ⟨bytes, none⟩ l now (turn ⟨bytes, none⟩ l false now :: turns) last := by
  have hasks : asksAt? ⟨bytes, some ⟨l.revision, some deadline⟩⟩ l now = some deadline := by
    rw [asksAt?, isAwake_of_lt hlate]
    rfl
  have hawake : isAwake ⟨bytes, some ⟨l.revision, some deadline⟩⟩ l deadline = true := by
    simp [isAwake]
  have hsame := turn_of_isAwake hawake
  refine .more rfl hnext ?_
  rw [hafter]
  cases hrest with
  | last hasks' hends =>
    cases hasks'
    rw [← hsame] at hends ⊢
    exact .last hasks hends
  | more hasks' hnext hrest =>
    cases hasks'
    rw [← hsame] at hnext hrest ⊢
    exact .more hasks hnext hrest

/-! ## All chunks -/

/-- An acquire that starts now takes the turns and is done at the instant `last`, which is not after
the one that is due. -/
structure Timely (l : Limiter) (now bytes : ℕ) (turns : List Turn) (last due : ℕ) : Prop where
  alone : Alone ⟨bytes, none⟩ l now turns last
  isChain : turns.IsChain fun turn next => turn.isRefusal → 0 < next.paid
  last_le : last ≤ due
  le_last : interval l.rate * (bytes - l.level now) ≤ (last : ℚ) - now

theorem Timely.mono {due' : ℕ} (h : Timely l now bytes turns last due) (hle : due ≤ due') :
    Timely l now bytes turns last due' :=
  { h with last_le := h.last_le.trans hle }

/-- The time that a limiter takes for the chunks of so many bytes, each of them to the next whole
millisecond. -/
def span (l : Limiter) (bytes : ℕ) : ℕ :=
  ((chunks l.burst bytes).map fun n => roundUp (interval l.rate * n)).sum

theorem span_of_pos (hbytes : 0 < bytes) :
    span l bytes = roundUp (interval l.rate * min bytes l.burst) +
      span l (bytes - min bytes l.burst) := by
  rw [span, chunks_of_pos l.burst_pos hbytes, List.map_cons, List.sum_cons, span]

theorem timely_zero (hl : l.Sound now) (hdue : now ≤ due) :
    Timely l now 0 [turn ⟨0, none⟩ l false now] now due where
  alone := .last rfl (by rw [turn, attempt_of_zero rfl]; exact Option.some_ne_none _)
  isChain := .singleton _
  last_le := hdue
  le_last := by
    have hlevel := hl.level_nonneg
    have hinterval : (0 : ℚ) ≤ interval l.rate := by positivity
    rw [sub_self, Nat.cast_zero, zero_sub]
    nlinarith

/-- With the first chunk granted at once, an acquire is as timely as for the others. -/
theorem exists_timely_of_granted (hl : l.Sound now) (hbytes : 0 < bytes)
    (h : l.debit now (min bytes l.burst) = .granted after) (hdue : now ≤ due)
    (hrest : bytes ≠ min bytes l.burst →
      ∃ turns last, Timely after now (bytes - min bytes l.burst) turns last due) :
    ∃ turn turns last, Timely l now bytes (turn :: turns) last due ∧ 0 < turn.paid := by
  have hturn := turn_of_granted hbytes h
  have hchunk : 0 < min bytes l.burst := lt_min hbytes l.burst_pos
  have hdebits : l.Debits now (min bytes l.burst) after := .inr ⟨hchunk, h⟩
  have hlevel := hdebits.level_eq hl
  have hle : (min bytes l.burst : ℕ) ≤ bytes := min_le_left _ _
  have hinterval : (0 : ℚ) ≤ interval l.rate := by positivity
  by_cases hall : bytes = min bytes l.burst
  · refine ⟨_, [], now, ⟨.last rfl ?_, .singleton _, hdue, ?_⟩, ?_⟩
    · rw [hturn, if_pos hall]
      exact Option.some_ne_none _
    · have hnonneg := (hdebits.sound hl).level_nonneg
      rw [hlevel, ← hall] at hnonneg
      rw [sub_self]
      nlinarith
    · rw [hturn]
      exact hchunk
  · obtain ⟨turns, last, hturns⟩ := hrest hall
    have hnext : (turn ⟨bytes, none⟩ l false now).progress =
        .waiting ⟨bytes - min bytes l.burst, none⟩ := by rw [hturn, if_neg hall]
    refine ⟨_, turns, last, ⟨.more rfl hnext ?_, ?_, hturns.last_le, ?_⟩, ?_⟩
    · rw [hturn]
      exact hturns.alone
    · refine List.isChain_cons.2 ⟨fun next _ hrefusal => ?_, hturns.isChain⟩
      simp [hturn, Turn.isRefusal, hchunk.ne'] at hrefusal
    · have hlater := hturns.le_last
      rwa [hlevel, hdebits.rate_eq, Nat.cast_sub hle, sub_sub_sub_cancel_right] at hlater
    · rw [hturn]
      exact hchunk

/-- With the first chunk granted after a wait, an acquire is timely if it would have been so had it
started only then. -/
theorem Timely.of_refused {turn' : Turn} (hl : l.Sound now) (hrate : l.rate ≠ 0)
    (hbytes : 0 < bytes)
    (h : l.debit now (min bytes l.burst) = .refused wait)
    (hrest : Timely l (roundUp (now + wait)) bytes (turn' :: turns) last due)
    (hpaid : 0 < turn'.paid) :
    Timely l now bytes (turn ⟨bytes, none⟩ l false now :: turn' :: turns) last due := by
  have hlate : now < roundUp (now + wait) :=
    (Nat.lt_add_of_pos_right (Limiter.pos_of_debit_eq_refused h)).trans_le (Timer.le_roundUp _)
  have hturn := turn_of_refused hbytes h
  refine ⟨hrest.alone.of_asleep hlate (by rw [hturn]) (by rw [hturn]),
    .cons_cons (fun _ => hpaid) hrest.isChain, hrest.last_le, ?_⟩
  -- in the wait no more is gained than its time is worth
  have hgain := hl.level_le_add hlate.le
  have hlater := hrest.le_last
  have hinterval : (0 : ℚ) < interval l.rate := by exact_mod_cast Limiter.interval_pos hrate
  rw [← sub_le_iff_le_add', le_div_iff₀ hinterval] at hgain
  nlinarith

theorem exists_timely (hl : l.Sound now) (hrate : l.rate ≠ 0) (hnow : grain ∣ now) (bytes : ℕ) :
    ∃ turns last, Timely l now bytes turns last (now + span l bytes) := by
  induction bytes using Nat.strong_induction_on generalizing l now with
  | _ bytes ih =>
    rcases bytes.eq_zero_or_pos with rfl | hbytes
    · exact ⟨_, _, timely_zero hl (Nat.le_add_right _ _)⟩
    have hchunk : 0 < min bytes l.burst := lt_min hbytes l.burst_pos
    -- once the first chunk is granted, the others are as timely as from the start
    have hgranted : ∀ {later : ℕ} {after : Limiter}, now ≤ later → grain ∣ later →
        l.debit later (min bytes l.burst) = .granted after →
        ∃ turn turns last, Timely l later bytes (turn :: turns) last
          (later + span l (bytes - min bytes l.burst)) ∧ 0 < turn.paid := by
      intro later after hle hlater hdebit
      have hdebits : l.Debits later (min bytes l.burst) after := .inr ⟨hchunk, hdebit⟩
      refine exists_timely_of_granted (hl.mono hle) hbytes hdebit (Nat.le_add_right _ _) fun _ => ?_
      have hrest := ih (bytes - min bytes l.burst) (by omega) (hdebits.sound (hl.mono hle))
        (hdebits.rate_eq ▸ hrate) hlater
      rwa [span, hdebits.burst_eq, hdebits.rate_eq] at hrest
    have hspan : span l bytes = _ := span_of_pos hbytes
    rcases hl.debit_cases hchunk with ⟨hzero, -⟩ | ⟨-, hburst, -⟩ | ⟨-, -, -, after, hdebit⟩ |
        ⟨-, -, -, wait, hdebit, -⟩
    · exact absurd hzero hrate
    · exact absurd hburst (min_le_right _ _).not_gt
    · obtain ⟨turn, turns, last, hturns, -⟩ := hgranted le_rfl hnow hdebit
      exact ⟨_, last, hturns.mono (by omega)⟩
    · have hlater : grain ∣ roundUp (now + wait) := Timer.grain_dvd_roundUp _
      have hle : now ≤ roundUp (now + wait) := (Nat.le_add_right _ _).trans (Timer.le_roundUp _)
      obtain ⟨after, hafter⟩ :=
        (hl.grants_later_iff hchunk hdebit hle).2 (Timer.le_roundUp (now + wait))
      obtain ⟨turn, turns, last, hturns, hpaid⟩ := hgranted hle hlater hafter
      have hwait := hl.wait_le hchunk hdebit
      have hend : roundUp (now + wait) ≤ now + roundUp (interval l.rate * min bytes l.burst) := by
        rw [Timer.roundUp_le_iff (hnow.add (Timer.grain_dvd_roundUp _))]
        exact Nat.add_le_add_left (hwait.trans (Timer.le_roundUp _)) _
      exact ⟨_, last, (hturns.of_refused hl hrate hbytes hdebit hpaid).mono (by omega)⟩

/-- There are no more refusals than debits when each of them is followed by a debit, and fewer of
them when the first turn is one. -/
theorem length_refusals_le (hends : ∀ turn ∈ turns.getLast?, turn.isRefusal = false)
    (h : turns.IsChain fun turn next => turn.isRefusal → 0 < next.paid) :
    (turns.filter (·.isRefusal)).length ≤ (debits turns).length ∧
      ∀ turn ∈ turns.head?, 0 < turn.paid →
        (turns.filter (·.isRefusal)).length < (debits turns).length := by
  induction turns with
  | nil => simp
  | cons turn rest ih =>
    obtain ⟨hfirst, hrest⟩ := List.isChain_cons.1 h
    have hdebits : debits (turn :: rest) = debits [turn] ++ debits rest := by
      rw [← debits_append, List.singleton_append]
    cases hrefusal : turn.isRefusal with
    | true =>
      have hpaid : turn.paid = 0 := by
        simpa using (Bool.and_eq_true_iff.1 hrefusal).2
      -- the next turn pays for this one too
      cases rest with
      | nil => exact absurd hrefusal (by simp [hends turn rfl])
      | cons next rest =>
        obtain ⟨-, hless⟩ := ih hends hrest
        have hlt := hless next rfl (hfirst next rfl hrefusal)
        rw [hdebits, debits_singleton, if_pos hpaid, List.nil_append,
          List.filter_cons_of_pos hrefusal, List.length_cons]
        refine ⟨hlt, ?_⟩
        intro first hmem hpos
        cases hmem
        exact absurd hpaid hpos.ne'
    | false =>
      have hends' : ∀ turn ∈ rest.getLast?, turn.isRefusal = false := by
        cases rest with
        | nil => simp
        | cons next rest => exact hends
      obtain ⟨hle, -⟩ := ih hends' hrest
      rw [hdebits, List.filter_cons_of_neg (by simp [hrefusal]), List.length_append]
      refine ⟨hle.trans (Nat.le_add_left _ _), ?_⟩
      intro first hmem hpos
      cases hmem
      rw [debits_singleton, if_neg hpos.ne', List.length_singleton]
      omega

/-- An acquire on its own finishes, at a rate above `0` and from a whole millisecond on. -/
theorem exists_finishes (hl : l.Sound now) (hrate : l.rate ≠ 0) (hnow : grain ∣ now) (bytes : ℕ) :
    ∃ turns last, Alone ⟨bytes, none⟩ l now turns last ∧ Finishes l now bytes turns last := by
  obtain ⟨turns, last, h⟩ := exists_timely hl hrate hnow bytes
  have howes : Owes l.burst bytes [] bytes := ⟨rfl, id⟩
  obtain ⟨hresults, hdebits⟩ := h.alone.granted hl.capacity_eq rfl howes rfl
  rw [List.nil_append] at hresults hdebits
  refine ⟨turns, last, h.alone, hresults, hdebits, h.alone.instant_eq, h.isChain, ?_, h.last_le,
    h.le_last⟩
  rw [← hdebits]
  exact (length_refusals_le h.alone.isRefusal_getLast h.isChain).1

end Acquire

namespace Crowd

open Acquire (Alone Finishes)

variable {crowd : Crowd} {made now : ℕ}

/-- In every state of a run, at a whole millisecond and a rate above `0`, an acquire that is from
then on the only user of the limiter, at that rate, has one way to go, and finishes: it is granted
in the end, waits once for each chunk at most, and the time that it takes is bounded on both sides.
The level is the burst less what the bucket gains until it is full. -/
theorem finishes_of_run {rate : UInt64} {burst : UInt32} {before : Schedule Action}
    (ho : Schedule.InOrder made before now)
    (hrun : Schedule.run step (make made rate burst) before = some crowd)
    (hrate : crowd.limiter.rate ≠ 0) (hnow : grain ∣ now) (bytes : ℕ) :
    ∃ turns last bucket,
      (∀ turns' last', Alone ⟨bytes, none⟩ crowd.limiter now turns' last' ↔
        turns' = turns ∧ last' = last) ∧
      Finishes crowd.limiter now bytes turns last ∧
      crowd.limiter.bucket = some bucket ∧
      crowd.limiter.level now = crowd.limiter.burst -
        (bucket.fullAt.elim 0 fun full => max 0 ((full : ℚ) - now)) /
          interval crowd.limiter.rate := by
  obtain ⟨hl, -⟩ := sound_run ho hrun
  obtain ⟨turns, last, halone, hfinishes⟩ := Acquire.exists_finishes hl hrate hnow bytes
  obtain ⟨bucket, hbucket⟩ :=
    Option.ne_none_iff_exists'.1 fun hnone => hrate (hl.bucket_eq_none_iff.1 hnone)
  refine ⟨turns, last, bucket, fun turns' last' => ⟨halone.unique, ?_⟩, hfinishes, hbucket, ?_⟩
  · rintro ⟨rfl, rfl⟩
    exact halone
  · rw [Limiter.level, hbucket, Option.elim_some, (hl.bucket_sound bucket hbucket).level_eq,
      hl.capacity_eq bucket hbucket, hl.interval_eq bucket hbucket]

/-- At 3000 bytes per second, 400 of a burst of 500 are spent when an acquire for 1200 starts. -/
theorem finishes_after_400 :
    ∃ crowd turns last,
      Schedule.InOrder 0 [(0, Action.start 400), (0, .turn 0 false)] 7000000 ∧
      Schedule.run step (make 0 3000 500) [(0, .start 400), (0, .turn 0 false)] = some crowd ∧
      crowd.limiter.rate ≠ 0 ∧ grain ∣ 7000000 ∧
      Alone ⟨1200, none⟩ crowd.limiter 7000000 turns last ∧
      Finishes crowd.limiter 7000000 1200 turns last := by
  have ho : Schedule.InOrder 0 [(0, Action.start 400), (0, .turn 0 false)] 7000000 := by
    simp [Schedule.InOrder]
  have hrun : (Schedule.run step (make 0 3000 500) [(0, .start 400), (0, .turn 0 false)]).any
      (fun crowd => decide (crowd.limiter.rate ≠ 0)) = true := by
    decide +kernel
  obtain ⟨crowd, hrun, hrate⟩ := (Option.any_eq_true _ _).1 hrun
  have hrate := of_decide_eq_true hrate
  have hnow : grain ∣ 7000000 := by decide
  obtain ⟨turns, last, -, halone, hfinishes, -⟩ := finishes_of_run ho hrun hrate hnow 1200
  exact ⟨crowd, turns, last, ho, hrun, hrate, hnow, (halone turns last).2 ⟨rfl, rfl⟩, hfinishes⟩

end Crowd

end Sluice
