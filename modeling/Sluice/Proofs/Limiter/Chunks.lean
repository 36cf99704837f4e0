import Mathlib.Algebra.Order.Floor.Div
import Sluice.Proofs.Limiter.Level

/-!
# The chunks of an acquire

An acquire pays in chunks: whole bursts first, and at last what remains. Every bucket of a limiter
holds a burst, whatever the rate becomes, so that no chunk is ever too large for it.

* `Acquire.chunks burst bytes`: the chunks of an acquire, by `Acquire.splits_chunks` as many as
  bursts are needed;
* `Limiter.Fits`: the bucket holds a burst. Every operation of the limiter keeps this, and
  `Limiter.Fits.debit_ne_oversized` says what it is for.
-/

namespace Sluice

/-! ## Chunks -/

namespace Acquire

/-- The chunks in which an acquire pays for so many bytes: whole bursts, and then what remains. -/
def chunks (burst bytes : ℕ) : List ℕ :=
  List.replicate (bytes / burst) burst ++ if bytes % burst = 0 then [] else [bytes % burst]

/-- The debits are whole bursts but for the last one, as few as possible, and together the bytes. -/
structure Splits (burst bytes : ℕ) (debits : List ℕ) : Prop where
  length_eq : debits.length = bytes ⌈/⌉ burst
  sum_eq : debits.sum = bytes
  eq_burst : ∀ n ∈ debits.dropLast, n = burst
  le_burst : ∀ n ∈ debits, 0 < n ∧ n ≤ burst

variable {burst bytes : ℕ}

@[simp] theorem chunks_zero (burst : ℕ) : chunks burst 0 = [] := by
  simp [chunks]

/-- What fits into a burst is one chunk. -/
theorem chunks_of_le (hpos : 0 < bytes) (hle : bytes ≤ burst) : chunks burst bytes = [bytes] := by
  rcases hle.lt_or_eq with hlt | rfl
  · rw [chunks, Nat.div_eq_of_lt hlt, Nat.mod_eq_of_lt hlt, if_neg hpos.ne']
    rfl
  · rw [chunks, Nat.div_self hpos, Nat.mod_self, if_pos rfl]
    rfl

/-- More than a burst is one burst and the chunks of the rest. -/
theorem chunks_of_ge (hpos : 0 < burst) (hge : burst ≤ bytes) :
    chunks burst bytes = burst :: chunks burst (bytes - burst) := by
  have hdiv : bytes / burst = (bytes - burst) / burst + 1 := Nat.div_eq_sub_div hpos hge
  rw [chunks, chunks, hdiv, Nat.mod_eq_sub_mod hge, List.replicate_succ, List.cons_append]

/-- The first chunk is a burst, or all that is asked for. -/
theorem chunks_of_pos (hpos : 0 < burst) (hbytes : 0 < bytes) :
    chunks burst bytes = min bytes burst :: chunks burst (bytes - min bytes burst) := by
  rcases le_total bytes burst with hle | hle
  · rw [min_eq_left hle, chunks_of_le hbytes hle, Nat.sub_self, chunks_zero]
  · rw [min_eq_right hle, chunks_of_ge hpos hle]

/-- Whole bursts split their sum. -/
theorem splits_replicate (hpos : 0 < burst) (count : ℕ) :
    Splits burst (count * burst) (List.replicate count burst) := by
  refine ⟨?_, ?_, fun n hn => ?_, fun n hn => ?_⟩
  · rw [List.length_replicate, Nat.ceilDiv_eq_add_pred_div]
    refine (Nat.div_eq_of_lt_le ?_ ?_).symm
    · omega
    · rw [Nat.succ_mul]
      omega
  · rw [List.sum_replicate, smul_eq_mul]
  · exact List.eq_of_mem_replicate (List.mem_of_mem_dropLast hn)
  · rw [List.eq_of_mem_replicate hn]
    exact ⟨hpos, le_rfl⟩

/-- Whole bursts and a remainder split their sum. -/
theorem splits_concat {rest : ℕ} (hrest : 0 < rest) (hlt : rest < burst) (count : ℕ) :
    Splits burst (count * burst + rest) (List.replicate count burst ++ [rest]) := by
  refine ⟨?_, ?_, fun n hn => ?_, fun n hn => ?_⟩
  · rw [List.length_append, List.length_replicate, List.length_singleton,
      Nat.ceilDiv_eq_add_pred_div]
    refine (Nat.div_eq_of_lt_le ?_ ?_).symm
    · rw [Nat.succ_mul]
      omega
    · rw [Nat.succ_mul, Nat.succ_mul]
      omega
  · rw [List.sum_append, List.sum_replicate, smul_eq_mul, List.sum_singleton]
  · rw [List.dropLast_concat] at hn
    exact List.eq_of_mem_replicate hn
  · rcases List.mem_append.1 hn with hn | hn
    · rw [List.eq_of_mem_replicate hn]
      exact ⟨hrest.trans hlt, le_rfl⟩
    · rw [List.mem_singleton.1 hn]
      exact ⟨hrest, hlt.le⟩

/-- An acquire for so many bytes pays them all, in as few chunks as possible. -/
theorem splits_chunks (hpos : 0 < burst) (bytes : ℕ) : Splits burst bytes (chunks burst bytes) := by
  have hsum := Nat.div_add_mod' bytes burst
  rw [chunks]
  split
  next hzero =>
    have hwhole := splits_replicate hpos (bytes / burst)
    rw [hzero, Nat.add_zero] at hsum
    rwa [hsum, ← List.append_nil (List.replicate _ _)] at hwhole
  next hrest =>
    have hconcat := splits_concat (Nat.pos_of_ne_zero hrest) (Nat.mod_lt bytes hpos) (bytes / burst)
    rwa [hsum] at hconcat

end Acquire

/-! ## Limiters whose buckets hold a burst -/

/-- Emptying a bucket changes nothing about what it can hold. -/
theorem Bucket.capacity_holding (b : Bucket) (now n : ℕ) :
    (b.holding now n).capacity = b.capacity := by
  unfold Bucket.holding Bucket.debited
  split
  · split
    next hcheck => exact (Bucket.check_granted hcheck).2.2
    next => rfl
  · rfl

namespace Limiter

/-- The bucket holds a burst. -/
def Fits (l : Limiter) : Prop := ∀ b, l.bucket = some b → b.capacity = l.burst

variable {l after : Limiter} {now n : ℕ} {rate : UInt64}

theorem capacity_of_fullBucket {burst : ℕ} {b : Bucket}
    (h : fullBucket now rate burst = some b) : b.capacity = burst := by
  unfold fullBucket at h
  split at h
  · cases h
  · cases h
    rfl

theorem fits_make (now : ℕ) (rate : UInt64) (burst : UInt32) : (make now rate burst).Fits :=
  fun _ => capacity_of_fullBucket

theorem Fits.of_debit (hl : l.Fits) (h : l.debit now n = .granted after) : after.Fits := by
  obtain ⟨b, b', hb, hcheck, rfl⟩ := debit_eq_granted h
  rintro b'' ⟨⟩
  rw [(Bucket.check_granted hcheck).2.2]
  exact hl b hb

theorem Fits.debits (hl : l.Fits) (h : l.Debits now n after) : after.Fits := by
  rcases h with ⟨-, rfl⟩ | ⟨-, h⟩
  · exact hl
  · exact hl.of_debit h

theorem Fits.setRate (hl : l.Fits) (now : ℕ) (rate : UInt64) : (l.setRate now rate).Fits := by
  by_cases hr : l.rate = rate
  · rw [← hr, setRate_rate]
    exact hl
  · rw [setRate_of_ne hr]
    intro b hb
    obtain ⟨full, hfull, rfl⟩ := Option.map_eq_some_iff.1 hb
    rw [Bucket.capacity_holding]
    exact capacity_of_fullBucket hfull

/-- No request within the burst is too large. -/
theorem Fits.debit_ne_oversized (hl : l.Fits) (hn : n ≤ l.burst) :
    l.debit now n ≠ .oversized := by
  intro h
  unfold debit at h
  split at h
  · cases h
  next b hb =>
    split at h
    · cases h
    · cases h
    next hcheck =>
      have hlt := Bucket.check_eq_oversized_iff.1 hcheck
      rw [hl b hb] at hlt
      exact hlt.not_ge hn

end Limiter

end Sluice
