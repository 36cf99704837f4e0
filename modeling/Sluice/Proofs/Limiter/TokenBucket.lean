import Sluice.Proofs.Limiter.Level
import Sluice.Proofs.Schedule

/-!
# Limiters as buckets of tokens

A limiter keeps an arrival in a bucket that is made anew at every change of the rate, and moves
tokens to the next bucket by halvings. To its users it is a plain bucket of tokens: a level that
grows in time and sinks with what is granted.

* `TokenBucket` is the plain bucket, with `TokenBucket.wait`, `TokenBucket.debit` and
  `TokenBucket.setRate`;
* `TokenBucket.Matches v l now`: the bucket stands for the limiter. Every request and every pause
  keeps this;
* `Limiter.responses_make`: a limiter whose burst is a power of two answers any sequence of requests
  as the plain bucket does.
-/

namespace Sluice

/-- A request at a limiter or at a bucket of tokens. -/
inductive Request where
  /-- So many bytes ask to pass, at least one. -/
  | debit (n : ℕ) (pos : 0 < n)
  /-- The rate is changed. -/
  | setRate (rate : UInt64)

/-- The answer to a request of bytes. -/
inductive Response where
  /-- The bytes may pass. -/
  | granted
  /-- The bytes may pass after `wait` nanoseconds if nothing else happens. -/
  | refused (wait : ℚ)
  /-- The rate is `0`, so no wait helps. -/
  | blocked
  /-- The bytes can never pass at once. -/
  | oversized
deriving DecidableEq

/-- A bucket of tokens, which counts them. -/
structure TokenBucket where
  /-- The bytes per second. -/
  rate : UInt64
  /-- The number of tokens in the full bucket. -/
  burst : ℕ
  /-- The tokens in the bucket, with the fraction of the token that it is gaining. -/
  level : ℚ
  /-- There are no debts. -/
  level_nonneg : 0 ≤ level
  /-- There are no more tokens than in the full bucket. -/
  level_le_burst : level ≤ burst

namespace TokenBucket

/-- The nanoseconds in which a bucket of the rate gains one token. Rates above `10 ^ 9` count as
`10 ^ 9`. -/
def interval (rate : UInt64) : ℕ := 1000000000 / min rate.toNat 1000000000

/-- A full bucket, or an empty one for rate `0`. -/
def full (rate : UInt64) (burst : ℕ) : TokenBucket where
  rate := rate
  burst := burst
  level := if rate = 0 then 0 else burst
  level_nonneg := by split <;> simp
  level_le_burst := by split <;> simp

/-- The bucket after a pause. Unless the rate is `0` it gains one token per interval, in proportion,
until it is full. -/
def wait (v : TokenBucket) (length : ℕ) : TokenBucket where
  rate := v.rate
  burst := v.burst
  level := if v.rate = 0 then v.level else min v.burst (v.level + length / interval v.rate)
  level_nonneg := by
    have := v.level_nonneg
    split
    · exact this
    · positivity
  level_le_burst := by
    split
    · exact v.level_le_burst
    · exact min_le_left _ _

/-- Ask for `n` bytes. They are granted if there are as many tokens, and otherwise refused until the
missing ones are gained. -/
def debit (v : TokenBucket) (n : ℕ) : Response × TokenBucket :=
  if v.rate = 0 then (.blocked, v)
  else if v.burst < n then (.oversized, v)
  else if h : n ≤ v.level then
    (.granted,
      { v with
        level := v.level - n
        level_nonneg := sub_nonneg.2 h
        level_le_burst := (sub_le_self _ n.cast_nonneg).trans v.level_le_burst })
  else (.refused ((n - v.level) * interval v.rate), v)

/-- Change the rate. Unless it stays the same, a new rate above `0` keeps the whole tokens, and rate
`0` keeps none. -/
def setRate (v : TokenBucket) (rate : UInt64) : TokenBucket :=
  if v.rate = rate then v
  else
    { v with
      rate := rate
      level := if rate = 0 then 0 else ⌊v.level⌋₊
      level_nonneg := by split <;> simp
      level_le_burst := by
        split
        · simp
        · exact (Nat.floor_le v.level_nonneg).trans v.level_le_burst }

/-- The bucket after a request, with the answer if bytes were asked for. -/
def serve (v : TokenBucket) : Request → Option Response × TokenBucket
  | .debit n _ => ((some (v.debit n).1), (v.debit n).2)
  | .setRate rate => (none, v.setRate rate)

/-- The answers of a bucket whose level is known at the instant `now`. -/
def responses (v : TokenBucket) (now : ℕ) : Schedule Request → List Response
  | [] => []
  | (instant, request) :: rest =>
    let (response, next) := (v.wait (instant - now)).serve request
    response.toList ++ next.responses instant rest

end TokenBucket

namespace Limiter

/-- The answer of a limiter in terms of its user. -/
def Answer.response : Answer → Response
  | .granted _ => .granted
  | .refused wait => .refused wait
  | .blocked => .blocked
  | .oversized => .oversized

/-- The limiter that an answer leaves. -/
def Answer.limiter (l : Limiter) : Answer → Limiter
  | .granted after => after
  | _ => l

/-- The limiter after a request, with the answer if bytes were asked for. -/
def serve (l : Limiter) (now : ℕ) : Request → Option Response × Limiter
  | .debit n _ => (some (l.debit now n).response, (l.debit now n).limiter l)
  | .setRate rate => (none, l.setRate now rate)

/-- The answers of a limiter. -/
def responses (l : Limiter) : Schedule Request → List Response
  | [] => []
  | (now, request) :: rest =>
    let (response, next) := l.serve now request
    response.toList ++ next.responses rest

end Limiter

namespace Limiter

theorem burst_serve (l : Limiter) (now : ℕ) (request : Request) :
    (l.serve now request).2.burst = l.burst := by
  cases request with
  | setRate rate => exact burst_setRate l now rate
  | debit n hn =>
    simp only [serve]
    cases hanswer : l.debit now n with
    | granted after => exact Debits.burst_eq (.inr ⟨hn, hanswer⟩)
    | _ => rfl

end Limiter

namespace TokenBucket

/-- The bucket stands for the limiter: they have the same rate, burst and level. -/
structure Matches (v : TokenBucket) (l : Limiter) (now : ℕ) : Prop where
  sound : l.Sound now
  rate_eq : v.rate = l.rate
  burst_eq : v.burst = l.burst
  level_eq : v.level = l.level now

variable {v : TokenBucket} {l : Limiter} {now later k : ℕ}

theorem level_wait (v : TokenBucket) (length : ℕ) :
    (v.wait length).level =
      if v.rate = 0 then v.level else min (v.burst : ℚ) (v.level + length / interval v.rate) :=
  rfl

theorem interval_eq (rate : UInt64) : interval rate = Limiter.interval rate := by
  rw [interval, Limiter.interval, Limiter.toNat_min_maxRate]

/-- A new limiter is a full bucket. -/
theorem matches_full (now : ℕ) (rate : UInt64) (burst : UInt32) :
    (full rate (max 1 burst.toNat)).Matches (Limiter.make now rate burst) now where
  sound := Limiter.sound_make now rate burst
  rate_eq := rfl
  burst_eq := rfl
  level_eq := (Limiter.level_make now rate burst).symm

namespace Matches

theorem wait (h : v.Matches l now) (hle : now ≤ later) :
    (v.wait (later - now)).Matches l later where
  sound := h.sound.mono hle
  rate_eq := h.rate_eq
  burst_eq := h.burst_eq
  level_eq := by
    rw [h.sound.level_later hle, level_wait, h.rate_eq, h.burst_eq, h.level_eq, interval_eq,
      Nat.cast_sub hle]
    split
    next hr => exact h.sound.level_of_rate_zero hr
    next => rfl

/-- The bucket and the limiter give the same answer to a request of bytes. -/
theorem debit (h : v.Matches l now) {n : ℕ} (hn : 0 < n) :
    (v.debit n).1 = (l.debit now n).response ∧
      (v.debit n).2.Matches ((l.debit now n).limiter l) now := by
  rw [TokenBucket.debit]
  rcases h.sound.debit_cases hn with ⟨hr, hanswer⟩ | ⟨hr, hlt, hanswer⟩ |
      ⟨hr, hburst, hle, after, hanswer⟩ | ⟨hr, hburst, hlt, wait, hanswer, hwait⟩
  all_goals
    rw [← h.rate_eq] at hr
    rw [hanswer]
  · rw [if_pos hr]
    exact ⟨rfl, h⟩
  · rw [if_neg hr, if_pos (h.burst_eq ▸ hlt)]
    exact ⟨rfl, h⟩
  · have hdebits : l.Debits now n after := .inr ⟨hn, hanswer⟩
    rw [if_neg hr, if_neg (h.burst_eq ▸ hburst.not_gt), dif_pos (h.level_eq ▸ hle)]
    refine ⟨rfl, hdebits.sound h.sound, ?_, ?_, ?_⟩
    · exact h.rate_eq.trans hdebits.rate_eq.symm
    · exact h.burst_eq.trans hdebits.burst_eq.symm
    · exact (congrArg (· - (n : ℚ)) h.level_eq).trans (hdebits.level_eq h.sound).symm
  · rw [if_neg hr, if_neg (h.burst_eq ▸ hburst.not_gt), dif_neg (h.level_eq ▸ hlt.not_ge)]
    refine ⟨?_, h⟩
    rw [Limiter.Answer.response, hwait, h.level_eq, interval_eq, h.rate_eq]

theorem setRate (h : v.Matches l now) (hburst : l.burst = 2 ^ k) (rate : UInt64) :
    (v.setRate rate).Matches (l.setRate now rate) now := by
  rw [TokenBucket.setRate]
  split
  next hr =>
    rw [← hr, h.rate_eq, Limiter.setRate_rate]
    exact h
  next hne =>
    rw [h.rate_eq] at hne
    refine ⟨h.sound.setRate rate, (Limiter.rate_setRate ..).symm, ?_, ?_⟩
    · exact h.burst_eq.trans (Limiter.burst_setRate ..).symm
    · -- halvings of a power of two find every whole token
      rw [h.sound.level_setRate hne, h.sound.available_eq_floor hburst, ← h.level_eq]

/-- The bucket and the limiter answer a request alike, and the bucket goes on standing for the
limiter. -/
theorem serve (h : v.Matches l now) (hburst : l.burst = 2 ^ k) (request : Request) :
    (v.serve request).1 = (l.serve now request).1 ∧
      (v.serve request).2.Matches (l.serve now request).2 now := by
  cases request with
  | debit n hn =>
    obtain ⟨hresponse, hnext⟩ := h.debit hn
    exact ⟨congrArg some hresponse, hnext⟩
  | setRate rate => exact ⟨rfl, h.setRate hburst rate⟩

/-- The bucket and the limiter answer any sequence of requests alike. -/
theorem responses {requests : Schedule Request} {last : ℕ} (h : v.Matches l now)
    (hburst : l.burst = 2 ^ k) (ho : Schedule.InOrder now requests last) :
    l.responses requests = v.responses now requests := by
  -- over the requests, for the bucket and the limiter that the earlier ones have left
  induction requests generalizing v l now with
  | nil => rfl
  | cons head rest ih =>
    obtain ⟨instant, request⟩ := head
    obtain ⟨hle, ho⟩ := ho
    obtain ⟨hresponse, hnext⟩ := (h.wait hle).serve hburst request
    simp only [TokenBucket.responses, Limiter.responses]
    rw [hresponse, ih hnext ((Limiter.burst_serve l instant request).trans hburst) ho]

end Matches

end TokenBucket

namespace Limiter

/-- A limiter whose burst is a power of two answers any sequence of requests in the order of time as
the plain bucket does. -/
theorem responses_make {k made last : ℕ} (rate : UInt64) {burst : UInt32}
    {requests : Schedule Request} (hburst : max 1 burst.toNat = 2 ^ k)
    (ho : Schedule.InOrder made requests last) :
    (make made rate burst).responses requests =
      (TokenBucket.full rate (max 1 burst.toNat)).responses made requests :=
  (TokenBucket.matches_full made rate burst).responses hburst ho

-- one chunk, the burst of the limiters of tunnels and connections, is such a burst
example : max 1 (UInt32.ofNat chunkSize).toNat = 2 ^ 15 := by decide

/-- A burst of four bytes is spent by two requests, and the rate is doubled when half of the second
byte is gained; then it is `0` for a while, and then above the highest rate that is told apart. -/
def ratesAfterBurst : Schedule Request :=
  [(0, .debit 3 (by decide)), (0, .debit 1 (by decide)), (1500000, .debit 3 (by decide)),
    (1500000, .setRate 2000), (1500000, .debit 1 (by decide)), (1500000, .debit 1 (by decide)),
    (1600000, .setRate 0), (1700000, .debit 1 (by decide)), (2000000, .setRate 3000000000),
    (2000001, .debit 2 (by decide)), (2000002, .debit 2 (by decide)),
    (2000099, .debit 5 (by decide))]

theorem responses_ratesAfterBurst :
    Schedule.InOrder 0 ratesAfterBurst 2000099 ∧
      (make 0 1000 4).responses ratesAfterBurst =
        (TokenBucket.full 1000 4).responses 0 ratesAfterBurst ∧
      (make 0 1000 4).responses ratesAfterBurst =
        [.granted, .granted, .refused 1500000, .granted, .refused 500000, .blocked, .refused 1,
          .granted, .oversized] := by
  have ho : Schedule.InOrder 0 ratesAfterBurst 2000099 := by
    simp [Schedule.InOrder, ratesAfterBurst]
  have hburst : max 1 (4 : UInt32).toNat = 2 ^ 2 := by decide
  exact ⟨ho, responses_make 1000 hburst ho, by decide +kernel⟩

end Limiter

end Sluice
