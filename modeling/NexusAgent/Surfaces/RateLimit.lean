import Mathlib.Algebra.Order.Ring.Int

/-!
# Rate limits of the surfaces

A token bucket for each external identity (`internal/surfaces/telegram/ratelimit.go`, which the
other surfaces have copies of). A refill drops a part of a period, so the tokens of a bucket and
those used since some time are bounded by the periods up to its last refill.
-/

namespace NexusAgent.Surfaces

structure Bucket where
  tokens : ℤ
  lastFill : ℤ

/-- The limiter without its map of buckets, which is passed along. -/
structure RateLimiter where
  burst : ℤ
  refillEvery : ℤ
  burst_pos : 0 < burst
  refillEvery_pos : 0 < refillEvery
  refillEvery_lt : refillEvery < 2 ^ 63

def newRateLimiter (burst refillEvery : Int64) : RateLimiter where
  burst := if burst.toInt ≤ 0 then 20 else burst.toInt
  refillEvery := if refillEvery.toInt ≤ 0 then 60 * 10 ^ 9 else refillEvery.toInt
  burst_pos := by omega
  refillEvery_pos := by omega
  refillEvery_lt := by have := refillEvery.toInt_lt; omega

/-- `Time.Sub`, which saturates. -/
def sub (t u : ℤ) : ℤ := max (-2 ^ 63) (min (t - u) (2 ^ 63 - 1))

namespace RateLimiter

variable (r : RateLimiter)

/-- A bucket with the refills that are due. -/
def refill (now : ℤ) (b : Bucket) : Bucket :=
  let refills := (sub now b.lastFill).tdiv r.refillEvery
  if 0 < refills then
    { tokens := min ((b.tokens + refills).bmod (2 ^ 64)) r.burst, lastFill := now }
  else b

/-- What `Allow` does with the bucket of the key, if there is one. -/
def take (now : ℤ) : Option Bucket → Bool × Bucket
  | none => (true, { tokens := r.burst - 1, lastFill := now })
  | some b =>
    let b := r.refill now b
    if b.tokens ≤ 0 then (false, b) else (true, { b with tokens := b.tokens - 1 })

def allow (buckets : String → Option Bucket) (now : ℤ) (key : String) :
    Bool × (String → Option Bucket) :=
  let (ok, b) := r.take now (buckets key)
  (ok, Function.update buckets key (some b))

/-- How many of the calls of a key from `start` to `stop` are allowed. -/
def allowed (key : String) (start stop : ℤ) : (String → Option Bucket) → List (ℤ × String) → ℤ
  | _, [] => 0
  | buckets, (now, key') :: calls =>
    let (ok, buckets') := r.allow buckets now key'
    (if ok ∧ key' = key ∧ start ≤ now ∧ now ≤ stop then 1 else 0) +
      allowed key start stop buckets' calls

/-- A burst, one call for each period from `start` to `stop`, and one more. -/
def bound (start stop : ℤ) : ℤ := r.burst + (stop - start) / r.refillEvery + 1

/-- A bucket until `stop`, with `n` calls allowed since `start`. -/
structure Spent (start stop n : ℤ) (b : Bucket) : Prop where
  low : -2 ^ 63 ≤ b.tokens
  high : b.tokens ≤ r.burst
  filled : b.lastFill ≤ stop
  spent : n = 0 ∨
    start - r.refillEvery < b.lastFill ∧ n + max b.tokens 0 ≤ r.bound start b.lastFill

/-- A key without a bucket was allowed none. -/
def SpentAt (start stop n : ℤ) : Option Bucket → Prop
  | none => n = 0
  | some b => r.Spent start stop n b

variable {r} {b b' : Bucket} {now start stop n : ℤ} {key : String}

/-- A refill leaves out less than a period. -/
lemma Spent.refill (hnow : now ≤ stop) (h : r.Spent start stop n b) :
    r.Spent start stop n (r.refill now b) ∧ now - r.refillEvery < (r.refill now b).lastFill := by
  have hpos := r.refillEvery_pos
  have hlt := r.refillEvery_lt
  obtain ⟨hlow, hhigh, hfilled, hspent⟩ := h
  have hsub : sub now b.lastFill = max (-2 ^ 63) (min (now - b.lastFill) (2 ^ 63 - 1)) := rfl
  unfold RateLimiter.refill
  generalize sub now b.lastFill = elapsed at *
  dsimp only
  split_ifs with hrefills
  · have hnonneg : 0 ≤ elapsed := by
      by_contra hneg
      have hle := Int.tdiv_le_tdiv hpos (Int.not_le.1 hneg).le
      rw [Int.zero_tdiv] at hle
      omega
    rw [Int.tdiv_eq_ediv_of_nonneg hnonneg] at hrefills ⊢
    have hle : elapsed / r.refillEvery ≤ (now - b.lastFill) / r.refillEvery :=
      Int.ediv_le_ediv hpos (by omega)
    have hdiv :=
      Int.ediv_add_ediv_le_add_ediv (x := b.lastFill - start) (y := now - b.lastFill) hpos
    have hwrap := Int.bmod_def (b.tokens + elapsed / r.refillEvery) (2 ^ 64)
    have hburst := r.burst_pos
    exact ⟨⟨by grind, by grind, hnow, by grind [bound]⟩, by grind⟩
  · have hsmall : elapsed < 1 * r.refillEvery := Int.lt_mul_of_tdiv_lt hpos (by omega)
    exact ⟨⟨hlow, hhigh, hfilled, hspent⟩, by omega⟩

lemma SpentAt.take (hnow : now ≤ stop) {o : Option Bucket} (h : r.SpentAt start stop n o)
    {ok : Bool} (htake : r.take now o = (ok, b')) :
    r.Spent start stop (n + if ok ∧ start ≤ now then 1 else 0) b' := by
  have hburst := r.burst_pos
  have hpos := r.refillEvery_pos
  have hdiv : start - r.refillEvery < b'.lastFill → -1 ≤ (b'.lastFill - start) / r.refillEvery :=
    fun h => (Int.le_ediv_iff_mul_le hpos).2 (by omega)
  cases o with
  | none =>
    obtain rfl : n = 0 := h
    cases htake
    exact ⟨by grind, by grind, hnow, by grind [bound]⟩
  | some b =>
    obtain ⟨⟨hlow, hhigh, hfilled, hspent⟩, hlast⟩ := Spent.refill hnow h
    rw [RateLimiter.take] at htake
    generalize r.refill now b = b₁ at *
    split_ifs at htake <;> cases htake <;>
      exact ⟨by grind, by grind, hfilled, by grind [bound]⟩

lemma bound_nonneg (hle : start ≤ stop) : 0 ≤ r.bound start stop := by
  have hdiv := Int.ediv_nonneg (Int.sub_nonneg.2 hle) r.refillEvery_pos.le
  have hburst := r.burst_pos
  unfold bound
  omega

/-- The calls of a run, of which those after `stop` are not counted. -/
lemma SpentAt.run (hle : start ≤ stop) {calls : List (ℤ × String)}
    (hcalls : calls.Pairwise fun c d => c.1 ≤ d.1) {buckets : String → Option Bucket}
    (hn : n ≤ r.bound start stop)
    (h : ∀ c ∈ calls, c.1 ≤ stop → r.SpentAt start stop n (buckets key)) :
    n + r.allowed key start stop buckets calls ≤ r.bound start stop := by
  induction calls generalizing buckets n with
  | nil => rwa [allowed, Int.add_zero]
  | cons c calls ih =>
    obtain ⟨now, key'⟩ := c
    obtain ⟨hlater, hcalls⟩ := List.pairwise_cons.1 hcalls
    obtain ⟨hnow, h⟩ := List.forall_mem_cons.1 h
    rcases htake : r.take now (buckets key') with ⟨ok, b'⟩
    simp only [allowed, allow, htake]
    rw [← Int.add_assoc]
    by_cases hkey : key' = key
    · subst hkey
      by_cases hstop : now ≤ stop
      · have hspent := (hnow hstop).take hstop htake
        have hdiv := Int.ediv_le_ediv r.refillEvery_pos (Int.sub_le_sub_right hspent.filled start)
        have hnonneg := bound_nonneg (r := r) hle
        simp only [hstop, true_and, and_true]
        refine ih hcalls ?_ fun c hc _ => ?_
        · have hspent := hspent.spent
          unfold bound at *
          omega
        · rwa [Function.update_self]
      · rw [if_neg fun h => hstop h.2.2.2, Int.add_zero]
        exact ih hcalls hn fun c hc h => absurd ((hlater c hc).trans h) hstop
    · rw [if_neg fun h => hkey h.2.1, Int.add_zero]
      refine ih hcalls hn fun c hc hstop => ?_
      rw [Function.update_of_ne (Ne.symm hkey)]
      exact h c hc hstop

end RateLimiter

/-- Of the calls of a key in any interval, a new limiter allows at most a burst, one for each period
of the interval and one more. -/
theorem allowed_bounded (burst refillEvery : Int64) {calls : List (ℤ × String)}
    (hcalls : calls.Pairwise fun c d => c.1 ≤ d.1) (key : String) {start stop : ℤ}
    (hle : start ≤ stop) :
    (newRateLimiter burst refillEvery).allowed key start stop (fun _ => none) calls ≤
      (newRateLimiter burst refillEvery).bound start stop := by
  rw [← Int.zero_add (RateLimiter.allowed ..)]
  exact RateLimiter.SpentAt.run hle hcalls (RateLimiter.bound_nonneg hle) fun _ _ _ => rfl

theorem threeAllowed_bounded :
    (newRateLimiter 2 10).allowed "a" 9 20 (fun _ => none)
      [(0, "a"), (9, "a"), (9, "b"), (10, "a"), (20, "a")] ≤ (newRateLimiter 2 10).bound 9 20 :=
  allowed_bounded 2 10 (by decide) "a" (by decide)

end NexusAgent.Surfaces
