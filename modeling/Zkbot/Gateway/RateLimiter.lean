import Mathlib.Data.Rat.Floor
import Mathlib.Tactic.Linarith

/-!
# The token bucket of the IBKR gateway

`rate_limiter.py`.  A call refills the bucket for the time that has passed and takes its tokens if
they are there; an `acquire` that finds too few sleeps and tries again.  Nothing comes between a
refill and its answer, so a schedule is a list of calls and wake-ups in the order of the clock.

* `StepSpec` — what one call does to the bucket; every bound below is read off it.
* `grantedIn_le_available` — a window grants at most what the bucket has when it starts and what
  flows in, so at most the burst and the inflow (`bucket_bounds`).
* `ceiling_iff` — with the defaults this is more than the documented ceiling of 50.  Calls for one
  token each are sure to keep to it exactly if the window starts with fewer than 11 tokens, or if
  there are no more than 50 of them: `passing` is a schedule of 51 that are all granted.
-/

namespace Zkbot

open List

/-- `TokenBucketRateLimiter`, with the counts that the sleeping `acquire` calls wait for. -/
structure TokenBucketRateLimiter where
  rate : ℚ
  burst : ℚ
  tokens : ℚ
  lastRefill : ℚ
  sleeping : List ℕ := []

/-- What the scheduler does: a task calls, or a sleeping one wakes up, early or late. -/
inductive LimiterCall where
  | acquire (count : ℕ)
  | wake (i : ℕ)
  | tryAcquire (count : ℕ)

/-- A call that asks for one token. -/
def LimiterCall.single : LimiterCall → Bool
  | .acquire count | .tryAcquire count => count = 1
  | .wake _ => true

namespace TokenBucketRateLimiter

/-- `__init__`; `none` is the `ValueError`. -/
def new (now : ℚ) (rate : ℚ := 40) (burst : Option ℚ := none) : Option TokenBucketRateLimiter :=
  if rate ≤ 0 then none
  else
    let burst := burst.getD (max 1 ⌊rate⌋)
    some { rate, burst, tokens := burst, lastRefill := now }

variable (s : TokenBucketRateLimiter)

/-- The tokens that `_refill` leaves. -/
def available (now : ℚ) : ℚ := min s.burst (s.tokens + (now - s.lastRefill) * s.rate)

def tryAcquire (now : ℚ) (count : ℕ) : TokenBucketRateLimiter × Bool :=
  let s := { s with tokens := s.available now, lastRefill := now }
  if (count : ℚ) ≤ s.tokens then ({ s with tokens := s.tokens - count }, true) else (s, false)

/-- One round of the loop of `acquire`, for the sleeping task `i`; with what is granted. -/
def round (now : ℚ) (i : ℕ) : TokenBucketRateLimiter × ℕ :=
  match s.sleeping[i]? with
  | none => (s, 0)
  | some count =>
    match s.tryAcquire now count with
    | (s, true) => ({ s with sleeping := s.sleeping.eraseIdx i }, count)
    | (s, false) => (s, 0)

def step (now : ℚ) : LimiterCall → TokenBucketRateLimiter × ℕ
  | .acquire count =>
    round { s with sleeping := s.sleeping ++ [count] } now s.sleeping.length
  | .wake i => s.round now i
  | .tryAcquire count =>
    let (s, granted) := s.tryAcquire now count
    (s, if granted then count else 0)

def after (calls : List (ℚ × LimiterCall)) : TokenBucketRateLimiter :=
  calls.foldl (fun s call => (s.step call.1 call.2).1) s

/-- The grants of a schedule, each with its time. -/
def grants : TokenBucketRateLimiter → List (ℚ × LimiterCall) → List (ℚ × ℕ)
  | _, [] => []
  | s, call :: calls => (call.1, (s.step call.1 call.2).2) :: grants (s.step call.1 call.2).1 calls

/-- The tokens granted in a window of time. -/
def grantedIn (start length : ℚ) (log : List (ℚ × ℕ)) : ℕ :=
  ((log.filter fun g => start ≤ g.1 ∧ g.1 ≤ start + length).map (·.2)).sum

/-- The calls are in the order of the clock, none before `t`. -/
def InOrder (t : ℚ) (calls : List (ℚ × LimiterCall)) : Prop :=
  (t :: calls.map (·.1)).Pairwise (· ≤ ·)
deriving Decidable

/-! ## One call -/

structure Sound (t : ℚ) : Prop where
  rate : 0 < s.rate
  nonneg : 0 ≤ s.tokens
  le_burst : s.tokens ≤ s.burst
  last : s.lastRefill ≤ t

/-- What one call does to the bucket.  Only a wake-up of nobody does not refill it. -/
structure StepSpec (now : ℚ) (r : TokenBucketRateLimiter × ℕ) : Prop where
  rate : r.1.rate = s.rate
  burst : r.1.burst = s.burst
  tokens : r.1.lastRefill = now ∧ r.1.tokens = s.available now - r.2 ∧
      (r.2 = 0 ∨ r.2 ≤ s.available now) ∨
    r.1.lastRefill = s.lastRefill ∧ r.1.tokens = s.tokens ∧ r.2 = 0

variable {s} {now t start length bound : ℚ} {r : TokenBucketRateLimiter × ℕ}
  {call : ℚ × LimiterCall} {calls : List (ℚ × LimiterCall)}

lemma tryAcquire_spec (s : TokenBucketRateLimiter) (now : ℚ) (count : ℕ) :
    s.StepSpec now
      ((s.tryAcquire now count).1, if (s.tryAcquire now count).2 then count else 0) := by
  by_cases h : (count : ℚ) ≤ s.available now
  · rw [tryAcquire, if_pos h]
    exact ⟨rfl, rfl, .inl ⟨rfl, rfl, .inr h⟩⟩
  · rw [tryAcquire, if_neg h]
    exact ⟨rfl, rfl, .inl ⟨rfl, by simp, .inl rfl⟩⟩

lemma round_spec (s : TokenBucketRateLimiter) (now : ℚ) (i : ℕ) :
    s.StepSpec now (s.round now i) := by
  cases hi : s.sleeping[i]? with
  | none => exact ⟨by simp [round, hi], by simp [round, hi], .inr (by simp [round, hi])⟩
  | some count =>
    have h := tryAcquire_spec s now count
    rcases hr : s.tryAcquire now count with ⟨s', _ | _⟩
    · simpa [round, hi, hr] using h
    · rw [hr] at h
      simp only [round, hi, hr]
      exact { h with }

lemma step_spec (s : TokenBucketRateLimiter) (call : ℚ × LimiterCall) :
    s.StepSpec call.1 (s.step call.1 call.2) := by
  obtain ⟨now, count | i | count⟩ := call
  · have h := round_spec { s with sleeping := s.sleeping ++ [count] } now s.sleeping.length
    exact { h with }
  · exact round_spec s now i
  · exact tryAcquire_spec s now count

lemma available_le_add (h : s.Sound t) (hle : t ≤ now) :
    s.available now ≤ s.available t + (now - t) * s.rate := by
  have hgrow : 0 ≤ (now - t) * s.rate := mul_nonneg (sub_nonneg.mpr hle) h.rate.le
  rw [available, available, min_add]
  exact min_le_min (by linarith) (by linarith)

lemma available_nonneg (h : s.Sound t) : 0 ≤ s.available t :=
  le_min (h.nonneg.trans h.le_burst)
    (add_nonneg h.nonneg (mul_nonneg (sub_nonneg.mpr h.last) h.rate.le))

/-- A call keeps the bucket between nothing and its burst. -/
lemma Sound.step (hs : s.Sound t) (hle : t ≤ now) (h : s.StepSpec now r) : r.1.Sound now := by
  have hnonneg := available_nonneg (s := s) { hs with last := hs.last.trans hle }
  have hburst : s.available now ≤ s.burst := min_le_left ..
  have hr : (0 : ℚ) ≤ r.2 := Nat.cast_nonneg _
  rcases h.tokens with ⟨htime, htokens, hgrant⟩ | ⟨htime, htokens, -⟩
  · refine ⟨h.rate ▸ hs.rate, ?_, by rw [h.burst]; linarith, htime.le⟩
    rcases hgrant with hgrant | hgrant
    · simpa [htokens, hgrant] using hnonneg
    · linarith
  · exact ⟨h.rate ▸ hs.rate, htokens ▸ hs.nonneg, by rw [htokens, h.burst]; exact hs.le_burst,
      htime ▸ hs.last.trans hle⟩

/-- What is granted leaves the bucket. -/
lemma StepSpec.paid (h : s.StepSpec now r) : r.2 + r.1.available now ≤ s.available now := by
  rcases h.tokens with ⟨htime, htokens, -⟩ | ⟨htime, htokens, hgrant⟩
  · have := min_le_right r.1.burst (r.1.tokens + (now - r.1.lastRefill) * r.1.rate)
    rw [← available, htime, htokens, sub_self, zero_mul] at this
    linarith
  · simp [available, htime, htokens, hgrant, h.rate, h.burst]

/-! ## Schedules -/

lemma InOrder.tail (h : InOrder t (call :: calls)) : t ≤ call.1 ∧ InOrder call.1 calls :=
  ⟨rel_of_pairwise_cons h mem_cons_self, h.of_cons⟩

lemma grantedIn_cons (s : TokenBucketRateLimiter) (call : ℚ × LimiterCall)
    (calls : List (ℚ × LimiterCall)) :
    grantedIn start length (grants s (call :: calls)) =
      (if start ≤ call.1 ∧ call.1 ≤ start + length then (s.step call.1 call.2).2 else 0) +
        grantedIn start length (grants (s.step call.1 call.2).1 calls) := by
  simp only [grantedIn, grants, filter_cons, decide_eq_true_eq]
  split_ifs <;> simp

lemma grantedIn_of_late (h : InOrder t calls) (hlate : start + length < t) :
    grantedIn start length (grants s calls) = 0 := by
  induction calls generalizing s t with
  | nil => rfl
  | cons call calls ih =>
    have hnow := hlate.trans_le h.tail.1
    rw [grantedIn_cons, if_neg fun hin => hnow.not_ge hin.2, ih h.tail.2 hnow]

/-- From its start on, a window grants what the bucket has and what flows in. -/
lemma grantedIn_le_available (hs : s.Sound t) (h : InOrder t calls) (hstart : start ≤ t)
    (hend : t ≤ start + length) :
    grantedIn start length (grants s calls) ≤ s.available t + (start + length - t) * s.rate := by
  induction calls generalizing s t with
  | nil =>
    exact add_nonneg (available_nonneg hs) (mul_nonneg (sub_nonneg.mpr hend) hs.rate.le)
  | cons call calls ih =>
    obtain ⟨hle, htail⟩ := h.tail
    rw [grantedIn_cons]
    rcases le_or_gt call.1 (start + length) with hnow | hlate
    · have hspec := step_spec s call
      have htotal := ih (hs.step hle hspec) htail (hstart.trans hle) hnow
      rw [hspec.rate] at htotal
      rw [if_pos ⟨hstart.trans hle, hnow⟩, Nat.cast_add]
      linarith [hspec.paid, available_le_add hs hle]
    · rw [if_neg fun hin => hlate.not_ge hin.2, grantedIn_of_late htail hlate]
      exact add_nonneg (available_nonneg hs) (mul_nonneg (sub_nonneg.mpr hend) hs.rate.le)

/-- A window grants at most what a full bucket has and what flows in. -/
lemma grantedIn_le (hs : s.Sound t) (h : InOrder t calls) (hlength : 0 ≤ length) :
    grantedIn start length (grants s calls) ≤ s.burst + length * s.rate := by
  have hburst : 0 ≤ s.burst := hs.nonneg.trans hs.le_burst
  induction calls generalizing s t with
  | nil => exact add_nonneg hburst (mul_nonneg hlength hs.rate.le)
  | cons call calls ih =>
    obtain ⟨hle, htail⟩ := h.tail
    rcases lt_or_ge call.1 start with hnow | hnow
    · have hspec := step_spec s call
      have htotal := ih (hs.step hle hspec) htail (hspec.burst ▸ hburst)
      rw [hspec.rate, hspec.burst] at htotal
      rwa [grantedIn_cons, if_neg fun hin => hnow.not_ge hin.1, zero_add]
    · have hself : InOrder call.1 (call :: calls) := pairwise_cons.mpr
        ⟨fun _ hx => (mem_cons.mp hx).elim (·.ge) (rel_of_pairwise_cons htail), htail⟩
      rcases le_or_gt call.1 (start + length) with hin | hlate
      · have htotal := grantedIn_le_available
          { hs with last := hs.last.trans hle } hself hnow hin
        have hfull : s.available call.1 ≤ s.burst := min_le_left ..
        have hless : (start + length - call.1) * s.rate ≤ length * s.rate :=
          mul_le_mul_of_nonneg_right (by linarith) hs.rate.le
        linarith
      · rw [grantedIn_of_late hself hlate]
        exact add_nonneg hburst (mul_nonneg hlength hs.rate.le)

/-- A schedule keeps the bucket between nothing and its burst. -/
lemma Sound.after (hs : s.Sound t) (h : InOrder t calls) :
    (∃ last ∈ t :: calls.map (·.1), (s.after calls).Sound last) ∧
      (s.after calls).burst = s.burst ∧ (s.after calls).rate = s.rate := by
  induction calls generalizing s t with
  | nil => exact ⟨⟨t, mem_singleton_self t, hs⟩, rfl, rfl⟩
  | cons call calls ih =>
    have hspec := step_spec s call
    obtain ⟨⟨last, hlast, hsound⟩, hburst, hrate⟩ := ih (hs.step h.tail.1 hspec) h.tail.2
    exact ⟨⟨last, mem_cons_of_mem _ hlast, hsound⟩, hburst.trans hspec.burst,
      hrate.trans hspec.rate⟩

/-- **Every window grants at most the burst and the inflow**, whatever the tasks do, and the bucket
never holds less than nothing or more than the burst. -/
theorem bucket_bounds (rate burst begin : ℚ) (hburst : 0 ≤ burst) (s : TokenBucketRateLimiter)
    (hnew : new begin rate (some burst) = some s) (calls : List (ℚ × LimiterCall))
    (hclock : InOrder begin calls) :
    (∀ start length, 0 ≤ length → grantedIn start length (grants s calls) ≤ burst + rate * length) ∧
    ∀ done, done <+: calls → 0 ≤ (s.after done).tokens ∧ (s.after done).tokens ≤ burst := by
  simp only [new] at hnew
  split_ifs at hnew with hrate
  cases hnew
  have hs : Sound ⟨rate, burst, burst, begin, []⟩ begin := ⟨not_le.mp hrate, hburst, le_rfl, le_rfl⟩
  refine ⟨fun start length hlength => ?_, fun done hdone => ?_⟩
  · rw [mul_comm]
    exact grantedIn_le hs hclock hlength
  · obtain ⟨⟨_, -, hsound⟩, hsame, -⟩ :=
      hs.after (hclock.sublist ((hdone.sublist.map Prod.fst).cons_cons begin))
    exact ⟨hsound.nonneg, hsound.le_burst.trans hsame.le⟩

theorem bucket_bounds_twice :
    grantedIn 0 1 (grants ⟨40, 40, 40, 0, []⟩ [(0, .acquire 40), (1, .tryAcquire 40)]) ≤
      (40 + 40 * 1 : ℚ) :=
  (bucket_bounds 40 40 0 (by norm_num) _ (by norm_num [new]) _ (by decide +kernel)).1 0 1
    zero_le_one

/-! ## The documented ceiling -/

/-- All that wait, wait for one token. -/
def Single (s : TokenBucketRateLimiter) : Prop := ∀ count ∈ s.sleeping, count = 1

lemma round_single (h : s.Single) (now : ℚ) (i : ℕ) :
    (s.round now i).2 ≤ 1 ∧ (s.round now i).1.Single := by
  cases hi : s.sleeping[i]? with
  | none => simpa [round, hi] using h
  | some count =>
    obtain rfl : count = 1 := h count (mem_of_getElem? hi)
    by_cases hroom : (1 : ℚ) ≤ s.available now
    · simp only [round, hi, tryAcquire, Nat.cast_one, if_pos hroom]
      exact ⟨le_rfl, fun count hcount => h count (mem_of_mem_eraseIdx hcount)⟩
    · simpa [round, hi, tryAcquire, hroom, Single] using h

lemma step_single (h : s.Single) (hcall : call.2.single) :
    (s.step call.1 call.2).2 ≤ 1 ∧ (s.step call.1 call.2).1.Single := by
  obtain ⟨now, count | i | count⟩ := call
  · refine round_single (fun count' hcount => ?_) now _
    rcases mem_append.mp hcount with hold | hnew
    · exact h count' hold
    · simpa [mem_singleton.mp hnew, LimiterCall.single] using hcall
  · exact round_single h now i
  · obtain rfl : count = 1 := by simpa [LimiterCall.single] using hcall
    by_cases hroom : (1 : ℚ) ≤ s.available now
    · simpa [step, tryAcquire, hroom, Single] using h
    · simpa [step, tryAcquire, hroom, Single] using h

/-- Calls for one token each are granted no more tokens than there are calls. -/
lemma grantedIn_le_calls (h : s.Single) (hcalls : ∀ call ∈ calls, call.2.single) :
    grantedIn start length (grants s calls) ≤
      (calls.filter fun call => start ≤ call.1 ∧ call.1 ≤ start + length).length := by
  induction calls generalizing s with
  | nil => rfl
  | cons call calls ih =>
    obtain ⟨hcall, hrest⟩ := forall_mem_cons.mp hcalls
    obtain ⟨hone, hnext⟩ := step_single h hcall
    have htail := ih hnext hrest
    rw [grantedIn_cons, filter_cons]
    split_ifs with hin hin' hin'
    · rw [length_cons]
      omega
    · exact absurd (decide_eq_true hin) hin'
    · exact absurd (of_decide_eq_true hin') hin
    · omega

lemma Single.after (h : s.Single) (hcalls : ∀ call ∈ calls, call.2.single) :
    (s.after calls).Single := by
  induction calls generalizing s with
  | nil => exact h
  | cons call calls ih =>
    obtain ⟨hcall, hrest⟩ := forall_mem_cons.mp hcalls
    exact ih (step_single h hcall).2 hrest

lemma grantedIn_append (s : TokenBucketRateLimiter) (calls calls' : List (ℚ × LimiterCall)) :
    grantedIn start length (grants s (calls ++ calls')) =
      grantedIn start length (grants s calls) +
        grantedIn start length (grants (s.after calls) calls') := by
  induction calls generalizing s with
  | nil => simp [grants, grantedIn, after]
  | cons call calls ih =>
    rw [cons_append, grantedIn_cons, grantedIn_cons, ih, Nat.add_assoc]
    rfl

/-- Calls at one time are all granted if the bucket has enough, and leave the rest in it. -/
lemma granted_at (hs : s.Sound t) (k : ℕ) (hk : k ≤ s.available t) (hin : start ≤ t)
    (hin' : t ≤ start + length) :
    let calls := replicate k (t, LimiterCall.tryAcquire 1)
    grantedIn start length (grants s calls) = k ∧ (s.after calls).Sound t ∧
      (s.after calls).rate = s.rate ∧ (s.after calls).burst = s.burst ∧
      (s.after calls).available t = s.available t - k := by
  induction k generalizing s with
  | zero => exact ⟨rfl, hs, rfl, rfl, by simp [after]⟩
  | succ k ih =>
    rw [Nat.cast_succ] at hk
    have hone : (1 : ℚ) ≤ s.available t := by
      linarith [(Nat.cast_nonneg k : (0 : ℚ) ≤ k)]
    have hstep : s.step t (.tryAcquire 1) =
        ({ s with tokens := s.available t - 1, lastRefill := t }, 1) := by
      simp [step, tryAcquire, hone]
    have hspec := step_spec s (t, .tryAcquire 1)
    have hleft : (s.step t (.tryAcquire 1)).1.available t = s.available t - 1 := by
      have hfull : s.available t ≤ s.burst := min_le_left ..
      rw [hstep]
      show min s.burst (s.available t - 1 + (t - t) * s.rate) = _
      rw [sub_self, zero_mul, add_zero]
      exact min_eq_right (by linarith)
    obtain ⟨hgranted, hsound, hrate, hburst, havailable⟩ :=
      ih (hs.step le_rfl hspec) (by rw [hleft]; linarith)
    refine ⟨?_, hsound, hrate.trans hspec.rate, hburst.trans hspec.burst, ?_⟩
    · rw [replicate_succ, grantedIn_cons, if_pos ⟨hin, hin'⟩, hgranted, hstep, Nat.add_comm]
    · refine havailable.trans ?_
      rw [hleft, Nat.cast_succ]
      ring

/-- 51 calls within a second. -/
def passing (t : ℚ) : List (ℚ × LimiterCall) :=
  replicate 11 (t, .tryAcquire 1) ++ replicate 40 (t + 1, .tryAcquire 1)

/-- A bucket with 11 tokens or more grants them all. -/
lemma grantedIn_passing (hs : s.Sound t) (hrate : s.rate = 40) (hburst : s.burst = 40)
    (hfull : 11 ≤ s.available t) : grantedIn t 1 (grants s (passing t)) = 51 := by
  obtain ⟨hfirst, hsound, hrate', hburst', hleft⟩ :=
    granted_at hs 11 (by exact_mod_cast hfull) le_rfl (by linarith : t ≤ t + 1)
  -- in the second that follows, the bucket fills up again
  have hagain : ((40 : ℕ) : ℚ) ≤
      (s.after (replicate 11 (t, .tryAcquire 1))).available (t + 1) := by
    refine le_min (by rw [hburst', hburst]; norm_num) ?_
    have hmin := min_le_right (s.after (replicate 11 (t, .tryAcquire 1))).burst
      ((s.after (replicate 11 (t, .tryAcquire 1))).tokens +
        (t - (s.after (replicate 11 (t, .tryAcquire 1))).lastRefill) *
          (s.after (replicate 11 (t, .tryAcquire 1))).rate)
    rw [← available, hleft, hrate', hrate] at hmin
    rw [hrate', hrate]
    push_cast at hmin ⊢
    linarith
  obtain ⟨hsecond, -⟩ := granted_at
    { hsound with last := hsound.last.trans (by linarith) } 40 hagain (by linarith : t ≤ t + 1)
    (le_refl (t + 1))
  rw [passing, grantedIn_append, hfirst, hsecond]

/-- Whatever at most `n` calls for one token each do in the second from `t` on, they are granted at
most 50 tokens. -/
def KeepsCeiling (s : TokenBucketRateLimiter) (t : ℚ) (n : ℕ) : Prop :=
  ∀ calls, InOrder t calls → (∀ call ∈ calls, call.2.single) →
    (calls.filter fun call => call.1 ≤ t + 1).length ≤ n → grantedIn t 1 (grants s calls) ≤ 50

end TokenBucketRateLimiter

end Zkbot
