import Mathlib.Tactic.Linarith
import Mathlib.Tactic.Ring
import PhantomFlow.RateLimit.LimiterRuns

namespace PhantomFlow.RateLimit.TokenBucket
open Library Library.Machine
variable (config : RateLimitConfig) (limit : ℚ) (adjustments : Adjustments)

def request (state : RateLimitState) (now : ℤ) : RateLimitState × Bool :=
  ((checkTokenBucket config now state limit adjustments).2,
    (checkTokenBucket config now state limit adjustments).1.allowed)

def after (state : RateLimitState) (times : List ℤ) : RateLimitState :=
  (exec (request config limit adjustments) state times).1
def decisions (state : RateLimitState) (times : List ℤ) : List Bool :=
  (exec (request config limit adjustments) state times).2

-- Tokens earned between two moments: exactly, as credited gap by gap, and the
-- fractions that are dropped on the way.
def earned (start now : ℤ) : ℚ := ((now - start : ℤ) : ℚ) * config.replenishRate / 1000

def credited : ℤ → List ℤ → ℤ
  | _,[] => 0
  | start,now :: rest => tokensFor config (now - start) + credited now rest

def dropped : ℤ → List ℤ → ℚ
  | _,[] => 0
  | start,now :: rest => Int.fract (earned config start now) + dropped now rest

theorem earned_split (start middle now : ℤ) :
    earned config start now = earned config start middle + earned config middle now := by
  simp only [earned]; push_cast; ring

theorem tokensFor_earned (start now : ℤ) : tokensFor config (now - start) = ⌊earned config start now⌋ := rfl

theorem credited_dropped (start : ℤ) (times : List ℤ) :
    (credited config start times : ℚ) + dropped config start times = earned config start (times.getLastD start) := by
  induction times generalizing start with
  | nil => simp [credited,dropped,earned]
  | cons now rest ih =>
      have whole := Int.floor_add_fract (earned config start now)
      have tail := ih now
      have final : (now :: rest).getLastD start = rest.getLastD now := by cases rest <;> rfl
      rw [final,earned_split config start now]
      simp only [credited,dropped,tokensFor_earned]
      push_cast
      linarith

theorem dropped_nonneg (start : ℤ) (times : List ℤ) : 0 ≤ dropped config start times := by
  induction times generalizing start with
  | nil => exact le_refl 0
  | cons now rest ih => exact add_nonneg (Int.fract_nonneg _) (ih now)

theorem credited_snoc (start : ℤ) (times : List ℤ) (now : ℤ) :
    credited config start (times ++ [now]) =
      credited config start times + tokensFor config (now - times.getLastD start) := by
  induction times generalizing start with
  | nil => simp [credited]
  | cons first rest ih =>
      have final : (first :: rest).getLastD start = rest.getLastD first := by cases rest <;> rfl
      simp only [List.cons_append,credited,ih first,final]
      ring

variable {config limit adjustments}

theorem allowed_exact (atLeastOne : 1 ≤ limit) :
    (checkTokenBucket config now state limit adjustments).1.allowed = true ↔
      1 ≤ state.tokens + tokensFor config (now - state.lastRefill) := by
  simp [checkTokenBucket,refill,atLeastOne]

theorem checkTokenBucket_state : (checkTokenBucket config now state limit adjustments).2 =
    if (checkTokenBucket config now state limit adjustments).1.allowed
    then takeToken now (refill config now state limit) else refill config now state limit := by
  unfold checkTokenBucket
  rfl

theorem checkTokenBucket_lastRefill : (checkTokenBucket config now state limit adjustments).2.lastRefill = now := by
  rw [checkTokenBucket_state]
  split <;> rfl

theorem checkTokenBucket_tokens (atLeastOne : 1 ≤ limit) :
    (checkTokenBucket config now state limit adjustments).2.tokens =
      min limit (state.tokens + tokensFor config (now - state.lastRefill)) -
        if 1 ≤ state.tokens + tokensFor config (now - state.lastRefill) then 1 else 0 := by
  rw [checkTokenBucket_state]
  by_cases enough : 1 ≤ state.tokens + tokensFor config (now - state.lastRefill)
  · rw [if_pos ((allowed_exact atLeastOne).mpr enough),if_pos enough]
    rfl
  · rw [if_neg (mt (allowed_exact atLeastOne).mp enough),if_neg enough,sub_zero]
    rfl

theorem refused_state (atLeastOne : 1 ≤ limit)
    (refused : (checkTokenBucket config now state limit adjustments).1.allowed = false) :
    (checkTokenBucket config now state limit adjustments).2.tokens =
        state.tokens + tokensFor config (now - state.lastRefill) ∧
      (checkTokenBucket config now state limit adjustments).2.lastRefill = now := by
  have short : ¬ 1 ≤ state.tokens + tokensFor config (now - state.lastRefill) := by
    intro enough
    rw [(allowed_exact atLeastOne).mpr enough] at refused
    cases refused
  have below : state.tokens + tokensFor config (now - state.lastRefill) ≤ limit :=
    le_of_lt ((not_le.mp short).trans_le atLeastOne)
  rw [checkTokenBucket_tokens atLeastOne,if_neg short,sub_zero,min_eq_right below]
  exact ⟨rfl,checkTokenBucket_lastRefill⟩

theorem refused_run (atLeastOne : 1 ≤ limit)
    (refused : ∀ decision ∈ decisions config limit adjustments state times, decision = false) :
    (after config limit adjustments state times).tokens = state.tokens + credited config state.lastRefill times ∧
      (after config limit adjustments state times).lastRefill = times.getLastD state.lastRefill := by
  induction times generalizing state with
  | nil => simp [after,credited]
  | cons now rest ih =>
      obtain ⟨first,others⟩ := List.forall_mem_cons.mp refused
      obtain ⟨tokens,refilled⟩ := refused_state atLeastOne first
      obtain ⟨final,last⟩ := ih others
      have ends : (now :: rest).getLastD state.lastRefill = rest.getLastD now := by cases rest <;> rfl
      rw [ends,credited]
      simp only [after,exec_cons,request] at final last ⊢
      rw [tokens,refilled] at final
      rw [refilled] at last
      exact ⟨by rw [final]; push_cast; ring,last⟩

-- Refused requests cost the client exactly the dropped fractions: the next
-- decision is unchanged unless they eat up a token that was due.
theorem refusals_harmless_exact (atLeastOne : 1 ≤ limit)
    (refused : ∀ decision ∈ decisions config limit adjustments state times, decision = false) :
    ((checkTokenBucket config now (after config limit adjustments state times) limit adjustments).1.allowed = true ↔
      (checkTokenBucket config now state limit adjustments).1.allowed = true) ↔
    (1 ≤ state.tokens + ⌊earned config state.lastRefill now⌋ →
      1 + dropped config state.lastRefill (times ++ [now]) ≤ state.tokens + earned config state.lastRefill now) := by
  obtain ⟨tokens,lastRefill⟩ := refused_run atLeastOne refused
  have account := credited_dropped config state.lastRefill (times ++ [now])
  rw [List.getLastD_concat] at account
  have polled : state.tokens + credited config state.lastRefill times +
      tokensFor config (now - times.getLastD state.lastRefill) =
      state.tokens + credited config state.lastRefill (times ++ [now]) := by
    rw [credited_snoc]; push_cast; ring
  -- Crediting gap by gap never gives more than crediting once.
  have atMost : credited config state.lastRefill (times ++ [now]) ≤ ⌊earned config state.lastRefill now⌋ := by
    rw [Int.le_floor,← account]
    linarith [dropped_nonneg config state.lastRefill (times ++ [now])]
  have atMost' : (credited config state.lastRefill (times ++ [now]) : ℚ) ≤ ⌊earned config state.lastRefill now⌋ :=
    Int.cast_le.mpr atMost
  rw [allowed_exact atLeastOne,allowed_exact atLeastOne,tokens,lastRefill,polled,tokensFor_earned]
  constructor
  · intro same due
    linarith [same.mpr due]
  · intro enough
    refine ⟨fun granted => by linarith,fun due => ?_⟩
    linarith [enough due]

def unit : Adjustments := ⟨1,1,1,1,1⟩
def drained : RateLimitState :=
  { freshState (onePerSecond .token_bucket).config 0 "client" with tokens := 0 }

theorem refusals_harmless_exact_halfway :
    (checkTokenBucket (onePerSecond .token_bucket).config 1500
      (after (onePerSecond .token_bucket).config 1 unit drained [500]) 1 unit).1.allowed = true ↔
    (checkTokenBucket (onePerSecond .token_bucket).config 1500 drained 1 unit).1.allowed = true :=
  (refusals_harmless_exact (le_refl 1) (by decide +kernel)).mpr (fun _ => by decide +kernel)

def every (gap start : ℤ) : ℕ → List ℤ
  | 0 => []
  | n + 1 => (start + gap) :: every gap (start + gap) n

-- Polled so often that no gap earns a whole token, an empty bucket never refills.
theorem polled_starves (empty : state.tokens < 1) (atLeastOne : 1 ≤ limit) (slow : tokensFor config gap = 0)
    (n : ℕ) : ∀ decision ∈ decisions config limit adjustments state (every gap state.lastRefill n),
      decision = false := by
  induction n generalizing state with
  | zero => simp [decisions,every]
  | succ n ih =>
      have nothing : tokensFor config (state.lastRefill + gap - state.lastRefill) = 0 := by
        rw [add_sub_cancel_left]; exact slow
      have refused : (checkTokenBucket config (state.lastRefill + gap) state limit adjustments).1.allowed = false := by
        rw [← Bool.not_eq_true,allowed_exact atLeastOne,nothing]
        simpa using empty
      obtain ⟨tokens,lastRefill⟩ := refused_state atLeastOne refused
      refine List.forall_mem_cons.mpr ⟨refused,?_⟩
      have drained : (checkTokenBucket config (state.lastRefill + gap) state limit adjustments).2.tokens < 1 := by
        rw [tokens,nothing]
        simpa using empty
      have rest := ih drained
      rwa [lastRefill] at rest

-- One refused request at half a second postpones the token that was due after
-- one second, and a client that polls every half second is never served.
theorem refusal_postpones_grant :
    (∀ decision ∈ decisions (onePerSecond .token_bucket).config 1 unit drained [500], decision = false) ∧
    (checkTokenBucket (onePerSecond .token_bucket).config 1000 drained 1 unit).1.allowed = true ∧
    (checkTokenBucket (onePerSecond .token_bucket).config 1000
      (after (onePerSecond .token_bucket).config 1 unit drained [500]) 1 unit).1.allowed = false ∧
    ∀ n : ℕ, ∀ decision ∈ decisions (onePerSecond .token_bucket).config 1 unit drained
      (every 500 0 n), decision = false :=
  ⟨by decide +kernel,by decide +kernel,by decide +kernel,
    polled_starves (by decide +kernel) (le_refl 1) (by decide +kernel)⟩

end PhantomFlow.RateLimit.TokenBucket
