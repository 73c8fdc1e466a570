import PhantomFlow.RateLimit.SlidingWindow
import PhantomFlow.RateLimit.TokenBucket

namespace PhantomFlow.RateLimit.RetryAfter
open Library Library.Machine SlidingWindow TokenBucket

def answerAfter (limiter : AdaptiveRateLimiter) (redis : Redis) (zone : LocalTime) (events : List Event) (now : ℤ)
    (request : RateLimitRequest) : RateLimitResult :=
  ((World.run zone ⟨limiter,redis⟩ events).limiter.checkRateLimit
    (World.run zone ⟨limiter,redis⟩ events).redis zone now request).1

-- Others may call in between, and the client may come back with any request of its
-- identifier that has the same limit.
def Honoured (limiter : AdaptiveRateLimiter) (redis : Redis) (zone : LocalTime) (events : List Event) (now : ℤ)
    (request : RateLimitRequest) : Prop :=
  ∃ seconds : ℤ,
    (answerAfter limiter redis zone events now request).retryAfter = some (.finite seconds) ∧ 0 < seconds ∧
    ∀ between again, (∀ time other, .check time other ∈ between → other.identifier ≠ request.identifier) →
      again.identifier = request.identifier →
      limitOf limiter redis zone again = limitOf limiter redis zone request →
      (answerAfter limiter redis zone (events ++ [.check now request] ++ between) (now + 1000 * seconds)
        again).allowed = true

def slack (config : RateLimitConfig) (now oldest : ℤ) : ℤ := (now - config.timeWindowMs - oldest) % 1000

-- Enough entries of the window leave it while the wait is rounded up to seconds, and
-- rounding the credit down to whole tokens costs no further second.
def WaitSuffices (config : RateLimitConfig) (now : ℤ) (limit : ℚ) (state : RateLimitState) : Prop :=
  match config.algorithm with
  | .token_bucket =>
    let funds := state.tokens + tokensFor config (now - state.lastRefill)
    ⌈(1 - ⌊funds⌋) / config.replenishRate⌉ = ⌈(1 - funds) / config.replenishRate⌉
  | .sliding_window => ∀ oldest ∈ (state.requests.filter (inWindow config now)).head?,
    (totalCount (state.requests.filter (fun entry =>
      decide (oldest.timestamp + slack config now oldest.timestamp ≤ entry.timestamp))) : ℚ) < limit
  | .adaptive_hybrid => False

section Checks
variable {config : RateLimitConfig} {now : ℤ} {limit : ℚ} {state : RateLimitState}
  {adjustments adjustments' : Adjustments}

theorem token_retryAfter (rate : 0 < config.replenishRate) (atLeastOne : 1 ≤ limit)
    (refused : (checkTokenBucket config now state limit adjustments).1.allowed = false) :
    (checkTokenBucket config now state limit adjustments).1.retryAfter =
      some (.finite (⌈(1 - (state.tokens + tokensFor config (now - state.lastRefill))) / config.replenishRate⌉ : ℤ)) := by
  have unfolded : (checkTokenBucket config now state limit adjustments).1.retryAfter =
      if (checkTokenBucket config now state limit adjustments).1.allowed then none else
        some (JsNumber.div (1 - (checkTokenBucket config now state limit adjustments).2.tokens)
          config.replenishRate).ceil := rfl
  rw [unfolded,refused,(refused_state atLeastOne refused).1,JsNumber.div,if_pos (ne_of_gt rate)]
  rfl

theorem token_wait_pos (rate : 0 < config.replenishRate) (short : funds < 1) :
    0 < ⌈(1 - funds) / config.replenishRate⌉ := by
  rw [Int.ceil_pos]
  exact div_pos (by linarith) rate

theorem credit_suffices_iff (rate : 0 < config.replenishRate) (funds : ℚ) :
    1 ≤ funds + tokensFor config (1000 * ⌈(1 - funds) / config.replenishRate⌉) ↔
      ⌈(1 - ⌊funds⌋) / config.replenishRate⌉ = ⌈(1 - funds) / config.replenishRate⌉ := by
  have credit (seconds : ℤ) : tokensFor config (1000 * seconds) = ⌊seconds * config.replenishRate⌋ := by
    rw [tokensFor]
    congr 1
    push_cast
    ring
  have enough (credit : ℤ) : 1 ≤ funds + credit ↔ 1 - ⌊funds⌋ ≤ credit := by
    have floor : 1 - credit ≤ ⌊funds⌋ ↔ ((1 - credit : ℤ) : ℚ) ≤ funds := Int.le_floor
    push_cast at floor
    constructor
    · intro reached
      have := floor.mpr (by linarith)
      omega
    · intro reached
      have := floor.mp (by omega)
      linarith
  have atLeast : ⌈(1 - funds) / config.replenishRate⌉ ≤ ⌈(1 - ⌊funds⌋) / config.replenishRate⌉ := by
    apply Int.ceil_le_ceil
    have below := Int.floor_le funds
    gcongr
  rw [credit,enough,Int.le_floor]
  push_cast
  rw [← div_le_iff₀ rate,← Int.ceil_le]
  exact ⟨fun most => le_antisymm most atLeast,fun same => le_of_eq same⟩

theorem token_honoured_iff (rate : 0 < config.replenishRate) (atLeastOne : 1 ≤ limit)
    (refused : (checkTokenBucket config now state limit adjustments).1.allowed = false) (seconds : ℤ) :
    (checkTokenBucket config now state limit adjustments).1.retryAfter = some (.finite seconds) ∧ 0 < seconds ∧
      (checkTokenBucket config (now + 1000 * seconds)
        (checkTokenBucket config now state limit adjustments).2 limit adjustments').1.allowed = true ↔
    seconds = ⌈(1 - (state.tokens + tokensFor config (now - state.lastRefill))) / config.replenishRate⌉ ∧
      ⌈(1 - ⌊state.tokens + tokensFor config (now - state.lastRefill)⌋) / config.replenishRate⌉ =
        ⌈(1 - (state.tokens + tokensFor config (now - state.lastRefill))) / config.replenishRate⌉ := by
  obtain ⟨tokens,refilled⟩ := refused_state atLeastOne refused
  have short : state.tokens + tokensFor config (now - state.lastRefill) < 1 := by
    rw [← Bool.not_eq_true,allowed_exact atLeastOne] at refused
    exact not_le.mp refused
  rw [token_retryAfter rate atLeastOne refused,allowed_exact atLeastOne,tokens,refilled,
    ← credit_suffices_iff rate (state.tokens + tokensFor config (now - state.lastRefill))]
  simp only [Option.some.injEq,JsNumber.finite.injEq,Int.cast_inj,add_sub_cancel_left]
  constructor
  · rintro ⟨rfl,-,enough⟩
    exact ⟨rfl,enough⟩
  · rintro ⟨rfl,enough⟩
    exact ⟨rfl,token_wait_pos rate short,enough⟩

def windowWait (config : RateLimitConfig) (now oldest : ℤ) : ℤ :=
  ⌈((oldest + config.timeWindowMs - now : ℤ) : ℚ) / 1000⌉

theorem wait_rounded (config : RateLimitConfig) (now oldest : ℤ) :
    1000 * windowWait config now oldest =
      oldest + config.timeWindowMs - now + slack config now oldest := by
  have rounded : windowWait config now oldest = -((now - config.timeWindowMs - oldest) / 1000) := by
    have above : 1000 * -((now - config.timeWindowMs - oldest) / 1000) - 1000 <
        oldest + config.timeWindowMs - now := by omega
    have below : oldest + config.timeWindowMs - now ≤ 1000 * -((now - config.timeWindowMs - oldest) / 1000) := by omega
    rw [windowWait,Int.ceil_eq_iff,lt_div_iff₀ (by norm_num),div_le_iff₀ (by norm_num)]
    constructor
    · have cast : ((1000 * -((now - config.timeWindowMs - oldest) / 1000) - 1000 : ℤ) : ℚ) <
          (oldest + config.timeWindowMs - now : ℤ) := Int.cast_lt.mpr above
      push_cast at cast ⊢
      linarith
    · have cast : ((oldest + config.timeWindowMs - now : ℤ) : ℚ) ≤
          (1000 * -((now - config.timeWindowMs - oldest) / 1000) : ℤ) := Int.cast_le.mpr below
      push_cast at cast ⊢
      linarith
  rw [rounded,slack]
  omega

variable (adjustments) in
theorem window_allowed_iff :
    (checkSlidingWindow config now state limit adjustments).1.allowed = true ↔
      (totalCount (state.requests.filter (inWindow config now)) : ℚ) < limit := by
  simp [checkSlidingWindow]

theorem refused_requests (refused : (checkSlidingWindow config now state limit adjustments).1.allowed = false) :
    (checkSlidingWindow config now state limit adjustments).2.requests =
      state.requests.filter (inWindow config now) := by
  rw [checkSlidingWindow_requests,refused]
  rfl

theorem window_retryAfter (refused : (checkSlidingWindow config now state limit adjustments).1.allowed = false)
    (kept : state.requests.filter (inWindow config now) = oldest :: rest) :
    (checkSlidingWindow config now state limit adjustments).1.retryAfter =
      some (.finite (windowWait config now oldest.timestamp)) := by
  have thousand : (1000 : ℚ) ≠ 0 := by norm_num
  rw [checkSlidingWindow_retryAfter,checkSlidingWindow_resetTime,refused,refused_requests refused,kept]
  simp only [List.head?_cons,Option.elim_some,Option.map_some,JsNumber.div,if_pos thousand]
  rfl

theorem window_honoured_iff (refused : (checkSlidingWindow config now state limit adjustments).1.allowed = false)
    (kept : state.requests.filter (inWindow config now) = oldest :: rest) (seconds : ℤ) :
    (checkSlidingWindow config now state limit adjustments).1.retryAfter = some (.finite seconds) ∧ 0 < seconds ∧
      (checkSlidingWindow config (now + 1000 * seconds)
        (checkSlidingWindow config now state limit adjustments).2 limit adjustments').1.allowed = true ↔
    seconds = windowWait config now oldest.timestamp ∧
      (totalCount (state.requests.filter (fun entry =>
        decide (oldest.timestamp + slack config now oldest.timestamp ≤ entry.timestamp))) : ℚ) < limit := by
  have rounded := wait_rounded config now oldest.timestamp
  have inside : now - config.timeWindowMs ≤ oldest.timestamp := by
    have listed : oldest ∈ state.requests.filter (inWindow config now) := by
      rw [kept]
      exact List.mem_cons_self
    exact of_decide_eq_true (List.mem_filter.mp listed).2
  have slackBounds : 0 ≤ slack config now oldest.timestamp := Int.emod_nonneg _ (by decide)
  -- At the end of the wait the window begins at the oldest entry's slack.
  have later : state.requests.filter
      (inWindow config (now + 1000 * windowWait config now oldest.timestamp)) =
      state.requests.filter (fun entry =>
        decide (oldest.timestamp + slack config now oldest.timestamp ≤ entry.timestamp)) := by
    apply List.filter_congr
    intro entry _
    rw [inWindow,rounded]
    exact decide_eq_decide.mpr ⟨fun bound => by omega,fun bound => by omega⟩
  rw [window_retryAfter refused kept,window_allowed_iff,refused_requests refused]
  simp only [Option.some.injEq,JsNumber.finite.injEq,Int.cast_inj]
  constructor
  · rintro ⟨rfl,positive,room⟩
    rw [filter_later config state.requests (by omega),later] at room
    exact ⟨rfl,room⟩
  · rintro ⟨rfl,room⟩
    have positive : 0 < windowWait config now oldest.timestamp := by
      by_contra none'
      -- Then the oldest entry is exactly one window old, and nothing leaves.
      have still : now + 1000 * windowWait config now oldest.timestamp = now := by omega
      rw [still] at later
      rw [← later,← window_allowed_iff adjustments,refused] at room
      cases room
    refine ⟨rfl,positive,?_⟩
    rw [filter_later config state.requests (by omega),later]
    exact room

theorem refused_oldest (atLeastOne : 1 ≤ limit)
    (refused : (checkSlidingWindow config now state limit adjustments).1.allowed = false) :
    ∃ oldest rest, state.requests.filter (inWindow config now) = oldest :: rest := by
  rw [← Bool.not_eq_true,window_allowed_iff] at refused
  cases kept : state.requests.filter (inWindow config now) with
  | cons oldest rest => exact ⟨oldest,rest,rfl⟩
  | nil =>
      rw [kept] at refused
      exact absurd (show ((totalCount [] : ℕ) : ℚ) < limit by simp [totalCount]; linarith) refused

theorem wait_honoured_iff (chosen : config.algorithm = .token_bucket ∧ 0 < config.replenishRate ∨
      config.algorithm = .sliding_window) (atLeastOne : 1 ≤ limit)
    (refused : (checkAlgorithm config now state limit adjustments).1.allowed = false) :
    ∃ wait : ℤ, ∀ seconds : ℤ, ∀ adjustments',
      (checkAlgorithm config now state limit adjustments).1.retryAfter = some (.finite seconds) ∧ 0 < seconds ∧
        (checkAlgorithm config (now + 1000 * seconds) (checkAlgorithm config now state limit adjustments).2 limit
          adjustments').1.allowed = true ↔
      seconds = wait ∧ WaitSuffices config now limit state := by
  rcases chosen with ⟨bucket,rate⟩ | sliding
  · simp only [checkAlgorithm,bucket] at refused
    simp only [checkAlgorithm,WaitSuffices,bucket]
    exact ⟨_,fun seconds adjustments' => token_honoured_iff rate atLeastOne refused seconds⟩
  · simp only [checkAlgorithm,sliding] at refused
    obtain ⟨oldest,rest,kept⟩ := refused_oldest atLeastOne refused
    simp only [checkAlgorithm,WaitSuffices,sliding,kept,List.head?_cons,Option.mem_def,Option.some.injEq,
      forall_eq']
    exact ⟨_,fun seconds adjustments' => window_honoured_iff refused kept seconds⟩

end Checks

theorem retry_after_honoured_iff (limiter : AdaptiveRateLimiter) (redis : Redis) (zone : LocalTime)
    (events : List Event) (now : ℤ) (request : RateLimitRequest)
    (chosen : limiter.config.algorithm = .token_bucket ∧ 0 < limiter.config.replenishRate ∨
      limiter.config.algorithm = .sliding_window)
    (started : limiter.localCache = .empty)
    (refused : (answerAfter limiter redis zone events now request).allowed = false) :
    Honoured limiter redis zone events now request ↔
      WaitSuffices limiter.config now (limitOf limiter redis zone request)
        ((World.run zone ⟨limiter,redis⟩ events).stateFor now request.identifier) := by
  have answered := reached_check limiter redis zone events now request started
  rw [answerAfter,answered] at refused
  obtain ⟨wait,exactly⟩ := wait_honoured_iff chosen (limitOf_pos limiter redis zone request) refused
  -- The state the client comes back to is the one its refusal left.
  have back (between : List Event) (again : RateLimitRequest) (seconds : ℤ)
      (others : ∀ time other, .check time other ∈ between → other.identifier ≠ request.identifier)
      (same : again.identifier = request.identifier)
      (unchanged : limitOf limiter redis zone again = limitOf limiter redis zone request) :
      answerAfter limiter redis zone (events ++ [.check now request] ++ between) (now + 1000 * seconds) again =
        (checkAlgorithm limiter.config (now + 1000 * seconds)
          (checkAlgorithm limiter.config now
            ((World.run zone ⟨limiter,redis⟩ events).stateFor now request.identifier)
            (limitOf limiter redis zone request) (limiter.calculateAdjustments redis zone request).1).2
          (limitOf limiter redis zone request) (limiter.calculateAdjustments redis zone again).1).1 := by
    rw [answerAfter,reached_check limiter redis zone _ _ again started,unchanged,same,
      reached_between limiter redis zone _ between _ _ started others,
      reached_state limiter redis zone events now _ request started]
  constructor
  · rintro ⟨seconds,retry,positive,allowed⟩
    have here := allowed [] request (by simp) rfl rfl
    rw [back [] request seconds (by simp) rfl rfl] at here
    rw [answerAfter,answered] at retry
    exact ((exactly seconds _).mp ⟨retry,positive,here⟩).2
  · intro suffices'
    refine ⟨wait,?_,?_,?_⟩
    · rw [answerAfter,answered]
      exact ((exactly wait (limiter.calculateAdjustments redis zone request).1).mpr ⟨rfl,suffices'⟩).1
    · exact ((exactly wait (limiter.calculateAdjustments redis zone request).1).mpr ⟨rfl,suffices'⟩).2.1
    · intro between again others same unchanged
      rw [back between again wait others same unchanged]
      exact ((exactly wait _).mpr ⟨rfl,suffices'⟩).2.2

theorem storedState_whole (limiter : AdaptiveRateLimiter) (redis : Redis) (zone : LocalTime)
    (bucket : limiter.config.algorithm = .token_bucket) (unseen : redis.states identifier = none)
    (whole : ∃ n : ℤ, limiter.config.baseLimit = n) (events : List Event) (now : ℤ) :
    ∃ n : ℤ, (storedState limiter.config (storedRun limiter zone redis events) now identifier).tokens = n := by
  induction events using calls_induction identifier generalizing now with
  | nil => simpa [storedState,storedRun,unseen,freshState] using whole
  | own events time request own ih =>
      subst identifier
      obtain ⟨tokens,held⟩ := ih time
      obtain ⟨limit,applied⟩ := limitOf_whole limiter redis zone request
      rw [storedState_run]
      simp only [checkAlgorithm,bucket]
      rw [checkTokenBucket_tokens (limitOf_pos limiter redis zone request),held,applied]
      split
      · exact ⟨min limit (tokens + tokensFor limiter.config (time - _)) - 1,by push_cast; rfl⟩
      · exact ⟨min limit (tokens + tokensFor limiter.config (time - _)),by push_cast; rw [sub_zero]⟩
  | other events time request other ih =>
      rw [storedRun_snoc,storedStep,storedState_other _ _ _ _ _ (Ne.symm other)]
      exact ih now
  | quiet events event quiet ih =>
      rw [storedRun_quiet _ _ _ _ quiet]
      exact ih now

-- With a whole base limit the token bucket always keeps its word.
theorem whole_bucket_suffices (limiter : AdaptiveRateLimiter) (redis : Redis) (zone : LocalTime)
    (events : List Event) (now : ℤ) (request : RateLimitRequest)
    (bucket : limiter.config.algorithm = .token_bucket)
    (started : limiter.localCache = .empty) (unseen : redis.states request.identifier = none)
    (whole : ∃ n : ℤ, limiter.config.baseLimit = n) :
    WaitSuffices limiter.config now (limitOf limiter redis zone request)
      ((World.run zone ⟨limiter,redis⟩ events).stateFor now request.identifier) := by
  have refines := (refines_run zone (refines_start limiter redis started) events).1
  obtain ⟨tokens,held⟩ := storedState_whole limiter redis zone bucket unseen whole events now
  simp only [WaitSuffices,bucket,stateFor_stored refines,held]
  rw [← Int.cast_add,Int.floor_intCast]

def fourPerWindow : AdaptiveRateLimiter := .create ⟨.sliding_window,4,1500,1⟩ [] (fun _ => none) [] []

theorem retry_after_honoured_spread :
    Honoured fourPerWindow .empty noon
      [.check 0 sameClient,.check 300 sameClient,.check 600 sameClient] 900 sameClient := by
  refine (retry_after_honoured_iff fourPerWindow .empty noon
    [.check 0 sameClient,.check 300 sameClient,.check 600 sameClient] 900 sameClient (.inr rfl) rfl
    (by decide +kernel)).mpr ?_
  intro oldest first
  have found : ((World.run noon ⟨fourPerWindow,.empty⟩
      [.check 0 sameClient,.check 300 sameClient,.check 600 sameClient]).stateFor 900 "client").requests.filter
        (inWindow fourPerWindow.config 900) = [⟨0,1⟩,⟨300,1⟩,⟨600,1⟩] := by decide +kernel
  rw [show sameClient.identifier = "client" from rfl,found] at first
  cases first
  decide +kernel

-- A call one window after the only allowed one is told to wait no time at all, and
-- the client that was told to wait a second is refused when the second is over.
theorem retry_after_ignored :
    (answerAfter (onePerSecond .sliding_window) .empty noon [.check 0 sameClient] 1000 sameClient).allowed = false ∧
      (answerAfter (onePerSecond .sliding_window) .empty noon [.check 0 sameClient] 1000 sameClient).retryAfter =
        some (.finite 0) ∧
      (answerAfter (onePerSecond .sliding_window) .empty noon [.check 0 sameClient] 0 sameClient).retryAfter =
        some (.finite 1) ∧
      (answerAfter (onePerSecond .sliding_window) .empty noon [.check 0 sameClient,.check 0 sameClient] 1000
        sameClient).allowed = false := by
  decide +kernel

end PhantomFlow.RateLimit.RetryAfter
