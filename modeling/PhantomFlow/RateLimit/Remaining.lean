import PhantomFlow.RateLimit.SlidingWindow
import PhantomFlow.RateLimit.TokenBucket

namespace PhantomFlow.RateLimit.Remaining
open Library Library.Machine SlidingWindow TokenBucket

def answersTo (log : List Answer) (identifier : String) : List Answer :=
  log.filter (fun answer => decide (answer.identifier = identifier))

def Countdown (remaining : ℚ) (answers : List Answer) : Prop :=
  ∀ j answer, answers[j]? = some answer →
    (answer.result.allowed = true ↔ ((j + 1 : ℕ) : ℚ) ≤ remaining) ∧
    (answer.result.allowed = true → answer.result.remainingRequests = remaining - (j + 1 : ℕ))

-- What a state still grants at one moment under one limit. Only the token bucket can
-- be overdrawn, by a clock that went back.
def Grants (config : RateLimitConfig) (now : ℤ) (limit : ℚ) (left : ℤ) (state : RateLimitState) : Prop :=
  match config.algorithm with
  | .token_bucket => state.lastRefill = now ∧ state.tokens ≤ limit ∧ ⌊state.tokens⌋ = left
  | .sliding_window => max 0 (limit - totalCount (state.requests.filter (inWindow config now))) = left
  | .adaptive_hybrid => False

def spend (left : ℤ) : ℤ := if 1 ≤ left then left - 1 else left

def leftAfter (first : ℤ) (calls : ℕ) : ℤ := max (min first 0) (first - calls)

theorem leftAfter_succ (first : ℤ) (calls : ℕ) : leftAfter first (calls + 1) = spend (leftAfter first calls) := by
  unfold leftAfter spend
  split <;> omega

theorem one_le_leftAfter (first : ℤ) (calls : ℕ) : 1 ≤ leftAfter first calls ↔ ((calls + 1 : ℕ) : ℤ) ≤ first := by
  unfold leftAfter
  omega

theorem spend_leftAfter (granted : 1 ≤ leftAfter first calls) :
    spend (leftAfter first calls) = first - (calls + 1 : ℕ) := by
  unfold leftAfter at granted
  unfold spend leftAfter
  split <;> omega

section Checks
variable {config : RateLimitConfig} {now : ℤ} {limit : ℚ} {state : RateLimitState} {adjustments : Adjustments}

theorem counted_in_window (window : 0 ≤ config.timeWindowMs) :
    totalCount ((checkSlidingWindow config now state limit adjustments).2.requests.filter (inWindow config now)) =
      totalCount (state.requests.filter (inWindow config now)) +
        if (checkSlidingWindow config now state limit adjustments).1.allowed = true then 1 else 0 := by
  have inside : now - config.timeWindowMs ≤ now := by omega
  rw [checkSlidingWindow_requests]
  split
  · rw [addCurrent_counted,filter_later config state.requests (le_refl now),if_pos inside]
  · rw [filter_later config state.requests (le_refl now)]
    rfl

theorem whole_room (whole : ∃ n : ℤ, limit = n) (count : ℕ) : ∃ left : ℤ, max 0 (limit - count) = left := by
  obtain ⟨n,rfl⟩ := whole
  exact ⟨max 0 (n - count),by push_cast; rfl⟩

variable (now state adjustments) in
theorem grants_reported (chosen : config.algorithm = .token_bucket ∨
      config.algorithm = .sliding_window ∧ 0 ≤ config.timeWindowMs)
    (atLeastOne : 1 ≤ limit) (whole : ∃ n : ℤ, limit = n) :
    ∃ left : ℤ, (checkAlgorithm config now state limit adjustments).1.remainingRequests = left ∧
      Grants config now limit left (checkAlgorithm config now state limit adjustments).2 := by
  rcases chosen with bucket | ⟨sliding,window⟩
  · simp only [Grants,checkAlgorithm,bucket]
    refine ⟨_,rfl,checkTokenBucket_lastRefill,?_,rfl⟩
    rw [checkTokenBucket_tokens atLeastOne]
    have capped := min_le_left limit (state.tokens + tokensFor config (now - state.lastRefill))
    split <;> linarith
  · simp only [Grants,checkAlgorithm,sliding]
    obtain ⟨left,room⟩ := whole_room whole (totalCount
      ((checkSlidingWindow config now state limit adjustments).2.requests.filter (inWindow config now)))
    refine ⟨left,?_,room⟩
    rw [← room,counted_in_window window]
    push_cast
    rw [← sub_sub]
    rfl

variable (adjustments) in
theorem token_decided (filled : state.lastRefill = now) (capped : state.tokens ≤ limit) (atLeastOne : 1 ≤ limit) :
    ((checkTokenBucket config now state limit adjustments).1.allowed = true ↔ 1 ≤ ⌊state.tokens⌋) ∧
      (checkTokenBucket config now state limit adjustments).1.remainingRequests = spend ⌊state.tokens⌋ := by
  have none' : state.tokens + tokensFor config (now - state.lastRefill) = state.tokens := by
    simp [filled,tokensFor]
  have enough : 1 ≤ state.tokens ↔ 1 ≤ ⌊state.tokens⌋ := by
    rw [Int.le_floor]
    simp
  have decided : (checkTokenBucket config now state limit adjustments).1.allowed = true ↔ _ :=
    allowed_exact atLeastOne
  have tokens : (checkTokenBucket config now state limit adjustments).2.tokens = _ :=
    checkTokenBucket_tokens atLeastOne
  have reported : (checkTokenBucket config now state limit adjustments).1.remainingRequests =
      ⌊(checkTokenBucket config now state limit adjustments).2.tokens⌋ := rfl
  rw [none'] at decided tokens
  rw [min_eq_right capped] at tokens
  refine ⟨decided.trans enough,?_⟩
  rw [reported,tokens,spend]
  by_cases granted : 1 ≤ state.tokens
  · rw [if_pos granted,if_pos (enough.mp granted),Int.floor_sub_one]
  · rw [if_neg granted,if_neg (mt enough.mpr granted),sub_zero]

variable (adjustments) in
theorem window_decided (room : max 0 (limit - totalCount (state.requests.filter (inWindow config now))) = (left : ℤ))
    (whole : ∃ n : ℤ, limit = n) :
    ((checkSlidingWindow config now state limit adjustments).1.allowed = true ↔ 1 ≤ left) ∧
      (checkSlidingWindow config now state limit adjustments).1.remainingRequests = spend left := by
  obtain ⟨n,rfl⟩ := whole
  have left' : max 0 (n - (totalCount (state.requests.filter (inWindow config now)) : ℤ)) = left := by
    exact_mod_cast room
  have decided : (checkSlidingWindow config now state n adjustments).1.allowed = true ↔
      (totalCount (state.requests.filter (inWindow config now)) : ℤ) < n := by
    simp only [checkSlidingWindow,decide_eq_true_eq]
    exact_mod_cast Iff.rfl
  have reported : (checkSlidingWindow config now state n adjustments).1.remainingRequests =
      max 0 ((n : ℚ) - totalCount (state.requests.filter (inWindow config now)) -
        if (checkSlidingWindow config now state n adjustments).1.allowed = true then 1 else 0) := rfl
  refine ⟨decided.trans (by omega),?_⟩
  rw [reported,spend]
  by_cases below : (totalCount (state.requests.filter (inWindow config now)) : ℤ) < n
  · rw [if_pos (decided.mpr below),if_pos (by omega)]
    norm_cast
    omega
  · rw [if_neg (mt decided.mp below),if_neg (by omega),sub_zero]
    norm_cast

variable (adjustments) in
theorem decided_by_grants (grants : Grants config now limit left state) (atLeastOne : 1 ≤ limit)
    (whole : ∃ n : ℤ, limit = n) :
    ((checkAlgorithm config now state limit adjustments).1.allowed = true ↔ 1 ≤ left) ∧
      (checkAlgorithm config now state limit adjustments).1.remainingRequests = spend left := by
  cases chosen : config.algorithm with
  | token_bucket =>
      simp only [Grants,chosen] at grants
      obtain ⟨filled,capped,rfl⟩ := grants
      simp only [checkAlgorithm,chosen]
      exact token_decided adjustments filled capped atLeastOne
  | sliding_window =>
      simp only [Grants,chosen] at grants
      simp only [checkAlgorithm,chosen]
      exact window_decided adjustments grants whole
  | adaptive_hybrid => simp [Grants,chosen] at grants

end Checks

theorem countdown_snoc {answer : Answer} {first : ℤ} (before : Countdown first answers)
    (decided : answer.result.allowed = true ↔ 1 ≤ leftAfter first answers.length)
    (reported : answer.result.remainingRequests = spend (leftAfter first answers.length)) :
    Countdown first (answers ++ [answer]) := by
  intro j found here
  rw [List.getElem?_append] at here
  split at here
  · exact before j found here
  · rename_i past
    rw [List.getElem?_singleton] at here
    split at here
    · rename_i last
      cases here
      have place : j = answers.length := by omega
      subst place
      rw [one_le_leftAfter] at decided
      refine ⟨decided.trans (by norm_cast),?_⟩
      intro allowed
      rw [reported,spend_leftAfter ((one_le_leftAfter _ _).mpr (decided.mp allowed))]
      push_cast
      rfl
    · cases here

-- The calls of one identifier among further events, all at the same moment and under
-- the same limit, against what its state granted before them.
theorem countdown_run (limiter : AdaptiveRateLimiter) (redis : Redis) (zone : LocalTime) (earlier more : List Event)
    (now : ℤ) (limit : ℚ) (first : ℤ) (identifier : String)
    (chosen : limiter.config.algorithm = .token_bucket ∨
      limiter.config.algorithm = .sliding_window ∧ 0 ≤ limiter.config.timeWindowMs)
    (granted : Grants limiter.config now limit first
      (storedState limiter.config (storedRun limiter zone redis earlier) now identifier))
    (same : ∀ time request, .check time request ∈ more → request.identifier = identifier →
      time = now ∧ limitOf limiter redis zone request = limit) :
    Countdown first (answersTo (storedLog limiter zone (storedRun limiter zone redis earlier) more) identifier) ∧
      Grants limiter.config now limit
        (leftAfter first (answersTo (storedLog limiter zone (storedRun limiter zone redis earlier) more)
          identifier).length)
        (storedState limiter.config (storedRun limiter zone redis (earlier ++ more)) now identifier) := by
  have joined (events : List Event) : storedRun limiter zone redis (earlier ++ events) =
      storedRun limiter zone (storedRun limiter zone redis earlier) events := by
    simp [storedRun,exec_append]
  induction more using calls_induction identifier with
  | nil =>
      have none' : leftAfter first 0 = first := by
        unfold leftAfter
        omega
      refine ⟨by simp [Countdown,answersTo,storedLog],?_⟩
      simpa [answersTo,storedLog,none'] using granted
  | own events time request own ih =>
      subst identifier
      obtain ⟨rfl,rfl⟩ := same time request (List.mem_append_right _ List.mem_cons_self) rfl
      obtain ⟨counted,grants⟩ := ih fun time' request' member =>
        same time' request' (List.mem_append_left _ member)
      have atLeastOne := limitOf_pos limiter redis zone request
      have whole := limitOf_whole limiter redis zone request
      have answered := checkStored_run limiter zone redis (earlier ++ events) time request
      obtain ⟨decided,reported⟩ :=
        decided_by_grants (limiter.calculateAdjustments redis zone request).1 grants atLeastOne whole
      obtain ⟨left,reports,next⟩ := grants_reported time
        (storedState limiter.config (storedRun limiter zone redis (earlier ++ events)) time request.identifier)
        (limiter.calculateAdjustments redis zone request).1 chosen atLeastOne whole
      have spent := reports.symm.trans reported
      rw [← answered] at decided reported
      rw [storedLog_snoc,← joined]
      simp only [storedStep,Option.toList_some,answersTo,List.filter_append,List.filter_singleton,answerTo,
        decide_true,cond_true] at counted ⊢
      refine ⟨countdown_snoc counted decided reported,?_⟩
      rw [← List.append_assoc,storedState_run,List.length_append,List.length_singleton,leftAfter_succ]
      rwa [Int.cast_injective spent] at next
  | other events time request other ih =>
      obtain ⟨counted,grants⟩ := ih fun time' request' member =>
        same time' request' (List.mem_append_left _ member)
      have different : identifier ≠ request.identifier := fun equal => other equal.symm
      rw [storedLog_snoc]
      simp only [storedStep,Option.toList_some,answersTo,List.filter_append,List.filter_singleton,answerTo,other,
        decide_false,cond_false,List.append_nil]
      refine ⟨counted,?_⟩
      rw [← List.append_assoc,storedRun_snoc,storedStep,storedState_other _ _ _ _ _ different]
      exact grants
  | quiet events event quiet ih =>
      rw [storedLog_quiet _ _ _ _ quiet,← List.append_assoc,storedRun_quiet _ _ _ _ quiet]
      exact ih fun time' request' member => same time' request' (List.mem_append_left _ member)

theorem remaining_requests_exact (limiter : AdaptiveRateLimiter) (redis : Redis) (zone : LocalTime)
    (events more : List Event) (now : ℤ) (request : RateLimitRequest)
    (chosen : limiter.config.algorithm = .token_bucket ∨
      limiter.config.algorithm = .sliding_window ∧ 0 ≤ limiter.config.timeWindowMs)
    (started : limiter.localCache = .empty)
    (same : ∀ time further, .check time further ∈ more → further.identifier = request.identifier →
      time = now ∧ limitOf limiter redis zone further = limitOf limiter redis zone request) :
    let reached := World.run zone ⟨limiter,redis⟩ events
    let result := (reached.limiter.checkRateLimit reached.redis zone now request).1
    let after := World.run zone ⟨limiter,redis⟩ (events ++ [.check now request])
    Countdown result.remainingRequests (answersTo (after.log zone more) request.identifier) := by
  intro reached result after
  have before := (refines_run zone (refines_start limiter redis started) events).1
  have checked := (refines_run zone (refines_start limiter redis started) (events ++ [.check now request])).1
  have log := (refines_run zone checked more).2
  have answered : result = _ := (refines_check before zone now request).trans
    (checkStored_run limiter zone redis events now request)
  obtain ⟨left,reports,grants⟩ := grants_reported now
    (storedState limiter.config (storedRun limiter zone redis events) now request.identifier)
    (limiter.calculateAdjustments redis zone request).1 chosen (limitOf_pos limiter redis zone request)
    (limitOf_whole limiter redis zone request)
  rw [log,answered,reports]
  refine (countdown_run limiter redis zone (events ++ [.check now request]) more now
    (limitOf limiter redis zone request) left request.identifier chosen ?_ same).1
  rw [storedState_run]
  exact grants

def fourPerSecond : AdaptiveRateLimiter := .create ⟨.sliding_window,4,1000,1⟩ [] (fun _ => none) [] []

-- A new client's trust makes a limit of three of it: after one call two more are
-- allowed in the same millisecond, and a third is not.
theorem remaining_requests_exact_burst :
    Countdown 2 (answersTo
      ((World.run noon ⟨fourPerSecond,.empty⟩ [.check 0 sameClient]).log noon
        [.check 0 sameClient,.manageCacheSize,.check 0 sameClient,.check 0 sameClient]) "client") := by
  have counted := remaining_requests_exact fourPerSecond .empty noon []
    [.check 0 sameClient,.manageCacheSize,.check 0 sameClient,.check 0 sameClient] 0 sameClient
    (.inr ⟨rfl,by decide⟩) rfl (by
      intro time further listed _
      simp only [List.mem_cons,List.not_mem_nil,Event.check.injEq,reduceCtorEq,or_false,false_or,or_self] at listed
      obtain ⟨rfl,rfl⟩ := listed
      exact ⟨rfl,rfl⟩)
  have reported : (fourPerSecond.checkRateLimit .empty noon 0 sameClient).1.remainingRequests = 2 := by
    decide +kernel
  rwa [← reported]

end PhantomFlow.RateLimit.Remaining
