import PhantomFlow.RateLimit.QuotedRuns

namespace PhantomFlow.RateLimit.SlidingWindow
open Library Library.Machine

theorem bumpFirst_timestamps (found : RequestEntry → Bool) (requests : List RequestEntry) :
    (bumpFirst found requests).map RequestEntry.timestamp = requests.map RequestEntry.timestamp := by
  induction requests with
  | nil => rfl
  | cons entry rest ih =>
      unfold bumpFirst
      split
      · rfl
      · simp [ih]

theorem bumpFirst_positive (found : RequestEntry → Bool) (positive : ∀ entry ∈ requests, 0 < entry.count) :
    ∀ entry ∈ bumpFirst found requests, 0 < entry.count := by
  induction requests with
  | nil => simp [bumpFirst]
  | cons head rest ih =>
      obtain ⟨first,others⟩ := List.forall_mem_cons.mp positive
      unfold bumpFirst
      split
      · exact List.forall_mem_cons.mpr ⟨Nat.succ_pos _,others⟩
      · exact List.forall_mem_cons.mpr ⟨first,ih others⟩

-- The window test reads the timestamp only, so a bump inside the window adds one
-- and a bump outside it is not seen.
theorem bumpFirst_counted (config : RateLimitConfig) (now later : ℤ)
    (present : requests.any (fun entry => entry.timestamp == now) = true) :
    totalCount ((bumpFirst (fun entry => entry.timestamp == now) requests).filter (inWindow config later)) =
      totalCount (requests.filter (inWindow config later)) +
        if later - config.timeWindowMs ≤ now then 1 else 0 := by
  induction requests with
  | nil => simp at present
  | cons head rest ih =>
      unfold bumpFirst
      split
      · rename_i here
        have time : head.timestamp = now := by simpa using here
        by_cases inside : later - config.timeWindowMs ≤ now
        · simp [inWindow,time,inside,totalCount]; omega
        · simp [inWindow,time,inside]
      · rename_i elsewhere
        have rest' : rest.any (fun entry => entry.timestamp == now) = true := by
          simpa [elsewhere] using present
        by_cases inside : later - config.timeWindowMs ≤ head.timestamp
        · have counted := ih rest'
          simp only [List.filter_cons,inWindow,inside,totalCount] at counted ⊢
          simp only [decide_true,if_true,List.map_cons,List.sum_cons]
          omega
        · simpa [List.filter_cons,inWindow,inside] using ih rest'

theorem addCurrent_counted (config : RateLimitConfig) (now later : ℤ) (requests : List RequestEntry) :
    totalCount ((addCurrent now requests).filter (inWindow config later)) =
      totalCount (requests.filter (inWindow config later)) +
        if later - config.timeWindowMs ≤ now then 1 else 0 := by
  unfold addCurrent
  split
  · rename_i present
    exact bumpFirst_counted config now later present
  · by_cases inside : later - config.timeWindowMs ≤ now <;>
      simp [inWindow,inside,totalCount,List.filter_append]

theorem addCurrent_positive (now : ℤ) (positive : ∀ entry ∈ requests, 0 < entry.count) :
    ∀ entry ∈ addCurrent now requests, 0 < entry.count := by
  unfold addCurrent
  split
  · exact bumpFirst_positive _ positive
  · intro entry member
    rcases List.mem_append.mp member with old | new
    · exact positive entry old
    · rw [List.mem_singleton.mp new]; exact Nat.one_pos

def Increasing (requests : List RequestEntry) : Prop :=
  (requests.map RequestEntry.timestamp).Pairwise (· < ·)

theorem addCurrent_increasing (increasing : Increasing requests)
    (past : ∀ time ∈ requests.map RequestEntry.timestamp, time ≤ now) : Increasing (addCurrent now requests) := by
  unfold Increasing addCurrent
  split
  · rw [bumpFirst_timestamps]; exact increasing
  · rename_i absent
    rw [List.map_append,List.pairwise_append]
    refine ⟨increasing,by simp,?_⟩
    intro time member last same
    simp only [List.map_cons,List.map_nil,List.mem_singleton] at same
    subst last
    have different : time ≠ now := by
      rintro rfl
      obtain ⟨entry,here,rfl⟩ := List.mem_map.mp member
      exact absent (List.any_eq_true.mpr ⟨entry,here,by simp⟩)
    exact lt_of_le_of_ne (past time member) different

theorem addCurrent_times (member : time ∈ (addCurrent now requests).map RequestEntry.timestamp) :
    time ∈ requests.map RequestEntry.timestamp ∨ time = now := by
  unfold addCurrent at member
  split at member
  · rw [bumpFirst_timestamps] at member
    exact Or.inl member
  · rw [List.map_append,List.mem_append] at member
    simpa using member

-- The entries against the history of one identifier: at every moment from the
-- last answer on, those inside the window count the allowed calls in it.
structure WindowExact (config : RateLimitConfig) (log : List Answer) (identifier : String)
    (requests : List RequestEntry) : Prop where
  increasing : Increasing requests
  positive : ∀ entry ∈ requests, 0 < entry.count
  past : ∀ now, Until log now → ∀ time ∈ requests.map RequestEntry.timestamp, time ≤ now
  counted : ∀ now, Until log now → totalCount (requests.filter (inWindow config now)) =
    allowedIn log identifier (now - config.timeWindowMs) now

theorem windowExact_nil : WindowExact config [] identifier [] :=
  ⟨List.Pairwise.nil,by simp,by simp,by simp [totalCount,allowedIn]⟩

theorem windowExact_other (exact' : WindowExact config log identifier requests) (answer : Answer)
    (other : answer.identifier ≠ identifier) : WindowExact config (log ++ [answer]) identifier requests := by
  refine ⟨exact'.increasing,exact'.positive,?_,?_⟩
  · intro now until'
    exact exact'.past now (until_snoc until').1
  · intro now until'
    rw [allowedIn_snoc,exact'.counted now (until_snoc until').1]
    simp [other]

theorem filter_later (config : RateLimitConfig) (requests : List RequestEntry) (order : now ≤ later) :
    (requests.filter (inWindow config now)).filter (inWindow config later) =
      requests.filter (inWindow config later) := by
  rw [List.filter_filter]
  apply List.filter_congr
  intro entry _
  by_cases inside : later - config.timeWindowMs ≤ entry.timestamp
  · have earlier : now - config.timeWindowMs ≤ entry.timestamp := by omega
    simp [inWindow,inside,earlier]
  · simp [inWindow,inside]

theorem checkSlidingWindow_allowed (exact' : WindowExact config log identifier state.requests)
    (until' : Until log now) (limit : ℚ) (adjustments : Adjustments) :
    (checkSlidingWindow config now state limit adjustments).1.allowed = true ↔
      (allowedIn log identifier (now - config.timeWindowMs) now : ℚ) < limit := by
  rw [← exact'.counted now until']
  simp [checkSlidingWindow]

theorem checkSlidingWindow_requests (state : RateLimitState) (limit : ℚ) (adjustments : Adjustments) :
    (checkSlidingWindow config now state limit adjustments).2.requests =
      if (checkSlidingWindow config now state limit adjustments).1.allowed = true
      then addCurrent now (state.requests.filter (inWindow config now))
      else state.requests.filter (inWindow config now) := by
  simp only [checkSlidingWindow]
  split <;> simp_all

theorem checkSlidingWindow_resetTime (state : RateLimitState) (limit : ℚ) (adjustments : Adjustments) :
    (checkSlidingWindow config now state limit adjustments).1.resetTime =
      some ((checkSlidingWindow config now state limit adjustments).2.requests.head?.elim now RequestEntry.timestamp +
        config.timeWindowMs) := by
  simp only [checkSlidingWindow]
  split <;> simp_all

theorem checkSlidingWindow_retryAfter (state : RateLimitState) (limit : ℚ) (adjustments : Adjustments) :
    (checkSlidingWindow config now state limit adjustments).1.retryAfter =
      if (checkSlidingWindow config now state limit adjustments).1.allowed then none else
        (checkSlidingWindow config now state limit adjustments).1.resetTime.map
          (fun reset => (JsNumber.div ((reset - now : ℤ) : ℚ) 1000).ceil) := rfl

theorem windowExact_check (exact' : WindowExact config log identifier state.requests) (until' : Until log now)
    (answer : Answer) (same : answer.identifier = identifier) (time : answer.time = now)
    (result : answer.result = (checkSlidingWindow config now state limit adjustments).1) :
    WindowExact config (log ++ [answer]) identifier
      (checkSlidingWindow config now state limit adjustments).2.requests := by
  have cleanedPast : ∀ last, Until log last → ∀ time ∈ (state.requests.filter (inWindow config now)).map
      RequestEntry.timestamp, time ≤ last := by
    intro last until'' moment member
    exact exact'.past last until'' moment ((List.filter_sublist.map _).subset member)
  have cleanedIncreasing : Increasing (state.requests.filter (inWindow config now)) :=
    exact'.increasing.sublist (List.filter_sublist.map _)
  have cleanedPositive : ∀ entry ∈ state.requests.filter (inWindow config now), 0 < entry.count :=
    fun entry member => exact'.positive entry (List.mem_filter.mp member).1
  rw [checkSlidingWindow_requests,← result]
  split
  · rename_i allowed
    refine ⟨addCurrent_increasing cleanedIncreasing (cleanedPast now until'),
      addCurrent_positive now cleanedPositive,?_,?_⟩
    · intro last until''
      obtain ⟨before,recent⟩ := until_snoc until''
      intro moment member
      rcases addCurrent_times member with old | new
      · exact cleanedPast last before moment old
      · exact new ▸ time ▸ recent
    · intro last until''
      obtain ⟨before,recent⟩ := until_snoc until''
      rw [addCurrent_counted,filter_later config state.requests (time ▸ recent),exact'.counted last before,
        allowedIn_snoc]
      have order : now ≤ last := time ▸ recent
      simp [same,allowed,time,order]
  · rename_i refused
    refine ⟨cleanedIncreasing,cleanedPositive,fun last until'' => cleanedPast last (until_snoc until'').1,?_⟩
    intro last until''
    obtain ⟨before,recent⟩ := until_snoc until''
    rw [filter_later config state.requests (time ▸ recent),exact'.counted last before,allowedIn_snoc]
    simp [refused]

def storedRequests (redis : Redis) (identifier : String) : List RequestEntry :=
  match redis.states identifier with
  | some image => (parse image).requests
  | none => []

theorem storedState_requests (config : RateLimitConfig) (redis : Redis) (now : ℤ) (identifier : String) :
    (storedState config redis now identifier).requests = storedRequests redis identifier := by
  unfold storedState storedRequests
  cases redis.states identifier <;> rfl

theorem storedQuotedRun_exact (sliding : limiter.config.algorithm = .sliding_window)
    (unseen : redis.states identifier = none) (ordered : QuotedOrdered events) :
    WindowExact limiter.config (storedQuotedLog limiter redis events) identifier
      (storedRequests (storedQuotedRun limiter redis events) identifier) := by
  induction events using quoted_induction identifier with
  | nil =>
      have none' : storedRequests (storedQuotedRun limiter redis []) identifier = [] := by
        simp [storedRequests,storedQuotedRun,unseen]
      rw [none']
      exact windowExact_nil
  | own events now request quote same ih =>
      subst identifier
      obtain ⟨before,until'⟩ := quotedOrdered_snoc limiter redis ordered
      have held := ih before
      rw [← storedState_requests limiter.config _ now] at held
      have next := windowExact_check held until' ⟨request.identifier,now,(storedLimited limiter
        (storedQuotedRun limiter redis events) now request quote.limit quote.adjustments).1⟩ rfl rfl
        (by simp only [storedLimited,checkAlgorithm,sliding]; rfl)
      rw [storedQuotedRun_snoc,storedQuotedLog_snoc]
      simpa [storedQuotedStep,storedRequests,storedLimited_states,checkAlgorithm,sliding] using next
  | other events now request quote same ih =>
      have other : identifier ≠ request.identifier := fun equal => same equal.symm
      have next := windowExact_other (ih (quotedOrdered_init ordered)) ⟨request.identifier,now,(storedLimited limiter
        (storedQuotedRun limiter redis events) now request quote.limit quote.adjustments).1⟩ same
      rw [storedQuotedRun_snoc,storedQuotedLog_snoc]
      simpa [storedQuotedStep,storedRequests,storedLimited_states,Function.update_of_ne other] using next
  | quiet events event quiet ih =>
      rw [storedQuotedRun_quiet _ _ _ quiet,storedQuotedLog_quiet _ _ _ quiet]
      exact ih (quotedOrdered_init ordered)

theorem storedRun_exact (zone : LocalTime) (sliding : limiter.config.algorithm = .sliding_window)
    (unseen : redis.states identifier = none) (ordered : Ordered events) :
    WindowExact limiter.config (storedLog limiter zone redis events) identifier
      (storedRequests (storedRun limiter zone redis events) identifier) := by
  obtain ⟨run,log⟩ := stored_run_quoted limiter zone redis events
  rw [run,log]
  exact storedQuotedRun_exact sliding unseen (quotedOrdered_map ordered)

-- The whole limiter, cache and eviction included: the state accounts for the
-- allowed calls, and the next call is decided by that account alone.
theorem sliding_window_exact (limiter : AdaptiveRateLimiter) (redis : Redis) (zone : LocalTime) (identifier : String)
    (events : List Event) (sliding : limiter.config.algorithm = .sliding_window)
    (started : limiter.localCache = .empty) (unseen : redis.states identifier = none) (ordered : Ordered events) :
    (∀ state, (World.run zone ⟨limiter,redis⟩ events).currentState identifier = some state →
      state.requests.Pairwise (fun earlier later => earlier.timestamp < later.timestamp) ∧
      (∀ entry ∈ state.requests, 0 < entry.count) ∧
      ∀ now, Until (World.log zone ⟨limiter,redis⟩ events) now →
        totalCount (state.requests.filter (inWindow limiter.config now)) =
          allowedIn (World.log zone ⟨limiter,redis⟩ events) identifier (now - limiter.config.timeWindowMs) now) ∧
    ∀ now request, request.identifier = identifier → Until (World.log zone ⟨limiter,redis⟩ events) now →
      let reached := World.run zone ⟨limiter,redis⟩ events
      let result := (reached.limiter.checkRateLimit reached.redis zone now request).1
      (result.allowed = true ↔
        (allowedIn (World.log zone ⟨limiter,redis⟩ events) identifier
          (now - limiter.config.timeWindowMs) now : ℚ) < result.limitApplied) := by
  obtain ⟨refines,log⟩ := refines_run zone (refines_start limiter redis started) events
  have held := storedRun_exact zone sliding unseen ordered
  rw [log]
  constructor
  · intro state current
    rw [refines_currentState refines] at current
    obtain ⟨image,stored,rfl⟩ := Option.map_eq_some_iff.mp current
    simp only [storedRequests,stored] at held
    exact ⟨List.pairwise_map.mp held.increasing,held.positive,held.counted⟩
  · intro now request same until'
    subst identifier
    rw [← storedState_requests limiter.config _ now] at held
    simp only [refines_check refines zone now request,checkStored,checkAlgorithm_limit]
    simpa only [checkAlgorithm,sliding] using checkSlidingWindow_allowed held until' _ _

-- A call exactly one window after an allowed one still counts it.
theorem sliding_window_exact_boundary :
    let reached := World.run noon ⟨onePerSecond .sliding_window,.empty⟩
      [.check 0 sameClient,.cleanupExpiredEntries 5000]
    (reached.limiter.checkRateLimit reached.redis noon 1000 sameClient).1.allowed = false := by
  have decided := (sliding_window_exact (onePerSecond .sliding_window) .empty noon "client"
    [.check 0 sameClient,.cleanupExpiredEntries 5000] rfl rfl rfl (by decide)).2 1000 sameClient rfl
    (by decide +kernel)
  rw [← Bool.not_eq_true]
  exact fun allowed => absurd (decided.mp allowed) (by decide +kernel)

end PhantomFlow.RateLimit.SlidingWindow
