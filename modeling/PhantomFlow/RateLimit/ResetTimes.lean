import PhantomFlow.RateLimit.Hybrid

namespace PhantomFlow.RateLimit.ResetTimes
open Library Library.Machine SlidingWindow TokenBucket

section Checks
variable {config : RateLimitConfig} {now : ℤ} {limit : ℚ} {state : RateLimitState} {adjustments : Adjustments}

end Checks

end PhantomFlow.RateLimit.ResetTimes
