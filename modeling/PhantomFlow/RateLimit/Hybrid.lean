import PhantomFlow.RateLimit.Budget

namespace PhantomFlow.RateLimit.Hybrid
open Library Library.Machine SlidingWindow

def withAlgorithm (limiter : AdaptiveRateLimiter) (algorithm : RateLimitAlgorithm) : AdaptiveRateLimiter :=
  { limiter with config := { limiter.config with algorithm } }

section Runs
variable (limiter : AdaptiveRateLimiter) (redis : Redis)

def reached (algorithm : RateLimitAlgorithm) (events : List QuotedEvent) : World :=
  World.quotedRun ⟨withAlgorithm limiter algorithm,redis⟩ events

def next (algorithm : RateLimitAlgorithm) (events : List QuotedEvent) (now : ℤ) (request : RateLimitRequest)
    (quote : Quote) : RateLimitResult :=
  ((reached limiter redis algorithm events).limiter.checkLimited (reached limiter redis algorithm events).redis now
    request quote.limit quote.adjustments).1

def Enforced (events : List QuotedEvent) (now : ℤ) (request : RateLimitRequest) (quote : Quote) : Prop :=
  (next limiter redis .adaptive_hybrid events now request quote).allowed = true →
    (allowedIn (World.quotedLog ⟨withAlgorithm limiter .adaptive_hybrid,redis⟩
        (events ++ [.check now request quote])) request.identifier (now - limiter.config.timeWindowMs) now : ℚ) ≤
      (next limiter redis .adaptive_hybrid events now request quote).limitApplied ∧
    (next limiter redis .token_bucket events now request quote).allowed = true ∧
    (next limiter redis .sliding_window events now request quote).allowed = true

def firstCall (identifier : String) : List QuotedEvent → Option ℤ
  | [] => none
  | .check now request _ :: rest => if request.identifier = identifier then some now else firstCall identifier rest
  | _ :: rest => firstCall identifier rest

end Runs

section Conditions
variable (config : RateLimitConfig)

-- The bucket as it was filled at the first call, with everything earned since and
-- nothing ever taken out, holds a token. Always so for a base limit of at least
-- one and a replenish rate that is not negative.
def Due (events : List QuotedEvent) (now : ℤ) (identifier : String) : Prop :=
  1 ≤ config.baseLimit + tokensFor config (now - (firstCall identifier events).getD now)

end Conditions

section Decisions
variable {limiter : AdaptiveRateLimiter} {redis : Redis} (started : limiter.localCache = .empty)
  (unseen : ∀ identifier, redis.states identifier = none)
include started

include unseen

end Decisions

end PhantomFlow.RateLimit.Hybrid
