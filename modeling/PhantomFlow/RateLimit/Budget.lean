import PhantomFlow.RateLimit.SlidingWindow
import PhantomFlow.RateLimit.TokenBucket

namespace PhantomFlow.RateLimit
open Library Library.Machine SlidingWindow

-- What the calls of one identifier use up, in figures alone: a bucket filled at the
-- first call, and the times of the calls a window had room for.
structure Budget where
  tokens : ℚ
  refilled : ℤ
  admitted : List ℤ

namespace Budget
variable (config : RateLimitConfig) (budget : Budget) (now : ℤ) (limit : ℚ)

def initial : Budget := ⟨config.baseLimit,now,[]⟩

def funds : ℚ := budget.tokens + tokensFor config (now - budget.refilled)

def recent : ℕ := budget.admitted.countP (fun time => decide (now - config.timeWindowMs ≤ time))

def charge : Budget where
  tokens := min limit (budget.funds config now) - if 1 ≤ budget.funds config now then 1 else 0
  refilled := now
  admitted := if (budget.recent config now : ℚ) < limit then budget.admitted ++ [now] else budget.admitted

end Budget

section Calls
variable (config : RateLimitConfig) (identifier : String)

def spend (budget : Option Budget) : QuotedEvent → Option Budget
  | .check now request quote =>
    if request.identifier = identifier then some ((budget.getD (.initial config now)).charge config now quote.limit)
    else budget
  | .manageCacheSize | .cleanupExpiredEntries _ => budget

end Calls

section Decisions
variable {limiter : AdaptiveRateLimiter} {redis : Redis} {identifier : String}

end Decisions
end PhantomFlow.RateLimit
