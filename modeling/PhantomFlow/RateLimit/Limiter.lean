import Mathlib.Algebra.Order.Ring.Rat
import PhantomFlow.Library.OrderedMap
import PhantomFlow.Library.JsNumber

namespace PhantomFlow.RateLimit
open Library

-- A `Date` is its whole number of milliseconds since the epoch; an invalid one is
-- the absent value.
def dateOf : JsNumber ℚ → Option ℤ
  | .finite value => some (JsNumber.truncate value)
  | _ => none

inductive RateLimitAlgorithm where
  | token_bucket | sliding_window | adaptive_hybrid
  deriving DecidableEq
inductive ThreatLevel where
  | low | medium | high | critical
  deriving DecidableEq
inductive UserProfile where
  | new | trusted | suspicious | vip | blocked
  deriving DecidableEq
inductive TimePattern where
  | peak_hours | off_hours | weekend | holiday | emergency
  deriving DecidableEq

structure RateLimitConfig where
  algorithm : RateLimitAlgorithm
  baseLimit : ℚ
  timeWindowMs : ℤ
  replenishRate : ℚ
  deriving DecidableEq

structure ThreatBasedAdjustment where
  threatLevel : ThreatLevel
  adjustmentFactor : ℚ
  deriving DecidableEq
structure GeographicRateRule where
  countryCode : String
  adjustmentFactor : ℚ
  deriving DecidableEq
structure TemporalRateRule where
  pattern : TimePattern
  adjustmentFactor : ℚ
  deriving DecidableEq

structure UserRateProfile where
  userProfile : UserProfile
  baselineRequests : ℚ
  trustScore : ℚ
  deriving DecidableEq

structure RateLimitRequest where
  identifier : String
  endpoint : String
  method : String
  ipAddress : String
  userId : Option String
  sessionId : Option String
  threatScore : Option ℚ
  timestamp : ℤ
  deriving DecidableEq

structure RequestEntry where
  timestamp : ℤ
  count : ℕ
  deriving DecidableEq

structure RateLimitState where
  identifier : String
  algorithm : RateLimitAlgorithm
  tokens : ℚ
  lastRefill : ℤ
  requests : List RequestEntry
  windowStart : ℤ
  requestCount : ℕ
  lastRequest : ℤ
  currentLimit : ℚ
  violationCount : ℕ
  deriving DecidableEq

structure Adjustments where
  threatBased : ℚ
  userBased : ℚ
  geographic : ℚ
  temporal : ℚ
  final : ℚ
  deriving DecidableEq

structure ResultMetadata where
  algorithm : RateLimitAlgorithm
  windowStart : ℤ
  windowEnd : Option ℤ
  requestCount : ℕ
  burstUsed : ℚ
  deriving DecidableEq

structure RateLimitResult where
  allowed : Bool
  remainingRequests : ℚ
  resetTime : Option ℤ
  retryAfter : Option (JsNumber ℚ)
  limitApplied : ℚ
  reason : Option String
  adjustments : Adjustments
  metadata : ResultMetadata
  deriving DecidableEq

section Algorithms
variable (config : RateLimitConfig) (now : ℤ)

-- Whole tokens for `elapsed` milliseconds; the fraction is rounded away.
def tokensFor (elapsed : ℤ) : ℤ := ⌊(elapsed : ℚ) * config.replenishRate / 1000⌋

def refill (state : RateLimitState) (limit : ℚ) : RateLimitState :=
  { state with
    tokens := min limit (state.tokens + tokensFor config (now - state.lastRefill))
    lastRefill := now }

def takeToken (state : RateLimitState) : RateLimitState :=
  { state with
    tokens := state.tokens - 1
    requestCount := state.requestCount + 1
    lastRequest := now }

def checkTokenBucket (state : RateLimitState) (limit : ℚ) (adjustments : Adjustments) :
    RateLimitResult × RateLimitState :=
  let refilled := refill config now state limit
  let allowed := decide (1 ≤ refilled.tokens)
  let after := if allowed then takeToken now refilled else refilled
  let wait := JsNumber.ceil (JsNumber.div (1 - after.tokens) config.replenishRate)
  let resetTime := dateOf ((wait.scale 1000).shift now)
  ({ allowed
     remainingRequests := ⌊after.tokens⌋
     resetTime
     retryAfter := if allowed then none else some wait
     limitApplied := limit
     reason := if allowed then none else some "Rate limit exceeded (Token Bucket)"
     adjustments
     metadata :=
       { algorithm := .token_bucket
         windowStart := after.windowStart
         windowEnd := resetTime
         requestCount := after.requestCount
         burstUsed := limit - after.tokens } },after)

-- `count += 1` on the first entry that satisfies the test.
def bumpFirst (found : RequestEntry → Bool) : List RequestEntry → List RequestEntry
  | [] => []
  | entry :: rest =>
    if found entry then { entry with count := entry.count + 1 } :: rest
    else entry :: bumpFirst found rest

def totalCount (requests : List RequestEntry) : ℕ := (requests.map RequestEntry.count).sum

def addCurrent (requests : List RequestEntry) : List RequestEntry :=
  if requests.any (fun entry => entry.timestamp == now)
  then bumpFirst (fun entry => entry.timestamp == now) requests
  else requests ++ [⟨now,1⟩]

def inWindow (entry : RequestEntry) : Bool := decide (now - config.timeWindowMs ≤ entry.timestamp)

def checkSlidingWindow (state : RateLimitState) (limit : ℚ) (adjustments : Adjustments) :
    RateLimitResult × RateLimitState :=
  let cleaned := { state with requests := state.requests.filter (inWindow config now) }
  let currentCount := totalCount cleaned.requests
  let allowed := decide ((currentCount : ℚ) < limit)
  let after := if allowed then
      { cleaned with
        requests := addCurrent now cleaned.requests
        requestCount := cleaned.requestCount + 1
        lastRequest := now }
    else cleaned
  let resetTime := (match after.requests with
    | first :: _ => first.timestamp
    | [] => now) + config.timeWindowMs
  ({ allowed
     remainingRequests := max 0 (limit - currentCount - (if allowed then 1 else 0))
     resetTime := some resetTime
     retryAfter := if allowed then none else some ((JsNumber.div ((resetTime - now : ℤ) : ℚ) 1000).ceil)
     limitApplied := limit
     reason := if allowed then none else some "Rate limit exceeded (Sliding Window)"
     adjustments
     metadata :=
       { algorithm := .sliding_window
         windowStart := now - config.timeWindowMs
         windowEnd := some (now + config.timeWindowMs)
         requestCount := currentCount + (if allowed then 1 else 0)
         burstUsed := 0 } },after)

-- Both checks work on `{ ...state }`, so the tokens, the refill time and the
-- filtered or extended array stay with the copies. The entry objects are shared
-- by the copies, and `existingReq.count += 1` is the one write that reaches the
-- caller's state.
def checkAdaptiveHybrid (state : RateLimitState) (limit : ℚ) (adjustments : Adjustments) :
    RateLimitResult × RateLimitState :=
  let tokenResult := (checkTokenBucket config now state limit adjustments).1
  let windowResult := (checkSlidingWindow config now state limit adjustments).1
  let allowed := tokenResult.allowed && windowResult.allowed
  let restrictiveResult :=
    if tokenResult.remainingRequests < windowResult.remainingRequests then tokenResult else windowResult
  ({ allowed
     remainingRequests := min tokenResult.remainingRequests windowResult.remainingRequests
     resetTime := do return min (← tokenResult.resetTime) (← windowResult.resetTime)
     retryAfter := if allowed then none else
       some ((JsNumber.orZero tokenResult.retryAfter).max (JsNumber.orZero windowResult.retryAfter))
     limitApplied := limit
     reason := if allowed then none else some "Rate limit exceeded (Adaptive Hybrid)"
     adjustments
     metadata :=
       { algorithm := .adaptive_hybrid
         windowStart := restrictiveResult.metadata.windowStart
         windowEnd := restrictiveResult.metadata.windowEnd
         requestCount := max tokenResult.metadata.requestCount windowResult.metadata.requestCount
         burstUsed := tokenResult.metadata.burstUsed } },
   if windowResult.allowed then
     { state with
       requests := bumpFirst (fun entry => inWindow config now entry && entry.timestamp == now) state.requests }
   else state)

def checkAlgorithm (state : RateLimitState) (limit : ℚ) (adjustments : Adjustments) :
    RateLimitResult × RateLimitState :=
  match config.algorithm with
  | .token_bucket => checkTokenBucket config now state limit adjustments
  | .sliding_window => checkSlidingWindow config now state limit adjustments
  | .adaptive_hybrid => checkAdaptiveHybrid config now state limit adjustments

def freshState (identifier : String) : RateLimitState where
  identifier
  algorithm := config.algorithm
  tokens := config.baseLimit
  lastRefill := now
  requests := []
  windowStart := now
  requestCount := 0
  lastRequest := now
  currentLimit := config.baseLimit
  violationCount := 0

theorem checkAlgorithm_limit (state : RateLimitState) (limit : ℚ) (adjustments : Adjustments) :
    (checkAlgorithm config now state limit adjustments).1.limitApplied = limit := by
  unfold checkAlgorithm
  split <;> rfl

end Algorithms

-- The limiter reads hours and weekdays of the host's time zone.
structure LocalTime where
  getHours : ℤ → ℕ
  getDay : ℤ → ℕ

structure AdaptiveRateLimiter where
  config : RateLimitConfig
  threatAdjustments : OrderedMap ThreatLevel ThreatBasedAdjustment
  userAdjustments : UserProfile → Option ℚ
  geographicRules : OrderedMap String GeographicRateRule
  temporalRules : List TemporalRateRule
  localCache : OrderedMap String RateLimitState

def AdaptiveRateLimiter.create (config : RateLimitConfig) (threatAdjustments : List ThreatBasedAdjustment)
    (userAdjustments : UserProfile → Option ℚ) (geographicRules : List GeographicRateRule)
    (temporalRules : List TemporalRateRule) : AdaptiveRateLimiter where
  config
  threatAdjustments := .ofList (threatAdjustments.map (fun adj => (adj.threatLevel,adj)))
  userAdjustments
  geographicRules := .ofList (geographicRules.map (fun rule => (rule.countryCode,rule)))
  temporalRules
  localCache := .empty

def threatLevelOf (threatScore : ℚ) : ThreatLevel :=
  if threatScore < 3/10 then .low
  else if threatScore < 6/10 then .medium
  else if threatScore < 8/10 then .high
  else .critical

def getTimePattern (zone : LocalTime) (timestamp : ℤ) : TimePattern :=
  let hour := zone.getHours timestamp
  let dayOfWeek := zone.getDay timestamp
  if 9 ≤ hour ∧ hour ≤ 17 ∧ 1 ≤ dayOfWeek ∧ dayOfWeek ≤ 5 then .peak_hours
  else if dayOfWeek = 0 ∨ dayOfWeek = 6 then .weekend
  else .off_hours

def getCountryFromIP (ipAddress : String) : String :=
  if ipAddress.startsWith "192.168." || ipAddress.startsWith "10." || ipAddress == "127.0.0.1"
  then "LOCAL" else "XX"

-- The JSON image of a state. Dates become ISO strings, which keep the
-- millisecond, and every date field is converted back on load.
structure IsoDate where
  milliseconds : ℤ
  deriving DecidableEq
structure StateImage where
  identifier : String
  algorithm : RateLimitAlgorithm
  tokens : ℚ
  lastRefill : IsoDate
  requests : List (IsoDate × ℕ)
  windowStart : IsoDate
  requestCount : ℕ
  lastRequest : IsoDate
  currentLimit : ℚ
  violationCount : ℕ
  deriving DecidableEq

def stringify (state : RateLimitState) : StateImage where
  identifier := state.identifier
  algorithm := state.algorithm
  tokens := state.tokens
  lastRefill := ⟨state.lastRefill⟩
  requests := state.requests.map (fun entry => (⟨entry.timestamp⟩,entry.count))
  windowStart := ⟨state.windowStart⟩
  requestCount := state.requestCount
  lastRequest := ⟨state.lastRequest⟩
  currentLimit := state.currentLimit
  violationCount := state.violationCount

def parse (image : StateImage) : RateLimitState where
  identifier := image.identifier
  algorithm := image.algorithm
  tokens := image.tokens
  lastRefill := image.lastRefill.milliseconds
  requests := image.requests.map (fun entry => ⟨entry.1.milliseconds,entry.2⟩)
  windowStart := image.windowStart.milliseconds
  requestCount := image.requestCount
  lastRequest := image.lastRequest.milliseconds
  currentLimit := image.currentLimit
  violationCount := image.violationCount

@[simp] theorem parse_stringify (state : RateLimitState) : parse (stringify state) = state := by
  simp [parse,stringify,Function.comp_def]

-- The two key families the limiter uses, `rate_limit_state:` and `user_profile:`.
-- Their prefixes differ, so they are two tables. A read returns the last write.
structure Redis where
  states : String → Option StateImage
  profiles : String → Option UserRateProfile

namespace AdaptiveRateLimiter
variable (limiter : AdaptiveRateLimiter) (redis : Redis)

def truthy : Option String → Option String
  | some text => if text = "" then none else some text
  | none => none

def profileKey (request : RateLimitRequest) : String :=
  ((truthy request.userId).or (truthy request.sessionId)).getD request.ipAddress

def newProfile : UserRateProfile :=
  { userProfile := .new, baselineRequests := limiter.config.baseLimit, trustScore := 1/2 }

def getUserProfile (request : RateLimitRequest) : UserRateProfile × Redis :=
  match redis.profiles (profileKey request) with
  | some profile => (profile,redis)
  | none =>
    (limiter.newProfile,
      { redis with profiles := Function.update redis.profiles (profileKey request) (some limiter.newProfile) })

def calculateThreatAdjustment (threatScore : ℚ) : ℚ :=
  match limiter.threatAdjustments.get (threatLevelOf threatScore) with
  | some adjustment => adjustment.adjustmentFactor
  | none => 1

-- `get(..) || 1.0`: a configured factor of zero counts as absent.
def userFactor (profile : UserProfile) : ℚ :=
  match limiter.userAdjustments profile with
  | some factor => if factor = 0 then 1 else factor
  | none => 1

def calculateUserAdjustment (profile : UserRateProfile) : ℚ :=
  limiter.userFactor profile.userProfile * (1/2 + profile.trustScore * (1/2))

def calculateGeographicAdjustment (ipAddress : String) : ℚ :=
  match limiter.geographicRules.get (getCountryFromIP ipAddress) with
  | some rule => rule.adjustmentFactor
  | none => 1

def calculateTemporalAdjustment (zone : LocalTime) (timestamp : ℤ) : ℚ :=
  match limiter.temporalRules.find? (fun rule => rule.pattern = getTimePattern zone timestamp) with
  | some rule => rule.adjustmentFactor
  | none => 1

def calculateAdjustments (zone : LocalTime) (request : RateLimitRequest) : Adjustments × Redis :=
  let threatBased := limiter.calculateThreatAdjustment (request.threatScore.getD 0)
  let looked := limiter.getUserProfile redis request
  let userBased := limiter.calculateUserAdjustment looked.1
  let geographic := limiter.calculateGeographicAdjustment request.ipAddress
  let temporal := limiter.calculateTemporalAdjustment zone request.timestamp
  ({ threatBased, userBased, geographic, temporal,
     final := threatBased * userBased * geographic * temporal },looked.2)

def finalLimit (adjustments : Adjustments) : ℚ := max 1 ⌊limiter.config.baseLimit * adjustments.final⌋

theorem finalLimit_pos (adjustments : Adjustments) : 1 ≤ limiter.finalLimit adjustments := le_max_left _ _

theorem finalLimit_whole (adjustments : Adjustments) : ∃ n : ℤ, limiter.finalLimit adjustments = n :=
  ⟨max 1 ⌊limiter.config.baseLimit * adjustments.final⌋,by simp [finalLimit]⟩

def cacheSize : ℕ := 1000

def manageCacheSize : AdaptiveRateLimiter :=
  if cacheSize < limiter.localCache.size
  then { limiter with localCache := limiter.localCache.dropOldest (cacheSize / 4) }
  else limiter

def getState (now : ℤ) (identifier : String) : RateLimitState × AdaptiveRateLimiter :=
  let state := match limiter.localCache.get identifier with
    | some state => state
    | none => match redis.states identifier with
      | some image => parse image
      | none => freshState limiter.config now identifier
  (state,{ limiter with localCache := limiter.localCache.set identifier state }.manageCacheSize)

def updateState (identifier : String) (state : RateLimitState) : AdaptiveRateLimiter × Redis :=
  ({ limiter with localCache := limiter.localCache.set identifier state },
    { redis with states := Function.update redis.states identifier (some (stringify state)) })

def checkRateLimit (zone : LocalTime) (now : ℤ) (request : RateLimitRequest) :
    RateLimitResult × AdaptiveRateLimiter × Redis :=
  let got := limiter.getState redis now request.identifier
  let adjusted := limiter.calculateAdjustments redis zone request
  let checked := checkAlgorithm limiter.config now got.1 (limiter.finalLimit adjusted.1) adjusted.1
  (checked.1,got.2.updateState adjusted.2 request.identifier checked.2)

def cleanupExpiredEntries (now : ℤ) : AdaptiveRateLimiter :=
  { limiter with
    localCache := limiter.localCache.filter (fun _ state =>
      !decide (limiter.config.timeWindowMs * 2 < now - state.lastRequest)) }

end AdaptiveRateLimiter
end PhantomFlow.RateLimit
