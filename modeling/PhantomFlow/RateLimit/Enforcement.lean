import Mathlib.Data.Nat.Digits.Defs
import PhantomFlow.Library.JsInt32
import PhantomFlow.RateLimit.LimiterRuns
import PhantomFlow.RateLimit.Manager

namespace PhantomFlow.RateLimit.Enforcement
open Library Library.Machine

-- What the service reads of an Express request; `get` is the header lookup.
structure HttpRequest where
  ip : Option String
  connectionAddress : Option String
  socketAddress : Option String
  nestedAddress : Option String
  get : String → Option String
  userId : Option String
  path : String
  method : String

structure RateLimitEnforcementConfig where
  enabled : Bool
  keyGenerator : HttpRequest → String
  skip : HttpRequest → Bool

structure RateLimitMiddlewareOptions where
  endpoint : Option String := none
  threatScoreExtractor : Option (HttpRequest → ℚ) := none
  userExtractor : Option (HttpRequest → Option String × Option String) := none
  skipCondition : Option (HttpRequest → Bool) := none

def trim (text : String) : String :=
  String.ofList ((text.toList.dropWhile isTrimmed).reverse.dropWhile isTrimmed).reverse

def firstAddress (forwarded : String) : String := trim (String.ofList (forwarded.toList.takeWhile (· ≠ ',')))

def extractClientIP (req : HttpRequest) : String :=
  let sources := [req.ip,req.connectionAddress,req.socketAddress,req.nestedAddress,
    (req.get "X-Forwarded-For").map firstAddress,req.get "X-Real-IP",req.get "CF-Connecting-IP"]
  (sources.findSome? AdaptiveRateLimiter.truthy).getD "127.0.0.1"

def codeUnits (text : String) : List ℕ :=
  text.toList.flatMap (fun c =>
    if c.toNat < 0x10000 then [c.toNat]
    else [0xd800 + (c.toNat - 0x10000) / 0x400,0xdc00 + (c.toNat - 0x10000) % 0x400])

def base36 (n : ℕ) : String :=
  String.ofList ((Nat.digits 36 n).reverse.map (fun digit =>
    if digit < 10 then Char.ofNat (48 + digit) else Char.ofNat (87 + digit)))

def simpleHash (text : String) : String :=
  let hash := (codeUnits text).foldl (fun hash char =>
    let next := JsInt32.shl hash 5 - hash + char
    JsInt32.bitAnd next next) (0 : ℤ)
  if hash = 0 then "0" else base36 hash.natAbs

def defaultKeyGenerator (req : HttpRequest) : String :=
  match AdaptiveRateLimiter.truthy req.userId with
  | some userId => "user:" ++ userId
  | none => extractClientIP req ++ ":" ++
      simpleHash ((AdaptiveRateLimiter.truthy (req.get "User-Agent")).getD "unknown")

-- The copy of a block that goes to Redis is never read, so it is not kept here.
structure RateLimitEnforcementService where
  config : RateLimitEnforcementConfig
  rateLimitManager : RateLimitManager
  redis : Redis
  violationCount : OrderedMap String ℕ
  blockedIPs : List String
  blockedExpiry : OrderedMap String ℤ

inductive Reply where
  | passed
  | blocked (until' : Option ℤ)
  | limited (result : RateLimitResult)
  | done

def Reply.refused : Reply → Bool
  | .blocked _ | .limited _ => true
  | .passed | .done => false

namespace RateLimitEnforcementService

def create (config : RateLimitEnforcementConfig) (managerConfig : RateLimitManagerConfig) (redis : Redis) :
    RateLimitEnforcementService :=
  ⟨config,.create managerConfig,redis,.empty,[],.empty⟩

def defaultConfig : RateLimitEnforcementConfig := ⟨true,defaultKeyGenerator,fun _ => false⟩

variable (service : RateLimitEnforcementService) (zone : LocalTime) (now : ℤ)

def expiryTime (durationMs : ℚ) : ℤ := JsNumber.truncate (now + durationMs)

def blockIP (ipAddress : String) (durationMs : ℚ) : RateLimitEnforcementService :=
  { service with
    blockedIPs := if ipAddress ∈ service.blockedIPs then service.blockedIPs else service.blockedIPs ++ [ipAddress]
    blockedExpiry := service.blockedExpiry.set ipAddress (expiryTime now durationMs) }

def unblockIP (ipAddress : String) : RateLimitEnforcementService :=
  { service with
    blockedIPs := service.blockedIPs.filter (fun ip => decide (ip ≠ ipAddress))
    blockedExpiry := service.blockedExpiry.delete ipAddress }

def isIPBlocked (ipAddress : String) : Bool × RateLimitEnforcementService :=
  if ipAddress ∈ service.blockedIPs then
    match service.blockedExpiry.get ipAddress with
    | some expiry => if expiry < now then (false,service.unblockIP ipAddress) else (true,service)
    | none => (true,service)
  else (false,service)

def createRateLimitRequest (options : RateLimitMiddlewareOptions) (req : HttpRequest) : RateLimitRequest :=
  let userInfo := (options.userExtractor.map (fun extract => extract req)).getD (none,none)
  { identifier := service.config.keyGenerator req
    endpoint := (AdaptiveRateLimiter.truthy options.endpoint).getD req.path
    method := req.method
    ipAddress := extractClientIP req
    userId := userInfo.1
    sessionId := userInfo.2
    threatScore := options.threatScoreExtractor.map (fun extract => extract req)
    timestamp := now }

def escalation (violations : ℕ) : Option ℚ :=
  if 10 ≤ violations then some 300000 else if 5 ≤ violations then some 60000 else none

def violationsOf (req : HttpRequest) : ℕ :=
  (service.violationCount.get (service.config.keyGenerator req)).getD 0 + 1

def handleRateLimitViolation (req : HttpRequest) : RateLimitEnforcementService :=
  let violations := service.violationsOf req
  let counted := { service with
    violationCount := service.violationCount.set (service.config.keyGenerator req) violations }
  match escalation violations with
  | some durationMs => counted.blockIP now (extractClientIP req) durationMs
  | none => counted

def checkLimit (options : RateLimitMiddlewareOptions) (req : HttpRequest) : RateLimitEnforcementService × Reply :=
  let checked := service.rateLimitManager.checkRateLimit service.redis zone now
    (service.createRateLimitRequest now options req)
  let after := { service with rateLimitManager := checked.2.1, redis := checked.2.2 }
  if checked.1.allowed then (after,.passed) else (after.handleRateLimitViolation now req,.limited checked.1)

-- The entry point for API handlers does not ask for blocks.
def enforceRateLimit (options : RateLimitMiddlewareOptions) (req : HttpRequest) : RateLimitEnforcementService × Reply :=
  service.checkLimit zone now options req

def exempt (options : RateLimitMiddlewareOptions) (req : HttpRequest) : Bool :=
  !service.config.enabled || service.config.skip req || options.skipCondition.any (fun skip => skip req)

def middleware (options : RateLimitMiddlewareOptions) (req : HttpRequest) : RateLimitEnforcementService × Reply :=
  if service.exempt options req then (service,.passed)
  else
    let asked := service.isIPBlocked now (extractClientIP req)
    if asked.1 then (asked.2,.blocked (asked.2.blockedExpiry.get (extractClientIP req)))
    else asked.2.checkLimit zone now options req

def cleanupExpiredBlocks : RateLimitEnforcementService :=
  let expiredIPs := (service.blockedExpiry.filter (fun _ expiry => decide (expiry < now))).keys
  { service with
    blockedIPs := service.blockedIPs.filter (fun ip => decide (ip ∉ expiredIPs))
    blockedExpiry := service.blockedExpiry.filter (fun ip _ => decide (ip ∉ expiredIPs)) }

end RateLimitEnforcementService

inductive Event where
  | blockIP (now : ℤ) (ipAddress : String) (durationMs : ℚ)
  | unblockIP (ipAddress : String)
  | enforceRateLimit (now : ℤ) (options : RateLimitMiddlewareOptions) (req : HttpRequest)
  | middleware (now : ℤ) (options : RateLimitMiddlewareOptions) (req : HttpRequest)
  | cleanupExpiredBlocks (now : ℤ)

def Event.time : Event → Option ℤ
  | .blockIP now _ _ | .enforceRateLimit now _ _ | .middleware now _ _ | .cleanupExpiredBlocks now => some now
  | .unblockIP _ => none

def Event.caller : Event → Option (String × ℤ)
  | .enforceRateLimit now _ req | .middleware now _ req => some (extractClientIP req,now)
  | .blockIP _ _ _ | .unblockIP _ | .cleanupExpiredBlocks _ => none

def step (zone : LocalTime) (service : RateLimitEnforcementService) : Event → RateLimitEnforcementService × Reply
  | .blockIP now ipAddress durationMs => (service.blockIP now ipAddress durationMs,.done)
  | .unblockIP ipAddress => (service.unblockIP ipAddress,.done)
  | .enforceRateLimit now options req => service.enforceRateLimit zone now options req
  | .middleware now options req => service.middleware zone now options req
  | .cleanupExpiredBlocks now => (service.cleanupExpiredBlocks now,.done)

end PhantomFlow.RateLimit.Enforcement
