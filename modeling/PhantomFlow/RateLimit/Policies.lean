import Mathlib.Data.List.Sort
import PhantomFlow.RateLimit.Limiter

namespace PhantomFlow.RateLimit
open Library

inductive GeographicZone where
  | safe | moderate | high_risk | blocked
  deriving DecidableEq

structure PolicyConditions where
  endpoints : Option (List String) := none
  methods : Option (List String) := none
  threatLevels : Option (List ThreatLevel) := none
  userProfiles : Option (List UserProfile) := none
  geographicZones : Option (List GeographicZone) := none
  timePatterns : Option (List TimePattern) := none

structure PolicyLimits where
  base : RateLimitConfig
  threatAdjustments : List ThreatBasedAdjustment
  userAdjustments : UserProfile → Option ℚ

structure PolicyActions where
  escalationThreshold : ℚ
  cooldownPeriod : ℚ

structure RateLimitPolicy where
  policyId : String
  name : String
  enabled : Bool
  priority : ℚ
  conditions : PolicyConditions
  limits : PolicyLimits
  actions : PolicyActions

-- `Partial<RateLimitPolicy>`: the identity of the policy may be among the updates.
structure PolicyUpdates where
  policyId : Option String := none
  name : Option String := none
  enabled : Option Bool := none
  priority : Option ℚ := none
  conditions : Option PolicyConditions := none
  limits : Option PolicyLimits := none
  actions : Option PolicyActions := none

def RateLimitPolicy.update (policy : RateLimitPolicy) (updates : PolicyUpdates) : RateLimitPolicy where
  policyId := updates.policyId.getD policy.policyId
  name := updates.name.getD policy.name
  enabled := updates.enabled.getD policy.enabled
  priority := updates.priority.getD policy.priority
  conditions := updates.conditions.getD policy.conditions
  limits := updates.limits.getD policy.limits
  actions := updates.actions.getD policy.actions

structure RequestConditions where
  endpoint : Option String
  method : Option String
  threatLevel : Option ThreatLevel
  userProfile : Option UserProfile
  geographicZone : Option GeographicZone
  timePattern : Option TimePattern

-- A condition binds when both the request and the policy state it.
def listed [DecidableEq α] (value : Option α) (choices : Option (List α)) : Bool :=
  match value,choices with
  | some value,some choices => decide (value ∈ choices)
  | _,_ => true

def endpointMatches (endpoint pattern : String) : Bool :=
  if pattern.toList.getLast? = some '*' then pattern.toList.dropLast.isPrefixOf endpoint.toList
  else endpoint == pattern

def endpointListed (endpoint : Option String) (patterns : Option (List String)) : Bool :=
  match endpoint,patterns with
  | some endpoint,some patterns => patterns.any (endpointMatches endpoint)
  | _,_ => true

def RateLimitPolicy.applies (policy : RateLimitPolicy) (conditions : RequestConditions) : Bool :=
  policy.enabled &&
  endpointListed (AdaptiveRateLimiter.truthy conditions.endpoint) policy.conditions.endpoints &&
  listed (AdaptiveRateLimiter.truthy conditions.method) policy.conditions.methods &&
  listed conditions.threatLevel policy.conditions.threatLevels &&
  listed conditions.userProfile policy.conditions.userProfiles &&
  listed conditions.geographicZone policy.conditions.geographicZones &&
  listed conditions.timePattern policy.conditions.timePatterns

-- The white space and line terminators that `trim` removes.
def isTrimmed (c : Char) : Bool :=
  let code := c.toNat
  decide (9 ≤ code ∧ code ≤ 13) || decide (0x2000 ≤ code ∧ code ≤ 0x200a) ||
    [0x20,0xa0,0x1680,0x2028,0x2029,0x202f,0x205f,0x3000,0xfeff].contains code

def isBlank (text : String) : Bool := text.toList.all isTrimmed

def validatePolicy (policy : RateLimitPolicy) : List String :=
  (if isBlank policy.policyId then ["Policy ID is required"] else []) ++
  (if isBlank policy.name then ["Policy name is required"] else []) ++
  (if policy.priority < 0 ∨ 20 < policy.priority then ["Policy priority must be between 0 and 20"] else []) ++
  (if policy.limits.base.baseLimit ≤ 0 then ["Base limit must be greater than 0"] else []) ++
  (if policy.limits.base.timeWindowMs ≤ 0 then ["Time window must be greater than 0"] else []) ++
  (if policy.actions.escalationThreshold < 1 then ["Escalation threshold must be at least 1"] else []) ++
  (if policy.actions.cooldownPeriod < 0 then ["Cooldown period cannot be negative"] else [])

-- The index shares the policy objects with the map, so a toggled policy changes in
-- both. An index entry is therefore the map key of its object.
structure RateLimitPolicies where
  policies : OrderedMap String RateLimitPolicy
  priorityIndex : List String

namespace RateLimitPolicies
variable (store : RateLimitPolicies)

-- A stable sort, higher priority first.
def rebuildPriorityIndex : RateLimitPolicies :=
  { store with
    priorityIndex :=
      (store.policies.entries.insertionSort (fun a b => b.2.priority ≤ a.2.priority)).map Prod.fst }

def addPolicy (policy : RateLimitPolicy) : RateLimitPolicies :=
  { store with policies := store.policies.set policy.policyId policy }.rebuildPriorityIndex

def updatePolicy (policyId : String) (updates : PolicyUpdates) : Bool × RateLimitPolicies :=
  match store.policies.get policyId with
  | none => (false,store)
  | some policy =>
    (true,{ store with policies := store.policies.set policyId (policy.update updates) }.rebuildPriorityIndex)

def removePolicy (policyId : String) : Bool × RateLimitPolicies :=
  if store.policies.has policyId
  then (true,{ store with policies := store.policies.delete policyId }.rebuildPriorityIndex)
  else (false,store)

def togglePolicy (policyId : String) (enabled : Bool) : Bool × RateLimitPolicies :=
  match store.policies.get policyId with
  | none => (false,store)
  | some policy => (true,{ store with policies := store.policies.set policyId { policy with enabled } })

def getPolicy (policyId : String) : Option RateLimitPolicy := store.policies.get policyId
def getAllPolicies : List RateLimitPolicy := store.policies.values
def getPoliciesByPriority : List RateLimitPolicy := store.priorityIndex.filterMap store.policies.get

def findApplicablePolicies (conditions : RequestConditions) : List RateLimitPolicy :=
  store.getPoliciesByPriority.filter (·.applies conditions)

end RateLimitPolicies

def userFactors (new trusted suspicious vip blocked : ℚ) : UserProfile → Option ℚ
  | .new => some new
  | .trusted => some trusted
  | .suspicious => some suspicious
  | .vip => some vip
  | .blocked => some blocked

-- The factors of the shipped policies are as they are written. The doubles next to them
-- may come to a limit that is floored one lower: here, for a new user of trust 0.5 under
-- a low threat, to 629 and not to 1000 * 1.2 * 0.7 * 0.75 = 630.
def createGeneralAPIPolicy : RateLimitPolicy where
  policyId := "general-api"
  name := "General API Rate Limiting"
  enabled := true
  priority := 1
  conditions :=
    { endpoints := some ["/api/*"]
      methods := some ["GET","POST","PUT","DELETE"]
      threatLevels := some [.low,.medium]
      userProfiles := some [.new,.trusted]
      geographicZones := some [.safe,.moderate]
      timePatterns := some [.peak_hours,.off_hours] }
  limits :=
    { base := ⟨.adaptive_hybrid,1000,60000,1667/100⟩
      threatAdjustments := [⟨.low,12/10⟩,⟨.medium,8/10⟩,⟨.high,3/10⟩,⟨.critical,1/10⟩]
      userAdjustments := userFactors (7/10) (13/10) (3/10) 2 (5/100) }
  actions := ⟨5,15⟩

def createAuthenticationPolicy : RateLimitPolicy where
  policyId := "authentication"
  name := "Authentication Rate Limiting"
  enabled := true
  priority := 10
  conditions :=
    { endpoints := some ["/api/auth/login","/api/auth/register","/api/auth/reset-password"]
      methods := some ["POST"]
      threatLevels := some [.low,.medium,.high,.critical]
      userProfiles := some [.new,.trusted,.suspicious,.blocked]
      geographicZones := some [.safe,.moderate,.high_risk,.blocked] }
  limits :=
    { base := ⟨.sliding_window,5,300000,167/10000⟩
      threatAdjustments := [⟨.low,1⟩,⟨.medium,6/10⟩,⟨.high,2/10⟩,⟨.critical,0⟩]
      userAdjustments := userFactors (8/10) (12/10) (2/10) (15/10) 0 }
  actions := ⟨3,60⟩

def createHighRiskGeographicPolicy : RateLimitPolicy where
  policyId := "high-risk-geographic"
  name := "High-Risk Geographic Zones"
  enabled := true
  priority := 8
  conditions :=
    { geographicZones := some [.high_risk,.blocked]
      threatLevels := some [.medium,.high,.critical] }
  limits :=
    { base := ⟨.token_bucket,100,60000,167/100⟩
      threatAdjustments := [⟨.medium,5/10⟩,⟨.high,2/10⟩,⟨.critical,5/100⟩]
      userAdjustments := userFactors (5/10) (8/10) (1/10) 1 0 }
  actions := ⟨2,120⟩

def createEmergencyResponsePolicy : RateLimitPolicy where
  policyId := "emergency-response"
  name := "Emergency Response Mode"
  enabled := false
  priority := 15
  conditions :=
    { timePatterns := some [.emergency]
      threatLevels := some [.high,.critical] }
  limits :=
    { base := ⟨.sliding_window,50,60000,83/100⟩
      threatAdjustments := [⟨.high,3/10⟩,⟨.critical,1/10⟩]
      userAdjustments := userFactors (2/10) (5/10) (5/100) (8/10) 0 }
  actions := ⟨1,300⟩

def createVIPUserPolicy : RateLimitPolicy where
  policyId := "vip-users"
  name := "VIP User Premium Access"
  enabled := true
  priority := 5
  conditions :=
    { userProfiles := some [.vip]
      threatLevels := some [.low,.medium] }
  limits :=
    { base := ⟨.token_bucket,5000,60000,8333/100⟩
      threatAdjustments := [⟨.low,15/10⟩,⟨.medium,1⟩,⟨.high,6/10⟩,⟨.critical,3/10⟩]
      userAdjustments := userFactors (8/10) 1 (5/10) (15/10) (1/10) }
  actions := ⟨10,5⟩

def createSuspiciousActivityPolicy : RateLimitPolicy where
  policyId := "suspicious-activity"
  name := "Suspicious Activity Detection"
  enabled := true
  priority := 12
  conditions :=
    { userProfiles := some [.suspicious,.blocked]
      threatLevels := some [.medium,.high,.critical] }
  limits :=
    { base := ⟨.sliding_window,20,300000,67/1000⟩
      threatAdjustments := [⟨.medium,5/10⟩,⟨.high,2/10⟩,⟨.critical,5/100⟩]
      userAdjustments := userFactors (7/10) 1 (3/10) (8/10) (1/10) }
  actions := ⟨2,180⟩

def defaultPolicies : List RateLimitPolicy :=
  [createGeneralAPIPolicy,createAuthenticationPolicy,createHighRiskGeographicPolicy,
    createEmergencyResponsePolicy,createVIPUserPolicy,createSuspiciousActivityPolicy]

def RateLimitPolicies.create : RateLimitPolicies :=
  defaultPolicies.foldl RateLimitPolicies.addPolicy ⟨.empty,[]⟩

theorem defaultPolicies_valid : ∀ policy ∈ defaultPolicies, validatePolicy policy = [] := by
  decide +kernel

end PhantomFlow.RateLimit
