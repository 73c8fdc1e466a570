import PhantomFlow.Library.Machine
import PhantomFlow.RateLimit.Policies

namespace PhantomFlow.RateLimit
open Library Library.Machine

structure RateLimitManagerConfig where
  defaultPolicy : RateLimitPolicy
  policies : List RateLimitPolicy
  geographicRules : List GeographicRateRule
  temporalRules : List TemporalRateRule

-- One limiter per policy id, each with its own local cache; all of them share the
-- one store.
structure RateLimitManager where
  config : RateLimitManagerConfig
  policies : RateLimitPolicies
  limiters : OrderedMap String AdaptiveRateLimiter

def getGeographicZone (countryCode : String) : GeographicZone :=
  if countryCode = "LOCAL" then .safe
  else if countryCode ∈ ["CN","RU","KP"] then .high_risk
  else .moderate

def extractConditions (zone : LocalTime) (request : RateLimitRequest) : RequestConditions where
  endpoint := some request.endpoint
  method := some request.method
  threatLevel := request.threatScore.map threatLevelOf
  userProfile := some .new
  geographicZone := some (getGeographicZone (getCountryFromIP request.ipAddress))
  timePattern := some (getTimePattern zone request.timestamp)

namespace RateLimitManager

def create (config : RateLimitManagerConfig) : RateLimitManager where
  config
  policies := config.policies.foldl RateLimitPolicies.addPolicy .create
  limiters := .empty

variable (manager : RateLimitManager)

def activePolicy (zone : LocalTime) (request : RateLimitRequest) : RateLimitPolicy :=
  ((manager.policies.findApplicablePolicies (extractConditions zone request)).head?).getD
    manager.config.defaultPolicy

def newLimiter (policy : RateLimitPolicy) : AdaptiveRateLimiter :=
  .create policy.limits.base policy.limits.threatAdjustments policy.limits.userAdjustments
    manager.config.geographicRules manager.config.temporalRules

def getLimiter (policy : RateLimitPolicy) : AdaptiveRateLimiter :=
  (manager.limiters.get policy.policyId).getD (manager.newLimiter policy)

-- The limiter a request went through stays registered under its policy's id. The
-- analytics record is written under other keys and never read here.
def checkRateLimit (redis : Redis) (zone : LocalTime) (now : ℤ) (request : RateLimitRequest) :
    RateLimitResult × RateLimitManager × Redis :=
  let policy := manager.activePolicy zone request
  let checked := (manager.getLimiter policy).checkRateLimit redis zone now request
  (checked.1,{ manager with limiters := manager.limiters.set policy.policyId checked.2.1 },checked.2.2)

def clearLimiterCache : RateLimitManager := { manager with limiters := .empty }

def addPolicy (policy : RateLimitPolicy) : Bool × RateLimitManager :=
  if validatePolicy policy = []
  then (true,{ manager with policies := manager.policies.addPolicy policy }.clearLimiterCache)
  else (false,manager)

def afterEdit (edited : Bool × RateLimitPolicies) : Bool × RateLimitManager :=
  if edited.1 then (true,{ manager with policies := edited.2 }.clearLimiterCache) else (false,manager)

def updatePolicy (policyId : String) (updates : PolicyUpdates) : Bool × RateLimitManager :=
  manager.afterEdit (manager.policies.updatePolicy policyId updates)

def removePolicy (policyId : String) : Bool × RateLimitManager :=
  manager.afterEdit (manager.policies.removePolicy policyId)

def togglePolicy (policyId : String) (enabled : Bool) : Bool × RateLimitManager :=
  let toggled := manager.policies.togglePolicy policyId enabled
  (toggled.1,{ manager with policies := toggled.2 })

def activateEmergencyMode : RateLimitManager :=
  (manager.togglePolicy "emergency-response" true).2.clearLimiterCache

def deactivateEmergencyMode : RateLimitManager :=
  (manager.togglePolicy "emergency-response" false).2.clearLimiterCache

-- Limiters whose key is no longer the id of a stored policy are dropped.
def performCleanup : RateLimitManager :=
  { manager with
    limiters := manager.limiters.filter (fun key _ =>
      decide (key ∈ manager.policies.getAllPolicies.map RateLimitPolicy.policyId)) }

-- An edit that fails leaves the store as it was, so the manager's store is the
-- edited one either way.
theorem afterEdit_policies (edited : Bool × RateLimitPolicies)
    (unchanged : edited.1 = false → edited.2 = manager.policies) :
    (manager.afterEdit edited).2.policies = edited.2 := by
  unfold afterEdit
  cases success : edited.1 with
  | true => rfl
  | false => exact (unchanged success).symm

theorem updatePolicy_policies (policyId : String) (updates : PolicyUpdates) :
    (manager.updatePolicy policyId updates).2.policies = (manager.policies.updatePolicy policyId updates).2 := by
  apply afterEdit_policies
  unfold RateLimitPolicies.updatePolicy
  split <;> simp

theorem removePolicy_policies (policyId : String) :
    (manager.removePolicy policyId).2.policies = (manager.policies.removePolicy policyId).2 := by
  apply afterEdit_policies
  unfold RateLimitPolicies.removePolicy
  split <;> simp

theorem afterEdit_success (edited : Bool × RateLimitPolicies) : (manager.afterEdit edited).1 = edited.1 := by
  unfold afterEdit
  cases edited.1 <;> rfl

def cleanupExpiredEntries (key : String) (now : ℤ) : RateLimitManager :=
  match manager.limiters.get key with
  | some limiter => { manager with limiters := manager.limiters.set key (limiter.cleanupExpiredEntries now) }
  | none => manager

end RateLimitManager

inductive ManagerEvent where
  | checkRateLimit (now : ℤ) (request : RateLimitRequest)
  | addPolicy (policy : RateLimitPolicy)
  | updatePolicy (policyId : String) (updates : PolicyUpdates)
  | removePolicy (policyId : String)
  | togglePolicy (policyId : String) (enabled : Bool)
  | activateEmergencyMode
  | deactivateEmergencyMode
  | performCleanup
  | cleanupExpiredEntries (key : String) (now : ℤ)

inductive ManagerReply where
  | checked (result : RateLimitResult)
  | edited (success : Bool)
  | quiet
  deriving DecidableEq

-- `governed` records, for every identifier, the policy of its latest request in
-- this run. No operation reads it.
structure ManagerWorld where
  manager : RateLimitManager
  redis : Redis
  governed : String → Option String

namespace ManagerWorld

def start (manager : RateLimitManager) (redis : Redis) : ManagerWorld := ⟨manager,redis,fun _ => none⟩

def edit (w : ManagerWorld) (edited : Bool × RateLimitManager) : ManagerWorld × ManagerReply :=
  ({ w with manager := edited.2 },.edited edited.1)

def step (zone : LocalTime) (w : ManagerWorld) : ManagerEvent → ManagerWorld × ManagerReply
  | .checkRateLimit now request =>
    let checked := w.manager.checkRateLimit w.redis zone now request
    ({ manager := checked.2.1
       redis := checked.2.2
       governed := Function.update w.governed request.identifier
         (some (w.manager.activePolicy zone request).policyId) },.checked checked.1)
  | .addPolicy policy => w.edit (w.manager.addPolicy policy)
  | .updatePolicy policyId updates => w.edit (w.manager.updatePolicy policyId updates)
  | .removePolicy policyId => w.edit (w.manager.removePolicy policyId)
  | .togglePolicy policyId enabled => w.edit (w.manager.togglePolicy policyId enabled)
  | .activateEmergencyMode => ({ w with manager := w.manager.activateEmergencyMode },.quiet)
  | .deactivateEmergencyMode => ({ w with manager := w.manager.deactivateEmergencyMode },.quiet)
  | .performCleanup => ({ w with manager := w.manager.performCleanup },.quiet)
  | .cleanupExpiredEntries key now => ({ w with manager := w.manager.cleanupExpiredEntries key now },.quiet)

end ManagerWorld
end PhantomFlow.RateLimit
