import PhantomFlow.Analysis.RelationshipRisk
import PhantomFlow.Library.Factors
import PhantomFlow.Markov.BehavioralStateManager

namespace PhantomFlow.Risk
open Library

inductive RiskLevel where
  | low
  | medium
  | high
  | critical
  deriving DecidableEq

def RiskLevel.rank : RiskLevel → ℕ
  | .low => 0
  | .medium => 1
  | .high => 2
  | .critical => 3

inductive UserType where
  | new
  | returning
  | frequent
  | suspicious
  deriving DecidableEq

inductive InteractionLevel where
  | high
  | medium
  | low
  | botLike
  deriving DecidableEq

structure TemporalContext where
  timeOfDay : ℕ
  dayOfWeek : ℕ
  isBusinessHours : Bool
  isWeekend : Bool
  requestFrequency : ℚ
  deriving DecidableEq

structure GeographicContext where
  country : String
  region : String
  city : String
  isVpn : Bool
  isProxy : Bool
  isTor : Bool
  riskScore : ℚ
  deriving DecidableEq

structure BehavioralContext where
  userType : UserType
  sessionAge : ℤ
  interactionLevel : InteractionLevel
  deviceConsistency : Bool
  deriving DecidableEq

structure SessionContext where
  sessionId : String
  userId : Option String
  isAuthenticated : Bool
  sessionDuration : ℤ
  requestCount : ℕ
  deriving DecidableEq

structure NetworkContext where
  ipReputation : ℚ
  isKnownThreat : Bool
  deriving DecidableEq

structure RiskContext where
  temporal : TemporalContext
  geographic : GeographicContext
  behavioral : BehavioralContext
  session : SessionContext
  network : NetworkContext
  deriving DecidableEq

structure ContextMultipliers where
  offHours : ℚ
  weekend : ℚ
  highFrequency : ℚ
  nightTime : ℚ
  highRiskCountry : ℚ
  vpnUsage : ℚ
  proxyUsage : ℚ
  torUsage : ℚ
  newUser : ℚ
  suspiciousUser : ℚ
  botLikeBehavior : ℚ
  unauthenticated : ℚ
  shortSession : ℚ
  knownThreat : ℚ
  poorReputation : ℚ

structure RiskScoringConfig where
  behavioral : ℚ
  statistical : ℚ
  relationship : ℚ
  contextMultipliers : ContextMultipliers
  medium : ℚ
  high : ℚ
  critical : ℚ
  contextSensitivity : ℚ

def getDefaultRiskScoringConfig : RiskScoringConfig where
  behavioral := 4/10
  statistical := 3/10
  relationship := 3/10
  contextMultipliers := {
    offHours := 12/10
    weekend := 11/10
    highFrequency := 15/10
    nightTime := 13/10
    highRiskCountry := 14/10
    vpnUsage := 13/10
    proxyUsage := 12/10
    torUsage := 18/10
    newUser := 11/10
    suspiciousUser := 16/10
    botLikeBehavior := 18/10
    unauthenticated := 12/10
    shortSession := 11/10
    knownThreat := 2
    poorReputation := 15/10 }
  medium := 5/10
  high := 7/10
  critical := 85/100
  contextSensitivity := 7/10

structure BaseScores where
  behavioral : ℚ
  statistical : ℚ
  relationship : ℚ

-- The fields that the request data of a caller may have, as `undefined` or a value.
structure RequestData where
  sessionId : String
  userId : Option String := none
  ipAddress : String
  requestFrequency : Option ℚ := none
  sessionStartTime : Option ℤ := none
  sessionDuration : Option ℤ := none
  requestCount : Option ℕ := none

structure ContributingFactor where
  factor : String
  weight : ℚ
  impact : ℚ
  description : String
  deriving DecidableEq

structure ContextualRiskScore where
  baseScore : ℚ
  contextualScore : ℚ
  confidence : ℚ
  riskLevel : RiskLevel
  contributing_factors : List ContributingFactor
  recommendations : List String
  deriving DecidableEq

structure Moment where
  hours : ℕ
  day : ℕ
  now : ℤ

def extractTemporalContext (moment : Moment) (requestData : RequestData) : TemporalContext where
  timeOfDay := moment.hours
  dayOfWeek := moment.day
  isBusinessHours := decide (9 ≤ moment.hours ∧ moment.hours ≤ 17 ∧ 1 ≤ moment.day ∧ moment.day ≤ 5)
  isWeekend := decide (moment.day = 0 ∨ moment.day = 6)
  requestFrequency := requestData.requestFrequency.getD 0

def detectVpnUsage (_requestData : RequestData) : Bool := false
def detectProxyUsage (_requestData : RequestData) : Bool := false
def detectTorUsage (_requestData : RequestData) : Bool := false
def determineInteractionLevel (_requestData : RequestData) : InteractionLevel := .medium
def checkDeviceConsistency (_requestData : RequestData) : Bool := true
def getIpReputation (_ipAddress : String) : ℚ := 1/10

def calculateGeographicRisk (country : String) : ℚ :=
  if country ∈ ["CN","RU","KP","IR"] then 8/10 else 2/10

def orUnknown (text : String) : String := if text = "" then "unknown" else text

def extractGeographicContext (lookup : String → Option Analysis.GeoLocation) (requestData : RequestData) :
    GeographicContext :=
  match lookup requestData.ipAddress with
  | none => ⟨"unknown","unknown","unknown",false,false,false,5/10⟩
  | some geo => {
    country := geo.country
    region := orUnknown geo.region
    city := orUnknown geo.city
    isVpn := detectVpnUsage requestData
    isProxy := detectProxyUsage requestData
    isTor := detectTorUsage requestData
    riskScore := calculateGeographicRisk geo.country }

def determineUserType (requestData : RequestData) : UserType :=
  if Markov.isTruthy requestData.userId = false then .new
  else match requestData.requestCount with
    | none => .new
    | some requestCount => if requestCount > 100 then .frequent else if requestCount > 10 then .returning else .new

def extractBehavioralContext (moment : Moment) (requestData : RequestData) : BehavioralContext where
  userType := determineUserType requestData
  sessionAge := moment.now - (requestData.sessionStartTime.filter (fun time => time ≠ 0)).getD moment.now
  interactionLevel := determineInteractionLevel requestData
  deviceConsistency := checkDeviceConsistency requestData

def extractSessionContext (requestData : RequestData) : SessionContext where
  sessionId := requestData.sessionId
  userId := requestData.userId
  isAuthenticated := Markov.isTruthy requestData.userId
  sessionDuration := requestData.sessionDuration.getD 0
  requestCount := (requestData.requestCount.filter (fun count => count ≠ 0)).getD 1

def extractNetworkContext (requestData : RequestData) : NetworkContext where
  ipReputation := getIpReputation requestData.ipAddress
  isKnownThreat := decide (7/10 < getIpReputation requestData.ipAddress)

def extractRiskContext (lookup : String → Option Analysis.GeoLocation) (moment : Moment) (requestData : RequestData) :
    RiskContext where
  temporal := extractTemporalContext moment requestData
  geographic := extractGeographicContext lookup requestData
  behavioral := extractBehavioralContext moment requestData
  session := extractSessionContext requestData
  network := extractNetworkContext requestData

section Scoring
variable (config : RiskScoringConfig)

def calculateBaseScore (baseScores : BaseScores) : ℚ :=
  baseScores.behavioral * config.behavioral + baseScores.statistical * config.statistical +
    baseScores.relationship * config.relationship

-- The conditions under which the multiplier takes a factor in, in the source's order.
def contextFactors (multipliers : ContextMultipliers) (context : RiskContext) : List (Bool × ℚ) :=
  [(!context.temporal.isBusinessHours,multipliers.offHours),
    (context.temporal.isWeekend,multipliers.weekend),
    (decide (0 ≤ context.temporal.timeOfDay ∧ context.temporal.timeOfDay ≤ 6),multipliers.nightTime),
    (decide (60 < context.temporal.requestFrequency),multipliers.highFrequency),
    (context.geographic.isVpn,multipliers.vpnUsage),
    (context.geographic.isProxy,multipliers.proxyUsage),
    (context.geographic.isTor,multipliers.torUsage),
    (decide (7/10 < context.geographic.riskScore),multipliers.highRiskCountry),
    (decide (context.behavioral.userType = .new),multipliers.newUser),
    (decide (context.behavioral.userType = .suspicious),multipliers.suspiciousUser),
    (decide (context.behavioral.interactionLevel = .botLike),multipliers.botLikeBehavior),
    (!context.session.isAuthenticated,multipliers.unauthenticated),
    (decide (context.session.sessionDuration < 30000),multipliers.shortSession),
    (context.network.isKnownThreat,multipliers.knownThreat),
    (decide (5/10 < context.network.ipReputation),multipliers.poorReputation)]

def sensitizedMultiplier (context : RiskContext) : ℚ :=
  1 + (raised (contextFactors config.contextMultipliers context) - 1) * config.contextSensitivity

def applyContextualMultipliers (baseScore : ℚ) (context : RiskContext) : ℚ :=
  min (baseScore * sensitizedMultiplier config context) 1

def calculateConfidence (context : RiskContext) : ℚ :=
  let counted := if context.session.requestCount > 10 then (5/10 : ℚ) + 1/10 else 5/10
  let aged := if context.behavioral.sessionAge > 300000 then counted + 1/10 else counted
  let placed := if context.geographic.country ≠ "unknown" then aged + 1/10 else aged
  let known := if context.session.isAuthenticated then placed + 15/100 else placed
  let consistent := if context.behavioral.deviceConsistency then known else known - 1/10
  let confidence := if context.geographic.country = "unknown" then consistent - 1/10 else consistent
  max (1/10) (min confidence 1)

def determineRiskLevel (score : ℚ) : RiskLevel :=
  if score ≥ config.critical then .critical
  else if score ≥ config.high then .high
  else if score ≥ config.medium then .medium
  else .low

def identifyContributingFactors (context : RiskContext) (baseScores : BaseScores) : List ContributingFactor :=
  (if baseScores.behavioral > 7/10 then
    [⟨"behavioral_anomaly",config.behavioral,baseScores.behavioral,"Suspicious behavioral patterns detected"⟩] else []) ++
  (if context.geographic.isVpn || context.geographic.isProxy then
    [⟨"anonymization_tools",3/10,8/10,"VPN or proxy usage detected"⟩] else []) ++
  (if context.temporal.isBusinessHours then []
    else [⟨"off_hours_access",2/10,6/10,"Access outside business hours"⟩])

def generateRecommendations (context : RiskContext) (riskLevel : RiskLevel) : List String :=
  (match riskLevel with
    | .critical => ["Block request immediately","Trigger security alert","Log detailed forensic data"]
    | .high => ["Apply enhanced authentication","Increase monitoring","Rate limit aggressively"]
    | .medium => ["Monitor closely","Apply standard rate limiting"]
    | .low => ["Allow with normal monitoring"]) ++
  (if context.geographic.isVpn then ["Verify user identity due to VPN usage"] else []) ++
  (if !context.session.isAuthenticated && decide (riskLevel ≠ .low) then ["Encourage user authentication"] else [])

def calculateContextualRisk (lookup : String → Option Analysis.GeoLocation) (moment : Moment)
    (baseScores : BaseScores) (requestData : RequestData) : ContextualRiskScore :=
  let context := extractRiskContext lookup moment requestData
  let baseScore := calculateBaseScore config baseScores
  let contextualScore := applyContextualMultipliers config baseScore context
  let riskLevel := determineRiskLevel config contextualScore
  { baseScore := baseScore
    contextualScore := contextualScore
    confidence := calculateConfidence context
    riskLevel := riskLevel
    contributing_factors := identifyContributingFactors config context baseScores
    recommendations := generateRecommendations context riskLevel }

end Scoring

structure RiskScoringConfig.Amplifying (config : RiskScoringConfig) : Prop where
  weights : 0 ≤ config.behavioral ∧ 0 ≤ config.statistical ∧ 0 ≤ config.relationship
  factors : ∀ context, ∀ factor ∈ contextFactors config.contextMultipliers context, 1 ≤ factor.2
  sensitive : 0 ≤ config.contextSensitivity
  thresholds : config.medium ≤ config.high ∧ config.high ≤ config.critical

theorem default_amplifying : getDefaultRiskScoringConfig.Amplifying := by
  refine ⟨?_,?_,?_,?_⟩
  · norm_num [getDefaultRiskScoringConfig]
  · intro context factor listed
    simp only [contextFactors,List.mem_cons,List.not_mem_nil,or_false] at listed
    rcases listed with rfl | rfl | rfl | rfl | rfl | rfl | rfl | rfl | rfl | rfl | rfl | rfl | rfl | rfl | rfl <;>
      norm_num [getDefaultRiskScoringConfig]
  · norm_num [getDefaultRiskScoringConfig]
  · norm_num [getDefaultRiskScoringConfig]

structure Riskier (first second : RiskContext) : Prop where
  offHours : second.temporal.isBusinessHours = true → first.temporal.isBusinessHours = true
  weekend : first.temporal.isWeekend = true → second.temporal.isWeekend = true
  night : first.temporal.timeOfDay ≤ 6 → second.temporal.timeOfDay ≤ 6
  frequency : first.temporal.requestFrequency ≤ second.temporal.requestFrequency
  vpn : first.geographic.isVpn = true → second.geographic.isVpn = true
  proxy : first.geographic.isProxy = true → second.geographic.isProxy = true
  tor : first.geographic.isTor = true → second.geographic.isTor = true
  place : first.geographic.riskScore ≤ second.geographic.riskScore
  newUser : first.behavioral.userType = .new → second.behavioral.userType = .new
  suspicious : first.behavioral.userType = .suspicious → second.behavioral.userType = .suspicious
  botLike : first.behavioral.interactionLevel = .botLike → second.behavioral.interactionLevel = .botLike
  authenticated : second.session.isAuthenticated = true → first.session.isAuthenticated = true
  duration : second.session.sessionDuration ≤ first.session.sessionDuration
  threat : first.network.isKnownThreat = true → second.network.isKnownThreat = true
  reputation : first.network.ipReputation ≤ second.network.ipReputation

theorem Riskier.implied (riskier : Riskier first second) (multipliers : ContextMultipliers) :
    Implied (contextFactors multipliers first) (contextFactors multipliers second) := by
  have negated {one two : Bool} (back : two = true → one = true) : (!one) = true → (!two) = true := by
    cases one <;> cases two <;> simp_all
  unfold Implied contextFactors
  simp only [List.forall₂_cons,List.forall₂_nil_left_iff,and_true,true_and,decide_eq_true_eq,Nat.zero_le]
  exact ⟨negated riskier.offHours,riskier.weekend,riskier.night,fun above => above.trans_le riskier.frequency,riskier.vpn,
    riskier.proxy,riskier.tor,fun above => above.trans_le riskier.place,riskier.newUser,riskier.suspicious,
    riskier.botLike,negated riskier.authenticated,fun short => riskier.duration.trans_lt short,riskier.threat,
    fun above => above.trans_le riskier.reputation⟩

section Monotone
variable {config : RiskScoringConfig}

theorem one_le_sensitized (amplifying : config.Amplifying) (context : RiskContext) :
    1 ≤ sensitizedMultiplier config context := by
  have least := one_le_raised (amplifying.factors context)
  have more := mul_nonneg (sub_nonneg.mpr least) amplifying.sensitive
  unfold sensitizedMultiplier
  linarith

theorem sensitized_mono (amplifying : config.Amplifying) (riskier : Riskier first second) :
    sensitizedMultiplier config first ≤ sensitizedMultiplier config second := by
  have product := raised_mono (riskier.implied config.contextMultipliers) (amplifying.factors second)
  have scaled := mul_le_mul_of_nonneg_right (sub_le_sub_right product 1) amplifying.sensitive
  unfold sensitizedMultiplier
  linarith

theorem determineRiskLevel_mono (amplifying : config.Amplifying) (less : score ≤ score') :
    (determineRiskLevel config score).rank ≤ (determineRiskLevel config score').rank := by
  have ordered := amplifying.thresholds
  unfold determineRiskLevel
  split_ifs <;> first | (simp [RiskLevel.rank]; done) | (exfalso; linarith)

structure BaseScores.Below (first second : BaseScores) : Prop where
  nonneg : 0 ≤ first.behavioral ∧ 0 ≤ first.statistical ∧ 0 ≤ first.relationship
  behavioral : first.behavioral ≤ second.behavioral
  statistical : first.statistical ≤ second.statistical
  relationship : first.relationship ≤ second.relationship

theorem baseScore_mono (amplifying : config.Amplifying) (below : BaseScores.Below first second) :
    0 ≤ calculateBaseScore config first ∧ calculateBaseScore config first ≤ calculateBaseScore config second := by
  obtain ⟨behavioral,statistical,relationship⟩ := amplifying.weights
  unfold calculateBaseScore
  constructor
  · exact add_nonneg (add_nonneg (mul_nonneg below.nonneg.1 behavioral) (mul_nonneg below.nonneg.2.1 statistical))
      (mul_nonneg below.nonneg.2.2 relationship)
  · exact add_le_add (add_le_add (mul_le_mul_of_nonneg_right below.behavioral behavioral)
      (mul_le_mul_of_nonneg_right below.statistical statistical))
      (mul_le_mul_of_nonneg_right below.relationship relationship)

-- More risk in the scores or in the context never lowers the answer, and the context
-- never takes the score below what the analyzers say.
theorem contextual_risk_mono (amplifying : config.Amplifying) (lookup : String → Option Analysis.GeoLocation)
    (moment moment' : Moment) (requestData requestData' : RequestData) (baseScores baseScores' : BaseScores)
    (below : BaseScores.Below baseScores baseScores')
    (riskier : Riskier (extractRiskContext lookup moment requestData) (extractRiskContext lookup moment' requestData')) :
    let first := calculateContextualRisk config lookup moment baseScores requestData
    let second := calculateContextualRisk config lookup moment' baseScores' requestData'
    first.contextualScore ≤ second.contextualScore ∧ first.riskLevel.rank ≤ second.riskLevel.rank ∧
      min first.baseScore 1 ≤ first.contextualScore ∧ first.contextualScore ≤ 1 := by
  dsimp only
  obtain ⟨nonneg,base⟩ := baseScore_mono amplifying below
  have one := one_le_sensitized amplifying (extractRiskContext lookup moment requestData)
  have grows := sensitized_mono amplifying riskier
  have product := mul_le_mul base grows (zero_le_one.trans one) (nonneg.trans base)
  have score : (calculateContextualRisk config lookup moment baseScores requestData).contextualScore ≤
      (calculateContextualRisk config lookup moment' baseScores' requestData').contextualScore :=
    min_le_min product le_rfl
  refine ⟨score,determineRiskLevel_mono amplifying score,?_,min_le_right _ _⟩
  exact min_le_min (le_mul_of_one_le_right nonneg one) le_rfl

end Monotone

theorem contextual_risk_mono_noon_night :
    let first := calculateContextualRisk getDefaultRiskScoringConfig (fun _ => none) ⟨12,3,0⟩ ⟨2/10,2/10,0⟩
      { sessionId := "s", ipAddress := "203.0.113.7" }
    let second := calculateContextualRisk getDefaultRiskScoringConfig (fun _ => none) ⟨2,0,0⟩ ⟨2/10,2/10,0⟩
      { sessionId := "s", ipAddress := "203.0.113.7" }
    first.contextualScore ≤ second.contextualScore ∧ first.riskLevel.rank ≤ second.riskLevel.rank ∧
      min first.baseScore 1 ≤ first.contextualScore ∧ first.contextualScore ≤ 1 := by
  refine contextual_risk_mono default_amplifying (fun _ => none) ⟨12,3,0⟩ ⟨2,0,0⟩ _ _ _ _ ?_ ?_
  · constructor <;> norm_num
  · constructor <;> decide +kernel

end PhantomFlow.Risk
