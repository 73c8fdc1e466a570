import PhantomFlow.Library.OrderedMap
import PhantomFlow.Markov.BehavioralStateManager

namespace PhantomFlow.Behavior
open Library

structure RequestPattern where
  path : String
  method : String
  frequency : ℕ
  timeOfDay : ℕ
  dayOfWeek : ℕ
  deriving DecidableEq

structure TimingPattern where
  averageTimeBetweenRequests : ℚ := 0
  burstRequests : ℕ := 0
  idlePeriods : ℕ := 0
  sessionDuration : ℤ := 0
  deriving DecidableEq

structure NavigationPattern where
  pageSequence : List String := []
  backButtonUsage : ℕ := 0
  directAccess : ℕ := 0
  referrerPatterns : List String := []
  deriving DecidableEq

structure InteractionPattern where
  mouseMovements : ℕ := 0
  keyboardPatterns : List String := []
  formInteractions : ℕ := 0
  scrollBehavior : ℕ := 0
  deriving DecidableEq

inductive RiskIndicatorType where
  | request_frequency | timing_anomaly | navigation_suspicious | interaction_robotic | session_anomaly
  deriving DecidableEq

structure RiskIndicator where
  type : RiskIndicatorType
  score : ℚ
  description : String
  deriving DecidableEq

structure BehaviorPattern where
  sessionId : String
  userId : Option String
  ipAddress : String
  userAgent : String
  requestPatterns : List RequestPattern
  timingPatterns : TimingPattern
  navigationPatterns : NavigationPattern
  interactionPatterns : InteractionPattern
  riskIndicators : List RiskIndicator
  timestamp : Stamp
  deriving DecidableEq

structure RequestData where
  sessionId : String
  userId : Option String
  ipAddress : String
  userAgent : String
  requestPath : String
  requestMethod : String
  referer : Option String
  body : Bool

-- One analysis: the time that all its clock readings give, with the hour and the day
-- of the week there, its two random draws, and whether Redis can be reached.
structure AnalysisCall where
  requestData : RequestData
  now : ℤ
  hours : ℕ
  day : ℕ
  mouseDraw : ℕ
  scrollDraw : ℕ
  connected : Bool

structure StoredPattern where
  pattern : BehaviorPattern
  expiresAt : ℤ

structure BehavioralAnalyzer where
  behaviorCache : OrderedMap String BehaviorPattern
  redis : OrderedMap String StoredPattern

def riskThresholds : RiskIndicatorType → ℚ
  | .request_frequency => 8/10
  | .timing_anomaly => 7/10
  | .navigation_suspicious => 6/10
  | .interaction_robotic => 9/10
  | .session_anomaly => 75/100

def createNewBehaviorPattern (sessionId : String) (now : ℤ) : BehaviorPattern where
  sessionId := sessionId
  userId := none
  ipAddress := ""
  userAgent := ""
  requestPatterns := []
  timingPatterns := {}
  navigationPatterns := {}
  interactionPatterns := {}
  riskIndicators := []
  timestamp := .date now

namespace BehaviorPattern
variable (pattern : BehaviorPattern)

def totalRequests : ℕ := (pattern.requestPatterns.map RequestPattern.frequency).sum

def updateRequestPatterns (call : AnalysisCall) : BehaviorPattern :=
  let same := fun (p : RequestPattern) =>
    decide (p.path = call.requestData.requestPath ∧ p.method = call.requestData.requestMethod)
  match pattern.requestPatterns.findIdx? same with
  | some i =>
    { pattern with
      requestPatterns := pattern.requestPatterns.modify i (fun p => { p with frequency := p.frequency + 1 }) }
  | none =>
    { pattern with
      requestPatterns := pattern.requestPatterns ++
        [⟨call.requestData.requestPath,call.requestData.requestMethod,1,call.hours,call.day⟩] }

-- The time of the pattern is read here, after `updateBehaviorPattern` has set it.
def updateTimingPatterns (call : AnalysisCall) : BehaviorPattern :=
  let timeDiff := call.now - pattern.timestamp.time
  let timing := pattern.timingPatterns
  { pattern with
    timingPatterns :=
      { sessionDuration := timeDiff
        burstRequests := if timeDiff < 1000 then timing.burstRequests + 1 else timing.burstRequests
        idlePeriods := if 300000 < timeDiff then timing.idlePeriods + 1 else timing.idlePeriods
        averageTimeBetweenRequests :=
          if 1 < pattern.totalRequests then (timeDiff : ℚ) / pattern.totalRequests
          else timing.averageTimeBetweenRequests } }

def updateNavigationPatterns (call : AnalysisCall) : BehaviorPattern :=
  let navigation := pattern.navigationPatterns
  let pages := navigation.pageSequence ++ [call.requestData.requestPath]
  { pattern with
    navigationPatterns :=
      { navigation with
        pageSequence := if 20 < pages.length then pages.drop (pages.length - 20) else pages
        directAccess := if Markov.isTruthy call.requestData.referer then navigation.directAccess
          else navigation.directAccess + 1
        referrerPatterns := if Markov.isTruthy call.requestData.referer
          then navigation.referrerPatterns ++ call.requestData.referer.toList else navigation.referrerPatterns } }

def updateInteractionPatterns (call : AnalysisCall) : BehaviorPattern :=
  let timeDiff := call.now - pattern.timestamp.time
  let interaction := pattern.interactionPatterns
  { pattern with
    interactionPatterns :=
      { interaction with
        mouseMovements := if timeDiff < 1000 then interaction.mouseMovements + call.mouseDraw else interaction.mouseMovements
        formInteractions := if call.requestData.requestMethod = "POST" ∧ call.requestData.body = true
          then interaction.formInteractions + 1 else interaction.formInteractions
        scrollBehavior := interaction.scrollBehavior + call.scrollDraw } }

def requestsPerMinute : ℚ := pattern.totalRequests / max ((pattern.timingPatterns.sessionDuration : ℚ) / 60000) 1

def averageMouseMovements : ℚ :=
  (pattern.interactionPatterns.mouseMovements : ℚ) / (max pattern.requestPatterns.length 1 : ℕ)

def calculateRiskIndicators : List RiskIndicator :=
  (if 60 < pattern.requestsPerMinute then
    [⟨.request_frequency,min (pattern.requestsPerMinute / 100) 1,
      "High request frequency: " ++ JsNumber.toFixedNumber 2 pattern.requestsPerMinute ++ " req/min"⟩] else []) ++
  (if 10 < pattern.timingPatterns.burstRequests then
    [⟨.timing_anomaly,min ((pattern.timingPatterns.burstRequests : ℚ) / 20) 1,
      "Burst request pattern detected: " ++ toString pattern.timingPatterns.burstRequests ++ " bursts"⟩] else []) ++
  (if 5 < pattern.navigationPatterns.directAccess then
    [⟨.navigation_suspicious,min ((pattern.navigationPatterns.directAccess : ℚ) / 10) 1,
      "Multiple direct accesses detected: " ++ toString pattern.navigationPatterns.directAccess⟩] else []) ++
  (if pattern.averageMouseMovements < 2 then
    [⟨.interaction_robotic,9/10,"Robotic interaction pattern detected"⟩] else []) ++
  (if 3600000 < pattern.timingPatterns.sessionDuration then
    [⟨.session_anomaly,7/10,"Unusually long session duration"⟩] else [])

def updateBehaviorPattern (call : AnalysisCall) : BehaviorPattern :=
  let informed :=
    { pattern with
      ipAddress := call.requestData.ipAddress
      userAgent := call.requestData.userAgent
      userId := call.requestData.userId
      timestamp := .date call.now }
  let updated := (((informed.updateRequestPatterns call).updateTimingPatterns call).updateNavigationPatterns
    call).updateInteractionPatterns call
  { updated with riskIndicators := updated.calculateRiskIndicators }

def isSuspiciousUserAgent (userAgent : String) : Bool :=
  ["bot","crawler","spider","scraper","curl","wget","python","java","perl","ruby","php"].any
    (fun suspicious => Markov.includes (Markov.lowered userAgent) suspicious)

def isSuspiciousIP (ipAddress : String) : Bool :=
  ["10.","192.168.","172.16.","172.17.","172.18.","172.19.","172.20.","172.21.","172.22.","172.23.","172.24.","172.25.",
    "172.26.","172.27.","172.28.","172.29.","172.30.","172.31."].any (fun range => Markov.startsWith ipAddress range)

def calculateBehavioralRisk : ℚ :=
  if pattern.riskIndicators = [] then 1/10
  else
    let totalScore := (pattern.riskIndicators.map (fun indicator => indicator.score * riskThresholds indicator.type)).sum
    let averageScore := totalScore / pattern.riskIndicators.length
    let recent := if pattern.requestPatterns.length < 5 then averageScore * (12/10) else averageScore
    let agent := if isSuspiciousUserAgent pattern.userAgent then recent * (13/10) else recent
    let finalScore := if isSuspiciousIP pattern.ipAddress then agent * (14/10) else agent
    min finalScore 1

def throughJson : BehaviorPattern := { pattern with timestamp := pattern.timestamp.throughJson }

end BehaviorPattern

namespace BehavioralAnalyzer
variable (analyzer : BehavioralAnalyzer)

def create : BehavioralAnalyzer := ⟨.empty,.empty⟩

-- Redis holds a copy for an hour; without a connection it has none.
def redisGet (call : AnalysisCall) : Option BehaviorPattern :=
  if call.connected then
    ((analyzer.redis.get call.requestData.sessionId).filter (fun stored => decide (call.now < stored.expiresAt))).map
      StoredPattern.pattern
  else none

def getBehaviorPattern (call : AnalysisCall) : BehaviorPattern :=
  match analyzer.behaviorCache.get call.requestData.sessionId with
  | some pattern => pattern
  | none => match analyzer.redisGet call with
    | some pattern => pattern
    | none => createNewBehaviorPattern call.requestData.sessionId call.now

def storeBehaviorPattern (call : AnalysisCall) (pattern : BehaviorPattern) : BehavioralAnalyzer :=
  if call.connected then
    { analyzer with
      redis := analyzer.redis.set call.requestData.sessionId ⟨pattern.throughJson,call.now + 3600000⟩ }
  else analyzer

def analyze (call : AnalysisCall) : BehavioralAnalyzer × ℚ :=
  let pattern := (analyzer.getBehaviorPattern call).updateBehaviorPattern call
  let stored := analyzer.storeBehaviorPattern call pattern
  ({ stored with behaviorCache := stored.behaviorCache.set call.requestData.sessionId pattern },
    pattern.calculateBehavioralRisk)

end BehavioralAnalyzer
end PhantomFlow.Behavior
