import PhantomFlow.Markov.BehavioralStateManager

namespace PhantomFlow.Markov
open Library

structure AnomalyThresholds (K : Type) where
  sequenceAnomaly : K
  transitionAnomaly : K
  timingAnomaly : K

def defaultThresholds [Field K] : AnomalyThresholds K := ⟨lit (7/10),lit (8/10),lit (6/10)⟩

inductive AnomalyType where
  | rare_sequence | impossible_transition | timing_anomaly | context_mismatch | pattern_break
  deriving DecidableEq

def AnomalyType.words : AnomalyType → String
  | .rare_sequence => "rare sequence"
  | .impossible_transition => "impossible transition"
  | .timing_anomaly => "timing anomaly"
  | .context_mismatch => "context mismatch"
  | .pattern_break => "pattern break"

structure SequenceAnomalyResult (K : Type) where
  isAnomalous : Bool
  anomalyScore : K
  anomalyType : AnomalyType
  confidence : K
  description : String
  expectedSequence : Option (List String)
  actualSequence : List String
  riskFactors : List String
  recommendations : List String
  severity : RiskLevel

structure UserJourney (K : Type) where
  journeyId : String
  userId : Option String
  sessionId : String
  startState : String
  endState : String
  path : List String
  totalDuration : ℤ
  stepDurations : List K
  isCompleted : Bool
  isAnomalous : Bool
  riskScore : K
  insights : List String

structure KnownPattern where
  frequency : ℕ
  isAnomalous : Bool

structure SequenceAnalyzer (K : Type) where
  markovChain : MarkovChain K
  stateHistory : StateHistory K
  journeyHistory : OrderedMap String (UserJourney K)
  patternCache : OrderedMap String KnownPattern
  anomalyThresholds : AnomalyThresholds K

structure Analysis (K : Type) where
  behavioralState : SessionState K
  sequence : StateSequence K
  prediction : SequencePrediction K
  anomalyResult : SequenceAnomalyResult K
  journey : UserJourney K

def generatePatternId (pattern : String) : String :=
  "pattern_" ++ String.ofList (pattern.toList.map (fun c => if c.isAlphanum then c else '_'))

namespace StateSequence
variable {K : Type} (sequence : StateSequence K)

def path : List String := sequence.states.map (fun state => keyText state.key)

def plainStates : List (BehavioralState K) := sequence.states.map SessionState.toBehavioralState

def lastTwo : List (BehavioralState K) := sequence.plainStates.drop (sequence.plainStates.length - 2)

end StateSequence

section Scores
variable {K : Type} [Field K] [LinearOrder K]

def calculateSequenceAnomalyScore (patternCache : OrderedMap String KnownPattern) (sequence : StateSequence K) : K :=
  match patternCache.get (generatePatternId (String.intercalate "-" sequence.path)) with
  | none => lit (8/10)
  | some knownPattern =>
    if knownPattern.frequency < 5 then lit (6/10)
    else if knownPattern.isAnomalous then lit (9/10)
    else lit (2/10)

def severe (violation : Violation) : Bool := violation.severity = .high || violation.severity = .critical

def calculateTransitionAnomalyScore (violations : List Violation) : K :=
  min 1 ((violations.countP severe : K) * lit (3/10))

def calculateTimingAnomalyScore (sequence : StateSequence K) : K :=
  let states := sequence.states
  if states.length < 2 then 0
  else min 1 ((states.zip states.tail).foldl (fun anomalyScore pair =>
    let timeDiff := pair.2.timestamp - pair.1.timestamp
    if timeDiff < 100 ∨ 300000 < timeDiff then anomalyScore + lit (2/10) else anomalyScore) 0)

def hasContextMismatch (sequence : StateSequence K) : Bool :=
  sequence.states.any (fun state => state.context = .suspicious) &&
    sequence.states.any (fun state => state.context = .normal)

def identifyRiskFactors (sequence : StateSequence K) (violations : List Violation) : List String :=
  (if 0 < violations.length then ["Invalid state transitions detected"] else []) ++
  (if sequence.states.any (fun state => state.context = .suspicious) then ["Suspicious behavioral context"] else []) ++
  (if lit (7/10) < sequence.riskScore.getD 0 then ["High risk score assigned"] else [])

def generateAnomalyRecommendations : AnomalyType → List String
  | .impossible_transition => ["Investigate potential bot activity","Check for session hijacking"]
  | .timing_anomaly => ["Monitor for automated behavior","Consider rate limiting"]
  | .context_mismatch => ["Review authentication status","Check for privilege escalation"]
  | .rare_sequence | .pattern_break =>
    ["Monitor user behavior closely","Consider additional verification"]

def determineSeverity (score : K) (type : AnomalyType) : RiskLevel :=
  if lit (9/10) < score ∨ type = .impossible_transition then .critical
  else if lit (7/10) < score then .high
  else if lit (5/10) < score then .medium
  else .low

variable [FloorRing K]

def generateAnomalyDescription (type : AnomalyType) (score : K) : String :=
  type.words ++ " detected with anomaly score " ++ JsNumber.toFixedNumber 2 score

def getDefaultAnomalyResult (sequence : StateSequence K) (isAnomalous : Bool) (description : String) :
    SequenceAnomalyResult K where
  isAnomalous
  anomalyScore := lit (1/2)
  anomalyType := .rare_sequence
  confidence := lit (1/2)
  description
  expectedSequence := none
  actualSequence := sequence.path
  riskFactors := []
  recommendations := []
  severity := .low

-- `hasPatternBreak` is a placeholder that never holds.
def anomalyTypeOf (thresholds : AnomalyThresholds K) (transition timing : K) (sequence : StateSequence K) : AnomalyType :=
  if thresholds.transitionAnomaly < transition then .impossible_transition
  else if thresholds.timingAnomaly < timing then .timing_anomaly
  else if hasContextMismatch sequence then .context_mismatch
  else .rare_sequence

def overallAnomalyScore (sequence transition timing : K) : K :=
  sequence * lit (4/10) + transition * lit (4/10) + timing * lit (2/10)

def anomalyOf (thresholds : AnomalyThresholds K) (patternCache : OrderedMap String KnownPattern)
    (sequence : StateSequence K) (validation : SequenceValidationResult K) : SequenceAnomalyResult K :=
  let transition := calculateTransitionAnomalyScore validation.violations
  let timing := calculateTimingAnomalyScore sequence
  let overall := overallAnomalyScore (calculateSequenceAnomalyScore patternCache sequence) transition timing
  let anomalyType := anomalyTypeOf thresholds transition timing sequence
  { isAnomalous := decide (thresholds.sequenceAnomaly < overall)
    anomalyScore := overall
    anomalyType
    confidence := validation.confidence
    description := generateAnomalyDescription anomalyType overall
    expectedSequence := some ["page_view:normal","click:normal","page_view:normal"]
    actualSequence := sequence.path
    riskFactors := identifyRiskFactors sequence validation.violations
    recommendations := generateAnomalyRecommendations anomalyType
    severity := determineSeverity overall anomalyType }

end Scores

namespace SequenceAnalyzer
variable {K : Type} [Field K] [LinearOrder K] [FloorRing K] (math : JsMath K)

def create (config : MarkovChainConfig K) (anomalyThresholds : AnomalyThresholds K) (now : ℤ) : SequenceAnalyzer K :=
  ⟨.create config now,.empty,.empty,.empty,anomalyThresholds⟩

variable (analyzer : SequenceAnalyzer K)

-- The stored sequences are not cleared.
def clear (now : ℤ) : SequenceAnalyzer K :=
  { analyzer with markovChain := analyzer.markovChain.clear now, journeyHistory := .empty, patternCache := .empty }

def detectSequenceAnomaly (sequence : StateSequence K) : SequenceAnomalyResult K × MarkovChain K :=
  if sequence.states.length < 2 then
    (getDefaultAnomalyResult sequence false "Sequence too short for analysis",analyzer.markovChain)
  else
    let validated := analyzer.markovChain.validateSequence sequence.plainStates
    let predicted := validated.2.predictNext math sequence.lastTwo
    (anomalyOf analyzer.anomalyThresholds analyzer.patternCache sequence validated.1,predicted.2)

def createUserJourney (now : ℤ) (sequence : StateSequence K) : UserJourney K where
  journeyId := "journey_" ++ sequence.sessionId ++ "_" ++ toString now
  userId := sequence.userId
  sessionId := sequence.sessionId
  startState := sequence.path.head?.getD "unknown"
  endState := sequence.path.getLast?.getD "unknown"
  path := sequence.path
  totalDuration := sequence.totalDuration
  stepDurations := sequence.states.map (fun state => state.duration.getD 0)
  isCompleted := sequence.isComplete
  isAnomalous := false
  riskScore := sequence.riskScore.getD 0
  insights := []

-- The first analysis of a session creates its journey and drops the anomaly result.
def updateUserJourney (now : ℤ) (sequence : StateSequence K) (currentState : SessionState K)
    (anomalyResult : SequenceAnomalyResult K) : UserJourney K :=
  match analyzer.journeyHistory.get sequence.sessionId with
  | none => createUserJourney now sequence
  | some journey =>
    { journey with
      path := journey.path ++ [keyText currentState.key]
      stepDurations := journey.stepDurations ++ [currentState.duration.getD 0]
      isAnomalous := journey.isAnomalous || anomalyResult.isAnomalous
      riskScore := max journey.riskScore anomalyResult.anomalyScore
      insights := journey.insights ++
        if anomalyResult.isAnomalous then ["Anomaly detected: " ++ anomalyResult.description] else [] }

-- The whole stored sequence is learned with every request.
def learn (now : ℤ) (sequence : StateSequence K) : MarkovChain K :=
  if 1 < sequence.states.length then analyzer.markovChain.learnSequence math now sequence.plainStates
  else analyzer.markovChain

def processRequest (now : ℤ) (requestData : RequestData K) : SequenceAnalyzer K × Analysis K :=
  let behavioralState := createBehavioralState requestData now
  let added := addToSequence getDefaultCompressionConfig analyzer.stateHistory (behavioralState,now)
  let sequence := added.2
  let predicted := (analyzer.learn math now sequence).predictNext math sequence.lastTwo
  let learned := { analyzer with stateHistory := added.1, markovChain := predicted.2 }
  let detected := learned.detectSequenceAnomaly math sequence
  let journey := learned.updateUserJourney now sequence behavioralState detected.1
  ({ learned with
      markovChain := detected.2
      journeyHistory := analyzer.journeyHistory.set sequence.sessionId journey },
   ⟨behavioralState,sequence,predicted.1,detected.1,journey⟩)

end SequenceAnalyzer
end PhantomFlow.Markov
