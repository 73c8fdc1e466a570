import PhantomFlow.Markov.Novelty

namespace PhantomFlow.Markov
open Library Library.Machine

structure BehavioralPattern (K : Type) where
  patternId : String
  sequence : List String
  frequency : ℕ
  probability : K
  avgDuration : K
  contexts : List BehavioralContext
  riskLevel : RiskLevel
  description : String
  examples : List (StateSequence K)
  isAnomalous : Bool
  confidence : K

inductive InsightKind where
  | common_pattern | rare_behavior | anomalous_sequence | journey_abandonment | security_risk
  deriving DecidableEq

structure BehavioralInsight (K : Type) where
  insight : InsightKind
  description : String
  impact : RiskLevel
  confidence : K
  pattern : Option (BehavioralPattern K)
  users : Option ℕ
  frequency : Option K
  recommendations : List String
  timestamp : ℤ
  affectedUsers : ℕ
  businessImpact : String

structure AnalyzerStatistics (K : Type) where
  totalSequencesAnalyzed : ℕ
  uniquePatternsDiscovered : ℕ
  anomaliesDetected : ℕ
  averageSequenceLength : K
  predictionAccuracy : K
  memoryUsage : ℕ

structure PatternData (K : Type) where
  count : ℕ
  totalDuration : ℤ
  contexts : List BehavioralContext
  examples : List (StateSequence K)
  riskScores : List K

def splitAt (c : Char) (text : String) : List String := (text.toList.splitOn c).map String.ofList

section Patterns
variable {K : Type}

def getActiveSequences (history : StateHistory K) : List (StateSequence K) :=
  history.values.filter (fun sequence => !sequence.isComplete)

-- The stretches of two to five states, the short ones first.
def stretches (sequence : StateSequence K) : List (List (SessionState K)) :=
  [2,3,4,5].flatMap (fun length =>
    (List.range (sequence.states.length + 1 - length)).map (fun i => (sequence.states.drop i).take length))

def patternText (states : List (SessionState K)) : String :=
  String.intercalate "-" (states.map (fun state => keyText state.key))

def addContext (contexts : List BehavioralContext) (context : BehavioralContext) : List BehavioralContext :=
  if context ∈ contexts then contexts else contexts ++ [context]

def gather (sequence : StateSequence K) (patterns : OrderedMap String (PatternData K))
    (states : List (SessionState K)) : OrderedMap String (PatternData K) :=
  let pattern := patternText states
  let data := (patterns.get pattern).getD ⟨0,0,[],[],[]⟩
  patterns.set pattern
    { count := data.count + 1
      totalDuration := data.totalDuration + sequence.totalDuration
      contexts := (states.map (fun state => state.context)).foldl addContext data.contexts
      examples := if data.examples.length < 3 then data.examples ++ [sequence] else data.examples
      riskScores := data.riskScores ++ sequence.riskScore.toList }

def sequencePatterns (sequences : List (StateSequence K)) : OrderedMap String (PatternData K) :=
  sequences.foldl (fun patterns sequence => (stretches sequence).foldl (gather sequence) patterns) .empty

def generatePatternDescription (pattern : String) (frequency : ℕ) : String :=
  let actions := (splitAt '-' pattern).map (fun part => (splitAt ':' part).headD "")
  String.intercalate " → " actions ++ " (" ++ toString frequency ++ " occurrences)"

variable [Field K] [LinearOrder K]

def calculatePatternRiskLevel (avgRiskScore : K) : RiskLevel :=
  if lit (8/10) < avgRiskScore then .critical
  else if lit (6/10) < avgRiskScore then .high
  else if lit (4/10) < avgRiskScore then .medium
  else .low

def avgRiskScore (riskScores : List K) : K := if 0 < riskScores.length then riskScores.sum / riskScores.length else 0

def behavioralPattern (total : ℕ) (entry : String × PatternData K) : BehavioralPattern K where
  patternId := generatePatternId entry.1
  sequence := splitAt '-' entry.1
  frequency := entry.2.count
  probability := entry.2.count / total
  avgDuration := (entry.2.totalDuration : K) / entry.2.count
  contexts := entry.2.contexts
  riskLevel := calculatePatternRiskLevel (avgRiskScore entry.2.riskScores)
  description := generatePatternDescription entry.1 entry.2.count
  examples := entry.2.examples
  isAnomalous := decide (lit (7/10) < avgRiskScore entry.2.riskScores)
  confidence := min (lit (95/100)) (entry.2.count / lit 50)

end Patterns

namespace SequenceAnalyzer
variable {K : Type} [Field K] [LinearOrder K] (analyzer : SequenceAnalyzer K)

def discoverPatterns (minFrequency : JsNumber ℚ) : SequenceAnalyzer K × List (BehavioralPattern K) :=
  let allSequences := getActiveSequences analyzer.stateHistory
  let frequent := (sequencePatterns allSequences).entries.filter (fun entry =>
    minFrequency.le (.finite entry.2.count))
  let patterns := sortByScore BehavioralPattern.frequency (frequent.map (behavioralPattern allSequences.length))
  ({ analyzer with
      patternCache := patterns.foldl (fun cache pattern =>
        cache.set pattern.patternId ⟨pattern.frequency,pattern.isAnomalous⟩) analyzer.patternCache },patterns)

def commonInsight (now : ℤ) (pattern : BehavioralPattern K) : BehavioralInsight K where
  insight := .common_pattern
  description := "Common behavioral pattern: " ++ pattern.description
  impact := .low
  confidence := pattern.confidence
  pattern := some pattern
  users := none
  frequency := none
  recommendations :=
    ["Monitor for deviations from this common pattern",
     "Use as baseline for anomaly detection",
     "Consider optimizing user flow for this pattern"]
  timestamp := now
  affectedUsers := pattern.examples.length
  businessImpact := "Represents normal user behavior baseline"

def anomalousInsight (now : ℤ) (pattern : BehavioralPattern K) : BehavioralInsight K where
  insight := .anomalous_sequence
  description := "Detected suspicious behavioral pattern: " ++ pattern.description
  impact := if pattern.riskLevel = .critical then .critical else .high
  confidence := pattern.confidence
  pattern := some pattern
  users := none
  frequency := none
  recommendations :=
    ["Investigate users exhibiting this pattern","Consider additional security measures","Monitor for escalation"]
  timestamp := now
  affectedUsers := pattern.examples.length
  businessImpact := "Potential security threat requiring attention"

def rareInsight (now : ℤ) (rarePatterns : List (BehavioralPattern K)) : BehavioralInsight K where
  insight := .rare_behavior
  description := "Detected " ++ toString rarePatterns.length ++ " rare behavioral patterns"
  impact := .medium
  confidence := lit (7/10)
  pattern := rarePatterns.head?
  users := none
  frequency := some rarePatterns.length
  recommendations :=
    ["Monitor rare behaviors for security implications",
     "Investigate if rare patterns indicate new attack vectors",
     "Consider updating behavioral baselines"]
  timestamp := now
  affectedUsers := (rarePatterns.map (fun pattern => pattern.examples.length)).sum
  businessImpact := "Early detection of potential security threats"

def anomaliesDetected : ℕ := analyzer.journeyHistory.values.countP (fun journey => journey.isAnomalous)

def getStatistics : AnalyzerStatistics K :=
  let sequences := analyzer.stateHistory.values
  let totalStates := (sequences.map (fun sequence => sequence.states.length)).sum
  { totalSequencesAnalyzed := sequences.length
    uniquePatternsDiscovered := analyzer.patternCache.size
    anomaliesDetected := analyzer.anomaliesDetected
    averageSequenceLength := if 0 < sequences.length then (totalStates : K) / sequences.length else 0
    predictionAccuracy := lit (85/100)
    memoryUsage :=
      (sequences.map (fun sequence => sequence.states.length * 500 + 200)).sum +
        analyzer.markovChain.calculateMemoryUsage }

-- A journey that is not known is created; a known one is brought up to date.
def analyzeUserJourney (now : ℤ) (sessionId : String) : SequenceAnalyzer K × Option (UserJourney K) :=
  match analyzer.stateHistory.get sessionId with
  | none => (analyzer,none)
  | some sequence =>
    if sequence.states.length < 2 then (analyzer,none)
    else
      let journey :=
        match analyzer.journeyHistory.get sessionId with
        | none => createUserJourney now sequence
        | some journey =>
          { journey with
            totalDuration := sequence.totalDuration
            isCompleted := sequence.isComplete
            riskScore := max journey.riskScore (sequence.riskScore.getD 0) }
      ({ analyzer with journeyHistory := analyzer.journeyHistory.set sessionId journey },some journey)

variable [FloorRing K]

def abandonmentInsight (now : ℤ) (abandoned totalSequences : ℕ) : BehavioralInsight K where
  insight := .journey_abandonment
  description := "High journey abandonment rate: " ++
    JsNumber.toFixedNumber 1 ((abandoned : K) / totalSequences * lit 100) ++ "%"
  impact := .medium
  confidence := lit (8/10)
  pattern := none
  users := some abandoned
  frequency := some ((abandoned : K) / totalSequences)
  recommendations :=
    ["Analyze common abandonment points",
     "Improve user experience at critical steps",
     "Consider A/B testing for journey optimization"]
  timestamp := now
  affectedUsers := abandoned
  businessImpact := "User experience optimization opportunity"

def generateInsights (now : ℤ) : SequenceAnalyzer K × List (BehavioralInsight K) :=
  let discovered := analyzer.discoverPatterns (.finite 3)
  let patterns := discovered.2
  let commonPatterns := (patterns.filter (fun pattern => decide (10 < pattern.frequency) && !pattern.isAnomalous)).take 3
  let anomalousPatterns := (patterns.filter (fun pattern =>
    pattern.isAnomalous && decide (pattern.riskLevel ≠ .low))).take 2
  let abandoned := ((getActiveSequences analyzer.stateHistory).filter (fun sequence =>
    !sequence.isComplete && decide (3 < sequence.states.length))).length
  let totalSequences := analyzer.stateHistory.size
  let rarePatterns := patterns.filter (fun pattern =>
    decide (pattern.frequency < 5) && decide (pattern.probability < lit (1/100)))
  (discovered.1,
    commonPatterns.map (commonInsight now) ++ anomalousPatterns.map (anomalousInsight now) ++
    (if (totalSequences : K) * lit (3/10) < abandoned then [abandonmentInsight now abandoned totalSequences] else []) ++
    (if 0 < rarePatterns.length then [rareInsight now rarePatterns] else []))

end SequenceAnalyzer

inductive AnalyzerCall (K : Type) where
  | processRequest (now : ℤ) (requestData : RequestData K)
  | analyzeUserJourney (now : ℤ) (sessionId : String)
  | detectSequenceAnomaly (sequence : StateSequence K)
  | discoverPatterns (minFrequency : JsNumber ℚ)
  | generateInsights (now : ℤ)
  | getStatistics
  | clear (now : ℤ)

inductive AnalyzerAnswer (K : Type) where
  | analysis (result : Analysis K)
  | journey (result : Option (UserJourney K))
  | anomaly (result : SequenceAnomalyResult K)
  | patterns (result : List (BehavioralPattern K))
  | insights (result : List (BehavioralInsight K))
  | statistics (result : AnalyzerStatistics K)
  | done

def AnalyzerCall.isRequest : AnalyzerCall K → Bool
  | .processRequest _ _ => true
  | _ => false

section Calls
variable {K : Type} [Field K] [LinearOrder K] [FloorRing K] (math : JsMath K)

def callStep (analyzer : SequenceAnalyzer K) : AnalyzerCall K → SequenceAnalyzer K × AnalyzerAnswer K
  | .processRequest now requestData =>
    let processed := analyzer.processRequest math now requestData
    (processed.1,.analysis processed.2)
  | .analyzeUserJourney now sessionId =>
    let analyzed := analyzer.analyzeUserJourney now sessionId
    (analyzed.1,.journey analyzed.2)
  | .detectSequenceAnomaly sequence =>
    let detected := analyzer.detectSequenceAnomaly math sequence
    ({ analyzer with markovChain := detected.2 },.anomaly detected.1)
  | .discoverPatterns minFrequency =>
    let discovered := analyzer.discoverPatterns minFrequency
    (discovered.1,.patterns discovered.2)
  | .generateInsights now =>
    let generated := analyzer.generateInsights now
    (generated.1,.insights generated.2)
  | .getStatistics => (analyzer,.statistics analyzer.getStatistics)
  | .clear now => (analyzer.clear now,.done)

theorem callStep_settings (analyzer : SequenceAnalyzer K) (call : AnalyzerCall K) :
    (callStep math analyzer call).1.markovChain.config = analyzer.markovChain.config ∧
      (callStep math analyzer call).1.anomalyThresholds = analyzer.anomalyThresholds := by
  cases call with
  | processRequest now requestData =>
      refine ⟨?_,rfl⟩
      obtain ⟨queried,encoded⟩ := processRequest_chain math analyzer (now,requestData)
      exact (congrArg MarkovChain.config encoded).trans
        (((MarkovChain.encodeStates_transitions _ queried).1).trans (learn_config math analyzer _ _))
  | detectSequenceAnomaly sequence =>
      refine ⟨?_,rfl⟩
      simp only [callStep,SequenceAnalyzer.detectSequenceAnomaly]
      split
      · rfl
      · dsimp only
        rw [predictNext_state,(MarkovChain.encodeStates_transitions _ _).1,validateSequence_state,
          (MarkovChain.encodeStates_transitions _ _).1]
  | analyzeUserJourney now sessionId =>
      simp only [callStep,SequenceAnalyzer.analyzeUserJourney]
      split
      · exact ⟨rfl,rfl⟩
      · split <;> exact ⟨rfl,rfl⟩
  | _ => exact ⟨rfl,rfl⟩

-- The stored sequences come from requests alone, and no call removes one.
theorem callStep_stored (analyzer : SequenceAnalyzer K) (call : AnalyzerCall K) :
    (callStep math analyzer call).1.stateHistory.values = [] ↔
      analyzer.stateHistory.values = [] ∧ call.isRequest = false := by
  cases call with
  | processRequest now requestData =>
      refine iff_of_false ?_ (by simp [AnalyzerCall.isRequest])
      intro nothing
      have present := OrderedMap.mem_values_set_self analyzer.stateHistory (createBehavioralState requestData now).session
        (addToSequence getDefaultCompressionConfig analyzer.stateHistory (createBehavioralState requestData now,now)).2
      exact List.ne_nil_of_mem present nothing
  | analyzeUserJourney now sessionId =>
      have untouched : (callStep math analyzer (.analyzeUserJourney now sessionId)).1.stateHistory =
          analyzer.stateHistory := by
        simp only [callStep,SequenceAnalyzer.analyzeUserJourney]
        split
        · rfl
        · split <;> rfl
      rw [untouched]
      exact ⟨fun nothing => ⟨nothing,rfl⟩,And.left⟩
  | _ => exact ⟨fun nothing => ⟨nothing,rfl⟩,And.left⟩

theorem exec_stored (analyzer : SequenceAnalyzer K) (history : List (AnalyzerCall K)) :
    (exec (callStep math) analyzer history).1.stateHistory.values = [] ↔
      analyzer.stateHistory.values = [] ∧ ∀ call ∈ history, call.isRequest = false := by
  induction history generalizing analyzer with
  | nil => simp
  | cons call rest ih => rw [exec_cons,ih,callStep_stored,List.forall_mem_cons,and_assoc]

-- A cleared analyzer is one made at that moment exactly when no request has come
-- before.
theorem clear_alike_iff (config : MarkovChainConfig K) (thresholds : AnomalyThresholds K) (now now' : ℤ)
    (history : List (AnalyzerCall K)) :
    Alike (callStep math) ((exec (callStep math) (.create config thresholds now) history).1.clear now')
        (.create config thresholds now') ↔ ∀ call ∈ history, call.isRequest = false := by
  have preserved : ∀ (s : SequenceAnalyzer K) call,
      s.markovChain.config = config ∧ s.anomalyThresholds = thresholds →
        (callStep math s call).1.markovChain.config = config ∧ (callStep math s call).1.anomalyThresholds = thresholds :=
    fun s call same => ⟨(callStep_settings math s call).1.trans same.1,(callStep_settings math s call).2.trans same.2⟩
  have settings := exec_invariant preserved (s := .create config thresholds now) ⟨rfl,rfl⟩ history
  have stored := exec_stored math (.create config thresholds now) history
  have fresh : (SequenceAnalyzer.create config thresholds now).stateHistory.values = [] := rfl
  rw [fresh] at stored
  simp only [true_and] at stored
  rw [← stored]
  constructor
  · intro alike
    have counted := alike [.getStatistics]
    injection counted with answer _
    injection answer with same
    exact List.length_eq_zero_iff.mp (congrArg AnalyzerStatistics.totalSequencesAnalyzed same)
  · intro nothing
    have empty : (exec (callStep math) (.create config thresholds now) history).1.stateHistory = .empty :=
      OrderedMap.ext (List.map_eq_nil_iff.mp nothing)
    have same : (exec (callStep math) (.create config thresholds now) history).1.clear now' =
        .create config thresholds now' := by
      rw [SequenceAnalyzer.clear,MarkovChain.clear,settings.1,settings.2,empty]
      rfl
    intro inputs
    rw [same]

end Calls
end PhantomFlow.Markov
