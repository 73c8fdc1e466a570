import PhantomFlow.Cardinality.VisitorTracker
import PhantomFlow.Library.StableSort
import PhantomFlow.Sketch.CountMinSketch

namespace PhantomFlow.Frequency
open Library Sketch

inductive RiskLevel where
  | normal | suspicious | anomalous | critical
  deriving DecidableEq

structure FrequencyThresholds where
  baseline : JsNumber ℚ
  suspicious : JsNumber ℚ
  anomalous : JsNumber ℚ
  critical : JsNumber ℚ
  deriving DecidableEq

structure TimeWindowFrequency where
  item : String
  frequency : ℚ
  start : ℤ
  deriving DecidableEq

structure FrequencyAnalysisResult where
  item : String
  currentFrequency : ℚ
  baselineFrequency : JsNumber ℚ
  deviationRatio : JsNumber ℚ
  riskLevel : RiskLevel
  riskScore : JsNumber ℚ
  confidence : ℚ
  timeWindow : ℕ
  lastSeen : ℤ
  deriving DecidableEq

inductive PatternType where
  | steady | increasing | decreasing | burst | periodic
  deriving DecidableEq

def PatternType.words : PatternType → String
  | .steady => "steady"
  | .increasing => "increasing"
  | .decreasing => "decreasing"
  | .burst => "burst"
  | .periodic => "periodic"

structure FrequencyPattern where
  type : PatternType
  confidence : ℚ
  description : String
  trend : ℚ
  deriving DecidableEq

structure FrequencyAnalyzer where
  sketches : OrderedMap String CountMinSketch
  baselines : OrderedMap String (JsNumber ℚ)
  thresholds : OrderedMap String FrequencyThresholds
  timeWindows : OrderedMap String (List TimeWindowFrequency)

-- When a call is made: the date it is given, or the clock, which is read again for
-- the result.
structure Moment where
  timestamp : Option ℤ
  now : ℤ
  later : ℤ

def Moment.time (moment : Moment) : ℤ := moment.timestamp.getD moment.now
def Moment.lastSeen (moment : Moment) : ℤ := moment.timestamp.getD moment.later

def windowDuration : ℤ := 60000
def windowStart (time : ℤ) : ℤ := time / windowDuration * windowDuration

section Defaults

def defaultConfig (hashSeed : ℤ) (width : ℕ) : CountMinSketchConfig := ⟨width,6,hashSeed,1/1000,99/100⟩

def defaultSketches (hashSeed : ℤ) : List (String × CountMinSketchConfig) :=
  [("ip_addresses",defaultConfig hashSeed 8192),
   ("user_agents",defaultConfig hashSeed 2048),
   ("request_paths",defaultConfig hashSeed 4096),
   ("session_ids",defaultConfig hashSeed 2048),
   ("parameters",defaultConfig hashSeed 4096)]

def thresholdsOf (baseline suspicious anomalous critical : ℚ) : FrequencyThresholds :=
  ⟨.finite baseline,.finite suspicious,.finite anomalous,.finite critical⟩

def defaultThresholds : OrderedMap String FrequencyThresholds :=
  .ofList
    [("ip_addresses",thresholdsOf 10 50 100 500),
     ("user_agents",thresholdsOf 5 20 50 200),
     ("request_paths",thresholdsOf 20 100 500 2000),
     ("session_ids",thresholdsOf 50 200 1000 5000),
     ("parameters",thresholdsOf 1 5 20 100)]

end Defaults

section Scores

def determineRiskLevel (frequency : ℚ) (thresholds : FrequencyThresholds) : RiskLevel :=
  if thresholds.critical.le (.finite frequency) then .critical
  else if thresholds.anomalous.le (.finite frequency) then .anomalous
  else if thresholds.suspicious.le (.finite frequency) then .suspicious
  else .normal

def calculateRiskScore (frequency : ℚ) (thresholds : FrequencyThresholds) : JsNumber ℚ :=
  if JsNumber.le (.finite frequency) thresholds.baseline then .finite 0
  else if thresholds.critical.le (.finite frequency) then .finite 1
  else
    let range := thresholds.critical.add thresholds.baseline.neg
    let position := JsNumber.add (.finite frequency) thresholds.baseline.neg
    (position.quotient range).min (.finite 1)

def orOne : Option (JsNumber ℚ) → JsNumber ℚ
  | none | some .nan => .finite 1
  | some (.finite value) => if value = 0 then .finite 1 else .finite value
  | some other => other

def calculateTrend (frequencies : List ℚ) : ℚ :=
  if frequencies.length < 2 then 0
  else
    let first := frequencies.headD 0
    let last := frequencies.getLastD 0
    if first = 0 then (if 0 < last then 1 else 0) else (last - first) / first

def meanOf (frequencies : List ℚ) : ℚ := frequencies.sum / frequencies.length

def calculateVariance (frequencies : List ℚ) : ℚ :=
  if frequencies.length < 2 then 0
  else (frequencies.map (fun f => (f - meanOf frequencies) ^ 2)).sum / frequencies.length

end Scores

-- Finds the item's entry of this minute or appends one, and sets its frequency.
def recordFrequency (item : String) (frequency : ℚ) (start : ℤ) : List TimeWindowFrequency → List TimeWindowFrequency
  | [] => [⟨item,frequency,start⟩]
  | entry :: rest =>
    if entry.item = item ∧ entry.start = start then { entry with frequency } :: rest
    else entry :: recordFrequency item frequency start rest

def sliceTo (k : ℤ) (entries : List α) : List α :=
  if 0 ≤ k then entries.take k.toNat else entries.take (entries.length + k).toNat

def queryBatch (sketch : CountMinSketch) : List String → List FrequencyEstimate × CountMinSketch
  | [] => ([],sketch)
  | item :: rest =>
    let answered := sketch.query item
    let tail := queryBatch answered.2 rest
    (answered.1 :: tail.1,tail.2)

def getTopK (sketch : CountMinSketch) (k : ℤ) (candidates : List String) : List FrequencyEstimate × CountMinSketch :=
  let batch := queryBatch sketch candidates
  (sliceTo k (sortByScore FrequencyEstimate.frequency batch.1),batch.2)

namespace FrequencyAnalyzer
variable (analyzer : FrequencyAnalyzer)

def createSketch (name : String) (config : CountMinSketchConfig) : Except String FrequencyAnalyzer := do
  let sketch ← CountMinSketch.create config
  return { analyzer with
    sketches := analyzer.sketches.set name sketch
    timeWindows := analyzer.timeWindows.set name [] }

-- The constructor; `random` is the draw of `Math.random()`.
def initializeDefaultSketches (random : ℚ) : Except String FrequencyAnalyzer := do
  let nothing : FrequencyAnalyzer := ⟨.empty,.empty,.empty,.empty⟩
  let analyzer ← (defaultSketches ⌊random * 1000000⌋).foldlM (fun (analyzer : FrequencyAnalyzer) entry =>
    analyzer.createSketch entry.1 entry.2) nothing
  return { analyzer with thresholds := defaultThresholds }

def create (random : ℚ) : FrequencyAnalyzer where
  sketches := .ofList ((defaultSketches ⌊random * 1000000⌋).map (fun entry => (entry.1,.initial entry.2)))
  baselines := .empty
  thresholds := defaultThresholds
  timeWindows := .ofList ((defaultSketches ⌊random * 1000000⌋).map (fun entry => (entry.1,[])))

theorem createSketch_ok (valid : validateConfig config = .ok ()) (name : String) :
    analyzer.createSketch name config = .ok { analyzer with
      sketches := analyzer.sketches.set name (.initial config)
      timeWindows := analyzer.timeWindows.set name [] } := by
  rw [createSketch,CountMinSketch.create,valid]
  rfl

theorem defaultConfig_valid (hashSeed : ℤ) (positive : width ≠ 0) :
    validateConfig (defaultConfig hashSeed width) = .ok () := by
  unfold validateConfig defaultConfig
  rw [if_neg (by simp [positive]),if_neg (by norm_num),if_neg (by norm_num)]
  rfl

theorem initializeDefaultSketches_ok (random : ℚ) : initializeDefaultSketches random = .ok (create random) := by
  unfold initializeDefaultSketches defaultSketches
  simp only [List.foldlM_cons,List.foldlM_nil,createSketch_ok _ (defaultConfig_valid _ _),ne_eq,OfNat.ofNat_ne_zero,
    not_false_eq_true]
  rfl

def updateTimeWindow (sketchName item : String) (frequency : ℚ) (timestamp : ℤ) : FrequencyAnalyzer :=
  match analyzer.timeWindows.get sketchName with
  | none => analyzer
  | some windows =>
    let updated := recordFrequency item frequency (windowStart timestamp) windows
    let recentWindows := updated.filter (fun entry => decide (timestamp - 3600000 < entry.start))
    { analyzer with timeWindows := analyzer.timeWindows.set sketchName recentWindows }

-- Without thresholds the sketch has counted the item already when the call throws.
def trackItem (sketchName item : String) (moment : Moment) :
    FrequencyAnalyzer × Except String FrequencyAnalysisResult :=
  match analyzer.sketches.get sketchName with
  | none => (analyzer,.error ("Sketch '" ++ sketchName ++ "' not found"))
  | some sketch =>
    let answered := (sketch.insert item 1).query item
    let frequency := answered.1.frequency
    let counted := { analyzer with sketches := analyzer.sketches.set sketchName answered.2 }
    match analyzer.thresholds.get sketchName with
    | none => (counted,.error "Cannot read properties of undefined (reading 'critical')")
    | some thresholds =>
      let baseline := orOne (analyzer.baselines.get (sketchName ++ ":" ++ item))
      (counted.updateTimeWindow sketchName item frequency moment.time,
       .ok
        { item
          currentFrequency := frequency
          baselineFrequency := baseline
          deviationRatio := JsNumber.quotient (.finite frequency) baseline
          riskLevel := determineRiskLevel frequency thresholds
          riskScore := calculateRiskScore frequency thresholds
          confidence := answered.1.confidence
          timeWindow := 300000
          lastSeen := moment.lastSeen })

def itemWindows (windows : List TimeWindowFrequency) (item : String) : List TimeWindowFrequency :=
  sortByScore (fun entry => -entry.start) (windows.filter (fun entry => decide (entry.item = item)))

def patternOf (frequencies : List ℚ) : FrequencyPattern :=
  let trend := calculateTrend frequencies
  if JsNumber.lt (.finite 2) (JsNumber.div (calculateVariance frequencies) (meanOf frequencies)) then
    ⟨.burst,8/10,"Irregular burst pattern detected",trend⟩
  else if 1/2 < |trend| then
    let type : PatternType := if 0 < trend then .increasing else .decreasing
    ⟨type,8/10,type.words ++ " trend detected (" ++ JsNumber.toFixedNumber 1 (trend * 100) ++ "% change)",trend⟩
  else ⟨.steady,8/10,"Stable frequency pattern",trend⟩

def analyzePattern (sketchName item : String) : Except String FrequencyPattern :=
  match analyzer.timeWindows.get sketchName with
  | none => .error ("No time windows found for sketch '" ++ sketchName ++ "'")
  | some windows =>
    let found := itemWindows windows item
    if found.length < 2 then .ok ⟨.steady,1/2,"Insufficient data for pattern analysis",0⟩
    else .ok (patternOf (found.map TimeWindowFrequency.frequency))

def getTopItems (sketchName : String) (candidates : List String) (limit : ℤ) :
    FrequencyAnalyzer × Except String (List FrequencyEstimate) :=
  match analyzer.sketches.get sketchName with
  | none => (analyzer,.error ("Sketch '" ++ sketchName ++ "' not found"))
  | some sketch =>
    let answered := getTopK sketch limit candidates
    ({ analyzer with sketches := analyzer.sketches.set sketchName answered.2 },.ok answered.1)

def updateBaseline (sketchName item : String) (baseline : JsNumber ℚ) : FrequencyAnalyzer :=
  { analyzer with baselines := analyzer.baselines.set (sketchName ++ ":" ++ item) baseline }

def updateThresholds (sketchName : String) (thresholds : FrequencyThresholds) : FrequencyAnalyzer :=
  { analyzer with thresholds := analyzer.thresholds.set sketchName thresholds }

def getSketchMetrics (sketchName : String) : Option SketchMetrics :=
  (analyzer.sketches.get sketchName).map CountMinSketch.metrics

def getSketchNames : List String := analyzer.sketches.keys

def getTotalMemoryUsage : ℕ :=
  (analyzer.sketches.values.map (fun sketch => CountMinSketch.memoryUsageOf sketch.config)).sum

-- The window lists go as a whole; only `createSketch` makes one.
def clearAll : FrequencyAnalyzer :=
  { analyzer with
    sketches := analyzer.sketches.map (fun _ sketch => sketch.clear)
    baselines := .empty
    timeWindows := .empty }

end FrequencyAnalyzer

inductive TrackCall where
  | trackIPAddress (ipAddress : String) (moment : Moment)
  | trackUserAgent (userAgent : String) (moment : Moment)
  | trackRequestPath (path : String) (moment : Moment)
  | trackSessionID (sessionId : String) (moment : Moment)
  | trackParameter (paramName paramValue : String) (moment : Moment)

namespace TrackCall

def sketchName : TrackCall → String
  | .trackIPAddress _ _ => "ip_addresses"
  | .trackUserAgent _ _ => "user_agents"
  | .trackRequestPath _ _ => "request_paths"
  | .trackSessionID _ _ => "session_ids"
  | .trackParameter _ _ _ => "parameters"

-- User agents and paths are normalized as the visitor tracker does it.
def item (text : Cardinality.TextFunctions) : TrackCall → String
  | .trackIPAddress ipAddress _ => ipAddress
  | .trackUserAgent userAgent _ => Cardinality.normalizeUserAgent text userAgent
  | .trackRequestPath path _ => Cardinality.normalizePath text path
  | .trackSessionID sessionId _ => sessionId
  | .trackParameter paramName paramValue _ => paramName ++ "=" ++ paramValue

def moment : TrackCall → Moment
  | .trackIPAddress _ moment | .trackUserAgent _ moment | .trackRequestPath _ moment | .trackSessionID _ moment
  | .trackParameter _ _ moment => moment

end TrackCall

def FrequencyAnalyzer.track (text : Cardinality.TextFunctions) (analyzer : FrequencyAnalyzer) (call : TrackCall) :
    FrequencyAnalyzer × Except String FrequencyAnalysisResult :=
  analyzer.trackItem call.sketchName (call.item text) call.moment

end PhantomFlow.Frequency
