import PhantomFlow.Frequency.FrequencyAnalyzer
import PhantomFlow.Library.JsCase
import PhantomFlow.Library.Machine
import PhantomFlow.Library.PrunedLog

namespace PhantomFlow.Frequency
open Library Library.Machine Sketch

inductive AnomalyType where
  | frequencySpike | rareItem | burstPattern | sustainedHigh
  deriving DecidableEq

inductive Severity where
  | low | medium | high | critical
  deriving DecidableEq

structure TimeWindow where
  start : ℤ
  stop : ℤ
  duration : ℤ
  deriving DecidableEq

structure SketchAnomalyResult where
  detected : Bool
  anomalyType : AnomalyType
  severity : Severity
  confidence : ℚ
  description : String
  affectedItems : List String
  timeWindow : TimeWindow
  recommendations : List String
  deriving DecidableEq

structure AnomalyDetectionConfig where
  enableFrequencySpikes : Bool := true
  enableRareItemDetection : Bool := true
  enableBurstPatterns : Bool := true
  enableSustainedHighActivity : Bool := true
  sensitivity : ℚ := 7/10
  shortTermWindow : ℤ := 300000
  longTermWindow : ℤ := 3600000
  minSamples : ℕ := 10
  spikeThreshold : ℚ := 5
  rarityThreshold : ℚ := 1/1000
  burstVarianceThreshold : ℚ := 2
  sustainedDuration : ℤ := 600000

section Texts

-- A frequency is a count, so it prints without a fraction.
def countText (count : ℚ) : String := JsNumber.toFixedNumber 0 count

-- Without the Unicode flag `/i` folds ASCII letters only.
def contains (text : List Char) (part : String) : Bool := text.tails.any (fun rest => part.toList.isPrefixOf rest)

def endsWith (text : List Char) (part : String) : Bool := part.toList.isSuffixOf text

def versionedApi (text : List Char) : Bool :=
  text.tails.any (fun rest => "api/v".toList.isPrefixOf rest && ((rest.drop 5).head?.any Char.isDigit))

def isSuspiciousItem (item : String) : Bool :=
  let text := asciiLower item.toList
  ["admin","phpmyadmin","wp-admin","config","backup","test","debug","dev","bot","crawler","spider","scanner"].any
      (contains text) ||
    [".php",".asp",".env"].any (endsWith text) || versionedApi text

variable (result : FrequencyAnalysisResult) (severity : Severity)

def generateSpikeRecommendations : List String :=
  (match severity with
   | .critical => ["Immediately block or rate-limit the source","Investigate for potential DDoS attack","Alert security team"]
   | .high => ["Apply temporary rate limiting","Monitor closely for continued activity","Consider blocking if pattern continues"]
   | _ => ["Monitor for pattern continuation","Log activity for further analysis"]) ++
  ["Item: " ++ result.item,"Current frequency: " ++ countText result.currentFrequency,
   "Deviation: " ++ result.deviationRatio.toFixed 1 ++ "x baseline"]

def generateRarityRecommendations : List String :=
  (match severity with
   | .critical | .high =>
     ["Block access to suspicious resource","Investigate source IP and user agent","Check for scanning or probing activity"]
   | _ => ["Log activity for pattern analysis","Monitor for repeated access attempts"]) ++
  ["Rare item: " ++ result.item,"Consider if this resource should be accessible"]

def generateBurstRecommendations : List String :=
  (match severity with
   | .critical | .high =>
     ["Apply adaptive rate limiting","Investigate burst source and pattern","Consider temporary blocking during bursts"]
   | _ => ["Monitor burst patterns","Analyze timing and frequency distribution"]) ++
  ["Burst pattern detected for: " ++ result.item,"Irregular activity pattern may indicate automated behavior"]

def generateSustainedRecommendations : List String :=
  (match severity with
   | .critical =>
     ["Implement immediate blocking or quarantine","Escalate to security incident response team",
      "Investigate for potential compromise"]
   | .high => ["Apply strict rate limiting","Require additional authentication","Monitor all related activity"]
   | _ => ["Continue monitoring sustained activity","Consider gradual response escalation"]) ++
  ["Sustained activity from: " ++ result.item,"Pattern suggests persistent automated behavior"]

end Texts

section Severities

def calculateSpikeSeverity (deviationRatio : JsNumber ℚ) : Severity :=
  let atLeast (bound : ℚ) := JsNumber.le (.finite bound) deviationRatio
  if atLeast 50 then .critical else if atLeast 20 then .high else if atLeast 10 then .medium else .low

def calculateRaritySeverity (relativeFrequency : JsNumber ℚ) (item : String) : Severity :=
  let below (bound : ℚ) := relativeFrequency.lt (.finite bound)
  let isSuspicious := isSuspiciousItem item
  if isSuspicious && below (1/10000) then .critical
  else if isSuspicious && below (1/1000) then .high
  else if below (1/10000) then .medium
  else .low

def calculateBurstSeverity (confidence : ℚ) (riskScore : JsNumber ℚ) : Severity :=
  let combinedScore := riskScore.scale confidence
  let atLeast (bound : ℚ) := JsNumber.le (.finite bound) combinedScore
  if atLeast (8/10) then .critical else if atLeast (6/10) then .high else if atLeast (4/10) then .medium else .low

def calculateSustainedSeverity (riskScore : JsNumber ℚ) (detectionCount : ℕ) : Severity :=
  let atLeast (bound : ℚ) := JsNumber.le (.finite bound) riskScore
  if atLeast (8/10) && decide (10 ≤ detectionCount) then .critical
  else if atLeast (6/10) && decide (7 ≤ detectionCount) then .high
  else if atLeast (4/10) && decide (5 ≤ detectionCount) then .medium
  else .low

end Severities

section Detection
variable (config : AnomalyDetectionConfig) (analyzer : FrequencyAnalyzer) (sketchName : String)
  (result : FrequencyAnalysisResult)

def detectFrequencySpike : Except String (Option SketchAnomalyResult) := do
  let threshold := result.baselineFrequency.scale config.spikeThreshold
  if JsNumber.lt (.finite result.currentFrequency) threshold then return none
  let pattern ← analyzer.analyzePattern sketchName result.item
  if pattern.type ≠ .increasing ∧ pattern.type ≠ .burst then return none
  let severity := calculateSpikeSeverity result.deviationRatio
  return some {
    detected := true
    anomalyType := .frequencySpike
    severity
    confidence := min (pattern.confidence * result.confidence) 1
    description := "Frequency spike detected: " ++ result.item ++ " has " ++ countText result.currentFrequency ++
      " requests (" ++ result.deviationRatio.toFixed 1 ++ "x baseline)"
    affectedItems := [result.item]
    timeWindow := ⟨result.lastSeen - config.shortTermWindow,result.lastSeen,config.shortTermWindow⟩
    recommendations := generateSpikeRecommendations result severity }

def detectRareItem : Option SketchAnomalyResult :=
  match analyzer.getSketchMetrics sketchName with
  | none => none
  | some metrics =>
    if metrics.totalInserts < config.minSamples then none
    else
      let relativeFrequency := JsNumber.div result.currentFrequency metrics.totalInserts
      if JsNumber.lt (.finite config.rarityThreshold) relativeFrequency then none
      else if result.currentFrequency = 1 ∧ isSuspiciousItem result.item = true then
        let severity := calculateRaritySeverity relativeFrequency result.item
        some {
          detected := true
          anomalyType := .rareItem
          severity
          confidence := 8/10
          description := "Rare suspicious item detected: " ++ result.item ++ " (first occurrence)"
          affectedItems := [result.item]
          timeWindow := ⟨result.lastSeen,result.lastSeen,0⟩
          recommendations := generateRarityRecommendations result severity }
      else none

def detectBurstPattern : Except String (Option SketchAnomalyResult) := do
  let pattern ← analyzer.analyzePattern sketchName result.item
  if pattern.type ≠ .burst then return none
  if pattern.confidence < 6/10 then return none
  let severity := calculateBurstSeverity pattern.confidence result.riskScore
  return some {
    detected := true
    anomalyType := .burstPattern
    severity
    confidence := pattern.confidence
    description := "Burst pattern detected: " ++ result.item ++ " shows irregular activity pattern"
    affectedItems := [result.item]
    timeWindow := ⟨result.lastSeen - config.longTermWindow,result.lastSeen,config.longTermWindow⟩
    recommendations := generateBurstRecommendations result severity }

def RiskLevel.words : RiskLevel → String
  | .normal => "normal"
  | .suspicious => "suspicious"
  | .anomalous => "anomalous"
  | .critical => "critical"

def endOf (anomaly : SketchAnomalyResult) : ℤ := anomaly.timeWindow.stop

def recentAnomalies (history : List SketchAnomalyResult) (now : ℤ) : List SketchAnomalyResult :=
  (newer endOf (now - config.sustainedDuration) history).filter (fun a => decide (result.item ∈ a.affectedItems))

def detectSustainedHighActivity (history : List SketchAnomalyResult) (now : ℤ) :
    Except String (Option SketchAnomalyResult) := do
  if result.riskLevel ≠ .anomalous ∧ result.riskLevel ≠ .critical then return none
  let pattern ← analyzer.analyzePattern sketchName result.item
  if pattern.type ≠ .steady ∧ pattern.type ≠ .increasing then return none
  let recent := recentAnomalies config result history now
  if recent.length < 3 then return none
  let severity := calculateSustainedSeverity result.riskScore recent.length
  return some {
    detected := true
    anomalyType := .sustainedHigh
    severity
    confidence := 9/10
    description := "Sustained high activity detected: " ++ result.item ++ " has maintained " ++ result.riskLevel.words ++
      " activity for extended period"
    affectedItems := [result.item]
    timeWindow := ⟨result.lastSeen - config.sustainedDuration,result.lastSeen,config.sustainedDuration⟩
    recommendations := generateSustainedRecommendations result severity }

-- What is found before the first failure, and whether there was none.
def collected : List (Except String (Option SketchAnomalyResult)) → List SketchAnomalyResult × Bool
  | [] => ([],true)
  | .error _ :: _ => ([],false)
  | .ok found :: rest => (found.toList ++ (collected rest).1,(collected rest).2)

def detectors (history : List SketchAnomalyResult) (now : ℤ) : List (Except String (Option SketchAnomalyResult)) :=
  [if config.enableFrequencySpikes then detectFrequencySpike config analyzer sketchName result else .ok none,
   .ok (if config.enableRareItemDetection then detectRareItem config analyzer sketchName result else none),
   if config.enableBurstPatterns then detectBurstPattern config analyzer sketchName result else .ok none,
   if config.enableSustainedHighActivity then detectSustainedHighActivity config analyzer sketchName result history now
   else .ok none]

def detect (history : List SketchAnomalyResult) (now : ℤ) : List SketchAnomalyResult × Bool :=
  collected (detectors config analyzer sketchName result history now)

end Detection

structure SketchAnomalyDetector where
  config : AnomalyDetectionConfig
  detectionHistory : OrderedMap String (List SketchAnomalyResult)

inductive DetectorCall where
  -- The analyzer as it stands, and the clock: while detecting, and while storing.
  | analyzeFrequency (analyzer : FrequencyAnalyzer) (sketchName : String) (result : FrequencyAnalysisResult) (now later : ℤ)
  -- The configuration with the given values merged in.
  | updateConfig (merged : AnomalyDetectionConfig)
  | clearHistory (sketchName : Option String)

namespace SketchAnomalyDetector

def create (config : AnomalyDetectionConfig) : SketchAnomalyDetector := ⟨config,.empty⟩

variable (detector : SketchAnomalyDetector)

def getDetectionHistory (sketchName : String) : List SketchAnomalyResult :=
  (detector.detectionHistory.get sketchName).getD []

def setHistory (sketchName : String) (history : List SketchAnomalyResult) : SketchAnomalyDetector :=
  { detector with detectionHistory := detector.detectionHistory.set sketchName history }

def dayLength : ℤ := 86400000

def storeDetectionHistory (sketchName : String) (anomalies : List SketchAnomalyResult) (now : ℤ) : SketchAnomalyDetector :=
  detector.setHistory sketchName (newer endOf (now - dayLength) (detector.getDetectionHistory sketchName ++ anomalies))

-- `if (sketchName)`: an empty name clears everything.
def clearHistory (sketchName : Option String) : SketchAnomalyDetector :=
  match sketchName with
  | some name => if name = "" then { detector with detectionHistory := .empty }
    else { detector with detectionHistory := detector.detectionHistory.delete name }
  | none => { detector with detectionHistory := .empty }

-- A failure after the first detections returns them and stores nothing.
def analyzeFrequency (store : SketchAnomalyDetector → String → List SketchAnomalyResult → ℤ → SketchAnomalyDetector)
    (analyzer : FrequencyAnalyzer) (sketchName : String) (result : FrequencyAnalysisResult) (now later : ℤ) :
    SketchAnomalyDetector × List SketchAnomalyResult :=
  let found := detect detector.config analyzer sketchName result (detector.getDetectionHistory sketchName) now
  (if found.2 = true ∧ found.1 ≠ [] then store detector sketchName found.1 later else detector,found.1)

def stepWith (store : SketchAnomalyDetector → String → List SketchAnomalyResult → ℤ → SketchAnomalyDetector)
    (detector : SketchAnomalyDetector) : DetectorCall → SketchAnomalyDetector × List SketchAnomalyResult
  | .analyzeFrequency analyzer sketchName result now later =>
    detector.analyzeFrequency store analyzer sketchName result now later
  | .updateConfig merged => ({ detector with config := merged },[])
  | .clearHistory sketchName => (detector.clearHistory sketchName,[])

def step : SketchAnomalyDetector → DetectorCall → SketchAnomalyDetector × List SketchAnomalyResult :=
  stepWith storeDetectionHistory

def keepDetectionHistory (sketchName : String) (anomalies : List SketchAnomalyResult) (_now : ℤ) : SketchAnomalyDetector :=
  detector.setHistory sketchName (detector.getDetectionHistory sketchName ++ anomalies)

def stepKeeping : SketchAnomalyDetector → DetectorCall → SketchAnomalyDetector × List SketchAnomalyResult :=
  stepWith keepDetectionHistory

end SketchAnomalyDetector
end PhantomFlow.Frequency
