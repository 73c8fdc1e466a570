import PhantomFlow.Ewma.EWMA
import PhantomFlow.Library.OrderedMap
import PhantomFlow.Library.StableSort

namespace PhantomFlow.Ewma
open Library

structure BaselineAdaptation (K : Type) where
  enabled : Bool
  adaptationRate : K
  driftThreshold : K
  validationPeriod : K
  rollbackThreshold : K

inductive DriftDirection where
  | upward | downward | volatile
  deriving DecidableEq

def DriftDirection.text : DriftDirection → String
  | .upward => "upward"
  | .downward => "downward"
  | .volatile => "volatile"

inductive Recommendation where
  | adapt | monitor | rollback
  deriving DecidableEq

structure DriftDetectionResult (K : Type) where
  driftDetected : Bool
  driftMagnitude : JsNumber K
  driftDirection : DriftDirection
  confidence : JsNumber K
  recommendation : Recommendation

structure AdaptationResult (K : Type) where
  adapted : Bool
  reason : String
  confidence : JsNumber K
  oldBaseline : K
  newBaseline : K
  validationPeriod : K
  rollbackThreshold : K

structure HistoryEntry (K : Type) where
  timestamp : Stamp
  metric : String
  oldBaseline : K
  newBaseline : K
  reason : String
  confidence : JsNumber K

structure Validation (K : Type) where
  adaptedBaseline : K
  validationStart : ℤ
  validationEnd : ℤ
  performanceMetrics : List (JsNumber K)
  isValidated : Bool

structure BaselineAdaptationService (K : Type) where
  config : BaselineAdaptation K
  baselines : OrderedMap String K
  adaptationHistory : List (HistoryEntry K)
  validationData : OrderedMap String (Validation K)
  isInitialized : Bool

structure PersistedBaselines (K : Type) where
  baselines : OrderedMap String K
  history : List (HistoryEntry K)

-- A rollback without history, or a comparison of texts as dates.
inductive RollbackError where
  | noHistory (metric : String)
  | notADate
  deriving DecidableEq

structure ValidationReport where
  validated : List String
  failed : List String
  pending : List String
  deriving DecidableEq

def truncated [Field K] [LinearOrder K] [FloorRing K] (value : K) : ℤ := if 0 ≤ value then ⌊value⌋ else ⌈value⌉

def rollbackReason : String := "Adaptation rollback: validation failed"

def lastEntries (count : ℕ) (entries : List α) : List α := entries.drop (entries.length - count)

section Drift
variable {K : Type} [Field K] [LinearOrder K]

def orElse (value : Option K) (fallback : K) : K :=
  match value with
  | some number => if number = 0 then fallback else number
  | none => fallback

def relativeDistance (value baseline : K) : JsNumber K := .div |value - baseline| (baseline + lit (1/1000))

def detectConceptDrift (config : BaselineAdaptation K) (ewma : Option (K × TrendDirection)) (currentBaseline : K) :
    DriftDetectionResult K :=
  match ewma with
  | none => ⟨false,.finite 0,.upward,.finite (lit (3/10)),.monitor⟩
  | some (currentValue,trend) =>
    let driftMagnitude := relativeDistance currentValue currentBaseline
    let driftDetected := (JsNumber.finite config.driftThreshold).lt driftMagnitude
    let trendConfidence : K := match trend with
      | .stable => lit (5/10)
      | .volatile => lit (3/10)
      | .increasing | .decreasing => lit (8/10)
    let magnitudeConfidence := (JsNumber.finite 1).min (driftMagnitude.quotient (.finite config.driftThreshold))
    let confidence := ((JsNumber.finite trendConfidence).add magnitudeConfidence).scale (lit (1/2))
    { driftDetected
      driftMagnitude
      driftDirection := if trend = .volatile then .volatile else if currentBaseline < currentValue then .upward else .downward
      confidence
      recommendation :=
        if driftDetected && (JsNumber.finite (lit (7/10))).lt confidence then .adapt
        else if driftDetected && (JsNumber.finite (lit (4/10))).lt confidence then .monitor
        else if (JsNumber.finite config.rollbackThreshold).lt driftMagnitude then .rollback
        else .monitor }

def defaultBaselines : OrderedMap String K :=
  .ofList [("request_rate",lit 100),("response_time",lit 200),("error_rate",lit (1/100)),("cpu_usage",lit (5/10)),
    ("memory_usage",lit (6/10)),("disk_usage",lit (4/10)),("network_throughput",lit 1000)]

end Drift

namespace BaselineAdaptationService
variable {K : Type} (service : BaselineAdaptationService K)

def create (config : BaselineAdaptation K) : BaselineAdaptationService K := ⟨config,.empty,[],.empty,false⟩

def getBaseline (metric : String) : Option K := service.baselines.get metric

def setBaseline (metric : String) (baseline : K) : BaselineAdaptationService K :=
  { service with baselines := service.baselines.set metric baseline }

def recordAdaptation (now : ℤ) (metric : String) (oldBaseline newBaseline : K) (reason : String)
    (confidence : JsNumber K) : BaselineAdaptationService K :=
  { service with
    adaptationHistory := lastEntries 1000 (service.adaptationHistory ++
      [⟨.date now,metric,oldBaseline,newBaseline,reason,confidence⟩]) }

-- The entries of the metric, the latest first. The sort compares every entry of two
-- or more, and a text has no `getTime`.
def recentAdaptations (metric : String) : Except RollbackError (List (HistoryEntry K)) :=
  let own := service.adaptationHistory.filter (fun entry => entry.metric = metric)
  if 2 ≤ own.length ∧ own.any (fun entry => entry.timestamp.isText) then .error .notADate
  else .ok (sortByScore (fun entry => entry.timestamp.time) own)

variable [Field K]

def rollbackAdaptation (now : ℤ) (metric : String) (currentBaseline : K) :
    Except RollbackError (BaselineAdaptationService K × AdaptationResult K) :=
  match service.recentAdaptations metric with
  | .error error => .error error
  | .ok [] => .error (.noHistory metric)
  | .ok (lastAdaptation :: _) =>
    let rollbackBaseline := lastAdaptation.oldBaseline
    let recorded := (service.setBaseline metric rollbackBaseline).recordAdaptation now metric currentBaseline
      rollbackBaseline rollbackReason (.finite 1)
    .ok ({ recorded with validationData := recorded.validationData.delete metric },
      ⟨true,rollbackReason,.finite 1,currentBaseline,rollbackBaseline,0,service.config.rollbackThreshold⟩)

variable [LinearOrder K] [FloorRing K]

-- A date keeps whole milliseconds.
def startValidationPeriod (now : ℤ) (metric : String) (newBaseline : K) : BaselineAdaptationService K :=
  { service with
    validationData := service.validationData.set metric
      ⟨newBaseline,now,truncated ((now : K) + service.config.validationPeriod * lit 60 * lit 1000),[],false⟩ }

def applyAdaptation (now : ℤ) (metric : String) (oldBaseline newBaseline : K) (reason : String) (confidence : JsNumber K) :
    BaselineAdaptationService K × AdaptationResult K :=
  (((service.setBaseline metric newBaseline).recordAdaptation now metric oldBaseline newBaseline reason
      confidence).startValidationPeriod now metric newBaseline,
   ⟨true,reason,confidence,oldBaseline,newBaseline,service.config.validationPeriod,service.config.rollbackThreshold⟩)

def forceAdaptation (now : ℤ) (metric : String) (newBaseline : K) (reason : String) :
    BaselineAdaptationService K × AdaptationResult K :=
  service.applyAdaptation now metric (orElse (service.baselines.get metric) 0) newBaseline
    ("Manual adaptation: " ++ reason) (.finite 1)

def adaptedTo (currentBaseline targetValue : K) : K :=
  currentBaseline + service.config.adaptationRate * (targetValue - currentBaseline)

def adaptBaseline (now : ℤ) (metric : String) (dataPoint : DataPoint K) (currentBaseline : K)
    (driftResult : DriftDetectionResult K) : BaselineAdaptationService K × AdaptationResult K :=
  service.applyAdaptation now metric currentBaseline (service.adaptedTo currentBaseline dataPoint.value)
    ("Concept drift detected: " ++ driftResult.driftDirection.text ++ " drift (" ++
      (driftResult.driftMagnitude.scale (lit 100)).toFixed 1 ++ "%)") driftResult.confidence

def updateValidationData (now : ℤ) (metric : String) (dataPoint : DataPoint K) : BaselineAdaptationService K :=
  match service.validationData.get metric with
  | none => service
  | some validation =>
    if validation.isValidated = false ∧ validation.validationStart ≤ now ∧ now ≤ validation.validationEnd then
      let error := relativeDistance dataPoint.value validation.adaptedBaseline
      let performance := (JsNumber.finite 0).max ((JsNumber.finite 1).add error.neg)
      { service with
        validationData := service.validationData.set metric
          { validation with performanceMetrics := lastEntries 1000 (validation.performanceMetrics ++ [performance]) } }
    else service

-- What a data point leads to; the EWMA manager's 15 minute instance is an input.
def recommendationFor (metric : String) (dataPoint : DataPoint K) (ewma : Option (K × TrendDirection)) :
    DriftDetectionResult K :=
  detectConceptDrift service.config ewma (orElse (service.baselines.get metric) dataPoint.value)

def processDataPoint (now : ℤ) (metric : String) (dataPoint : DataPoint K) (ewma : Option (K × TrendDirection)) :
    BaselineAdaptationService K × Option (AdaptationResult K) :=
  if service.isInitialized = false ∨ service.config.enabled = false then (service,none)
  else
    let currentBaseline := orElse (service.baselines.get metric) dataPoint.value
    let driftResult := service.recommendationFor metric dataPoint ewma
    match driftResult.recommendation with
    | .adapt =>
      let adapted := service.adaptBaseline now metric dataPoint currentBaseline driftResult
      (adapted.1,some adapted.2)
    | .rollback =>
      match service.rollbackAdaptation now metric currentBaseline with
      | .ok rolledBack => (rolledBack.1,some rolledBack.2)
      | .error _ => (service,none)
    | .monitor => (service.updateValidationData now metric dataPoint,none)

def evaluateValidationSuccess (config : BaselineAdaptation K) (validation : Validation K) : Bool :=
  if validation.performanceMetrics.length < 10 then false
  else
    let sum := validation.performanceMetrics.foldl JsNumber.add (JsNumber.finite 0)
    let avgPerformance := sum.quotient (.finite (validation.performanceMetrics.length : K))
    (JsNumber.finite (1 - config.rollbackThreshold)).lt avgPerformance

def failsValidation (config : BaselineAdaptation K) (now : ℤ) (validation : Validation K) : Bool :=
  decide (validation.validationEnd < now) && !evaluateValidationSuccess config validation

def markValidated (metric : String) (validation : Validation K) : BaselineAdaptationService K :=
  { service with validationData := service.validationData.set metric { validation with isValidated := true } }

-- The loop of `validateAdaptations`, with a reading of the clock for each metric; a
-- rollback that throws ends it.
def validateEntries (clock : String → ℤ) (service : BaselineAdaptationService K) (report : ValidationReport) :
    List (String × Validation K) → BaselineAdaptationService K × Except RollbackError ValidationReport
  | [] => (service,.ok report)
  | (metric,validation) :: rest =>
    if failsValidation service.config (clock metric) validation then
      match service.rollbackAdaptation (clock metric) metric validation.adaptedBaseline with
      | .ok rolledBack => rolledBack.1.validateEntries clock { report with failed := report.failed ++ [metric] } rest
      | .error error => (service,.error error)
    else if validation.validationEnd < clock metric then
      (service.markValidated metric validation).validateEntries clock
        { report with validated := report.validated ++ [metric] } rest
    else service.validateEntries clock { report with pending := report.pending ++ [metric] } rest

def validateAdaptations (clock : String → ℤ) : BaselineAdaptationService K × Except RollbackError ValidationReport :=
  service.validateEntries clock ⟨[],[],[]⟩ service.validationData.entries

def initializeDefaultBaselines : BaselineAdaptationService K :=
  { service with
    baselines := (defaultBaselines (K:=K)).entries.foldl (fun baselines entry => baselines.set entry.1 entry.2)
      service.baselines }

def reset : BaselineAdaptationService K :=
  ({ service with baselines := .empty, adaptationHistory := [], validationData := .empty }).initializeDefaultBaselines

def persistBaselines : PersistedBaselines K :=
  ⟨service.baselines,(lastEntries 100 service.adaptationHistory).map (fun entry =>
    { entry with timestamp := entry.timestamp.throughJson })⟩

def loadBaselinesFromPersistence (stored : Option (PersistedBaselines K)) : BaselineAdaptationService K :=
  match stored with
  | some image => { service with baselines := image.baselines, adaptationHistory := image.history }
  | none => service

def startUp (stored : Option (PersistedBaselines K)) : BaselineAdaptationService K :=
  let loaded := service.loadBaselinesFromPersistence stored
  { (if loaded.baselines.size = 0 then loaded.initializeDefaultBaselines else loaded) with isInitialized := true }

end BaselineAdaptationService

structure BaselineSystem (K : Type) where
  service : BaselineAdaptationService K
  stored : Option (PersistedBaselines K)

-- `restart` is a new instance started on what Redis holds, and `expire` the end of
-- the stored keys' life there.
inductive BaselineEvent (K : Type) where
  | processDataPoint (now : ℤ) (metric : String) (dataPoint : DataPoint K) (ewma : Option (K × TrendDirection))
  | forceAdaptation (now : ℤ) (metric : String) (newBaseline : K) (reason : String)
  | validateAdaptations (clock : String → ℤ)
  | setBaseline (metric : String) (baseline : K)
  | reset
  | shutdown
  | restart
  | expire

inductive BaselineReply (K : Type) where
  | adaptation (result : Option (AdaptationResult K))
  | report (result : Except RollbackError ValidationReport)
  | done

def baselineStep [Field K] [LinearOrder K] [FloorRing K] (system : BaselineSystem K) :
    BaselineEvent K → BaselineSystem K × BaselineReply K
  | .processDataPoint now metric dataPoint ewma =>
    let processed := system.service.processDataPoint now metric dataPoint ewma
    ({ system with service := processed.1 },.adaptation processed.2)
  | .forceAdaptation now metric newBaseline reason =>
    let forced := system.service.forceAdaptation now metric newBaseline reason
    ({ system with service := forced.1 },.adaptation (some forced.2))
  | .validateAdaptations clock =>
    let validated := system.service.validateAdaptations clock
    ({ system with service := validated.1 },.report validated.2)
  | .setBaseline metric baseline => ({ system with service := system.service.setBaseline metric baseline },.done)
  | .reset => ({ system with service := system.service.reset },.done)
  | .shutdown =>
    ({ service := { system.service with isInitialized := false }
       stored := some system.service.persistBaselines },.done)
  | .restart => ({ system with service := (BaselineAdaptationService.create system.service.config).startUp system.stored },.done)
  | .expire => ({ system with stored := none },.done)

def baselineSystem [Field K] [LinearOrder K] [FloorRing K] (config : BaselineAdaptation K) : BaselineSystem K :=
  ⟨(BaselineAdaptationService.create config).startUp none,none⟩

end PhantomFlow.Ewma
