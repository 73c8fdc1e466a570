import Mathlib.Algebra.BigOperators.Group.List.Basic
import Mathlib.Data.List.Sort
import PhantomFlow.Library.Averages
import PhantomFlow.Library.JsNumber

namespace PhantomFlow.Ewma
open Library

inductive EWMAVariant where
  | simple | double | adaptive
  deriving DecidableEq

inductive TrendDirection where
  | increasing | decreasing | stable | volatile
  deriving DecidableEq

structure EWMAConfig (K : Type) where
  variant : EWMAVariant
  alpha : K
  adaptiveAlpha : Bool
  minAlpha : K
  maxAlpha : K
  windowSize : ℕ
  volatilityThreshold : K
  changeDetectionThreshold : K

structure DataPoint (K : Type) where
  value : K
  timestamp : ℤ

structure AdaptiveParameters (K : Type) where
  alpha : K
  volatilityThreshold : K
  volatilityHistory : List K

structure EWMAValue (K : Type) where
  value : K
  timestamp : ℤ
  confidence : K
  trend : TrendDirection
  volatility : K
  isOutlier : Bool

structure Prediction (K : Type) where
  nextValue : K
  confidence : K
  min : K
  max : K

structure Statistics (K : Type) where
  mean : K
  variance : K
  standardDeviation : K
  volatility : K

structure Trend (K : Type) where
  direction : TrendDirection
  strength : K
  changePoint : Bool
  duration : K

structure Anomaly (K : Type) where
  isAnomalous : Bool
  score : K
  threshold : K
  confidence : K

structure OutlierDetection (K : Type) where
  threshold : K
  sensitivity : K
  windowSize : ℕ
  isOutlier : Bool
  score : K
  confidence : K
  explanation : String

structure EWMAResult (K : Type) where
  current : EWMAValue K
  previous : EWMAValue K
  prediction : Prediction K
  statistics : Statistics K
  trend : Trend K
  anomaly : Anomaly K

structure EWMA (K : Type) where
  config : EWMAConfig K
  currentValue : K
  previousValue : K
  trendValue : K
  variance : K
  dataPoints : List (DataPoint K)
  lastUpdate : ℤ
  initialized : Bool
  adaptiveParams : AdaptiveParameters K

def lastOf (n : ℕ) (values : List α) : List α := values.drop (values.length - n)

section Numbers
variable {K : Type} [Field K]

def meanOf (values : List K) : K := values.sum / values.length

def spreadOf (values : List K) : K :=
  (values.map (fun value => (value - meanOf values) ^ 2)).sum / values.length

theorem spreadOf_eq_spread (values : List K) : spreadOf values = spread values := by
  rw [spreadOf,spread,average,List.length_map]
  simp only [sq]
  rfl

-- The defaults, with none of the environment variables set.
def getDefaultEWMAConfig : EWMAConfig K where
  variant := .simple
  alpha := lit (2/10)
  adaptiveAlpha := false
  minAlpha := lit (5/100)
  maxAlpha := lit (1/2)
  windowSize := 100
  volatilityThreshold := lit (15/100)
  changeDetectionThreshold := lit (6/10)

def calculateSlope (values : List K) : K :=
  if values.length < 2 then 0
  else
    let n : K := values.length
    let sumX := n * (n - 1) / lit 2
    let sumY := values.sum
    let sumXY := (values.zipIdx.map (fun entry => (entry.2 : K) * entry.1)).sum
    let sumX2 := n * (n - 1) * (lit 2 * n - 1) / lit 6
    (n * sumXY - sumX * sumY) / (n * sumX2 - sumX * sumX)

end Numbers

namespace EWMA
variable {K : Type} [Field K]

def initializeAdaptiveParameters (config : EWMAConfig K) : AdaptiveParameters K :=
  ⟨config.alpha,config.volatilityThreshold,[]⟩

def create (config : EWMAConfig K) (now : ℤ) : EWMA K where
  config
  currentValue := 0
  previousValue := 0
  trendValue := 0
  variance := 0
  dataPoints := []
  lastUpdate := now
  initialized := false
  adaptiveParams := initializeAdaptiveParameters config

variable (ewma : EWMA K)

def reset : EWMA K :=
  { ewma with
    currentValue := 0
    previousValue := 0
    trendValue := 0
    variance := 0
    dataPoints := []
    initialized := false
    adaptiveParams := initializeAdaptiveParameters ewma.config }

-- Stores the point and keeps the window. `slice(-0)` is the whole array.
def store (point : DataPoint K) : EWMA K :=
  let points := ewma.dataPoints ++ [point]
  { ewma with
    dataPoints :=
      if ewma.config.windowSize < points.length ∧ ewma.config.windowSize ≠ 0
      then lastOf ewma.config.windowSize points else points }

def initializeWith (value : K) : EWMA K :=
  if ewma.initialized then ewma
  else { ewma with
    currentValue := value
    previousValue := value
    trendValue := 0
    variance := 0
    initialized := true }

def recent (n : ℕ) : List K := (lastOf n ewma.dataPoints).map DataPoint.value

def updateVariance (value : K) : EWMA K :=
  let error := value - ewma.currentValue
  { ewma with variance := ewma.config.alpha * (error * error) + (1 - ewma.config.alpha) * ewma.variance }

def calculateSimpleEWMA (value alpha : K) : K := alpha * value + (1 - alpha) * ewma.currentValue

-- Holt's method: the level and the trend, with one smoothing parameter.
def calculateDoubleEWMA (value alpha : K) : K × EWMA K :=
  let newLevel := alpha * value + (1 - alpha) * (ewma.currentValue + ewma.trendValue)
  (newLevel,{ ewma with
    trendValue := alpha * (newLevel - ewma.currentValue) + (1 - alpha) * ewma.trendValue })

variable [LinearOrder K] (math : JsMath K)

def calculateVolatility : K :=
  if ewma.dataPoints.length < 2 then 0 else math.sqrt (spreadOf (ewma.recent 10))

def detectChangePoint : Bool :=
  if ewma.dataPoints.length < 10 then false
  else
    let recentMean := (ewma.recent 5).sum / lit 5
    -- `slice(-15, -5)`
    let historicalMean := ((ewma.recent 15).dropLast.dropLast.dropLast.dropLast.dropLast).sum / lit 10
    decide (math.sqrt ewma.variance * ewma.config.changeDetectionThreshold < |recentMean - historicalMean|)

def updateAdaptiveParameters : EWMA K :=
  let history := ewma.adaptiveParams.volatilityHistory ++ [ewma.calculateVolatility math]
  let kept := if 100 < history.length then history.drop 1 else history
  { ewma with adaptiveParams := { ewma.adaptiveParams with
    volatilityHistory := kept
    volatilityThreshold :=
      if 20 < kept.length
      then (kept.insertionSort (· ≤ ·)).getD (kept.length * 95 / 100) 0
      else ewma.adaptiveParams.volatilityThreshold } }

def calculateAdaptiveEWMA (value : K) : K × EWMA K :=
  let adaptiveAlpha :=
    if ewma.config.volatilityThreshold < ewma.calculateVolatility math ∨ ewma.detectChangePoint math = true
    then min ewma.config.maxAlpha (ewma.config.alpha * lit (3/2))
    else max ewma.config.minAlpha (ewma.config.alpha * lit (95/100))
  (ewma.calculateSimpleEWMA value adaptiveAlpha,
    { ewma with adaptiveParams := { ewma.adaptiveParams with alpha := adaptiveAlpha } })

def calculateEWMA (value : K) : K × EWMA K :=
  let alpha := if ewma.config.adaptiveAlpha then ewma.adaptiveParams.alpha else ewma.config.alpha
  match ewma.config.variant with
  | .simple => (ewma.calculateSimpleEWMA value alpha,ewma)
  | .double => ewma.calculateDoubleEWMA value alpha
  | .adaptive => ewma.calculateAdaptiveEWMA math value

def detectTrend : Trend K :=
  if ewma.dataPoints.length < 5 then ⟨.stable,0,false,0⟩
  else
    let slope := calculateSlope (ewma.recent 10)
    let slopeThreshold := math.sqrt ewma.variance * lit (1/10)
    let direction : TrendDirection :=
      if ewma.config.volatilityThreshold * lit 2 < ewma.calculateVolatility math then .volatile
      else if |slope| < slopeThreshold then .stable
      else if 0 < slope then .increasing
      else .decreasing
    { direction
      strength := min 1 (|slope| / (math.sqrt ewma.variance + lit (1/1000)))
      changePoint := ewma.detectChangePoint math
      duration := lit 5 }

def calculatePredictionAccuracy : K :=
  if ewma.dataPoints.length < 10 then lit (1/2)
  else
    let recentData := ewma.recent 10
    let correctPredictions := (recentData.zip recentData.tail).countP (fun pair =>
      decide (|pair.1 - pair.2| ≤ math.sqrt ewma.variance))
    correctPredictions / ((recentData.length : K) - 1)

-- Reads the level before this update and, for `double`, the trend after it.
def generatePrediction : Prediction K :=
  let nextValue := if ewma.config.variant = .double then ewma.currentValue + ewma.trendValue else ewma.currentValue
  let stdDev := math.sqrt ewma.variance
  { nextValue
    confidence := min (lit (95/100)) (ewma.calculatePredictionAccuracy math)
    min := nextValue - lit 2 * stdDev
    max := nextValue + lit 2 * stdDev }

def calculateStatistics : Statistics K :=
  if ewma.dataPoints.length = 0 then ⟨0,0,0,0⟩
  else
    { mean := meanOf (ewma.dataPoints.map DataPoint.value)
      variance := ewma.variance
      standardDeviation := math.sqrt ewma.variance
      volatility := ewma.calculateVolatility math }

def detectAnomaly (actualValue ewmaValue : K) : Anomaly K :=
  let deviation := |actualValue - ewmaValue|
  let threshold := math.sqrt ewma.variance * lit (5/2)
  { isAnomalous := decide (threshold < deviation)
    score := min 1 (deviation / (threshold + lit (1/1000)))
    threshold
    confidence := min (lit (95/100)) (ewma.dataPoints.length / lit 30) }

section Clock
variable (now : ℤ)

def calculateTimeFactor : K :=
  match ewma.dataPoints.getLast? with
  | none => lit (1/2)
  | some point =>
    let minutesSinceUpdate : K := ((now - point.timestamp : ℤ) : K) / lit (1000 * 60)
    max (lit (1/10)) (math.exp (-minutesSinceUpdate / lit 60))

def calculateConfidence : K :=
  if ewma.dataPoints.length < 5 then lit (3/10)
  else
    let dataQuality : K := min 1 (ewma.dataPoints.length / lit 50)
    let volatilityFactor := max (lit (1/10)) (1 - ewma.calculateVolatility math / lit 10)
    min (lit (95/100)) (dataQuality * volatilityFactor * ewma.calculateTimeFactor math now)

end Clock

variable [FloorRing K]

def detectOutlier (value : K) : OutlierDetection K :=
  if ewma.dataPoints.length < 10 then
    { threshold := ewma.config.volatilityThreshold
      sensitivity := lit (1/2)
      windowSize := ewma.dataPoints.length
      isOutlier := false
      score := 0
      confidence := lit (1/2)
      explanation := "Insufficient data for outlier detection" }
  else
    let recentValues := ewma.recent 20
    let zScore := |value - meanOf recentValues| / (math.sqrt ewma.variance + lit (1/1000))
    { threshold := lit (5/2)
      sensitivity := lit (8/10)
      windowSize := recentValues.length
      isOutlier := decide (lit (5/2) < zScore)
      score := min 1 (zScore / lit (5/2))
      confidence := min (lit (95/100)) (ewma.dataPoints.length / lit 50)
      explanation := "Z-score: " ++ JsNumber.toFixedNumber 2 zScore ++ ", threshold: 2.5" }

-- The state in which a point is judged: stored, the level computed, and its own
-- error already in the variance.
def prepared (point : DataPoint K) : EWMA K :=
  let started := (ewma.store point).initializeWith point.value
  if ewma.config.adaptiveAlpha then started.updateAdaptiveParameters math else started

def judged (point : DataPoint K) : K × EWMA K :=
  let level := (ewma.prepared math point).calculateEWMA math point.value
  (level.1,level.2.updateVariance point.value)

def update (now : ℤ) (point : DataPoint K) : EWMAResult K × EWMA K :=
  let (ewmaValue,state) := ewma.judged math point
  let trend := state.detectTrend math
  let next := { state with
    previousValue := state.currentValue
    currentValue := ewmaValue
    lastUpdate := point.timestamp }
  ({ current :=
       { value := ewmaValue
         timestamp := point.timestamp
         confidence := state.calculateConfidence math now
         trend := trend.direction
         volatility := state.calculateVolatility math
         isOutlier := (state.detectOutlier math point.value).isOutlier }
     previous :=
       { value := next.previousValue
         timestamp := next.lastUpdate
         confidence := next.calculateConfidence math now
         trend := trend.direction
         volatility := next.calculateVolatility math
         isOutlier := false }
     prediction := state.generatePrediction math
     statistics := state.calculateStatistics math
     trend
     anomaly := state.detectAnomaly math point.value ewmaValue },next)

end EWMA

inductive Operation (K : Type) where
  | update (now : ℤ) (point : DataPoint K)
  | reset

def step [Field K] [LinearOrder K] [FloorRing K] (math : JsMath K) (ewma : EWMA K) :
    Operation K → EWMA K × Option (EWMAResult K)
  | .update now point =>
    let updated := ewma.update math now point
    (updated.2,some updated.1)
  | .reset => (ewma.reset,none)

end PhantomFlow.Ewma
