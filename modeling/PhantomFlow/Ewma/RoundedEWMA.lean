import PhantomFlow.Ewma.EWMA
import PhantomFlow.Library.Rounding

namespace PhantomFlow.Ewma.Rounded
open Library

-- What an update returns of its model, its forecast and its two detectors.
structure Result (K : Type) where
  value : K
  prediction : Prediction K
  trend : Trend K
  anomaly : Anomaly K

variable {K : Type} [Field K] (r : Rounding K)

-- The defaults, as the numbers next to the literals.
def getDefaultEWMAConfig : EWMAConfig K where
  variant := .simple
  alpha := r.lit (2/10)
  adaptiveAlpha := false
  minAlpha := r.lit (5/100)
  maxAlpha := r.lit (1/2)
  windowSize := 100
  volatilityThreshold := r.lit (15/100)
  changeDetectionThreshold := r.lit (6/10)

def meanOf (values : List K) : K := r.div (r.sum values) values.length

def spreadOf (values : List K) : K :=
  r.div (r.sum (values.map (fun value => r.mul (r.sub value (meanOf r values)) (r.sub value (meanOf r values)))))
    values.length

def calculateSlope (values : List K) : K :=
  if values.length < 2 then 0
  else
    let n : K := values.length
    let sumX := r.div (r.mul n (r.sub n 1)) (lit 2)
    let sumY := r.sum values
    let sumXY := r.sum (values.zipIdx.map (fun entry => r.mul (entry.2 : K) entry.1))
    let sumX2 := r.div (r.mul (r.mul n (r.sub n 1)) (r.sub (r.mul (lit 2) n) 1)) (lit 6)
    r.div (r.sub (r.mul n sumXY) (r.mul sumX sumY)) (r.sub (r.mul n sumX2) (r.mul sumX sumX))

-- `alpha * value + (1 - alpha) * level`
def blend (alpha value level : K) : K := r.add (r.mul alpha value) (r.mul (r.sub 1 alpha) level)

section State
variable (ewma : EWMA K)

def updateVariance (value : K) : EWMA K :=
  let error := r.sub value ewma.currentValue
  { ewma with variance := blend r ewma.config.alpha (r.mul error error) ewma.variance }

def calculateSimpleEWMA (value alpha : K) : K := blend r alpha value ewma.currentValue

def calculateDoubleEWMA (value alpha : K) : K × EWMA K :=
  let newLevel := blend r alpha value (r.add ewma.currentValue ewma.trendValue)
  (newLevel,{ ewma with trendValue := blend r alpha (r.sub newLevel ewma.currentValue) ewma.trendValue })

variable [LinearOrder K] (math : JsMath K)

def calculateVolatility : K := if ewma.dataPoints.length < 2 then 0 else math.sqrt (spreadOf r (ewma.recent 10))

def detectChangePoint : Bool :=
  if ewma.dataPoints.length < 10 then false
  else
    let recentMean := r.div (r.sum (ewma.recent 5)) (lit 5)
    -- `slice(-15, -5)`
    let historicalMean := r.div (r.sum ((ewma.recent 15).dropLast.dropLast.dropLast.dropLast.dropLast)) (lit 10)
    decide (r.mul (math.sqrt ewma.variance) ewma.config.changeDetectionThreshold < |r.sub recentMean historicalMean|)

def updateAdaptiveParameters : EWMA K :=
  let history := ewma.adaptiveParams.volatilityHistory ++ [calculateVolatility r ewma math]
  let kept := if 100 < history.length then history.drop 1 else history
  { ewma with adaptiveParams := { ewma.adaptiveParams with
    volatilityHistory := kept
    volatilityThreshold :=
      if 20 < kept.length
      then (kept.insertionSort (· ≤ ·)).getD (kept.length * 95 / 100) 0
      else ewma.adaptiveParams.volatilityThreshold } }

def adaptiveFactor : K :=
  if ewma.config.volatilityThreshold < calculateVolatility r ewma math ∨ detectChangePoint r ewma math = true
  then min ewma.config.maxAlpha (r.mul ewma.config.alpha (r.lit (3/2)))
  else max ewma.config.minAlpha (r.mul ewma.config.alpha (r.lit (95/100)))

def calculateAdaptiveEWMA (value : K) : K × EWMA K :=
  (calculateSimpleEWMA r ewma value (adaptiveFactor r ewma math),
    { ewma with adaptiveParams := { ewma.adaptiveParams with alpha := adaptiveFactor r ewma math } })

def calculateEWMA (value : K) : K × EWMA K :=
  let alpha := if ewma.config.adaptiveAlpha then ewma.adaptiveParams.alpha else ewma.config.alpha
  match ewma.config.variant with
  | .simple => (calculateSimpleEWMA r ewma value alpha,ewma)
  | .double => calculateDoubleEWMA r ewma value alpha
  | .adaptive => calculateAdaptiveEWMA r ewma math value

def detectTrend : Trend K :=
  if ewma.dataPoints.length < 5 then ⟨.stable,0,false,0⟩
  else
    let slope := calculateSlope r (ewma.recent 10)
    let slopeThreshold := r.mul (math.sqrt ewma.variance) (r.lit (1/10))
    let direction : TrendDirection :=
      if r.mul ewma.config.volatilityThreshold (lit 2) < calculateVolatility r ewma math then .volatile
      else if |slope| < slopeThreshold then .stable
      else if 0 < slope then .increasing
      else .decreasing
    { direction
      strength := min 1 (r.div |slope| (r.add (math.sqrt ewma.variance) (r.lit (1/1000))))
      changePoint := detectChangePoint r ewma math
      duration := lit 5 }

def calculatePredictionAccuracy : K :=
  if ewma.dataPoints.length < 10 then r.lit (1/2)
  else
    let recentData := ewma.recent 10
    let correctPredictions := (recentData.zip recentData.tail).countP (fun pair =>
      decide (|r.sub pair.1 pair.2| ≤ math.sqrt ewma.variance))
    r.div correctPredictions (r.sub recentData.length 1)

-- Reads the level before this update and, for `double`, the trend after it.
def generatePrediction : Prediction K :=
  let nextValue :=
    if ewma.config.variant = .double then r.add ewma.currentValue ewma.trendValue else ewma.currentValue
  let stdDev := math.sqrt ewma.variance
  { nextValue
    confidence := min (r.lit (95/100)) (calculatePredictionAccuracy r ewma math)
    min := r.sub nextValue (r.mul (lit 2) stdDev)
    max := r.add nextValue (r.mul (lit 2) stdDev) }

def detectAnomaly (actualValue ewmaValue : K) : Anomaly K :=
  let deviation := |r.sub actualValue ewmaValue|
  let threshold := r.mul (math.sqrt ewma.variance) (r.lit (5/2))
  { isAnomalous := decide (threshold < deviation)
    score := min 1 (r.div deviation (r.add threshold (r.lit (1/1000))))
    threshold
    confidence := min (r.lit (95/100)) (r.div ewma.dataPoints.length (lit 30)) }

def prepared (point : DataPoint K) : EWMA K :=
  let started := (ewma.store point).initializeWith point.value
  if ewma.config.adaptiveAlpha then updateAdaptiveParameters r started math else started

def judged (point : DataPoint K) : K × EWMA K :=
  let level := calculateEWMA r (prepared r ewma math point) math point.value
  (level.1,updateVariance r level.2 point.value)

def update (point : DataPoint K) : Result K × EWMA K :=
  let (ewmaValue,state) := judged r ewma math point
  ({ value := ewmaValue
     prediction := generatePrediction r state math
     trend := detectTrend r state math
     anomaly := detectAnomaly r state math point.value ewmaValue },
    { state with
      previousValue := state.currentValue
      currentValue := ewmaValue
      lastUpdate := point.timestamp })

end State

inductive Operation (K : Type) where
  | update (point : DataPoint K)
  | reset

def step [LinearOrder K] (math : JsMath K) (ewma : EWMA K) : Operation K → EWMA K × Option (Result K)
  | .update point =>
    let updated := update r ewma math point
    (updated.2,some updated.1)
  | .reset => (ewma.reset,none)

-- Without rounding it is the smoother over the field.
section Exact
variable (ewma : EWMA K)

theorem blend_exact (alpha value level : K) :
    blend .exact alpha value level = alpha * value + (1 - alpha) * level := rfl

theorem meanOf_exact (values : List K) : meanOf .exact values = Ewma.meanOf values :=
  congrArg (· / (values.length : K)) (Rounding.sum_exact values)

theorem spreadOf_exact (values : List K) : spreadOf .exact values = Ewma.spreadOf values := by
  unfold spreadOf Ewma.spreadOf
  rw [Rounding.sum_exact,meanOf_exact]
  simp only [sq]
  rfl

theorem calculateSlope_exact (values : List K) : calculateSlope .exact values = Ewma.calculateSlope values := by
  unfold calculateSlope Ewma.calculateSlope
  rw [Rounding.sum_exact,Rounding.sum_exact]
  have two : (lit 2 : K) = 2 := by simp
  have six : (lit 6 : K) = 6 := by simp
  rw [two,six]
  rfl

variable (math : JsMath K)

theorem calculateVolatility_exact : calculateVolatility .exact ewma math = ewma.calculateVolatility math := by
  unfold calculateVolatility EWMA.calculateVolatility
  rw [spreadOf_exact]

variable [LinearOrder K]

theorem detectChangePoint_exact : detectChangePoint .exact ewma math = ewma.detectChangePoint math := by
  unfold detectChangePoint EWMA.detectChangePoint
  rw [Rounding.sum_exact,Rounding.sum_exact]
  have five : (lit 5 : K) = 5 := by simp
  have ten : (lit 10 : K) = 10 := by simp
  rw [five,ten]
  rfl

theorem updateAdaptiveParameters_exact :
    updateAdaptiveParameters .exact ewma math = ewma.updateAdaptiveParameters math := by
  unfold updateAdaptiveParameters EWMA.updateAdaptiveParameters
  rw [calculateVolatility_exact]

theorem prepared_exact (point : DataPoint K) : prepared .exact ewma math point = ewma.prepared math point := by
  unfold prepared EWMA.prepared
  simp only [updateAdaptiveParameters_exact]

theorem calculateAdaptiveEWMA_exact (value : K) :
    calculateAdaptiveEWMA .exact ewma math value = ewma.calculateAdaptiveEWMA math value := by
  unfold calculateAdaptiveEWMA adaptiveFactor EWMA.calculateAdaptiveEWMA
  rw [calculateVolatility_exact,detectChangePoint_exact]
  rfl

theorem calculateEWMA_exact (value : K) : calculateEWMA .exact ewma math value = ewma.calculateEWMA math value := by
  unfold calculateEWMA EWMA.calculateEWMA
  rw [calculateAdaptiveEWMA_exact]
  rfl

theorem judged_exact (point : DataPoint K) : judged .exact ewma math point = ewma.judged math point := by
  unfold judged EWMA.judged
  rw [prepared_exact,calculateEWMA_exact]
  rfl

theorem detectTrend_exact : detectTrend .exact ewma math = ewma.detectTrend math := by
  unfold detectTrend EWMA.detectTrend
  rw [calculateSlope_exact,calculateVolatility_exact,detectChangePoint_exact]
  have two : (lit 2 : K) = 2 := by simp
  have five : (lit 5 : K) = 5 := by simp
  rw [two,five]
  rfl

theorem generatePrediction_exact : generatePrediction .exact ewma math = ewma.generatePrediction math := by
  unfold generatePrediction EWMA.generatePrediction calculatePredictionAccuracy EWMA.calculatePredictionAccuracy
  have two : (lit 2 : K) = 2 := by simp
  rw [two]
  rfl

theorem detectAnomaly_exact (actualValue ewmaValue : K) :
    detectAnomaly .exact ewma math actualValue ewmaValue = ewma.detectAnomaly math actualValue ewmaValue := by
  unfold detectAnomaly EWMA.detectAnomaly
  have thirty : (lit 30 : K) = 30 := by simp
  rw [thirty]
  rfl

theorem update_exact [FloorRing K] (now : ℤ) (point : DataPoint K) :
    let result := (ewma.update math now point).1
    update .exact ewma math point =
      (⟨result.current.value,result.prediction,result.trend,result.anomaly⟩,(ewma.update math now point).2) := by
  intro result
  unfold update
  rw [judged_exact]
  simp only [generatePrediction_exact,detectTrend_exact,detectAnomaly_exact]
  rfl

end Exact
end PhantomFlow.Ewma.Rounded
