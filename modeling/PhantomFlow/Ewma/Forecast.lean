import PhantomFlow.Library.BoundedHistory
import PhantomFlow.Library.Machine
import PhantomFlow.Library.RealMath
import PhantomFlow.Ewma.EWMA

namespace PhantomFlow.Ewma
open Library Library.Machine

structure ForecastPoint (K : Type) where
  timestamp : Option ℤ
  value : JsNumber K
  confidence : K
  min : JsNumber K
  max : JsNumber K

structure EWMAForecast (K : Type) where
  horizon : JsNumber K
  predictions : List (ForecastPoint K)
  expected : K
  confidence : K
  assumptions : List String
  limitations : List String

-- The history of the statistical models, which keeps 1000 points.
structure EWMAStatisticalModels (K : Type) where
  dataHistory : List (DataPoint K) := []

def maxHistorySize : ℕ := 1000

section Numbers
variable {K : Type} [Field K] [LinearOrder K]

def calculateLinearTrend (values : List K) : K := calculateSlope values

def calculateVariance (values : List K) : K := if values.length < 2 then 0 else spreadOf values

def getConfidenceMultiplier (confidence : K) : K :=
  if lit (99/100) ≤ confidence then lit (2576/1000)
  else if lit (95/100) ≤ confidence then lit (196/100)
  else if lit (90/100) ≤ confidence then lit (1645/1000)
  else if lit (80/100) ≤ confidence then lit (1282/1000)
  else 1

def calculateForecastAccuracy (values : List K) : K :=
  if values.length < 10 then lit (6/10)
  else
    let recentTrend := calculateLinearTrend (values.rtake 10)
    let overallTrend := calculateLinearTrend values
    let trendConsistency := 1 - |recentTrend - overallTrend| / (|overallTrend| + lit (1/1000))
    max (lit (3/10)) (min (lit (9/10)) trendConsistency)

variable [FloorRing K]

-- A `Date` from a number: towards zero, and invalid beyond the range of dates.
def timeClip : JsNumber K → Option ℤ
  | .finite time => if |time| ≤ lit 8640000000000000 then some (if 0 ≤ time then ⌊time⌋ else ⌈time⌉) else none
  | _ => none

def intervalMinutes (horizonMinutes : JsNumber K) : JsNumber K :=
  (JsNumber.finite 1).max (horizonMinutes.quotient (.finite 10)).floor

end Numbers

namespace EWMAStatisticalModels
variable {K : Type} (models : EWMAStatisticalModels K)

def addDataPoint (dataPoint : DataPoint K) : EWMAStatisticalModels K :=
  let grown := models.dataHistory ++ [dataPoint]
  ⟨if maxHistorySize < grown.length then grown.rtake maxHistorySize else grown⟩

variable [Field K] [LinearOrder K] [FloorRing K] (math : JsMath K)

def getDefaultForecast (now : ℤ) (horizonMinutes : JsNumber K) : EWMAForecast K where
  horizon := horizonMinutes
  predictions := [{
    timestamp := timeClip ((JsNumber.finite (now : K)).add ((horizonMinutes.mul (.finite 60)).mul (.finite 1000)))
    value := .finite 0
    confidence := lit (3/10)
    min := .finite (-1)
    max := .finite 1 }]
  expected := lit (3/10)
  confidence := lit (3/10)
  assumptions := ["Insufficient data for reliable forecast"]
  limitations := ["Requires more historical data for accurate predictions"]

def predict (confidence trend stdDev : K) (last : DataPoint K) (horizonMinutes : JsNumber K) (i : ℕ) : ForecastPoint K :=
  let futureMinutes := (JsNumber.finite (i : K)).mul (intervalMinutes horizonMinutes)
  let predictedValue := (JsNumber.finite last.value).add ((JsNumber.finite trend).mul futureMinutes)
  let margin := getConfidenceMultiplier confidence * stdDev
  { timestamp :=
      timeClip ((JsNumber.finite (last.timestamp : K)).add ((futureMinutes.mul (.finite 60)).mul (.finite 1000)))
    value := predictedValue
    confidence := max (lit (1/10)) (confidence - i * lit (5/100))
    min := predictedValue.sub (.finite margin)
    max := predictedValue.add (.finite margin) }

def forecastFrom (confidence : K) (horizonMinutes : JsNumber K) (values : List K) (last : DataPoint K) :
    EWMAForecast K where
  horizon := horizonMinutes
  predictions := (List.range 10).map (fun k => predict confidence (calculateLinearTrend values)
    (math.sqrt (calculateVariance values)) last horizonMinutes (k + 1))
  expected := calculateForecastAccuracy values
  confidence
  assumptions := ["Linear trend continuation","Constant variance assumption","No external shocks or regime changes"]
  limitations := ["Basic linear model - may not capture complex patterns",
    "Accuracy decreases with longer forecast horizons","Does not account for seasonal patterns"]

def generateForecast (now : ℤ) (horizonMinutes : JsNumber K) (confidence : K) : EWMAForecast K :=
  if models.dataHistory.length < 20 then getDefaultForecast now horizonMinutes
  else
    let recentData := models.dataHistory.rtake 50
    match recentData.getLast? with
    | some last => forecastFrom math confidence horizonMinutes (recentData.map DataPoint.value) last
    | none => getDefaultForecast now horizonMinutes

end EWMAStatisticalModels

structure ForecastCall (K : Type) where
  now : ℤ
  dataPoints : List (DataPoint K)
  horizonMinutes : JsNumber K

section Runs
variable {K : Type} [Field K] [LinearOrder K] [FloorRing K] (math : JsMath K)

def forecastStep (models : EWMAStatisticalModels K) (call : ForecastCall K) :
    EWMAStatisticalModels K × EWMAForecast K :=
  let fed := call.dataPoints.foldl EWMAStatisticalModels.addDataPoint models
  (fed,fed.generateForecast math call.now call.horizonMinutes (lit (8/10)))

-- No earlier points, too few points in all, or enough of them in the call itself.
def Undisturbed (earlier : List (DataPoint K)) (call : ForecastCall K) : Prop :=
  earlier = [] ∨ earlier.length + call.dataPoints.length < 20 ∨ 50 ≤ call.dataPoints.length

-- The history is the last 1000 of all points that were ever given.
section History
variable {math} {models : EWMAStatisticalModels K}

omit [Field K] [LinearOrder K] [FloorRing K] in
theorem addDataPoint_history (models : EWMAStatisticalModels K) (dataPoint : DataPoint K) :
    (models.addDataPoint dataPoint).dataHistory = (models.dataHistory ++ [dataPoint]).rtake maxHistorySize := by
  simp only [EWMAStatisticalModels.addDataPoint]
  split
  · rfl
  · rename_i short
    rw [rtake_of_length_le (Nat.le_of_not_lt short)]

omit [Field K] [LinearOrder K] [FloorRing K] in
theorem fed_history (kept : models.dataHistory = all.rtake maxHistorySize) (added : List (DataPoint K)) :
    (added.foldl EWMAStatisticalModels.addDataPoint models).dataHistory = (all ++ added).rtake maxHistorySize := by
  induction added generalizing models all with
  | nil => rw [List.foldl_nil,List.append_nil,kept]
  | cons point rest ih =>
      have next : (models.addDataPoint point).dataHistory = (all ++ [point]).rtake maxHistorySize := by
        rw [addDataPoint_history,kept,rtake_append_rtake _ _ (le_refl _)]
      rw [List.foldl_cons,ih next,List.append_assoc,List.singleton_append]

theorem history_of_calls (kept : models.dataHistory = all.rtake maxHistorySize) (calls : List (ForecastCall K)) :
    (exec (forecastStep math) models calls).1.dataHistory =
      (all ++ calls.flatMap ForecastCall.dataPoints).rtake maxHistorySize := by
  induction calls generalizing models all with
  | nil => rw [exec_nil,List.flatMap_nil,List.append_nil,kept]
  | cons call rest ih =>
      have fed : (forecastStep math models call).1.dataHistory = (all ++ call.dataPoints).rtake maxHistorySize :=
        fed_history kept call.dataPoints
      rw [exec_cons,ih fed,List.flatMap_cons,List.append_assoc]

end History

def forecastOf (all : List (DataPoint K)) (now : ℤ) (horizonMinutes : JsNumber K) : EWMAForecast K :=
  (EWMAStatisticalModels.mk all).generateForecast math now horizonMinutes (lit (8/10))

theorem forecastStep_forecast {models : EWMAStatisticalModels K}
    (kept : models.dataHistory = all.rtake maxHistorySize) (call : ForecastCall K) :
    (forecastStep math models call).2 = forecastOf math (all ++ call.dataPoints) call.now call.horizonMinutes := by
  have fed := fed_history kept call.dataPoints
  have fewer : 50 ≤ maxHistorySize := by decide
  simp only [forecastStep,forecastOf,EWMAStatisticalModels.generateForecast]
  rw [fed,length_rtake,rtake_rtake _ fewer]
  have few : min maxHistorySize (all ++ call.dataPoints).length < 20 ↔ (all ++ call.dataPoints).length < 20 := by
    have large : 20 ≤ maxHistorySize := by decide
    omega
  simp only [few]

omit [Field K] [LinearOrder K] [FloorRing K] in
theorem getLast?_window (earlier : List (DataPoint K)) {points : List (DataPoint K)} (some : points ≠ []) :
    ((earlier ++ points).rtake 50).getLast? = points.getLast? := by
  have positive := List.length_pos_iff.mpr some
  have inside : ¬ (earlier ++ points).length ≤ (earlier ++ points).length - 50 := by
    rw [List.length_append]
    omega
  rw [List.rtake,List.getLast?_drop,if_neg inside,List.getLast?_append,Option.or_of_isSome]
  rw [List.getLast?_isSome]
  exact some

section Comparison
variable {math}

theorem forecastOf_few {all : List (DataPoint K)} (few : all.length < 20) (now : ℤ) (horizonMinutes : JsNumber K) :
    forecastOf math all now horizonMinutes = EWMAStatisticalModels.getDefaultForecast now horizonMinutes := by
  rw [forecastOf,EWMAStatisticalModels.generateForecast,if_pos few]

theorem forecastOf_enough {all : List (DataPoint K)} (enough : 20 ≤ all.length)
    (found : (all.rtake 50).getLast? = some last) (now : ℤ) (horizonMinutes : JsNumber K) :
    forecastOf math all now horizonMinutes = EWMAStatisticalModels.forecastFrom math (lit (8/10)) horizonMinutes
      ((all.rtake 50).map DataPoint.value) last := by
  rw [forecastOf,EWMAStatisticalModels.generateForecast,if_neg (Nat.not_lt.mpr enough)]
  simp only [found]

theorem default_ne_forecastFrom (now : ℤ) (horizonMinutes : JsNumber K) (confidence : K) (values : List K)
    (last : DataPoint K) :
    EWMAStatisticalModels.forecastFrom math confidence horizonMinutes values last ≠
      EWMAStatisticalModels.getDefaultForecast now horizonMinutes := by
  intro same
  have lengths := congrArg (fun forecast => forecast.predictions.length) same
  simp [EWMAStatisticalModels.forecastFrom,EWMAStatisticalModels.getDefaultForecast] at lengths

theorem forecastOf_undisturbed {earlier : List (DataPoint K)} {call : ForecastCall K}
    (undisturbed : Undisturbed earlier call) :
    forecastOf math (earlier ++ call.dataPoints) call.now call.horizonMinutes =
      forecastOf math call.dataPoints call.now call.horizonMinutes := by
  rcases undisturbed with none | few | many
  · rw [none,List.nil_append]
  · rw [forecastOf_few (by rw [List.length_append]; omega),forecastOf_few (by omega)]
  · have some : call.dataPoints ≠ [] := List.ne_nil_of_length_pos (by omega)
    obtain ⟨last,found⟩ := Option.isSome_iff_exists.mp (List.getLast?_isSome.mpr some)
    have window := (getLast?_window earlier some).trans found
    have alone := (getLast?_window [] some).trans found
    rw [List.nil_append] at alone
    rw [forecastOf_enough (by rw [List.length_append]; omega) window,forecastOf_enough (by omega) alone,
      rtake_append_of_le many]

-- Too few points of its own, and enough with the earlier ones: one prediction has
-- become ten.
theorem forecastOf_disturbed {earlier : List (DataPoint K)} {call : ForecastCall K}
    (few : call.dataPoints.length < 20) (disturbed : ¬ Undisturbed earlier call) :
    forecastOf math (earlier ++ call.dataPoints) call.now call.horizonMinutes ≠
      forecastOf math call.dataPoints call.now call.horizonMinutes := by
  obtain ⟨_,others⟩ := not_or.mp disturbed
  have total : (earlier ++ call.dataPoints).length = earlier.length + call.dataPoints.length := List.length_append
  have enough : 20 ≤ (earlier ++ call.dataPoints).length := by omega
  have some : earlier ++ call.dataPoints ≠ [] := List.ne_nil_of_length_pos (by omega)
  obtain ⟨last,found⟩ := Option.isSome_iff_exists.mp (List.getLast?_isSome.mpr some)
  have window := (getLast?_window [] some).trans found
  rw [List.nil_append] at window
  rw [forecastOf_enough enough window,forecastOf_few few]
  exact default_ne_forecastFrom _ _ _ _ _

end Comparison

-- Earlier calls leave no trace where the condition holds. Without it, a list of
-- fewer than 20 points always shows them; one of 20 to 49 may by its numbers not.
theorem forecast_independent (earlier : List (ForecastCall K)) (call : ForecastCall K) :
    let again := (forecastStep math (exec (forecastStep math) {} earlier).1 call).2
    let undisturbed := Undisturbed (earlier.flatMap ForecastCall.dataPoints) call
    (undisturbed → again = (forecastStep math {} call).2) ∧
      (call.dataPoints.length < 20 ∨ 50 ≤ call.dataPoints.length →
        (again = (forecastStep math {} call).2 ↔ undisturbed)) := by
  intro again undisturbed
  have fresh : ({} : EWMAStatisticalModels K).dataHistory = ([] : List (DataPoint K)).rtake maxHistorySize :=
    (List.rtake_nil maxHistorySize).symm
  have all : again = forecastOf math (earlier.flatMap ForecastCall.dataPoints ++ call.dataPoints) call.now
      call.horizonMinutes := by
    have history : (exec (forecastStep math) {} earlier).1.dataHistory =
        ([] ++ earlier.flatMap ForecastCall.dataPoints).rtake maxHistorySize := history_of_calls fresh earlier
    rw [List.nil_append] at history
    exact forecastStep_forecast math history call
  have alone : (forecastStep math {} call).2 = forecastOf math call.dataPoints call.now call.horizonMinutes :=
    forecastStep_forecast math fresh call
  rw [all,alone]
  refine ⟨forecastOf_undisturbed,?_⟩
  rintro (few | many)
  · refine ⟨fun same => ?_,forecastOf_undisturbed⟩
    by_contra disturbed
    exact forecastOf_disturbed few disturbed same
  · exact ⟨fun _ => .inr (.inr many),forecastOf_undisturbed⟩

end Runs

-- Ten points a minute apart.
noncomputable def tenPoints : ForecastCall ℝ :=
  ⟨600000,(List.range 10).map (fun k : ℕ => ⟨k,60000 * k⟩),.finite 1⟩

theorem forecast_independent_while_few :
    (forecastStep realMath (exec (forecastStep realMath) {} [⟨0,[⟨5,0⟩],.finite 60⟩]).1 tenPoints).2 =
      (forecastStep realMath {} tenPoints).2 := by
  apply (forecast_independent realMath [⟨0,[⟨5,0⟩],.finite 60⟩] tenPoints).1
  exact .inr (.inl (by simp [tenPoints]))

-- The same list again: with the points of the first call there are twenty.
theorem second_forecast_differs :
    (forecastStep realMath {} tenPoints).2.predictions.length = 1 ∧
      (forecastStep realMath (forecastStep realMath {} tenPoints).1 tenPoints).2.predictions.length = 10 := by
  have fresh : ({} : EWMAStatisticalModels ℝ).dataHistory = ([] : List (DataPoint ℝ)).rtake maxHistorySize :=
    (List.rtake_nil maxHistorySize).symm
  have fed : (forecastStep realMath {} tenPoints).1.dataHistory = ([] ++ tenPoints.dataPoints).rtake maxHistorySize :=
    fed_history fresh tenPoints.dataPoints
  have ten : tenPoints.dataPoints.length = 10 := by simp [tenPoints]
  have some : tenPoints.dataPoints ≠ [] := List.ne_nil_of_length_pos (by omega)
  obtain ⟨last,found⟩ := Option.isSome_iff_exists.mp (List.getLast?_isSome.mpr some)
  constructor
  · rw [forecastStep_forecast realMath fresh,List.nil_append,forecastOf_few (by omega)]
    rfl
  · rw [forecastStep_forecast realMath fed,List.nil_append,
      forecastOf_enough (by rw [List.length_append]; omega) ((getLast?_window _ some).trans found)]
    simp [EWMAStatisticalModels.forecastFrom]

end PhantomFlow.Ewma
