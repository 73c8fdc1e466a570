import Mathlib.Tactic.Linarith
import PhantomFlow.Library.Averages
import PhantomFlow.Library.RealMath
import PhantomFlow.Cardinality.VisitorInsights

namespace PhantomFlow.Cardinality
open Library

inductive PatternType where
  | steady | growing | declining | seasonal | spiky
  deriving DecidableEq

structure PatternCharacteristics (K : Type) where
  averageGrowthRate : JsNumber K
  peakTimes : List String
  lowTimes : List String
  seasonality : K

structure PatternPrediction (K : Type) where
  nextPeriod : JsNumber K
  confidence : K
  lowest : JsNumber K
  highest : JsNumber K

structure VisitorPattern (K : Type) where
  type : PatternType
  confidence : K
  description : String
  characteristics : PatternCharacteristics K
  predictions : PatternPrediction K

namespace HLLAnalytics
variable {K : Type} [Field K] [LinearOrder K]

-- A value after a zero has no rate.
def calculateGrowthRates (values : List (JsNumber K)) : List (JsNumber K) :=
  (values.zip values.tail).filterMap (fun (before,value) =>
    if (JsNumber.finite 0).lt before then some (((value.sub before).quotient before).mul (.finite (lit 100))) else none)

def calculateVariance (values : List (JsNumber K)) : JsNumber K :=
  if values.length < 2 then .finite 0 else variance values

section Detection
variable [FloorRing K] (math : JsMath K)

def patternTypeOf (cardinalities : List (JsNumber K)) (avgGrowthRate : JsNumber K) : PatternType :=
  if avgGrowthRate.abs.lt (.finite (lit 2)) then .steady
  else if (JsNumber.finite (lit 10)).lt avgGrowthRate then .growing
  else if avgGrowthRate.lt (.finite (lit (-10))) then .declining
  else if (JsNumber.finite (lit (1/2))).lt
      (((calculateVariance cardinalities).squareRoot math.sqrt).quotient (mean cardinalities)) then .spiky
  else .seasonal

def generatePatternDescription (growthRate : JsNumber K) : PatternType → String
  | .growing => "Consistent growth pattern with " ++ growthRate.toFixed 1 ++ "% average increase"
  | .declining => "Declining pattern with " ++ growthRate.abs.toFixed 1 ++ "% average decrease"
  | .spiky => "Irregular spiky pattern with high variability"
  | .seasonal => "Seasonal pattern with predictable peaks and valleys"
  | .steady => "Stable pattern with minimal variation"

def predictNextPeriod (values : List (JsNumber K)) (avgGrowthRate : JsNumber K) : PatternPrediction K :=
  let lastValue := values.getLast?.getD .nan
  let predictedValue := lastValue.mul ((JsNumber.finite 1).add (avgGrowthRate.quotient (.finite (lit 100))))
  let margin := predictedValue.mul (.finite (lit (2/10)))
  { nextPeriod := predictedValue.round
    confidence := lit (7/10)
    lowest := (predictedValue.sub margin).round
    highest := (predictedValue.add margin).round }

-- The hours and the seasonality are fixed in the source.
def detectVisitorPattern (analytics : HLLAnalytics K) (metric : String) (dataPoints : ℕ) : VisitorPattern K :=
  let historical := analytics.getHistoricalData metric dataPoints
  if historical.length < 3 then
    { type := .steady
      confidence := lit (1/2)
      description := "Insufficient data for pattern analysis"
      characteristics := ⟨.finite 0,[],[],0⟩
      predictions := ⟨(historical.getLast?.map TimeSeriesCardinality.cardinality).getD (.finite 0),lit (1/2),
        .finite 0,.finite 0⟩ }
  else
    let cardinalities := historical.map TimeSeriesCardinality.cardinality
    let avgGrowthRate := mean (calculateGrowthRates cardinalities)
    let patternType := patternTypeOf math cardinalities avgGrowthRate
    { type := patternType
      confidence := lit (8/10)
      description := generatePatternDescription avgGrowthRate patternType
      characteristics := ⟨avgGrowthRate,["09:00","14:00","20:00"],["03:00","06:00","23:00"],lit (3/10)⟩
      predictions := predictNextPeriod cardinalities avgGrowthRate }

end Detection

section Numbers

omit [LinearOrder K] in
theorem sum_finite (values : List K) (start : K) :
    (values.map JsNumber.finite).foldl JsNumber.add (.finite start) = .finite (start + values.sum) := by
  induction values generalizing start with
  | nil => simp
  | cons value rest ih => simp only [List.map_cons,List.foldl_cons,JsNumber.add,ih,List.sum_cons,add_assoc]

variable [IsStrictOrderedRing K]

theorem mean_finite {values : List K} (some' : values ≠ []) :
    mean (values.map JsNumber.finite) = .finite (average values) := by
  have length : ((values.map JsNumber.finite).length : K) ≠ 0 := by
    rw [List.length_map]
    exact ne_of_gt (length_pos_cast some')
  rw [mean,sum_finite,zero_add,JsNumber.quotient,JsNumber.div,if_pos length,List.length_map,average]

omit [IsStrictOrderedRing K] in
theorem mean_nil : mean ([] : List (JsNumber K)) = .nan := by
  simp [mean,JsNumber.quotient,JsNumber.div]

theorem variance_finite {values : List K} (some' : values ≠ []) :
    variance (values.map JsNumber.finite) = .finite (spread values) := by
  have squares : (values.map JsNumber.finite).map (fun value => (value.sub (mean (values.map JsNumber.finite))).mul
      (value.sub (mean (values.map JsNumber.finite)))) =
      (values.map (fun value => (value - average values) * (value - average values))).map JsNumber.finite := by
    rw [mean_finite some',List.map_map,List.map_map]
    apply List.map_congr_left
    intro value _
    simp only [Function.comp_apply,JsNumber.sub,JsNumber.neg,JsNumber.add,JsNumber.mul,sub_eq_add_neg]
  rw [variance,squares,mean_finite (by simpa using some'),spread]

end Numbers

section Rates

def steps (values : List K) : List (K × K) := values.zip values.tail

def rates (values : List K) : List K :=
  (steps values).filterMap (fun (before,value) => if 0 < before then some ((value - before) / before * lit 100) else none)

theorem calculateGrowthRates_finite (values : List K) :
    calculateGrowthRates (values.map JsNumber.finite) = (rates values).map JsNumber.finite := by
  rw [calculateGrowthRates,rates,steps,← List.map_tail,List.zip_map,List.filterMap_map,List.map_filterMap]
  congr 1
  funext pair
  obtain ⟨before,value⟩ := pair
  by_cases positive : 0 < before
  · simp [JsNumber.lt,positive,JsNumber.sub,JsNumber.neg,JsNumber.add,JsNumber.quotient,JsNumber.div,
      ne_of_gt positive,JsNumber.mul,sub_eq_add_neg]
  · simp [JsNumber.lt,positive]

omit [Field K] [LinearOrder K] in
theorem steps_fst (values : List K) : (steps values).map Prod.fst = values.dropLast := by
  induction values with
  | nil => rfl
  | cons first rest ih =>
      cases rest with
      | nil => rfl
      | cons second others =>
          rw [List.dropLast_cons_cons,← ih]
          rfl

theorem rates_nonempty_iff (values : List K) : rates values ≠ [] ↔ ∃ value ∈ values.dropLast, 0 < value := by
  constructor
  · intro some'
    obtain ⟨rate,listed⟩ := List.exists_mem_of_ne_nil _ some'
    obtain ⟨pair,here,found⟩ := List.mem_filterMap.mp listed
    refine ⟨pair.1,?_,?_⟩
    · rw [← steps_fst]
      exact List.mem_map_of_mem here
    · by_contra none
      simp [none] at found
  · rintro ⟨value,here,positive⟩
    rw [← steps_fst] at here
    obtain ⟨pair,listed,rfl⟩ := List.mem_map.mp here
    exact List.ne_nil_of_mem (List.mem_filterMap.mpr ⟨pair,listed,by simp [positive]; rfl⟩)

theorem rates_constant {values : List K} (same : ∀ value ∈ values, value = constant) :
    ∀ rate ∈ rates values, rate = 0 := by
  intro rate listed
  obtain ⟨⟨before,value⟩,here,found⟩ := List.mem_filterMap.mp listed
  have inside : before ∈ values ∧ value ∈ values :=
    ⟨(List.of_mem_zip here).1,List.mem_of_mem_tail (List.of_mem_zip here).2⟩
  simp only [same before inside.1,same value inside.2,sub_self,zero_div,zero_mul] at found
  split at found
  · cases found; rfl
  · cases found

end Rates

section History
variable [FloorRing K] (math : JsMath K)

def recent (data : List (TimeSeriesCardinality K)) (points : ℕ) : List (TimeSeriesCardinality K) :=
  if points = 0 then data else data.rtake points

def Counted (data : List (TimeSeriesCardinality K)) : Prop :=
  ∀ point ∈ data, ∃ value, point.cardinality = .finite value ∧ 0 ≤ value

def Constant (data : List (TimeSeriesCardinality K)) (value : K) : Prop := ∀ point ∈ data, point.cardinality = .finite value

def Positive (point : TimeSeriesCardinality K) : Prop := (JsNumber.finite 0).lt point.cardinality = true

structure Numeric (pattern : VisitorPattern K) : Prop where
  averageGrowthRate : ∃ rate, pattern.characteristics.averageGrowthRate = .finite rate
  nextPeriod : ∃ value, pattern.predictions.nextPeriod = .finite value
  lowest : ∃ value, pattern.predictions.lowest = .finite value
  highest : ∃ value, pattern.predictions.highest = .finite value

-- Of every metric with that history: its pattern is numeric, and steady where the
-- history is constant, and its analyses have a volatility.
def PatternsNumeric (dataPoints comparisonPeriods : ℕ) (data : List (TimeSeriesCardinality K)) : Prop :=
  ∀ analytics : HLLAnalytics K,
    (∀ metric, analytics.historicalData.get metric = some data →
      Numeric (analytics.detectVisitorPattern math metric dataPoints) ∧
      ∀ value, Constant data value → (analytics.detectVisitorPattern math metric dataPoints).type = .steady ∧
        (analytics.detectVisitorPattern math metric dataPoints).predictions.nextPeriod = .finite value) ∧
    ∀ (metric : TrackingType) now timeWindowMs tracker analysis, analytics.historicalData.get metric.name = some data →
      (analytics.analyzeVisitorTrends math now metric timeWindowMs comparisonPeriods tracker).1 = .ok analysis →
        ∃ volatility, analysis.volatility = .finite volatility

structure Dividable (dataPoints comparisonPeriods : ℕ) (data : List (TimeSeriesCardinality K)) : Prop where
  rates : 3 ≤ (recent data dataPoints).length → ∃ point ∈ (recent data dataPoints).dropLast, Positive point
  whole : 3 ≤ (recent data dataPoints).length → ∀ value, Constant data value → ∃ n : ℤ, value = n
  mean : 2 ≤ (recent data comparisonPeriods).length → ∃ point ∈ recent data comparisonPeriods, Positive point

omit [Field K] [LinearOrder K] [FloorRing K] in
theorem mem_recent {data : List (TimeSeriesCardinality K)} (here : point ∈ recent data points) : point ∈ data := by
  unfold recent at here
  split at here
  · exact here
  · exact List.mem_of_mem_drop here

omit [FloorRing K] in
theorem counted_values {data : List (TimeSeriesCardinality K)} (counted : Counted data) :
    ∃ values : List K, data.map TimeSeriesCardinality.cardinality = values.map JsNumber.finite ∧
      ∀ value ∈ values, 0 ≤ value := by
  induction data with
  | nil => exact ⟨[],rfl,by simp⟩
  | cons point rest ih =>
      obtain ⟨value,found,nonneg⟩ := counted point (by simp)
      obtain ⟨values,listed,all⟩ := ih (fun other here => counted other (List.mem_cons_of_mem _ here))
      exact ⟨value :: values,by rw [List.map_cons,List.map_cons,found,listed],by simpa [nonneg] using all⟩

end History

section Patterns
variable [FloorRing K] [IsStrictOrderedRing K] (math : JsMath K) {values : List K}

omit [FloorRing K] [IsStrictOrderedRing K] in
theorem positive_iff {data : List (TimeSeriesCardinality K)}
    (listed : data.map TimeSeriesCardinality.cardinality = values.map JsNumber.finite) :
    (∃ point ∈ data, Positive point) ↔ ∃ value ∈ values, 0 < value := by
  have members : (∃ point ∈ data, Positive point) ↔
      ∃ count ∈ data.map TimeSeriesCardinality.cardinality, (JsNumber.finite 0).lt count = true := by
    simp [Positive]
  rw [members,listed]
  simp [JsNumber.lt]

omit [IsStrictOrderedRing K] in
theorem predictNextPeriod_finite (some' : values ≠ []) (avgGrowthRate : K) :
    predictNextPeriod (values.map JsNumber.finite) (.finite avgGrowthRate) =
      let predictedValue := values.getLast some' * (1 + avgGrowthRate / lit 100)
      ⟨(JsNumber.finite predictedValue).round,lit (7/10),
        (JsNumber.finite (predictedValue - predictedValue * lit (2/10))).round,
        (JsNumber.finite (predictedValue + predictedValue * lit (2/10))).round⟩ := by
  have last : (values.map JsNumber.finite).getLast?.getD .nan = .finite (values.getLast some') := by
    rw [List.getLast?_map,List.getLast?_eq_some_getLast some']
    rfl
  have share : (JsNumber.finite avgGrowthRate).quotient (.finite (lit 100)) = .finite (avgGrowthRate / lit 100) := by
    rw [JsNumber.quotient,JsNumber.div,if_pos (by simp)]
  simp only [predictNextPeriod,last,share,JsNumber.add,JsNumber.mul,JsNumber.sub,JsNumber.neg,sub_eq_add_neg]

omit [Field K] [LinearOrder K] [FloorRing K] [IsStrictOrderedRing K] in
theorem values_nonempty {data : List (TimeSeriesCardinality K)} (enough : 0 < data.length)
    (listed : data.map TimeSeriesCardinality.cardinality = values.map JsNumber.finite) : values ≠ [] := by
  rintro rfl
  rw [List.map_nil,List.map_eq_nil_iff] at listed
  rw [listed] at enough
  exact Nat.lt_irrefl 0 enough

theorem numeric_iff (analytics : HLLAnalytics K) (metric : String) (dataPoints : ℕ)
    (long : ¬ (analytics.getHistoricalData metric dataPoints).length < 3)
    (listed : (analytics.getHistoricalData metric dataPoints).map TimeSeriesCardinality.cardinality =
      values.map JsNumber.finite) :
    Numeric (analytics.detectVisitorPattern math metric dataPoints) ↔ rates values ≠ [] := by
  have some' := values_nonempty (by omega) listed
  rw [detectVisitorPattern]
  simp only [if_neg long,listed,calculateGrowthRates_finite]
  constructor
  · rintro ⟨⟨rate,found⟩,-,-,-⟩ none
    rw [none,List.map_nil,mean_nil] at found
    cases found
  · intro rated
    rw [mean_finite rated,predictNextPeriod_finite some']
    exact ⟨⟨_,rfl⟩,⟨_,rfl⟩,⟨_,rfl⟩,⟨_,rfl⟩⟩

theorem constant_pattern (analytics : HLLAnalytics K) (metric : String) (dataPoints : ℕ)
    (long : ¬ (analytics.getHistoricalData metric dataPoints).length < 3)
    (listed : (analytics.getHistoricalData metric dataPoints).map TimeSeriesCardinality.cardinality =
      values.map JsNumber.finite) (rated : rates values ≠ []) (same : ∀ other ∈ values, other = value) :
    (analytics.detectVisitorPattern math metric dataPoints).type = .steady ∧
      (analytics.detectVisitorPattern math metric dataPoints).predictions.nextPeriod =
        .finite ((⌊value + lit (1/2)⌋ : ℤ) : K) := by
  have some' : values ≠ [] := by
    rintro rfl
    exact rated rfl
  have last := same (values.getLast some') (List.getLast_mem some')
  rw [detectVisitorPattern]
  simp only [if_neg long,listed,calculateGrowthRates_finite]
  rw [mean_finite rated,average_constant rated (rates_constant same),predictNextPeriod_finite some',last]
  constructor
  · simp [patternTypeOf,JsNumber.abs,JsNumber.lt]
  · simp [JsNumber.round]

omit [FloorRing K] in
theorem volatility_iff {data : List (TimeSeriesCardinality K)} (counts : ∀ value ∈ values, 0 ≤ value)
    (listed : data.map TimeSeriesCardinality.cardinality = values.map JsNumber.finite) :
    (∃ volatility, calculateVolatility math data = .finite volatility) ↔
      (2 ≤ data.length → ∃ value ∈ values, 0 < value) := by
  rw [calculateVolatility]
  by_cases short : data.length < 2
  · simp [short]
  · have some' := values_nonempty (by omega) listed
    have enough : 2 ≤ data.length := by omega
    simp only [if_neg short,listed]
    rw [mean_finite some',variance_finite some',JsNumber.squareRoot,if_pos (spread_nonneg values),
      ← average_pos_iff counts,JsNumber.quotient,JsNumber.div]
    constructor
    · rintro ⟨volatility,found⟩ _
      apply lt_of_le_of_ne (average_nonneg counts)
      intro zero
      rw [if_neg (not_not.mpr zero.symm)] at found
      split at found
      · cases found
      · split at found <;> cases found
    · intro positive
      rw [if_pos (ne_of_gt (positive enough))]
      exact ⟨_,rfl⟩

omit [IsStrictOrderedRing K] in
theorem analyzed_volatility {analytics : HLLAnalytics K} {tracker : VisitorTracker K}
    (answered : (analytics.analyzeVisitorTrends math now metric timeWindowMs comparisonPeriods tracker).1 = .ok analysis) :
    analysis.volatility = calculateVolatility math (analytics.getHistoricalData metric.name comparisonPeriods) := by
  unfold analyzeVisitorTrends at answered
  dsimp only at answered
  split at answered
  · cases answered
  · cases answered
    rfl

omit [IsStrictOrderedRing K] in
theorem analyzed_tracked (analytics : HLLAnalytics K) (metric : TrackingType) (comparisonPeriods : ℕ) :
    ∃ tracker analysis, (analytics.analyzeVisitorTrends math 0 metric 0 comparisonPeriods tracker).1 = .ok analysis := by
  let tracker : VisitorTracker K := ⟨⟨true,true,true,true,true,[],true⟩,
    OrderedMap.empty.set metric (.initial ⟨4,.murmur3,true,true,10⟩),.empty⟩
  have counted : ∃ estimate, (tracker.getCardinality math metric (some 0)).1 = some estimate := by
    have kept : tracker.hlls.get metric = some (.initial ⟨4,.murmur3,true,true,10⟩) := OrderedMap.get_set_self _ _ _
    simp [VisitorTracker.getCardinality,kept,Option.filter]
  obtain ⟨estimate,found⟩ := counted
  refine ⟨tracker,?_⟩
  simp only [analyzeVisitorTrends,found]
  exact ⟨_,rfl⟩

omit [Field K] [LinearOrder K] [IsStrictOrderedRing K] [FloorRing K] in
theorem getHistoricalData_stored {analytics : HLLAnalytics K} (stored : analytics.historicalData.get metric = some data)
    (points : ℕ) : analytics.getHistoricalData metric points = recent data points := by
  rw [getHistoricalData,stored]
  rfl

omit [Field K] [LinearOrder K] [IsStrictOrderedRing K] [FloorRing K] in
theorem recent_nonempty {data : List (TimeSeriesCardinality K)} (some' : data ≠ []) (points : ℕ) :
    recent data points ≠ [] := by
  unfold recent
  split
  · exact some'
  · rename_i asked
    have cut : (data.rtake points).length ≠ 0 := by
      rw [length_rtake]
      have positive := List.length_pos_of_ne_nil some'
      omega
    exact fun none => cut (List.length_eq_zero_iff.mpr none)

omit [IsStrictOrderedRing K] in
theorem short_pattern {data : List (TimeSeriesCardinality K)} (counted : Counted data) (some' : data ≠ [])
    (short : (recent data dataPoints).length < 3) {analytics : HLLAnalytics K}
    (stored : analytics.historicalData.get metric = some data) :
    Numeric (analytics.detectVisitorPattern math metric dataPoints) ∧
      ∀ value, Constant data value → (analytics.detectVisitorPattern math metric dataPoints).type = .steady ∧
        (analytics.detectVisitorPattern math metric dataPoints).predictions.nextPeriod = .finite value := by
  have seen := recent_nonempty some' dataPoints
  have last : (recent data dataPoints).getLast? = some ((recent data dataPoints).getLast seen) :=
    List.getLast?_eq_some_getLast seen
  have listed : (recent data dataPoints).getLast seen ∈ data := mem_recent (List.getLast_mem seen)
  rw [detectVisitorPattern]
  simp only [getHistoricalData_stored stored,if_pos short,last,Option.map_some,Option.getD_some]
  obtain ⟨value,found,-⟩ := counted _ listed
  exact ⟨⟨⟨_,rfl⟩,⟨value,found⟩,⟨_,rfl⟩,⟨_,rfl⟩⟩,fun value constant => ⟨trivial,constant _ listed⟩⟩

theorem pattern_iff {data : List (TimeSeriesCardinality K)} (counted : Counted data) (some' : data ≠ [])
    (dataPoints : ℕ) {analytics : HLLAnalytics K} (stored : analytics.historicalData.get metric = some data) :
    (Numeric (analytics.detectVisitorPattern math metric dataPoints) ∧
      ∀ value, Constant data value → (analytics.detectVisitorPattern math metric dataPoints).type = .steady ∧
        (analytics.detectVisitorPattern math metric dataPoints).predictions.nextPeriod = .finite value) ↔
    (3 ≤ (recent data dataPoints).length → (∃ point ∈ (recent data dataPoints).dropLast, Positive point) ∧
      ∀ value, Constant data value → ∃ n : ℤ, value = n) := by
  by_cases short : (recent data dataPoints).length < 3
  · exact iff_of_true (short_pattern math counted some' short stored) (fun enough => absurd enough (Nat.not_le.mpr short))
  · obtain ⟨values,listed,-⟩ := counted_values
      (show Counted (recent data dataPoints) from fun point here => counted point (mem_recent here))
    have rated : (∃ point ∈ (recent data dataPoints).dropLast, Positive point) ↔ rates values ≠ [] := by
      rw [rates_nonempty_iff]
      apply positive_iff
      rw [List.map_dropLast,List.map_dropLast,listed]
    have seen := getHistoricalData_stored stored dataPoints
    rw [← seen] at short listed
    have same (value : K) (constant : Constant data value) : ∀ other ∈ values, other = value := by
      intro other here
      have counted' : JsNumber.finite other ∈ values.map JsNumber.finite := List.mem_map_of_mem here
      rw [← listed,seen] at counted'
      obtain ⟨point,there,found⟩ := List.mem_map.mp counted'
      exact JsNumber.finite.inj (found.symm.trans (constant point (mem_recent there)))
    have next (value : K) (constant : Constant data value) (some' : rates values ≠ []) :=
      constant_pattern math analytics metric dataPoints short listed some' (same value constant)
    rw [numeric_iff math analytics metric dataPoints short listed,rated]
    constructor
    · rintro ⟨some',steady⟩ _
      refine ⟨some',?_⟩
      intro value constant
      have equal := (next value constant some').2.symm.trans (steady value constant).2
      exact ⟨_,(JsNumber.finite.inj equal).symm⟩
    · intro fine
      obtain ⟨some',whole⟩ := fine (by rw [← seen]; omega)
      refine ⟨some',?_⟩
      intro value constant
      obtain ⟨steady,predicted⟩ := next value constant some'
      obtain ⟨n,rfl⟩ := whole value constant
      refine ⟨steady,predicted.trans ?_⟩
      congr 2
      rw [Int.floor_eq_iff,lit_cast]
      norm_num

theorem patterns_numeric_iff (dataPoints comparisonPeriods : ℕ) (data : List (TimeSeriesCardinality K))
    (counted : Counted data) (long : 3 ≤ data.length) :
    PatternsNumeric math dataPoints comparisonPeriods data ↔ Dividable dataPoints comparisonPeriods data := by
  have some' : data ≠ [] := by
    rintro rfl
    exact absurd long (Nat.not_succ_le_zero 2)
  obtain ⟨compared,listed,counts⟩ := counted_values
    (show Counted (recent data comparisonPeriods) from fun point here => counted point (mem_recent here))
  have spreading := (volatility_iff math counts listed).trans (imp_congr_right fun _ => (positive_iff listed).symm)
  constructor
  · intro numeric
    obtain ⟨patterns,analyses⟩ := numeric ⟨"visitors",OrderedMap.empty.set TrackingType.ips.name data⟩
    have stored := OrderedMap.get_set_self (OrderedMap.empty : OrderedMap String _) TrackingType.ips.name data
    have dividing := (pattern_iff math counted some' dataPoints stored).mp (patterns _ stored)
    obtain ⟨tracker,analysis,answered⟩ := analyzed_tracked math _ .ips comparisonPeriods
    have measured := analyses .ips _ _ tracker analysis stored answered
    rw [analyzed_volatility math answered,getHistoricalData_stored stored] at measured
    exact ⟨fun enough => (dividing enough).1,fun enough => (dividing enough).2,spreading.mp measured⟩
  · intro dividable analytics
    refine ⟨?_,?_⟩
    · intro metric stored
      exact (pattern_iff math counted some' dataPoints stored).mpr
        (fun enough => ⟨dividable.rates enough,dividable.whole enough⟩)
    · intro metric now timeWindowMs tracker analysis stored answered
      rw [analyzed_volatility math answered,getHistoricalData_stored stored]
      exact spreading.mpr dividable.mean

end Patterns

def hourly (K : Type) [Field K] (counts : List ℕ) : List (TimeSeriesCardinality K) :=
  counts.map (fun count : ℕ => ⟨0,.finite (count : K),lit (95/100)⟩)

def levelMath : JsMath ℚ := ⟨fun _ => 0,fun _ => 0,fun _ => 0,fun _ => 1⟩

theorem hourly_counted (counts : List ℕ) : Counted (hourly ℚ counts) := by
  intro point here
  obtain ⟨count,_,rfl⟩ := List.mem_map.mp here
  exact ⟨count,rfl,Nat.cast_nonneg count⟩

theorem patterns_numeric_steady : PatternsNumeric levelMath 24 7 (hourly ℚ [5,5,5]) := by
  apply (patterns_numeric_iff levelMath 24 7 (hourly ℚ [5,5,5]) (hourly_counted _) (by decide)).mpr
  have positive : Positive (⟨0,.finite 5,lit (95/100)⟩ : TimeSeriesCardinality ℚ) := by
    unfold Positive
    decide
  refine ⟨fun _ => ⟨_,List.mem_cons_self,positive⟩,?_,fun _ => ⟨_,List.mem_cons_self,positive⟩⟩
  intro _ value constant
  exact ⟨5,(JsNumber.finite.inj (constant _ List.mem_cons_self)).symm⟩

def quiet : HLLAnalytics ℚ := ⟨"visitors",OrderedMap.empty.set "ips" (hourly ℚ [0,0,0])⟩

theorem patterns_not_numeric : ¬ PatternsNumeric levelMath 24 7 (hourly ℚ [0,0,0]) ∧
    (quiet.detectVisitorPattern levelMath "ips" 24).type = .seasonal ∧
    (quiet.detectVisitorPattern levelMath "ips" 24).characteristics.averageGrowthRate = .nan ∧
    (quiet.detectVisitorPattern levelMath "ips" 24).predictions.nextPeriod = .nan ∧
    calculateVolatility levelMath (hourly ℚ [0,0,0]) = .nan := by
  have growth : (quiet.detectVisitorPattern levelMath "ips" 24).characteristics.averageGrowthRate = .nan := by
    decide +kernel
  refine ⟨?_,by decide +kernel,growth,by decide +kernel,by decide +kernel⟩
  intro numeric
  obtain ⟨rate,found⟩ := ((numeric quiet).1 "ips" rfl).1.averageGrowthRate
  rw [growth] at found
  cases found

section Scores
variable {values : List ℝ} {historical : List (TimeSeriesCardinality ℝ)}

theorem calculateAnomalyScore_level (long : 3 ≤ historical.length)
    (numbers : historical.map TimeSeriesCardinality.cardinality = values.map JsNumber.finite) (some' : values ≠ [])
    (level : ¬ 0 < spread values) (current : JsNumber ℝ) :
    calculateAnomalyScore realMath current historical = .finite 0 := by
  have zero : spread values = 0 := le_antisymm (not_lt.mp level) (spread_nonneg values)
  have flat : (variance (historical.map TimeSeriesCardinality.cardinality)).squareRoot realMath.sqrt = .finite 0 := by
    rw [numbers,variance_finite some',zero,JsNumber.squareRoot,if_pos (le_refl 0),realMath_sqrt,Real.sqrt_zero]
  simp only [calculateAnomalyScore,flat,if_neg (Nat.not_lt.mpr long),if_true]

theorem calculateAnomalyScore_spread (long : 3 ≤ historical.length)
    (numbers : historical.map TimeSeriesCardinality.cardinality = values.map JsNumber.finite) (some' : values ≠ [])
    (wide : 0 < spread values) (current : ℝ) :
    calculateAnomalyScore realMath (.finite current) historical =
      .finite (min (|current - average values| / √(spread values) / 3) 1) := by
  have root := Real.sqrt_pos.mpr wide
  have deviation : (variance (historical.map TimeSeriesCardinality.cardinality)).squareRoot realMath.sqrt =
      .finite √(spread values) := by
    rw [numbers,variance_finite some',JsNumber.squareRoot,if_pos (le_of_lt wide),realMath_sqrt]
  have uneven : JsNumber.finite √(spread values) ≠ .finite 0 := fun same => ne_of_gt root (JsNumber.finite.inj same)
  have distance : ((JsNumber.finite current).sub (.finite (average values))).abs.quotient (.finite √(spread values)) =
      .finite (|current - average values| / √(spread values)) := by
    rw [sub_eq_add_neg]
    exact if_pos (ne_of_gt root)
  have third : (JsNumber.finite (|current - average values| / √(spread values))).quotient (.finite 3) =
      .finite (|current - average values| / √(spread values) / 3) := if_pos three_ne_zero
  simp only [calculateAnomalyScore,deviation,if_neg (Nat.not_lt.mpr long),if_neg uneven]
  rw [numbers,mean_finite some',distance,third]
  by_cases below : |current - average values| / √(spread values) / 3 < 1
  · simp [JsNumber.min,JsNumber.lt,below,min_eq_left (le_of_lt below)]
  · simp [JsNumber.min,JsNumber.lt,below,min_eq_right (not_lt.mp below)]

theorem anomalous_above_iff (long : 3 ≤ historical.length)
    (numbers : historical.map TimeSeriesCardinality.cardinality = values.map JsNumber.finite) :
    (∃ bound : ℝ, ∀ current > bound, ∃ score,
      calculateAnomalyScore realMath (.finite current) historical = .finite score ∧ lit (7/10) < score) ↔
    ∃ one ∈ values, ∃ two ∈ values, one ≠ two := by
  have some' := values_nonempty (by omega) numbers
  rw [← spread_pos_iff]
  constructor
  · rintro ⟨bound,above⟩
    by_contra level
    obtain ⟨score,found,high⟩ := above (bound + 1) (lt_add_one bound)
    rw [calculateAnomalyScore_level long numbers some' level] at found
    cases found
    norm_num at high
  · intro wide
    have root := Real.sqrt_pos.mpr wide
    refine ⟨average values + 3 * √(spread values),?_⟩
    intro current above
    refine ⟨_,calculateAnomalyScore_spread long numbers some' wide current,?_⟩
    have far : 3 * √(spread values) ≤ |current - average values| := by
      have distance := le_abs_self (current - average values)
      linarith
    have full : 1 ≤ |current - average values| / √(spread values) / 3 := by
      rw [le_div_iff₀ three_pos,le_div_iff₀ root,one_mul]
      exact far
    rw [min_eq_right full,lit_cast]
    norm_num

theorem anomalyScore_mono (long : 3 ≤ historical.length)
    (numbers : historical.map TimeSeriesCardinality.cardinality = values.map JsNumber.finite) {lower upper : ℝ}
    (mean : average values ≤ lower) (order : lower ≤ upper) :
    ∃ x y, calculateAnomalyScore realMath (.finite lower) historical = .finite x ∧
      calculateAnomalyScore realMath (.finite upper) historical = .finite y ∧ x ≤ y := by
  have some' := values_nonempty (by omega) numbers
  by_cases wide : 0 < spread values
  · refine ⟨_,_,calculateAnomalyScore_spread long numbers some' wide lower,
      calculateAnomalyScore_spread long numbers some' wide upper,?_⟩
    rw [abs_of_nonneg (sub_nonneg.mpr mean),abs_of_nonneg (sub_nonneg.mpr (mean.trans order))]
    gcongr
  · exact ⟨0,0,calculateAnomalyScore_level long numbers some' wide _,
      calculateAnomalyScore_level long numbers some' wide _,le_refl 0⟩

theorem extreme_counts_anomalous (long : 3 ≤ historical.length)
    (numbers : historical.map TimeSeriesCardinality.cardinality = values.map JsNumber.finite) :
    ((∃ one ∈ values, ∃ two ∈ values, one ≠ two) → ∃ bound : ℝ, ∀ current > bound, ∃ score,
      calculateAnomalyScore realMath (.finite current) historical = .finite score ∧ lit (7/10) < score) ∧
    ((∀ one ∈ values, ∀ two ∈ values, one = two) → ∀ current,
      calculateAnomalyScore realMath current historical = .finite 0) ∧
    ∀ lower upper : ℝ, average values ≤ lower → lower ≤ upper →
      ∃ x y, calculateAnomalyScore realMath (.finite lower) historical = .finite x ∧
        calculateAnomalyScore realMath (.finite upper) historical = .finite y ∧ x ≤ y := by
  refine ⟨(anomalous_above_iff long numbers).mpr,?_,fun _ _ => anomalyScore_mono long numbers⟩
  intro same current
  apply calculateAnomalyScore_level long numbers (values_nonempty (by omega) numbers)
  rw [spread_pos_iff]
  rintro ⟨one,here,two,there,different⟩
  exact different (same one here two there)

end Scores

theorem hourly_numbers (counts : List ℕ) : (hourly ℝ counts).map TimeSeriesCardinality.cardinality =
    (counts.map (fun count : ℕ => (count : ℝ))).map JsNumber.finite := by
  rw [hourly,List.map_map,List.map_map]
  rfl

theorem extreme_counts_uneven : ∃ bound : ℝ, ∀ current > bound, ∃ score,
    calculateAnomalyScore realMath (.finite current) (hourly ℝ [1,2,3]) = .finite score ∧ lit (7/10) < score := by
  apply (extreme_counts_anomalous (by decide) (hourly_numbers [1,2,3])).1
  exact ⟨(1 : ℕ),List.mem_cons_self,(2 : ℕ),List.mem_cons_of_mem _ List.mem_cons_self,by norm_num⟩

theorem regular_never_anomalous : ¬ ∃ bound : ℝ, ∀ current > bound, ∃ score,
    calculateAnomalyScore realMath (.finite current) (hourly ℝ [5,5,5]) = .finite score ∧ lit (7/10) < score := by
  rw [anomalous_above_iff (by decide) (hourly_numbers [5,5,5])]
  rintro ⟨one,here,two,there,different⟩
  simp at here there
  exact different (here.trans there.symm)

end HLLAnalytics
end PhantomFlow.Cardinality
