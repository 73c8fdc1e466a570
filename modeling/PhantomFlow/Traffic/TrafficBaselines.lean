import PhantomFlow.Library.Machine
import PhantomFlow.Library.Smoothing
import PhantomFlow.Traffic.StatisticalAnalyzer
import Mathlib.Algebra.Order.BigOperators.Group.List
import Mathlib.Tactic.FieldSimp
import Mathlib.Tactic.NormNum

namespace PhantomFlow.Traffic
open Library Library.Machine

structure BaselineMetrics where
  averageRequestsPerMinute : ℚ
  averageRequestsPerHour : ℚ
  averageUniqueIPs : ℚ
  averageResponseTime : ℚ
  averageErrorRate : ℚ
  standardDeviation : ℚ
  deriving DecidableEq

-- The values of the field's initializer, which stand until the first read of Redis.
def BaselineMetrics.zero : BaselineMetrics := ⟨0,0,0,0,0,0⟩

def getDefaultBaselineMetrics : BaselineMetrics where
  averageRequestsPerMinute := 100
  averageRequestsPerHour := 6000
  averageUniqueIPs := 50
  averageResponseTime := 200
  averageErrorRate := 2/100
  standardDeviation := 1/10

structure AnomalyDetection where
  isAnomaly : Bool
  anomalyScore : JsNumber ℚ
  anomalyType : String
  confidence : JsNumber ℚ
  deriving DecidableEq

-- The four detectors differ in the deviation they take and in its threshold.
def detectDeviation (anomalyType : String) (threshold : ℚ) (deviation : JsNumber ℚ) : AnomalyDetection where
  isAnomaly := JsNumber.lt (.finite threshold) deviation
  anomalyScore := (deviation.quotient (.finite threshold)).min (.finite 1)
  anomalyType := anomalyType
  confidence := deviation.min (.finite 1)

def detectRequestRateAnomaly (baselineMetrics : BaselineMetrics) (stats : TrafficStatistics) : AnomalyDetection :=
  let baseline := baselineMetrics.averageRequestsPerMinute
  detectDeviation "request_rate" 2 (JsNumber.div |(stats.requestsPerMinute : ℚ) - baseline| baseline)

def detectResponseTimeAnomaly (baselineMetrics : BaselineMetrics) (stats : TrafficStatistics) : AnomalyDetection :=
  let baseline := baselineMetrics.averageResponseTime
  detectDeviation "response_time" (3/2) (JsNumber.div |stats.averageResponseTime - baseline| baseline)

def detectErrorRateAnomaly (baselineMetrics : BaselineMetrics) (stats : TrafficStatistics) : AnomalyDetection :=
  let baseline := baselineMetrics.averageErrorRate
  detectDeviation "error_rate" 3 (JsNumber.div stats.errorRate (max baseline (1/1000)))

def detectBandwidthAnomaly (stats : TrafficStatistics) : AnomalyDetection :=
  let expectedBandwidth : ℚ := stats.requestsPerMinute * 1024
  detectDeviation "bandwidth" 2
    (JsNumber.div |stats.bandwidthUsage - expectedBandwidth| (max expectedBandwidth 1))

def combineAnomalies (anomalies : List AnomalyDetection) : AnomalyDetection :=
  if anomalies.length = 0 then ⟨false,.finite 0,"none",.finite 0⟩
  else {
    isAnomaly := true
    anomalyScore := (anomalies.map AnomalyDetection.anomalyScore).foldl JsNumber.max .negInf
    anomalyType := ", ".intercalate (anomalies.map AnomalyDetection.anomalyType)
    confidence := ((anomalies.map AnomalyDetection.confidence).foldl JsNumber.add (.finite 0)).quotient
      (.finite anomalies.length) }

def detectedAnomalies (baselineMetrics : BaselineMetrics) (stats : TrafficStatistics) : List AnomalyDetection :=
  [detectRequestRateAnomaly baselineMetrics stats,detectResponseTimeAnomaly baselineMetrics stats,
    detectErrorRateAnomaly baselineMetrics stats,detectBandwidthAnomaly stats].filter AnomalyDetection.isAnomaly

def detectAnomalies (baselineMetrics : BaselineMetrics) (stats : TrafficStatistics) : AnomalyDetection :=
  combineAnomalies (detectedAnomalies baselineMetrics stats)

def calculateStatisticalRisk (anomaly : AnomalyDetection) (stats : TrafficStatistics) : JsNumber ℚ :=
  let riskScore := if anomaly.isAnomaly then anomaly.anomalyScore.mul (.finite (6/10)) else .finite 0
  let errorRateRisk := min (stats.errorRate * 5) (3/10)
  let responseTimeRisk := min (stats.averageResponseTime / 1000) (2/10)
  (riskScore.add (.finite (errorRateRisk + responseTimeRisk))).min (.finite 1)

-- The learning rate of `updateBaselineMetrics`.
def alpha : ℚ := 1/10

def updateBaselineMetrics (baselineMetrics : BaselineMetrics) (stats : TrafficStatistics) : BaselineMetrics :=
  { baselineMetrics with
    averageRequestsPerMinute :=
      (1 - alpha) * baselineMetrics.averageRequestsPerMinute + alpha * stats.requestsPerMinute
    averageResponseTime :=
      (1 - alpha) * baselineMetrics.averageResponseTime + alpha * stats.averageResponseTime
    averageErrorRate := (1 - alpha) * baselineMetrics.averageErrorRate + alpha * stats.errorRate }

-- The analyzer with its baselines; `saved` is what Redis holds of them.
structure BaselineAnalyzer where
  analyzer : StatisticalAnalyzer
  baselineMetrics : BaselineMetrics
  saved : Option BaselineMetrics

def BaselineAnalyzer.create : BaselineAnalyzer := ⟨.create,.zero,none⟩

-- What the calls of `analyze` do between their awaits, and a restart. The reads of Redis
-- and the writes to it may fail or find nothing.
inductive BaselineEvent where
  | construct
  | initializeBaselineMetrics (found connected : Bool)
  | updateTrafficWindow (connected : Bool) (now : ℤ) (windowMs : ℕ) (requestData : RequestData) (timestamp : ℤ)
  | assess (connected : Bool) (now : ℤ)

inductive BaselineAnswer where
  | restarted
  | silent
  | failed (riskScore : ℚ)
  | assessed (stats : TrafficStatistics) (anomaly : AnomalyDetection) (riskScore : JsNumber ℚ)
  deriving DecidableEq

namespace BaselineAnalyzer

def saveBaselineMetrics (connected : Bool) (s : BaselineAnalyzer) : BaselineAnalyzer :=
  if connected then { s with saved := some s.baselineMetrics } else s

def initializeBaselineMetrics (found connected : Bool) (s : BaselineAnalyzer) : BaselineAnalyzer :=
  match if found then s.saved else none with
  | some cached => { s with baselineMetrics := cached }
  | none => saveBaselineMetrics connected { s with baselineMetrics := getDefaultBaselineMetrics }

-- A throwing clock of the patterns ends in the low score of the catch.
def assess (connected : Bool) (now : ℤ) (s : BaselineAnalyzer) : BaselineAnalyzer × BaselineAnswer :=
  match s.analyzer.calculateCurrentStatistics now with
  | .error _ => (s,.failed (1/10))
  | .ok currentStats =>
    let anomaly := detectAnomalies s.baselineMetrics currentStats
    (saveBaselineMetrics connected
        { s with baselineMetrics := updateBaselineMetrics s.baselineMetrics currentStats },
      .assessed currentStats anomaly (calculateStatisticalRisk anomaly currentStats))

def step (s : BaselineAnalyzer) : BaselineEvent → BaselineAnalyzer × BaselineAnswer
  | .construct =>
    ({ s with analyzer := { s.analyzer with trafficCache := .empty }, baselineMetrics := .zero },.restarted)
  | .initializeBaselineMetrics found connected => (s.initializeBaselineMetrics found connected,.restarted)
  | .updateTrafficWindow connected now windowMs requestData timestamp =>
    ({ s with analyzer :=
        s.analyzer.updateTrafficWindow connected now windowMs (patternOf requestData timestamp) },.silent)
  | .assess connected now => s.assess connected now

end BaselineAnalyzer

def RequestData.Measured (requestData : RequestData) : Prop :=
  0 ≤ requestData.responseTime.getD 0 ∧ 0 ≤ requestData.contentLength.getD 0

def BaselineEvent.Measured : BaselineEvent → Prop
  | .updateTrafficWindow _ _ _ requestData _ => requestData.Measured
  | _ => True

def noteAssessed (recent : List TrafficStatistics) : BaselineAnswer → List TrafficStatistics
  | .restarted => []
  | .silent | .failed _ => recent
  | .assessed stats _ _ => stats :: recent

def assessedSince (answers : List BaselineAnswer) : List TrafficStatistics := answers.foldl noteAssessed []

section Detectors
variable {stats : TrafficStatistics} {baselineMetrics : BaselineMetrics}

-- A fall is never flagged: by more than the whole baseline a value can only be above it.
theorem above_of_deviation {baseline current threshold : ℚ} (known : 0 ≤ baseline) (measured : 0 ≤ current)
    (large : 1 ≤ threshold)
    (flagged : JsNumber.lt (.finite threshold) (JsNumber.div |current - baseline| baseline) = true) :
    (1 + threshold) * baseline < current := by
  unfold JsNumber.div at flagged
  split at flagged
  · rename_i nonzero
    have positive : 0 < baseline := lt_of_le_of_ne known (Ne.symm nonzero)
    have apart : threshold * baseline < |current - baseline| :=
      (lt_div_iff₀ positive).mp (of_decide_eq_true flagged)
    have whole : baseline ≤ threshold * baseline := le_mul_of_one_le_left known large
    rcases lt_abs.mp apart with above | under <;> linarith
  · rename_i zero
    rw [not_not] at zero
    subst zero
    rw [sub_zero,abs_of_nonneg measured] at flagged
    split at flagged
    · rename_i positive
      rwa [mul_zero]
    · split at flagged <;> cases flagged

theorem above_of_ratio {baseline current threshold : ℚ} (positive : 0 < baseline)
    (flagged : JsNumber.lt (.finite threshold) (JsNumber.div current baseline) = true) :
    threshold * baseline < current := by
  rw [JsNumber.div,if_pos positive.ne'] at flagged
  exact (lt_div_iff₀ positive).mp (of_decide_eq_true flagged)

theorem detectDeviation_score {anomalyType : String} {threshold : ℚ} (positive : 0 < threshold)
    (flagged : (detectDeviation anomalyType threshold deviation).isAnomaly = true) :
    (detectDeviation anomalyType threshold deviation).anomalyScore = .finite 1 := by
  change JsNumber.lt (.finite threshold) deviation = true at flagged
  change (deviation.quotient (.finite threshold)).min (.finite 1) = .finite 1
  cases deviation with
  | finite value =>
      have above : threshold < value := of_decide_eq_true flagged
      have exceeds : ¬ value / threshold < 1 := not_lt.mpr ((one_le_div positive).mpr above.le)
      simp [JsNumber.quotient,JsNumber.div,JsNumber.min,JsNumber.lt,positive.ne',exceeds]
  | posInf => simp [JsNumber.quotient,JsNumber.min,JsNumber.lt,positive.le]
  | negInf => cases flagged
  | nan => cases flagged

theorem detected_score (baselineMetrics : BaselineMetrics) (stats : TrafficStatistics) :
    ∀ anomaly ∈ detectedAnomalies baselineMetrics stats, anomaly.anomalyScore = .finite 1 := by
  intro anomaly listed
  obtain ⟨among,flagged⟩ := List.mem_filter.mp listed
  simp only [List.mem_cons,List.not_mem_nil,or_false] at among
  rcases among with rfl | rfl | rfl | rfl <;> exact detectDeviation_score (by norm_num) flagged

theorem max_of_ones {scores : List (JsNumber ℚ)} (ones : ∀ score ∈ scores, score = .finite 1)
    (start : first = .finite 1 ∨ first = .negInf ∧ scores ≠ []) :
    scores.foldl JsNumber.max first = .finite 1 := by
  induction scores generalizing first with
  | nil =>
      rcases start with one | ⟨_,some'⟩
      · exact one
      · exact absurd rfl some'
  | cons score rest ih =>
      obtain ⟨rfl,others⟩ := List.forall_mem_cons.mp ones
      refine ih others (.inl ?_)
      rcases start with rfl | ⟨rfl,_⟩
      · simp [JsNumber.max]
      · rfl

theorem detectAnomalies_flag (baselineMetrics : BaselineMetrics) (stats : TrafficStatistics) :
    (detectAnomalies baselineMetrics stats).isAnomaly = true ↔ detectedAnomalies baselineMetrics stats ≠ [] := by
  unfold detectAnomalies combineAnomalies
  cases detectedAnomalies baselineMetrics stats with
  | nil => simp
  | cons anomaly rest => simp

theorem detectAnomalies_score (flagged : (detectAnomalies baselineMetrics stats).isAnomaly = true) :
    (detectAnomalies baselineMetrics stats).anomalyScore = .finite 1 := by
  have some' := (detectAnomalies_flag _ _).mp flagged
  unfold detectAnomalies combineAnomalies
  rw [if_neg (by simpa using some')]
  refine max_of_ones ?_ (.inr ⟨rfl,by simpa using some'⟩)
  intro score listed
  obtain ⟨anomaly,among,rfl⟩ := List.mem_map.mp listed
  exact detected_score _ _ anomaly among

end Detectors

structure TrafficStatistics.Measured (stats : TrafficStatistics) : Prop where
  responseTime : 0 ≤ stats.averageResponseTime
  errorRate : 0 ≤ stats.errorRate
  bandwidth : 0 ≤ stats.bandwidthUsage

def additionalRisk (stats : TrafficStatistics) : ℚ :=
  min (stats.errorRate * 5) (3/10) + min (stats.averageResponseTime / 1000) (2/10)

theorem additionalRisk_bounds (measured : stats.Measured) :
    0 ≤ additionalRisk stats ∧ additionalRisk stats ≤ 1/2 := by
  have errors : 0 ≤ min (stats.errorRate * 5) (3/10) :=
    le_min (mul_nonneg measured.errorRate (by norm_num)) (by norm_num)
  have slow : 0 ≤ min (stats.averageResponseTime / 1000) (2/10) :=
    le_min (div_nonneg measured.responseTime (by norm_num)) (by norm_num)
  have errorsMost : min (stats.errorRate * 5) (3/10) ≤ 3/10 := min_le_right _ _
  have slowMost : min (stats.averageResponseTime / 1000) (2/10) ≤ 2/10 := min_le_right _ _
  unfold additionalRisk
  constructor <;> linarith

theorem statisticalRisk_eq (baselineMetrics : BaselineMetrics) (stats : TrafficStatistics) :
    calculateStatisticalRisk (detectAnomalies baselineMetrics stats) stats =
      .finite (min ((if (detectAnomalies baselineMetrics stats).isAnomaly then 6/10 else 0) + additionalRisk stats) 1) := by
  have least (value : ℚ) : (JsNumber.finite value).min (.finite 1) = .finite (min value 1) := by
    unfold JsNumber.min JsNumber.lt
    by_cases less : value < 1
    · simp [less,less.le]
    · simp [less,not_lt.mp less]
  have sum (a b : ℚ) : (JsNumber.finite a).add (.finite b) = .finite (a + b) := rfl
  unfold calculateStatisticalRisk
  dsimp only
  cases flagged : (detectAnomalies baselineMetrics stats).isAnomaly with
  | true =>
      rw [if_pos rfl,if_pos rfl,detectAnomalies_score flagged,JsNumber.mul,one_mul,sum,least]
      rfl
  | false =>
      rw [if_neg Bool.false_ne_true,if_neg Bool.false_ne_true,sum,least]
      rfl

def TrafficPattern.Measured (pattern : TrafficPattern) : Prop := 0 ≤ pattern.responseTime ∧ 0 ≤ pattern.bandwidth

def StatisticalAnalyzer.Measured (analyzer : StatisticalAnalyzer) : Prop :=
  (∀ patterns ∈ analyzer.trafficCache.values, ∀ pattern ∈ patterns, pattern.Measured) ∧
    ∀ patterns ∈ analyzer.stored.values, ∀ pattern ∈ patterns, pattern.Measured

section Measurements
variable {analyzer : StatisticalAnalyzer}

theorem patternsAfter_sublist {patterns current : List TrafficPattern}
    (answered : patternsAfter patterns cutoffTime = .ok current) : current.Sublist patterns := by
  unfold patternsAfter at answered
  split at answered
  · cases answered
  · cases Except.ok.inj answered
    exact List.filter_sublist

theorem read_measured (connected : Bool) (windowMs : ℕ) (measured : analyzer.Measured) :
    ∀ pattern ∈ (analyzer.redisGet connected windowMs).getD ((analyzer.trafficCache.get windowMs).getD []),
      pattern.Measured := by
  have local' : ∀ pattern ∈ (analyzer.trafficCache.get windowMs).getD [], pattern.Measured := by
    cases cached : analyzer.trafficCache.get windowMs with
    | none => simp
    | some patterns => exact measured.1 patterns ((OrderedMap.mem_values _ _).mpr ⟨windowMs,cached⟩)
  unfold StatisticalAnalyzer.redisGet
  split
  · cases held : analyzer.stored.get windowMs with
    | none => exact local'
    | some patterns => exact measured.2 patterns ((OrderedMap.mem_values _ _).mpr ⟨windowMs,held⟩)
  · exact local'

theorem updateTrafficWindow_measured (connected : Bool) (now : ℤ) (windowMs : ℕ) (timestamp : ℤ)
    (measured : analyzer.Measured) (request : requestData.Measured) :
    (analyzer.updateTrafficWindow connected now windowMs (patternOf requestData timestamp)).Measured := by
  have known := read_measured connected windowMs measured
  unfold StatisticalAnalyzer.updateTrafficWindow
  dsimp only
  split
  · exact measured
  · rename_i current answered
    have added : ∀ pattern ∈ current ++ [patternOf requestData timestamp], pattern.Measured := by
      intro pattern listed
      rcases List.mem_append.mp listed with old | new
      · exact known pattern ((patternsAfter_sublist answered).subset old)
      · rw [List.mem_singleton.mp new]
        exact request
    have cache : ∀ patterns ∈ (analyzer.trafficCache.set windowMs (current ++ [patternOf requestData timestamp])).values,
        ∀ pattern ∈ patterns, pattern.Measured := by
      intro patterns found
      rcases OrderedMap.mem_values_set found with rfl | before
      · exact added
      · exact measured.1 patterns before
    unfold StatisticalAnalyzer.redisSet
    split
    · refine ⟨cache,fun patterns found => ?_⟩
      rcases OrderedMap.mem_values_set found with rfl | before
      · intro pattern listed
        obtain ⟨source,among,rfl⟩ := List.mem_map.mp listed
        exact added source among
      · exact measured.2 patterns before
    · exact ⟨cache,measured.2⟩

theorem statistics_measured (measured : analyzer.Measured)
    (answered : analyzer.calculateCurrentStatistics now = .ok stats) : stats.Measured := by
  unfold StatisticalAnalyzer.calculateCurrentStatistics StatisticalAnalyzer.getPatternsInWindow at answered
  dsimp only at answered
  split at answered
  · cases answered
  · cases Except.ok.inj answered
    have known : ∀ pattern ∈ analyzer.trafficCache.values.flatten.filter (fun pattern =>
        decide (now - 60000 ≤ pattern.timestamp.time) && decide (pattern.timestamp.time ≤ now)), pattern.Measured := by
      intro pattern listed
      obtain ⟨patterns,found,among⟩ := List.mem_flatten.mp (List.mem_filter.mp listed).1
      exact measured.1 patterns found pattern among
    refine ⟨?_,?_,?_⟩
    · change 0 ≤ calculateAverageResponseTime _
      unfold calculateAverageResponseTime
      split
      · exact le_rfl
      · refine div_nonneg (List.sum_nonneg ?_) (Nat.cast_nonneg _)
        intro time listed
        obtain ⟨pattern,among,rfl⟩ := List.mem_map.mp listed
        exact (known pattern among).1
    · change 0 ≤ calculateErrorRate _
      unfold calculateErrorRate
      split
      · exact div_nonneg (Nat.cast_nonneg _) (Nat.cast_nonneg _)
      · exact le_rfl
    · refine List.sum_nonneg ?_
      intro size listed
      obtain ⟨pattern,among,rfl⟩ := List.mem_map.mp listed
      exact (known pattern among).2

end Measurements

def BaselineMetrics.Nonneg (baselineMetrics : BaselineMetrics) : Prop :=
  0 ≤ baselineMetrics.averageRequestsPerMinute ∧ 0 ≤ baselineMetrics.averageResponseTime ∧
    0 ≤ baselineMetrics.averageErrorRate

structure BaselineAnalyzer.Tracks (s : BaselineAnalyzer) (recent : List TrafficStatistics) : Prop where
  patterns : s.analyzer.Measured
  saved : ∀ cached, s.saved = some cached → cached.Nonneg
  measured : ∀ stats ∈ recent, stats.Measured
  requests : Absorbed alpha (recent.map (fun stats => (stats.requestsPerMinute : ℚ)))
    s.baselineMetrics.averageRequestsPerMinute
  responseTimes : Absorbed alpha (recent.map TrafficStatistics.averageResponseTime) s.baselineMetrics.averageResponseTime
  errorRates : Absorbed alpha (recent.map TrafficStatistics.errorRate) s.baselineMetrics.averageErrorRate

namespace BaselineAnalyzer
variable {s : BaselineAnalyzer} {recent : List TrafficStatistics}

theorem Tracks.nonneg (tracks : s.Tracks recent) : s.baselineMetrics.Nonneg :=
  ⟨tracks.requests.nonneg,tracks.responseTimes.nonneg,tracks.errorRates.nonneg⟩

theorem Tracks.save (tracks : s.Tracks recent) (connected : Bool) : (saveBaselineMetrics connected s).Tracks recent := by
  unfold saveBaselineMetrics
  split
  · refine { tracks with saved := ?_ }
    intro cached held
    cases Option.some.inj held
    exact tracks.nonneg
  · exact tracks

theorem tracks_anew (patterns : s.analyzer.Measured) (saved : ∀ cached, s.saved = some cached → cached.Nonneg)
    (nonneg : s.baselineMetrics.Nonneg) : s.Tracks [] :=
  ⟨patterns,saved,by simp,absorbed_nil nonneg.1,absorbed_nil nonneg.2.1,absorbed_nil nonneg.2.2⟩

theorem Tracks.initialize (tracks : s.Tracks recent) (found connected : Bool) :
    (s.initializeBaselineMetrics found connected).Tracks [] := by
  have default' : getDefaultBaselineMetrics.Nonneg := by
    refine ⟨?_,?_,?_⟩ <;> norm_num [getDefaultBaselineMetrics]
  unfold initializeBaselineMetrics
  split
  · rename_i cached read
    have held : s.saved = some cached := by
      split at read
      · exact read
      · cases read
    exact tracks_anew tracks.patterns tracks.saved (tracks.saved cached held)
  · have anew : ({ s with baselineMetrics := getDefaultBaselineMetrics } : BaselineAnalyzer).Tracks [] :=
      tracks_anew tracks.patterns tracks.saved default'
    exact anew.save connected

-- The three updates of the baselines are one and the same smoothing.
theorem updated_eq_mix (level value : ℚ) : (1 - alpha) * level + alpha * value = mix alpha value level := by
  rw [mix,add_comm]

theorem Tracks.assess (tracks : s.Tracks recent) (connected : Bool) (now : ℤ) :
    (s.assess connected now).1.Tracks (noteAssessed recent (s.assess connected now).2) := by
  have nonneg : 0 ≤ alpha := by norm_num [alpha]
  have below : alpha ≤ 1 := by norm_num [alpha]
  unfold BaselineAnalyzer.assess
  split
  · exact tracks
  · rename_i stats answered
    have measured := statistics_measured tracks.patterns answered
    have updated : ({ s with baselineMetrics := updateBaselineMetrics s.baselineMetrics stats } :
        BaselineAnalyzer).Tracks (stats :: recent) := by
      refine ⟨tracks.patterns,tracks.saved,List.forall_mem_cons.mpr ⟨measured,tracks.measured⟩,?_,?_,?_⟩
      · change Absorbed alpha _ ((1 - alpha) * _ + alpha * _)
        rw [updated_eq_mix]
        exact tracks.requests.mix nonneg below (Nat.cast_nonneg _)
      · change Absorbed alpha _ ((1 - alpha) * _ + alpha * _)
        rw [updated_eq_mix]
        exact tracks.responseTimes.mix nonneg below measured.responseTime
      · change Absorbed alpha _ ((1 - alpha) * _ + alpha * _)
        rw [updated_eq_mix]
        exact tracks.errorRates.mix nonneg below measured.errorRate
    exact updated.save connected

theorem tracks_step (event : BaselineEvent) (measured : event.Measured) (tracks : s.Tracks recent) :
    (step s event).1.Tracks (noteAssessed recent (step s event).2) := by
  cases event with
  | construct =>
      exact tracks_anew ⟨by simp [step,OrderedMap.values,OrderedMap.empty],tracks.patterns.2⟩ tracks.saved
        ⟨le_rfl,le_rfl,le_rfl⟩
  | initializeBaselineMetrics found connected => exact tracks.initialize found connected
  | updateTrafficWindow connected now windowMs requestData timestamp =>
      exact { tracks with
        patterns := updateTrafficWindow_measured connected now windowMs timestamp tracks.patterns measured }
  | assess connected now => exact tracks.assess connected now

theorem tracks_run (events : List BaselineEvent) (measured : ∀ event ∈ events, event.Measured) :
    (exec step .create events).1.Tracks (assessedSince (exec step .create events).2) := by
  have empty : (create : BaselineAnalyzer).Tracks [] := by
    refine tracks_anew ⟨?_,?_⟩ ?_ ⟨le_rfl,le_rfl,le_rfl⟩
    · simp [create,StatisticalAnalyzer.create,OrderedMap.values,OrderedMap.empty]
    · simp [create,StatisticalAnalyzer.create,OrderedMap.values,OrderedMap.empty]
    · intro cached held
      cases held
  exact exec_answered Tracks (fun s recent event => tracks_step event) empty measured

end BaselineAnalyzer

namespace BaselineAnalyzer
variable {s : BaselineAnalyzer} {recent : List TrafficStatistics} {stats : TrafficStatistics}

theorem assess_answer (answered : (step s (.assess connected now)).2 = .assessed stats anomaly riskScore) :
    s.analyzer.calculateCurrentStatistics now = .ok stats ∧ anomaly = detectAnomalies s.baselineMetrics stats ∧
      riskScore = calculateStatisticalRisk anomaly stats := by
  unfold step BaselineAnalyzer.assess at answered
  dsimp only at answered
  split at answered
  · cases answered
  · rename_i current read
    cases answered
    exact ⟨read,rfl,rfl⟩

theorem assess_measured (tracks : s.Tracks recent)
    (answered : (step s (.assess connected now)).2 = .assessed stats anomaly riskScore) : stats.Measured :=
  statistics_measured tracks.patterns (assess_answer answered).1

theorem Tracks.separates (tracks : s.Tracks recent)
    (answered : (step s (.assess connected now)).2 = .assessed stats anomaly riskScore) :
    ∃ score : ℚ, riskScore = .finite score ∧ 0 ≤ score ∧ score ≤ 1 ∧
      (anomaly.isAnomaly = true → 6/10 ≤ score) ∧ (anomaly.isAnomaly = false → score ≤ 5/10) := by
  have bounds := additionalRisk_bounds (assess_measured tracks answered)
  obtain ⟨_,detected,scored⟩ := assess_answer answered
  subst anomaly
  rw [statisticalRisk_eq] at scored
  refine ⟨_,scored,?_,min_le_right _ _,?_,?_⟩
  · refine le_min (add_nonneg ?_ bounds.1) (by norm_num)
    split <;> norm_num
  · intro flagged
    rw [if_pos flagged]
    exact le_min (by linarith [bounds.1]) (by norm_num)
  · intro quiet
    rw [quiet,if_neg Bool.false_ne_true]
    exact (min_le_left _ _).trans (by linarith [bounds.2])

-- The score of an assessment is a number between 0 and 1, and an anomaly is what lifts
-- it to 0.6.
theorem risk_separates (events : List BaselineEvent) (measured : ∀ event ∈ events, event.Measured)
    (answered : (step (exec step .create events).1 (.assess connected now)).2 = .assessed stats anomaly riskScore) :
    ∃ score : ℚ, riskScore = .finite score ∧ 0 ≤ score ∧ score ≤ 1 ∧ (6/10 ≤ score ↔ anomaly.isAnomaly = true) := by
  obtain ⟨score,scored,nonneg,most,flagged,quiet⟩ := (tracks_run events measured).separates answered
  refine ⟨score,scored,nonneg,most,fun high => ?_,flagged⟩
  cases set : anomaly.isAnomaly with
  | true => rfl
  | false => linarith [quiet set]

section Flags
variable (tracks : s.Tracks recent) (measured : stats.Measured)
include tracks

theorem requestRate_flagged (known : 4 ≤ recent.length)
    (flagged : (detectRequestRateAnomaly s.baselineMetrics stats).isAnomaly = true) :
    ∃ earlier ∈ recent.take 4, earlier.requestsPerMinute < stats.requestsPerMinute := by
  have above := above_of_deviation tracks.nonneg.1 (Nat.cast_nonneg _) (by norm_num) flagged
  obtain ⟨value,listed,less⟩ := tracks.requests.exceeds (k := 4) (by rwa [List.length_map]) (by norm_num [alpha])
    (by norm_num) (Nat.cast_nonneg _) above
  rw [← List.map_take] at listed
  obtain ⟨earlier,among,rfl⟩ := List.mem_map.mp listed
  exact ⟨earlier,among,Nat.cast_lt.mp less⟩

include measured

theorem responseTime_flagged (known : 5 ≤ recent.length)
    (flagged : (detectResponseTimeAnomaly s.baselineMetrics stats).isAnomaly = true) :
    ∃ earlier ∈ recent.take 5, earlier.averageResponseTime < stats.averageResponseTime := by
  have above := above_of_deviation tracks.nonneg.2.1 measured.responseTime (by norm_num) flagged
  obtain ⟨value,listed,less⟩ := tracks.responseTimes.exceeds (k := 5) (by rwa [List.length_map])
    (by norm_num [alpha]) (by norm_num) measured.responseTime above
  rw [← List.map_take] at listed
  obtain ⟨earlier,among,rfl⟩ := List.mem_map.mp listed
  exact ⟨earlier,among,less⟩

theorem errorRate_flagged (known : 4 ≤ recent.length)
    (flagged : (detectErrorRateAnomaly s.baselineMetrics stats).isAnomaly = true) :
    ∃ earlier ∈ recent.take 4, earlier.errorRate < stats.errorRate := by
  have floor' : (0 : ℚ) < max s.baselineMetrics.averageErrorRate (1/1000) :=
    lt_of_lt_of_le (by norm_num) (le_max_right _ _)
  have ratio := above_of_ratio floor' flagged
  have least := mul_le_mul_of_nonneg_left (le_max_left s.baselineMetrics.averageErrorRate (1/1000))
    (by norm_num : (0 : ℚ) ≤ 3)
  obtain ⟨value,listed,less⟩ := tracks.errorRates.exceeds (k := 4) (by rwa [List.length_map])
    (by norm_num [alpha]) (by norm_num : (0 : ℚ) ≤ 3) measured.errorRate (least.trans_lt ratio)
  rw [← List.map_take] at listed
  obtain ⟨earlier,among,rfl⟩ := List.mem_map.mp listed
  exact ⟨earlier,among,less⟩

end Flags

theorem bandwidth_flagged (measured : stats.Measured) (flagged : (detectBandwidthAnomaly stats).isAnomaly = true) :
    3 * 1024 * (stats.requestsPerMinute : ℚ) < stats.bandwidthUsage := by
  have floor' : (0 : ℚ) < max ((stats.requestsPerMinute : ℚ) * 1024) 1 :=
    lt_of_lt_of_le zero_lt_one (le_max_right _ _)
  have apart := above_of_ratio floor' flagged
  have least := le_max_left ((stats.requestsPerMinute : ℚ) * 1024) 1
  have some' : (0 : ℚ) ≤ stats.requestsPerMinute := Nat.cast_nonneg _
  have bandwidth := measured.bandwidth
  rcases lt_abs.mp apart with above | under <;> linarith

-- A request scores 0.6 or more only where the traffic has grown: above one of the last
-- assessments in its rate, its response time or its error rate, or beyond the expected
-- bytes per request. What stays at one level within these bytes, however high, is soon
-- no anomaly any more.
theorem high_risk_is_growth (events : List BaselineEvent) (measured : ∀ event ∈ events, event.Measured)
    (answered : (step (exec step .create events).1 (.assess connected now)).2 = .assessed stats anomaly (.finite score))
    (high : 6/10 ≤ score) (known : 5 ≤ (assessedSince (exec step .create events).2).length) :
    (∃ earlier ∈ (assessedSince (exec step .create events).2).take 4,
        earlier.requestsPerMinute < stats.requestsPerMinute) ∨
      (∃ earlier ∈ (assessedSince (exec step .create events).2).take 5,
        earlier.averageResponseTime < stats.averageResponseTime) ∨
      (∃ earlier ∈ (assessedSince (exec step .create events).2).take 4, earlier.errorRate < stats.errorRate) ∨
      3 * 1024 * (stats.requestsPerMinute : ℚ) < stats.bandwidthUsage := by
  have tracks := tracks_run events measured
  have here := assess_measured tracks answered
  obtain ⟨_,same,_,_,_,quiet⟩ := tracks.separates answered
  cases same
  obtain ⟨_,detected,_⟩ := assess_answer answered
  have flagged : anomaly.isAnomaly = true := by
    cases set : anomaly.isAnomaly with
    | true => rfl
    | false => linarith [quiet set]
  rw [detected,detectAnomalies_flag] at flagged
  obtain ⟨one,listed⟩ := List.exists_mem_of_ne_nil _ flagged
  obtain ⟨among,set⟩ := List.mem_filter.mp listed
  simp only [List.mem_cons,List.not_mem_nil,or_false] at among
  rcases among with rfl | rfl | rfl | rfl
  · exact .inl (requestRate_flagged tracks (Nat.le_of_succ_le known) set)
  · exact .inr (.inl (responseTime_flagged tracks here known set))
  · exact .inr (.inr (.inl (errorRate_flagged tracks here (Nat.le_of_succ_le known) set)))
  · exact .inr (.inr (.inr (bandwidth_flagged here set)))

def slowAfterQuiet : List BaselineEvent :=
  [.initializeBaselineMetrics false true,.assess true 0,.assess true 0,.assess true 0,.assess true 0,.assess true 0,
    .updateTrafficWindow false 0 60000 ⟨some 1000,false,some 1024⟩ 0]

def slowStats : TrafficStatistics := ⟨1,1,1,2,1,1000,0,1024⟩

theorem slowAfterQuiet_measured : ∀ event ∈ slowAfterQuiet, event.Measured := by
  simp [slowAfterQuiet,BaselineEvent.Measured,RequestData.Measured]

theorem slowAfterQuiet_answer : (step (exec step .create slowAfterQuiet).1 (.assess true 0)).2 =
    .assessed slowStats ⟨true,.finite 1,"response_time",.finite 1⟩ (.finite (8/10)) := by decide +kernel

theorem slowAfterQuiet_separates :
    ∃ score : ℚ, JsNumber.finite (8/10) = .finite score ∧ 0 ≤ score ∧ score ≤ 1 ∧ (6/10 ≤ score ↔ true = true) :=
  risk_separates slowAfterQuiet slowAfterQuiet_measured slowAfterQuiet_answer

theorem slowAfterQuiet_growth :
    (∃ earlier ∈ (assessedSince (exec step .create slowAfterQuiet).2).take 4,
        earlier.requestsPerMinute < slowStats.requestsPerMinute) ∨
      (∃ earlier ∈ (assessedSince (exec step .create slowAfterQuiet).2).take 5,
        earlier.averageResponseTime < slowStats.averageResponseTime) ∨
      (∃ earlier ∈ (assessedSince (exec step .create slowAfterQuiet).2).take 4,
        earlier.errorRate < slowStats.errorRate) ∨
      3 * 1024 * (slowStats.requestsPerMinute : ℚ) < slowStats.bandwidthUsage :=
  high_risk_is_growth slowAfterQuiet slowAfterQuiet_measured slowAfterQuiet_answer (by norm_num) (by decide +kernel)

end BaselineAnalyzer

end PhantomFlow.Traffic
