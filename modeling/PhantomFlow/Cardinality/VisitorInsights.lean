import PhantomFlow.Library.BoundedHistory
import PhantomFlow.Library.Fallible
import PhantomFlow.Library.Machine
import PhantomFlow.Cardinality.VisitorWindows

namespace PhantomFlow.Cardinality
open Library Library.Machine

def TrackingType.name : TrackingType → String
  | .ips => "ips"
  | .sessions => "sessions"
  | .user_agents => "user_agents"
  | .locations => "locations"
  | .paths => "paths"

structure TimeSeriesCardinality (K : Type) where
  timestamp : ℤ
  cardinality : JsNumber K
  confidence : K

-- The tracker of the analytics is the manager's own, under its name.
structure HLLAnalytics (K : Type) where
  visitorTracker : String
  historicalData : OrderedMap String (List (TimeSeriesCardinality K))

inductive Trend where
  | increasing | decreasing | stable
  deriving DecidableEq

structure Period where
  start : ℚ
  finish : ℚ

structure HLLAnalyticsResult (K : Type) where
  metric : TrackingType
  currentValue : JsNumber K
  previousValue : JsNumber K
  growthRate : JsNumber K
  trend : Trend
  volatility : JsNumber K
  anomalyScore : JsNumber K
  recommendations : List String
  current : Period
  previous : Period

inductive InsightKind where
  | high_growth | anomaly_detected | low_activity
  deriving DecidableEq

inductive Impact where
  | low | medium | high | critical
  deriving DecidableEq

structure UniqueVisitorInsight (K : Type) where
  insight : InsightKind
  description : String
  impact : Impact
  confidence : JsNumber K
  current : JsNumber K
  expected : JsNumber K
  deviation : JsNumber K
  recommendations : List String
  timestamp : ℤ

def hourMs : ℚ := 3600000

namespace HLLAnalytics
variable {K : Type} [Field K] [LinearOrder K] (analytics : HLLAnalytics K)

def recordHistoricalData (now : ℤ) (metric : String) (cardinality : JsNumber K) : HLLAnalytics K :=
  let data := (analytics.historicalData.get metric).getD []
  let point : TimeSeriesCardinality K := ⟨now,cardinality,lit (95/100)⟩
  { analytics with historicalData := analytics.historicalData.set metric ((data ++ [point]).rtake 100) }

-- `slice(-0)` is the whole array.
def getHistoricalData (metric : String) (points : ℕ) : List (TimeSeriesCardinality K) :=
  let data := (analytics.historicalData.get metric).getD []
  if points = 0 then data else data.rtake points

def mean (values : List (JsNumber K)) : JsNumber K :=
  (values.foldl JsNumber.add (.finite 0)).quotient (.finite values.length)

def variance (values : List (JsNumber K)) : JsNumber K :=
  mean (values.map (fun value => (value.sub (mean values)).mul (value.sub (mean values))))

section Analysis
variable [FloorRing K] (math : JsMath K)

def calculateVolatility (data : List (TimeSeriesCardinality K)) : JsNumber K :=
  let values := data.map TimeSeriesCardinality.cardinality
  if data.length < 2 then .finite 0
  else ((variance values).squareRoot math.sqrt).quotient (mean values)

def calculateAnomalyScore (currentValue : JsNumber K) (historical : List (TimeSeriesCardinality K)) : JsNumber K :=
  let values := historical.map TimeSeriesCardinality.cardinality
  let stdDev := (variance values).squareRoot math.sqrt
  if historical.length < 3 then .finite 0
  else if stdDev = .finite 0 then .finite 0
  else
    let zScore := (currentValue.sub (mean values)).abs.quotient stdDev
    (zScore.quotient (.finite 3)).min (.finite 1)

def generateRecommendations (trend : Trend) (growthRate anomalyScore : JsNumber K) : List String :=
  (if trend = .increasing ∧ (JsNumber.finite 50).lt growthRate then
    ["Monitor infrastructure capacity for increased load","Investigate source of traffic growth"] else []) ++
  (if trend = .decreasing ∧ growthRate.lt (.finite (-20)) then
    ["Check for service issues or outages","Investigate potential traffic filtering"] else []) ++
  (if (JsNumber.finite (lit (8/10))).lt anomalyScore then
    ["Investigate potential security threats","Validate data accuracy and collection"] else []) ++
  (if trend = .stable then
    ["Continue monitoring current trends","Maintain current operational levels"] else [])

def growthFrom (currentValue previousValue : JsNumber K) : JsNumber K :=
  if (JsNumber.finite 0).lt previousValue then
    ((currentValue.sub previousValue).quotient previousValue).mul (.finite 100)
  else .finite 0

def trendOf (growthRate : JsNumber K) : Trend :=
  if growthRate.abs.lt (.finite 5) then .stable
  else if (JsNumber.finite 0).lt growthRate then .increasing
  else .decreasing

def analyzeVisitorTrends (now : ℤ) (metric : TrackingType) (timeWindowMs : ℚ) (comparisonPeriods : ℕ)
    (tracker : VisitorTracker K) : Except String (HLLAnalyticsResult K) × VisitorTracker K :=
  let counted := tracker.getCardinality math metric (some timeWindowMs)
  match counted.1 with
  | none => (.error ("No data available for metric: " ++ metric.name),counted.2)
  | some currentEstimate =>
    let historical := analytics.getHistoricalData metric.name comparisonPeriods
    let previousValue := (historical.getLast?.map TimeSeriesCardinality.cardinality).getD (.finite 0)
    let growthRate := growthFrom currentEstimate.count previousValue
    let trend := trendOf growthRate
    let anomalyScore := calculateAnomalyScore math currentEstimate.count historical
    (.ok {
      metric
      currentValue := currentEstimate.count
      previousValue
      growthRate
      trend
      volatility := calculateVolatility math historical
      anomalyScore
      recommendations := generateRecommendations trend growthRate anomalyScore
      current := ⟨now - timeWindowMs,now⟩
      previous := ⟨now - timeWindowMs * 2,now - timeWindowMs⟩ },counted.2)

def highGrowthDescription (metric : TrackingType) (growthRate : JsNumber K) : String :=
  metric.name ++ " showing exceptional growth of " ++ growthRate.toFixed 1 ++ "%"

def insightsOf (now : ℤ) (analysis : HLLAnalyticsResult K) : List (UniqueVisitorInsight K) :=
  (if (JsNumber.finite 50).lt analysis.growthRate then
    [{ insight := .high_growth
       description := highGrowthDescription analysis.metric analysis.growthRate
       impact := if (JsNumber.finite 100).lt analysis.growthRate then .critical else .high
       confidence := .finite (lit (9/10))
       current := analysis.currentValue
       expected := analysis.previousValue
       deviation := analysis.growthRate
       recommendations := ["Monitor server capacity to handle increased load",
         "Investigate source of traffic increase","Consider scaling infrastructure if sustained"]
       timestamp := now }] else []) ++
  (if (JsNumber.finite (lit (7/10))).lt analysis.anomalyScore then
    [{ insight := .anomaly_detected
       description := "Unusual " ++ analysis.metric.name ++ " pattern detected (anomaly score: " ++
         analysis.anomalyScore.toFixed 2 ++ ")"
       impact := if (JsNumber.finite (lit (9/10))).lt analysis.anomalyScore then .critical else .medium
       confidence := analysis.anomalyScore
       current := analysis.currentValue
       expected := analysis.previousValue
       deviation := ((analysis.currentValue.sub analysis.previousValue).quotient analysis.previousValue).mul
         (.finite 100)
       recommendations := ["Investigate potential security threats","Check for bot activity or DDoS attacks",
         "Validate data accuracy"]
       timestamp := now }] else []) ++
  (if analysis.growthRate.lt (.finite (-30)) then
    [{ insight := .low_activity
       description := analysis.metric.name ++ " showing significant decline of " ++
         analysis.growthRate.abs.toFixed 1 ++ "%"
       impact := .medium
       confidence := .finite (lit (8/10))
       current := analysis.currentValue
       expected := analysis.previousValue
       deviation := analysis.growthRate
       recommendations := ["Check for service outages or issues","Investigate potential blocking or filtering",
         "Review marketing or traffic sources"]
       timestamp := now }] else [])

-- The loop of `generateInsights`: an analysis that throws ends it, and what came
-- before stays.
def analyses (now : ℤ) : List TrackingType → VisitorTracker K → List (HLLAnalyticsResult K) × VisitorTracker K
  | [],tracker => ([],tracker)
  | metric :: rest,tracker =>
    match analytics.analyzeVisitorTrends math now metric hourMs 7 tracker with
    | (.error _,counted) => ([],counted)
    | (.ok analysis,counted) =>
      let others := analyses now rest counted
      (analysis :: others.1,others.2)

def generateInsights (now : ℤ) (metrics : List TrackingType) (tracker : VisitorTracker K) :
    List (UniqueVisitorInsight K) × VisitorTracker K :=
  let analysed := analytics.analyses math now metrics tracker
  (analysed.1.flatMap (insightsOf now),analysed.2)

end Analysis
end HLLAnalytics

structure TrackerConfig where
  name : String
  visitorConfig : VisitorTrackingConfig
  enabled : Bool

structure HLLManagerConfig where
  trackers : List TrackerConfig
  enableAnalytics : Bool

structure HyperLogLogManager (K : Type) where
  config : HLLManagerConfig
  visitorTrackers : OrderedMap String (VisitorTracker K)
  analytics : Option (HLLAnalytics K)

structure RequestReply (K : Type) where
  processed : Bool
  trackersUsed : List String
  metrics : VisitorMetrics K
  insights : Option (List (UniqueVisitorInsight K))

namespace HyperLogLogManager
variable {K : Type} [Field K] [LinearOrder K] (getHLLConfigForUseCase : UseCase → HyperLogLogConfig)

-- `initialize`: the first enabled tracker is the one that is analysed.
def initialized (config : HLLManagerConfig) : Except String (HyperLogLogManager K) := do
  let visitorTrackers ← (config.trackers.filter TrackerConfig.enabled).foldlM
    (fun (visitorTrackers : OrderedMap String (VisitorTracker K)) trackerConfig => do
      let tracker ← VisitorTracker.create getHLLConfigForUseCase trackerConfig.visitorConfig
      return visitorTrackers.set trackerConfig.name tracker) .empty
  return {
    config
    visitorTrackers
    analytics :=
      if config.enableAnalytics then visitorTrackers.keys.head?.map (fun primary => ⟨primary,.empty⟩) else none }

section Requests
variable [FloorRing K] (text : TextFunctions) (math : JsMath K) (manager : HyperLogLogManager K)

def aggregate (aggregated metrics : VisitorMetrics K) : VisitorMetrics K :=
  { aggregated with
    total := aggregated.total.max metrics.total
    ips := aggregated.ips.max metrics.ips
    sessions := aggregated.sessions.max metrics.sessions
    userAgents := aggregated.userAgents.max metrics.userAgents
    locations := aggregated.locations.max metrics.locations
    paths := aggregated.paths.max metrics.paths
    confidence := max aggregated.confidence metrics.confidence
    growthRate := (aggregated.growthRate + metrics.growthRate) / 2 }

def getAggregatedMetrics (now : ℤ) (timeWindowMs : Option ℚ) : VisitorMetrics K × HyperLogLogManager K :=
  let window := timeWindowMs.filter (· ≠ 0)
  let measured := manager.visitorTrackers.map (fun _ tracker => tracker.getVisitorMetrics math now timeWindowMs)
  ((measured.values.map Prod.fst).foldl aggregate
    { start := (window.map (fun windowMs => (now : ℚ) - windowMs)).getD 0
      finish := now
      duration := window.getD now
      total := .finite 0
      ips := .finite 0
      sessions := .finite 0
      userAgents := .finite 0
      locations := .finite 0
      paths := .finite 0
      growthRate := 0
      confidence := 0 },{ manager with visitorTrackers := measured.map (fun _ answered => answered.2) })

def trackRequest (now : ℤ) (requestData : VisitorRequest) : HyperLogLogManager K :=
  { manager with
    visitorTrackers := manager.visitorTrackers.map (fun _ tracker => tracker.trackVisitor text now requestData) }

def measureRequest (now : ℤ) (requestData : VisitorRequest) : VisitorMetrics K × HyperLogLogManager K :=
  (manager.trackRequest text now requestData).getAggregatedMetrics math now none

def insightMetrics : List TrackingType := [.ips,.sessions]

def analysed : Option (HLLAnalytics K × VisitorTracker K) :=
  if manager.config.enableAnalytics then
    manager.analytics.bind (fun analytics =>
      (manager.visitorTrackers.get analytics.visitorTracker).map (fun tracker => (analytics,tracker)))
  else none

def processRequest (now : ℤ) (requestData : VisitorRequest) : RequestReply K × HyperLogLogManager K :=
  let measured := manager.measureRequest text math now requestData
  let reply : RequestReply K := ⟨true,manager.visitorTrackers.keys,measured.1,none⟩
  match measured.2.analysed with
  | some (analytics,tracker) =>
    let generated := analytics.generateInsights math now insightMetrics tracker
    ({ reply with insights := some generated.1 },{ measured.2 with
      visitorTrackers := measured.2.visitorTrackers.set analytics.visitorTracker generated.2 })
  | none => (reply,measured.2)

-- What a Redis failure returns instead of throwing lets the tick go on.
def persistToPersistence (now : ℤ) : HyperLogLogManager K × Option (VisitorMetrics K) :=
  match manager.analytics with
  | none => (manager,none)
  | some analytics =>
    let measured := manager.getAggregatedMetrics math now (some hourMs)
    ({ measured.2 with
      analytics := some (((analytics.recordHistoricalData now "total_visitors" measured.1.total).recordHistoricalData
        now "unique_ips" measured.1.ips).recordHistoricalData now "unique_sessions" measured.1.sessions) },
      some measured.1)

end Requests
end HyperLogLogManager

inductive InsightEvent where
  | processRequest (now : ℤ) (requestData : VisitorRequest)
  | persist (now : ℤ)

section Runs
variable {K : Type} [Field K] [LinearOrder K] [FloorRing K] (text : TextFunctions) (math : JsMath K)

def insightStep (s : HyperLogLogManager K × Option (VisitorMetrics K)) :
    InsightEvent → (HyperLogLogManager K × Option (VisitorMetrics K)) × Option (RequestReply K)
  | .processRequest now requestData =>
    let answered := s.1.processRequest text math now requestData
    ((answered.2,s.2),some answered.1)
  | .persist now =>
    let persisted := s.1.persistToPersistence math now
    ((persisted.1,persisted.2.or s.2),none)

def recordedFor (lastTick : Option (VisitorMetrics K)) : TrackingType → Option (JsNumber K)
  | .ips => lastTick.map VisitorMetrics.ips
  | .sessions => lastTick.map VisitorMetrics.sessions
  | .user_agents | .locations | .paths => none

def hourlyCount (tracker : VisitorTracker K) (metric : TrackingType) : Option (JsNumber K) :=
  (tracker.getCardinality math metric (some hourMs)).1.map CardinalityEstimate.count

def Exceeds (count recorded : JsNumber K) : Prop :=
  (JsNumber.finite 0).lt recorded = true ∧ (recorded.scale (lit (3/2))).lt count = true

structure FromHistory (now : ℤ) (lastTick : Option (VisitorMetrics K)) (analytics : HLLAnalytics K)
    (tracker : VisitorTracker K) (insights : List (UniqueVisitorInsight K)) : Prop where
  based : ∀ analysis ∈ (analytics.analyses math now HyperLogLogManager.insightMetrics tracker).1,
    analysis.previousValue = (recordedFor lastTick analysis.metric).getD (.finite 0) ∧
      analysis.growthRate = HLLAnalytics.growthFrom analysis.currentValue
        ((recordedFor lastTick analysis.metric).getD (.finite 0))
  noticed : ∀ metric ∈ HyperLogLogManager.insightMetrics, ∀ count recorded, hourlyCount math tracker metric = some count →
    recordedFor lastTick metric = some recorded → Exceeds count recorded →
    ∃ insight ∈ insights, insight.insight = .high_growth ∧
      insight.description = HLLAnalytics.highGrowthDescription metric (HLLAnalytics.growthFrom count recorded)

-- At a request the analysed tracker is looked at after the visitor has been counted in.
def OfRequest (property : HLLAnalytics K → VisitorTracker K → Prop) (manager : HyperLogLogManager K) (now : ℤ)
    (requestData : VisitorRequest) : Prop :=
  ∀ analytics tracker, (manager.measureRequest text math now requestData).2.analysed = some (analytics,tracker) →
    property analytics tracker

def InsightsFromHistory (s : HyperLogLogManager K × Option (VisitorMetrics K)) : InsightEvent → Prop
  | .persist _ => True
  | .processRequest now requestData =>
    OfRequest text math (fun analytics tracker => FromHistory math now s.2 analytics tracker
      ((s.1.processRequest text math now requestData).1.insights.getD [])) s.1 now requestData

def NothingRecorded (lastTick : Option (VisitorMetrics K)) (metric : TrackingType) : Prop :=
  (recordedFor lastTick metric).getD (.finite 0) = .finite 0

-- There is nothing to compare with: no tick has been, or it recorded 0. A tracker
-- without an hourly count of addresses ends the analysis before the sessions, which is
-- no loss where these have not grown.
def HistoryUnneeded (s : HyperLogLogManager K × Option (VisitorMetrics K)) : InsightEvent → Prop
  | .persist _ => True
  | .processRequest now requestData =>
    OfRequest text math (fun _ tracker =>
      if (hourlyCount math tracker .ips).isSome then
        NothingRecorded s.2 .ips ∧ ((hourlyCount math tracker .sessions).isSome → NothingRecorded s.2 .sessions)
      else
        ∀ count recorded, hourlyCount math tracker .sessions = some count → recordedFor s.2 .sessions = some recorded →
          ¬ Exceeds count recorded) s.1 now requestData

-- The history is written under names that the analysis does not ask for.
def Unread (s : HyperLogLogManager K × Option (VisitorMetrics K)) : Prop :=
  ∀ analytics, s.1.analytics = some analytics → ∀ metric ∈ HyperLogLogManager.insightMetrics,
    analytics.historicalData.get metric.name = none

omit [LinearOrder K] [FloorRing K] in
theorem unwritten_recordHistoricalData {analytics : HLLAnalytics K} (unwritten : analytics.historicalData.get name = none)
    (other : name ≠ metric) (now : ℤ) (cardinality : JsNumber K) :
    (analytics.recordHistoricalData now metric cardinality).historicalData.get name = none := by
  rw [HLLAnalytics.recordHistoricalData,OrderedMap.get_set_other _ _ other]
  exact unwritten

theorem processRequest_analytics (manager : HyperLogLogManager K) (now : ℤ) (requestData : VisitorRequest) :
    (manager.processRequest text math now requestData).2.analytics = manager.analytics := by
  simp only [HyperLogLogManager.processRequest]
  split
  · rfl
  · rfl

theorem insightStep_unread (s : HyperLogLogManager K × Option (VisitorMetrics K)) (event : InsightEvent)
    (unread : Unread s) : Unread (insightStep text math s event).1 := by
  obtain ⟨manager,lastTick⟩ := s
  intro found here metric asked
  cases event with
  | processRequest now requestData =>
      change (manager.processRequest text math now requestData).2.analytics = some found at here
      rw [processRequest_analytics] at here
      exact unread found here metric asked
  | persist now =>
      cases present : manager.analytics with
      | none => simp [insightStep,HyperLogLogManager.persistToPersistence,present] at here
      | some analytics =>
          simp only [insightStep,HyperLogLogManager.persistToPersistence,present,Option.some.injEq] at here
          rw [← here]
          have before := unread analytics present metric asked
          -- None of the three names is that of an analysed metric.
          have names : metric.name ≠ "total_visitors" ∧ metric.name ≠ "unique_ips" ∧ metric.name ≠ "unique_sessions" := by
            cases metric <;> decide
          exact unwritten_recordHistoricalData (unwritten_recordHistoricalData
            (unwritten_recordHistoricalData before names.1 _ _) names.2.1 _ _) names.2.2 _ _

section Analyses
variable {analytics : HLLAnalytics K} {tracker : VisitorTracker K} {metric : TrackingType}

structure ComparesWithZero (metric : TrackingType) (count : JsNumber K) (analysis : HLLAnalyticsResult K) : Prop where
  metric : analysis.metric = metric
  currentValue : analysis.currentValue = count
  previousValue : analysis.previousValue = .finite 0
  growthRate : analysis.growthRate = .finite 0
  anomalyScore : analysis.anomalyScore = .finite 0

theorem analyses_unwritten (unwritten : analytics.historicalData.get metric.name = none) (now : ℤ)
    (rest : List TrackingType) (tracker : VisitorTracker K) :
    match hourlyCount math tracker metric with
    | none => (analytics.analyses math now (metric :: rest) tracker).1 = []
    | some count => ∃ analysis, ComparesWithZero metric count analysis ∧
        (analytics.analyses math now (metric :: rest) tracker).1 =
          analysis :: (analytics.analyses math now rest (tracker.getCardinality math metric (some hourMs)).2).1 := by
  have empty : analytics.getHistoricalData metric.name 7 = [] := by
    rw [HLLAnalytics.getHistoricalData,unwritten]
    rfl
  cases counted : (tracker.getCardinality math metric (some hourMs)).1 with
  | none => simp only [HLLAnalytics.analyses,HLLAnalytics.analyzeVisitorTrends,hourlyCount,counted,Option.map_none]
  | some estimate =>
      simp only [HLLAnalytics.analyses,HLLAnalytics.analyzeVisitorTrends,hourlyCount,counted,Option.map_some,empty]
      refine ⟨_,⟨rfl,rfl,rfl,?_,?_⟩,rfl⟩
      · simp [HLLAnalytics.growthFrom,JsNumber.lt]
      · simp [HLLAnalytics.calculateAnomalyScore]

omit [FloorRing K] in
theorem ComparesWithZero.based_iff {analysis : HLLAnalyticsResult K} (zero : ComparesWithZero metric count analysis)
    (lastTick : Option (VisitorMetrics K)) :
    (analysis.previousValue = (recordedFor lastTick analysis.metric).getD (.finite 0) ∧
      analysis.growthRate = HLLAnalytics.growthFrom analysis.currentValue
        ((recordedFor lastTick analysis.metric).getD (.finite 0))) ↔ NothingRecorded lastTick metric := by
  rw [zero.previousValue,zero.growthRate,zero.metric,NothingRecorded]
  constructor
  · exact fun both => both.1.symm
  · intro nothing
    rw [nothing]
    exact ⟨rfl,by simp [HLLAnalytics.growthFrom,JsNumber.lt]⟩

theorem ComparesWithZero.silent [IsStrictOrderedRing K] {analysis : HLLAnalyticsResult K}
    (zero : ComparesWithZero metric count analysis) (now : ℤ) : HLLAnalytics.insightsOf now analysis = [] := by
  have threshold : (0 : K) ≤ 7 / 10 := by positivity
  rw [HLLAnalytics.insightsOf,zero.growthRate,zero.anomalyScore]
  simp [JsNumber.lt,threshold]

theorem hourlyCount_congr {first second : VisitorTracker K}
    (windows : first.timeWindowData.get metric = second.timeWindowData.get metric)
    (totals : first.hlls.get metric = second.hlls.get metric) :
    hourlyCount math first metric = hourlyCount math second metric := by
  have window : (some hourMs).filter (· ≠ 0) = some hourMs := rfl
  simp only [hourlyCount,VisitorTracker.getCardinality,windows,totals,window]
  cases second.timeWindowData.get metric with
  | none =>
      cases second.hlls.get metric with
      | none => rfl
      | some hll => rfl
  | some windowMap =>
      simp only
      cases windowMap.get hourMs with
      | none => rfl
      | some windowHLL => rfl

theorem hourlyCount_other (tracker : VisitorTracker K) (other : metric ≠ counted) :
    hourlyCount math (tracker.getCardinality math counted (some hourMs)).2 metric = hourlyCount math tracker metric := by
  apply hourlyCount_congr
  · unfold VisitorTracker.getCardinality
    split
    · split
      · exact OrderedMap.get_set_other _ _ other
      · rfl
    · split
      · rfl
      · rfl
  · unfold VisitorTracker.getCardinality
    split
    · split
      · rfl
      · rfl
    · split
      · exact OrderedMap.get_set_other _ _ other
      · rfl

omit [FloorRing K] in
theorem NothingRecorded.not_exceeds {lastTick : Option (VisitorMetrics K)} (nothing : NothingRecorded lastTick metric)
    (found : recordedFor lastTick metric = some recorded) (count : JsNumber K) : ¬ Exceeds count recorded := by
  rw [NothingRecorded,found,Option.getD_some] at nothing
  rintro ⟨positive,_⟩
  simp [nothing,JsNumber.lt] at positive

theorem not_exceeds_of_nothing {lastTick : Option (VisitorMetrics K)} (addresses : NothingRecorded lastTick .ips)
    (sessions : (hourlyCount math tracker .sessions).isSome → NothingRecorded lastTick .sessions) :
    ∀ metric ∈ HyperLogLogManager.insightMetrics, ∀ count recorded, hourlyCount math tracker metric = some count →
      recordedFor lastTick metric = some recorded → ¬ Exceeds count recorded := by
  intro metric asked count recorded counted found
  simp only [HyperLogLogManager.insightMetrics,List.mem_cons,List.not_mem_nil,or_false] at asked
  rcases asked with rfl | rfl
  · exact addresses.not_exceeds found count
  · exact (sessions (by rw [counted]; rfl)).not_exceeds found count

theorem fromHistory_silent {now : ℤ} {lastTick : Option (VisitorMetrics K)} :
    FromHistory math now lastTick analytics tracker [] ↔
      (∀ analysis ∈ (analytics.analyses math now HyperLogLogManager.insightMetrics tracker).1,
        analysis.previousValue = (recordedFor lastTick analysis.metric).getD (.finite 0) ∧
          analysis.growthRate = HLLAnalytics.growthFrom analysis.currentValue
            ((recordedFor lastTick analysis.metric).getD (.finite 0))) ∧
        ∀ metric ∈ HyperLogLogManager.insightMetrics, ∀ count recorded, hourlyCount math tracker metric = some count →
          recordedFor lastTick metric = some recorded → ¬ Exceeds count recorded := by
  constructor
  · rintro ⟨based,noticed⟩
    refine ⟨based,?_⟩
    intro metric asked count recorded counted found exceeds
    obtain ⟨insight,none,_⟩ := noticed metric asked count recorded counted found exceeds
    cases none
  · rintro ⟨based,grown⟩
    refine ⟨based,?_⟩
    intro metric asked count recorded counted found exceeds
    exact absurd exceeds (grown metric asked count recorded counted found)

variable [IsStrictOrderedRing K]

-- One request: the insights are empty, and what they should have been is decided by
-- what the latest tick recorded.
theorem fromHistory_iff (unwritten : ∀ metric ∈ HyperLogLogManager.insightMetrics,
      analytics.historicalData.get metric.name = none) (now : ℤ) (lastTick : Option (VisitorMetrics K))
    (tracker : VisitorTracker K) :
    FromHistory math now lastTick analytics tracker
        (analytics.generateInsights math now HyperLogLogManager.insightMetrics tracker).1 ↔
      if (hourlyCount math tracker .ips).isSome then
        NothingRecorded lastTick .ips ∧
          ((hourlyCount math tracker .sessions).isSome → NothingRecorded lastTick .sessions)
      else
        ∀ count recorded, hourlyCount math tracker .sessions = some count →
          recordedFor lastTick .sessions = some recorded → ¬ Exceeds count recorded := by
  have addresses := analyses_unwritten math (unwritten .ips (by decide)) now [.sessions] tracker
  have sessions := analyses_unwritten math (unwritten .sessions (by decide)) now []
    (tracker.getCardinality math .ips (some hourMs)).2
  rw [hourlyCount_other math tracker (by decide)] at sessions
  rw [HLLAnalytics.generateInsights]
  cases first : hourlyCount math tracker .ips with
  | none =>
      simp only [first] at addresses
      rw [HyperLogLogManager.insightMetrics,addresses,List.flatMap_nil,fromHistory_silent,
        HyperLogLogManager.insightMetrics,addresses]
      simp [first]
  | some count =>
      simp only [first] at addresses
      obtain ⟨analysis,zero,listed⟩ := addresses
      cases second : hourlyCount math tracker .sessions with
      | none =>
          simp only [second] at sessions
          rw [sessions] at listed
          rw [HyperLogLogManager.insightMetrics,listed,List.flatMap_singleton,zero.silent,fromHistory_silent,
            HyperLogLogManager.insightMetrics,listed,List.forall_mem_singleton,zero.based_iff]
          constructor
          · rintro ⟨nothing,_⟩
            simp [nothing]
          · intro conditions
            have nothing : NothingRecorded lastTick .ips := by simpa using conditions
            exact ⟨nothing,not_exceeds_of_nothing math nothing (by simp [second])⟩
      | some other =>
          simp only [second] at sessions
          obtain ⟨later,zero',rest⟩ := sessions
          have both : (analytics.analyses math now [.ips,.sessions] tracker).1 = [analysis,later] := by
            rw [listed,rest]
            rfl
          rw [HyperLogLogManager.insightMetrics,both,List.flatMap_cons,List.flatMap_singleton,zero.silent,zero'.silent,
            List.append_nil,fromHistory_silent,HyperLogLogManager.insightMetrics,both,List.forall_mem_cons,
            List.forall_mem_singleton,zero.based_iff,zero'.based_iff]
          constructor
          · rintro ⟨nothing,_⟩
            simp [nothing]
          · intro conditions
            have nothing : NothingRecorded lastTick .ips ∧ NothingRecorded lastTick .sessions := by
              simpa using conditions
            exact ⟨nothing,not_exceeds_of_nothing math nothing.1 (fun _ => nothing.2)⟩

end Analyses

variable {text math} in
theorem insights_exact [IsStrictOrderedRing K] (s : HyperLogLogManager K × Option (VisitorMetrics K))
    (event : InsightEvent) (unread : Unread s) :
    InsightsFromHistory text math s event ↔ HistoryUnneeded text math s event := by
  cases event with
  | persist now => exact Iff.rfl
  | processRequest now requestData =>
      refine forall_congr' fun analytics => forall_congr' fun tracker => imp_congr_right fun present => ?_
      have own : s.1.analytics = some analytics := by
        unfold HyperLogLogManager.analysed at present
        split at present
        · obtain ⟨found,here,pair⟩ := Option.bind_eq_some_iff.mp present
          obtain ⟨_,_,same⟩ := Option.map_eq_some_iff.mp pair
          cases same
          exact here
        · cases present
      have generated : (s.1.processRequest text math now requestData).1.insights =
          some (analytics.generateInsights math now HyperLogLogManager.insightMetrics tracker).1 := by
        simp only [HyperLogLogManager.processRequest,present]
      rw [generated,Option.getD_some]
      exact fromHistory_iff math (unread analytics own) now s.2 tracker

omit [LinearOrder K] [FloorRing K] in
theorem initialized_unread (configs : UseCase → HyperLogLogConfig) {config : HLLManagerConfig}
    {manager : HyperLogLogManager K} (ready : HyperLogLogManager.initialized configs config = .ok manager) :
    Unread (manager,none) := by
  obtain ⟨visitorTrackers,_,made⟩ := bind_ok ready
  cases made
  intro analytics present metric _
  simp only at present
  split at present
  · obtain ⟨primary,_,same⟩ := Option.map_eq_some_iff.mp present
    rw [← same]
    rfl
  · cases present

theorem insights_use_history_iff [IsStrictOrderedRing K] (configs : UseCase → HyperLogLogConfig)
    {config : HLLManagerConfig} {manager : HyperLogLogManager K}
    (ready : HyperLogLogManager.initialized configs config = .ok manager) (events : List InsightEvent) :
    Along (insightStep text math) (InsightsFromHistory text math) (manager,none) events ↔
      Along (insightStep text math) (HistoryUnneeded text math) (manager,none) events :=
  along_exact (fun s event unread (_ : True) => insightStep_unread text math s event unread) insights_exact
    (initialized_unread configs ready) (fun _ _ => trivial)

end Runs

def development (useCase : UseCase) : HyperLogLogConfig :=
  match useCase with
  | .ip_tracking => ⟨10,.fnv1a,false,true,8⟩
  | .session_tracking => ⟨8,.fnv1a,false,true,5⟩
  | .visitor_tracking => ⟨10,.fnv1a,true,true,10⟩
  | .path_tracking => ⟨8,.fnv1a,false,true,5⟩
  | .general => ⟨4,.fnv1a,false,true,5⟩

def addressesOnly : VisitorTrackingConfig := ⟨true,false,false,false,false,[60000,3600000],true⟩

def addressManager : HyperLogLogManager ℚ where
  config := ⟨[⟨"unique_ips",addressesOnly,true⟩],true⟩
  visitorTrackers := OrderedMap.empty.set "unique_ips" ⟨addressesOnly,
    OrderedMap.empty.set .ips (.initial (development .ip_tracking)),
    OrderedMap.empty.set .ips ((OrderedMap.empty.set 60000 (.initial (development .general))).set 3600000
      (.initial (development .general)))⟩
  analytics := some ⟨"unique_ips",.empty⟩

def developmentMath : JsMath ℚ := ⟨fun size => if size = 1024 then 32 else 4,fun _ => 0,fun _ => 0,fun _ => 1⟩

theorem insights_before_the_first_tick :
    HyperLogLogManager.initialized development ⟨[⟨"unique_ips",addressesOnly,true⟩],true⟩ = .ok addressManager ∧
      Along (insightStep plainText developmentMath) (InsightsFromHistory plainText developmentMath)
        (addressManager,none) [.processRequest 0 (requestFrom "10.0.0.10"),.persist 5] := by
  have ready : HyperLogLogManager.initialized development ⟨[⟨"unique_ips",addressesOnly,true⟩],true⟩ =
      .ok addressManager := rfl
  refine ⟨ready,(insights_use_history_iff plainText developmentMath development ready _).mpr ⟨?_,trivial,trivial⟩⟩
  intro analytics tracker _
  split
  · exact ⟨rfl,fun _ => rfl⟩
  · exact fun _ _ _ none => nomatch none

-- Nine visitors after a tick that recorded 11.
def rush : List InsightEvent :=
  .persist 0 :: ["10.0.0.10","10.0.0.11","10.0.0.12","10.0.0.13","10.0.0.14","10.0.0.15","10.0.0.16",
    "10.0.0.17"].map (fun ipAddress => .processRequest 1 (requestFrom ipAddress))

theorem growth_goes_unnoticed :
    let s := (exec (insightStep plainText developmentMath) (addressManager,none) rush).1
    let next := s.1.measureRequest plainText developmentMath 1 (requestFrom "10.0.0.18")
    recordedFor s.2 .ips = some (.finite 11) ∧
      (next.2.analysed.bind (fun found => hourlyCount developmentMath found.2 .ips)) = some (.finite 19) ∧
      ((s.1.processRequest plainText developmentMath 1 (requestFrom "10.0.0.18")).1.insights.map List.isEmpty) =
        some true := by
  decide +kernel

end PhantomFlow.Cardinality
