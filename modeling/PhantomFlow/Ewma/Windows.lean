import PhantomFlow.Ewma.Levels
import PhantomFlow.Ewma.Reset
import PhantomFlow.Library.MostCommon

namespace PhantomFlow.Ewma
open Library Library.Machine

inductive TimeWindow where
  | oneMinute | fiveMinutes | fifteenMinutes | sixtyMinutes
  deriving DecidableEq

-- `Partial<EWMAConfig>`
structure PartialEWMAConfig (K : Type) where
  variant : Option EWMAVariant := none
  alpha : Option K := none
  adaptiveAlpha : Option Bool := none
  minAlpha : Option K := none
  maxAlpha : Option K := none
  windowSize : Option ℕ := none
  volatilityThreshold : Option K := none
  changeDetectionThreshold : Option K := none

def EWMAConfig.spread (base : EWMAConfig K) (overrides : PartialEWMAConfig K) : EWMAConfig K where
  variant := overrides.variant.getD base.variant
  alpha := overrides.alpha.getD base.alpha
  adaptiveAlpha := overrides.adaptiveAlpha.getD base.adaptiveAlpha
  minAlpha := overrides.minAlpha.getD base.minAlpha
  maxAlpha := overrides.maxAlpha.getD base.maxAlpha
  windowSize := overrides.windowSize.getD base.windowSize
  volatilityThreshold := overrides.volatilityThreshold.getD base.volatilityThreshold
  changeDetectionThreshold := overrides.changeDetectionThreshold.getD base.changeDetectionThreshold

def TimeWindow.points : TimeWindow → ℕ
  | .oneMinute => 60
  | .fiveMinutes => 300
  | .fifteenMinutes => 900
  | .sixtyMinutes => 3600

structure EWMAManagerConfig (K : Type) where
  windows : List TimeWindow
  defaultConfig : EWMAConfig K
  windowConfigs : TimeWindow → Option (PartialEWMAConfig K)
  maxMemoryUsage : ℕ

namespace EWMAManagerConfig
variable {K : Type} [Field K] (config : EWMAManagerConfig K)

def getWindowParameters : TimeWindow → PartialEWMAConfig K
  | .oneMinute => {
      alpha := some (lit (3/10))
      windowSize := some TimeWindow.oneMinute.points
      volatilityThreshold := some (lit (1/10))
      changeDetectionThreshold := some (lit (8/10)) }
  | .fiveMinutes => {
      alpha := some (lit (2/10))
      windowSize := some TimeWindow.fiveMinutes.points
      volatilityThreshold := some (lit (15/100))
      changeDetectionThreshold := some (lit (6/10)) }
  | .fifteenMinutes => {
      alpha := some (lit (1/10))
      windowSize := some TimeWindow.fifteenMinutes.points
      volatilityThreshold := some (lit (2/10))
      changeDetectionThreshold := some (lit (4/10)) }
  | .sixtyMinutes => {
      alpha := some (lit (5/100))
      windowSize := some TimeWindow.sixtyMinutes.points
      volatilityThreshold := some (lit (3/10))
      changeDetectionThreshold := some (lit (3/10)) }

-- What is configured for a window never reaches the four parameters above.
def getWindowConfig (window : TimeWindow) : EWMAConfig K :=
  (config.defaultConfig.spread ((config.windowConfigs window).getD {})).spread (getWindowParameters window)

theorem getWindowConfig_windowSize (window : TimeWindow) : (config.getWindowConfig window).windowSize = window.points := by
  cases window <;> rfl

end EWMAManagerConfig

structure Consensus (K : Type) where
  trend : TrendDirection
  anomalyScore : K
  confidence : K
  agreement : K

structure MultiWindowEWMA (K : Type) where
  windows : OrderedMap TimeWindow (EWMAResult K)
  consensus : Consensus K
  recommendations : List String

namespace EWMAAnalytics

def getMostCommon (counts : OrderedMap TrendDirection ℕ) : Option TrendDirection := (largest counts.entries).1

def maxCount (counts : OrderedMap TrendDirection ℕ) : ℕ := counts.values.foldl max 0

variable {K : Type} [Field K] [DecidableEq K]

def confidenceOf (result : EWMAResult K) : K := if result.current.confidence = 0 then lit (1/2) else result.current.confidence

def analyzeMultiWindowConsensus (windowResults : OrderedMap TimeWindow (EWMAResult K)) : Consensus K :=
  let results := windowResults.values
  if results.length < 2 then ⟨.stable,0,lit (3/10),0⟩
  else
    let trendCounts := countOccurrences (results.map (fun result => result.trend.direction))
    let agreement := (maxCount trendCounts : K) / results.length
    { trend := (getMostCommon trendCounts).getD .stable
      anomalyScore := meanOf (results.map (fun result => result.anomaly.score))
      confidence := meanOf (results.map confidenceOf) * agreement
      agreement }

end EWMAAnalytics

section Recommendations
variable {K : Type} [Field K] [LinearOrder K] (consensus : Consensus K)

def lowConsensus : String := "Low consensus between time windows - investigate data quality"

def lowConfidence : String := "Low confidence in analysis - consider increasing data collection"

def agreementAdvice : List String :=
  if consensus.agreement < lit (1/2) then [lowConsensus]
  else if lit (9/10) < consensus.agreement then ["High consensus detected - trend is well-established"]
  else []

def anomalyAdvice : List String :=
  if lit (8/10) < consensus.anomalyScore then ["High anomaly score across windows - immediate investigation required"]
  else if lit (6/10) < consensus.anomalyScore then ["Moderate anomaly detected - monitor closely"]
  else []

def trendAdvice : TrendDirection → List String
  | .increasing => ["Increasing trend detected - monitor for capacity issues"]
  | .decreasing => ["Decreasing trend detected - check for service degradation"]
  | .volatile => ["High volatility detected - investigate system stability"]
  | .stable => []

def confidenceAdvice : List String := if consensus.confidence < lit (1/2) then [lowConfidence] else []

def recommendationsOf : List String :=
  agreementAdvice consensus ++ anomalyAdvice consensus ++ trendAdvice consensus.trend ++ confidenceAdvice consensus

def generateRecommendations : List String :=
  let recommendations := recommendationsOf consensus
  if recommendations = [] then ["EWMA analysis shows normal patterns - continue monitoring"] else recommendations

end Recommendations

structure EWMAManager (K : Type) where
  config : EWMAManagerConfig K
  ewmaInstances : OrderedMap TimeWindow (EWMA K)
  isInitialized : Bool
  processedDataPoints : ℕ
  detectedAnomalies : ℕ

inductive ManagerCall (K : Type) where
  -- The creation times of the instances, and the counters read back from Redis.
  | initializeManager (created : TimeWindow → ℤ) (savedStats : Option (ℕ × ℕ))
  -- Every instance reads the clock for itself.
  | processDataPoint (clock : TimeWindow → ℤ) (dataPoint : DataPoint K)
  | performCleanup
  | reset
  | shutdown

namespace EWMAManager

def create (config : EWMAManagerConfig K) : EWMAManager K := ⟨config,.empty,false,0,0⟩

section Members
variable {K : Type} (manager : EWMAManager K)

def getEWMAInstance (window : TimeWindow) : Option (EWMA K) := manager.ewmaInstances.get window

def getActiveWindows : List TimeWindow := manager.ewmaInstances.keys

def getTotalMemoryUsage : ℕ := (manager.ewmaInstances.values.map EWMA.calculateMemoryUsage).sum

def isMemoryUsageHealthy : Bool := decide (manager.getTotalMemoryUsage ≤ manager.config.maxMemoryUsage)

variable [Field K]

def resetInstances : OrderedMap TimeWindow (EWMA K) := manager.ewmaInstances.map (fun _ ewma => ewma.reset)

-- The instances of an earlier initialization are replaced, not kept.
def initializeManager (created : TimeWindow → ℤ) (savedStats : Option (ℕ × ℕ)) : EWMAManager K :=
  { manager with
    ewmaInstances := manager.config.windows.foldl
      (fun instances window => instances.set window (.create (manager.config.getWindowConfig window) (created window)))
      manager.ewmaInstances
    processedDataPoints := (savedStats.map Prod.fst).getD manager.processedDataPoints
    detectedAnomalies := (savedStats.map Prod.snd).getD manager.detectedAnomalies
    isInitialized := true }

def performCleanup : EWMAManager K :=
  if manager.isMemoryUsageHealthy then manager else { manager with ewmaInstances := manager.resetInstances }

def reset : EWMAManager K :=
  { manager with ewmaInstances := manager.resetInstances, processedDataPoints := 0, detectedAnomalies := 0 }

-- The instances stay, but nothing is processed until the next initialization.
def shutdown : EWMAManager K := { manager with isInitialized := false }

variable [LinearOrder K] [FloorRing K] (math : JsMath K)

def processDataPoint (clock : TimeWindow → ℤ) (dataPoint : DataPoint K) : EWMAManager K × Option (MultiWindowEWMA K) :=
  if manager.isInitialized then
    let updated := manager.ewmaInstances.map (fun window ewma => ewma.update math (clock window) dataPoint)
    let windowResults := updated.map (fun _ update => update.1)
    let consensus := EWMAAnalytics.analyzeMultiWindowConsensus windowResults
    ({ manager with
       ewmaInstances := updated.map (fun _ update => update.2)
       processedDataPoints := manager.processedDataPoints + 1
       detectedAnomalies := manager.detectedAnomalies + windowResults.values.countP (fun result => result.anomaly.isAnomalous) },
     some ⟨windowResults,consensus,generateRecommendations consensus⟩)
  else (manager,none)

end Members

section Calls
variable {K : Type} [Field K] [LinearOrder K] [FloorRing K] (math : JsMath K)

def call (manager : EWMAManager K) : ManagerCall K → EWMAManager K × Option (MultiWindowEWMA K)
  | .initializeManager created savedStats => (manager.initializeManager created savedStats,none)
  | .processDataPoint clock dataPoint => manager.processDataPoint math clock dataPoint
  | .performCleanup => (manager.performCleanup,none)
  | .reset => (manager.reset,none)
  | .shutdown => (manager.shutdown,none)

end Calls
end EWMAManager

-- The abstract level: one list of points, and the windows it is kept for.
structure Feed (K : Type) where
  windows : List TimeWindow
  points : List (DataPoint K)
  running : Bool

namespace Feed
variable {K : Type}

def start : Feed K := ⟨[],[],false⟩

def memory (feed : Feed K) : ℕ :=
  (feed.windows.map (fun window => 500 + min window.points feed.points.length * 100)).sum

def step (config : EWMAManagerConfig K) (feed : Feed K) : ManagerCall K → Feed K
  | .initializeManager _ _ =>
    ⟨config.windows.foldl (fun before window => if window ∈ before then before else before ++ [window]) feed.windows,[],true⟩
  | .processDataPoint _ dataPoint => if feed.running then { feed with points := feed.points ++ [dataPoint] } else feed
  | .performCleanup => if feed.memory ≤ config.maxMemoryUsage then feed else { feed with points := [] }
  | .reset => { feed with points := [] }
  | .shutdown => { feed with running := false }

def of (config : EWMAManagerConfig K) (calls : List (ManagerCall K)) : Feed K := calls.foldl (step config) start

end Feed

section Fed
variable {K : Type} [Field K] [LinearOrder K] [FloorRing K] (math : JsMath K)

-- An average of its own that is fed these points. The clock shows in its results only.
def fed (config : EWMAConfig K) (created : ℤ) (points : List (DataPoint K)) : EWMA K :=
  points.foldl (fun ewma point => (ewma.update math 0 point).2) (EWMA.create config created)

variable (config : EWMAConfig K) (created : ℤ)

theorem fed_snoc (points : List (DataPoint K)) (now : ℤ) (point : DataPoint K) :
    fed math config created (points ++ [point]) = ((fed math config created points).update math now point).2 :=
  List.foldl_concat ..

theorem fed_config (points : List (DataPoint K)) : (fed math config created points).config = config := by
  induction points using List.reverseRecOn with
  | nil => rfl
  | append_singleton points point ih => rw [fed_snoc math config created points 0 point,update_config,ih]

theorem fed_reset (points : List (DataPoint K)) :
    (fed math config created points).reset = fed math config (fed math config created points).lastUpdate [] := by
  calc (fed math config created points).reset
      = EWMA.create (fed math config created points).config (fed math config created points).lastUpdate := rfl
    _ = fed math config (fed math config created points).lastUpdate [] := by rw [fed_config]; rfl

theorem update_dataPoints (ewma : EWMA K) (some' : ewma.config.windowSize ≠ 0) (now : ℤ) (point : DataPoint K) :
    (ewma.update math now point).2.dataPoints = (ewma.dataPoints ++ [point]).rtake ewma.config.windowSize := by
  have stored : (ewma.update math now point).2.dataPoints = (ewma.store point).dataPoints :=
    (judged_variance math ewma point).1
  rw [stored,EWMA.store]
  dsimp only
  split
  · rfl
  · rename_i fits
    exact (rtake_of_length_le (Nat.le_of_not_lt (fun longer => fits ⟨longer,some'⟩))).symm

theorem fed_dataPoints (some' : config.windowSize ≠ 0) (points : List (DataPoint K)) :
    (fed math config created points).dataPoints = points.rtake config.windowSize := by
  induction points using List.reverseRecOn with
  | nil => exact (rtake_of_length_le (Nat.zero_le _)).symm
  | append_singleton points point ih =>
      have kept := fed_config math config created points
      rw [fed_snoc math config created points 0 point,update_dataPoints math _ (by rwa [kept]),kept,ih,
        rtake_append_rtake _ _ (Nat.le_refl _)]

end Fed

section Follows
variable {K : Type} [Field K] [LinearOrder K] [FloorRing K] (math : JsMath K)

-- The manager keeps the feed's windows, each of them a lone average that was fed the
-- feed's points.
structure Follows (config : EWMAManagerConfig K) (manager : EWMAManager K) (feed : Feed K) : Prop where
  config_eq : manager.config = config
  known : ∀ window ∈ feed.windows, window ∈ config.windows
  windows : manager.getActiveWindows = feed.windows
  running : manager.isInitialized = feed.running
  instances : ∀ window ewma, manager.getEWMAInstance window = some ewma →
    ∃ created, ewma = fed math (config.getWindowConfig window) created feed.points

variable {math} {config : EWMAManagerConfig K} {manager : EWMAManager K} {feed : Feed K}

theorem create_follows : Follows math config (.create config) Feed.start where
  config_eq := rfl
  known := fun _ none => absurd none List.not_mem_nil
  windows := rfl
  running := rfl
  instances := fun _ _ none => nomatch none

omit [LinearOrder K] [FloorRing K] in
theorem windowSize_ne_zero (window : TimeWindow) : (config.getWindowConfig window).windowSize ≠ 0 := by
  cases window <;> exact Nat.succ_ne_zero _

theorem Follows.stored (follows : Follows math config manager feed)
    (found : manager.getEWMAInstance window = some ewma) : ewma.dataPoints = feed.points.rtake window.points := by
  obtain ⟨created,rfl⟩ := follows.instances window ewma found
  rw [fed_dataPoints math _ _ (windowSize_ne_zero window),EWMAManagerConfig.getWindowConfig_windowSize]

theorem Follows.memory (follows : Follows math config manager feed) : manager.getTotalMemoryUsage = feed.memory := by
  have each : ∀ entry ∈ manager.ewmaInstances.entries,
      entry.2.calculateMemoryUsage = 500 + min entry.1.points feed.points.length * 100 := by
    intro entry listed
    rw [EWMA.calculateMemoryUsage,follows.stored ((OrderedMap.get_exact _ _ _).mpr listed),length_rtake]
  rw [Feed.memory,← follows.windows]
  unfold EWMAManager.getTotalMemoryUsage EWMAManager.getActiveWindows OrderedMap.values OrderedMap.keys
  rw [List.map_map,List.map_map]
  exact congrArg List.sum (List.map_congr_left each)

theorem Follows.emptied (follows : Follows math config manager feed) (instances : OrderedMap TimeWindow (EWMA K))
    (reset : instances = manager.resetInstances) (processed detected : ℕ) :
    Follows math config ⟨manager.config,instances,manager.isInitialized,processed,detected⟩ { feed with points := [] } where
  config_eq := follows.config_eq
  known := follows.known
  windows := by
    rw [← follows.windows,reset]
    exact OrderedMap.keys_map ..
  running := follows.running
  instances := by
    intro window ewma found
    have here : instances.get window = some ewma := found
    rw [reset,EWMAManager.resetInstances,OrderedMap.get_map] at here
    obtain ⟨before,was,rfl⟩ := Option.map_eq_some_iff.mp here
    obtain ⟨created,rfl⟩ := follows.instances window before was
    exact ⟨_,fed_reset math _ created feed.points⟩

theorem Follows.initialized (follows : Follows math config manager feed) (created : TimeWindow → ℤ)
    (savedStats : Option (ℕ × ℕ)) :
    Follows math config (manager.initializeManager created savedStats)
      (feed.step config (.initializeManager created savedStats)) := by
  have windows : (manager.initializeManager created savedStats).getActiveWindows =
      (feed.step config (.initializeManager created savedStats)).windows := by
    have written := OrderedMap.keys_foldl_set manager.ewmaInstances
      (fun window => EWMA.create (config.getWindowConfig window) (created window)) config.windows
    have before : manager.ewmaInstances.keys = feed.windows := follows.windows
    rw [EWMAManager.getActiveWindows,EWMAManager.initializeManager,follows.config_eq,Feed.step,← before]
    exact written
  have found : ∀ window, (manager.initializeManager created savedStats).getEWMAInstance window =
      if window ∈ config.windows then some (EWMA.create (config.getWindowConfig window) (created window))
      else manager.getEWMAInstance window := by
    intro window
    rw [EWMAManager.getEWMAInstance,EWMAManager.initializeManager,follows.config_eq]
    exact OrderedMap.get_foldl_set ..
  have known : ∀ window ewma, (manager.initializeManager created savedStats).getEWMAInstance window = some ewma →
      window ∈ config.windows := by
    intro window ewma here
    rw [found] at here
    split at here
    · assumption
    · exact follows.known window (follows.windows ▸ (OrderedMap.mem_keys _ _).mpr ⟨ewma,here⟩)
  refine ⟨follows.config_eq,?_,windows,rfl,?_⟩
  · intro window listed
    rw [← windows] at listed
    obtain ⟨ewma,here⟩ := (OrderedMap.mem_keys _ _).mp listed
    exact known window ewma here
  · intro window ewma here
    have replaced := here
    rw [found,if_pos (known window ewma here)] at replaced
    exact ⟨created window,(Option.some.inj replaced).symm⟩

theorem Follows.processed (follows : Follows math config manager feed) (clock : TimeWindow → ℤ) (point : DataPoint K) :
    Follows math config (manager.processDataPoint math clock point).1 (feed.step config (.processDataPoint clock point)) := by
  rw [EWMAManager.processDataPoint,Feed.step,follows.running]
  split
  · refine ⟨follows.config_eq,follows.known,?_,rfl,?_⟩
    · rw [← follows.windows]
      exact (OrderedMap.keys_map ..).trans (OrderedMap.keys_map ..)
    · intro window ewma found
      rw [EWMAManager.getEWMAInstance] at found
      dsimp only at found
      rw [OrderedMap.map_map,OrderedMap.get_map] at found
      obtain ⟨before,was,rfl⟩ := Option.map_eq_some_iff.mp found
      obtain ⟨created,rfl⟩ := follows.instances window before was
      exact ⟨created,(fed_snoc math _ created feed.points (clock window) point).symm⟩
  · exact follows

theorem Follows.call (follows : Follows math config manager feed) (call : ManagerCall K) :
    Follows math config (manager.call math call).1 (feed.step config call) := by
  cases call with
  | initializeManager created savedStats => exact follows.initialized created savedStats
  | processDataPoint clock point => exact follows.processed clock point
  | performCleanup =>
      rw [EWMAManager.call,EWMAManager.performCleanup,Feed.step,EWMAManager.isMemoryUsageHealthy,follows.memory,
        follows.config_eq]
      by_cases fits : feed.memory ≤ config.maxMemoryUsage
      · rw [if_pos (decide_eq_true fits),if_pos fits]
        exact follows
      · have emptied := follows.emptied _ rfl manager.processedDataPoints manager.detectedAnomalies
        rw [follows.config_eq] at emptied
        rw [if_neg (fun fit => fits (of_decide_eq_true fit)),if_neg fits]
        exact emptied
  | reset => exact follows.emptied _ rfl _ _
  | shutdown => exact ⟨follows.config_eq,follows.known,follows.windows,rfl,follows.instances⟩

theorem run_follows (config : EWMAManagerConfig K) (calls : List (ManagerCall K)) :
    Follows math config (exec (EWMAManager.call math) (.create config) calls).1 (Feed.of config calls) := by
  induction calls using List.reverseRecOn with
  | nil => exact create_follows
  | append_singleton calls call ih =>
      rw [exec_snoc,Feed.of,List.foldl_concat]
      exact ih.call call

theorem fed_updatedAt (config : EWMAConfig K) (created other : ℤ) (points : List (DataPoint K)) :
    ∃ time, fed math config created points = (fed math config other points).updatedAt time := by
  induction points using List.reverseRecOn with
  | nil => exact ⟨created,rfl⟩
  | append_singleton points point ih =>
      obtain ⟨time,same⟩ := ih
      refine ⟨point.timestamp,?_⟩
      rw [fed_snoc math config created points 0 point,fed_snoc math config other points 0 point,same,update_updatedAt]
      rfl

theorem Follows.answers (follows : Follows math config manager feed) (clock : TimeWindow → ℤ) (point : DataPoint K)
    (answered : (manager.processDataPoint math clock point).2 = some answer) (window : TimeWindow) :
    answer.windows.get window =
      if window ∈ feed.windows then
        some ((fed math (config.getWindowConfig window) 0 feed.points).update math (clock window) point).1
      else none := by
  rw [EWMAManager.processDataPoint] at answered
  split at answered
  · have same := Option.some.inj answered
    subst same
    dsimp only
    rw [OrderedMap.map_map,OrderedMap.get_map,← follows.windows]
    have listed : window ∈ manager.getActiveWindows ↔ ∃ ewma, manager.ewmaInstances.get window = some ewma :=
      OrderedMap.mem_keys ..
    cases found : manager.ewmaInstances.get window with
    | none =>
        have absent : window ∉ manager.getActiveWindows := by
          rw [listed,found]
          exact fun none => nomatch none
        rw [if_neg absent]
        rfl
    | some ewma =>
        obtain ⟨created,rfl⟩ := follows.instances window ewma found
        obtain ⟨time,same⟩ := fed_updatedAt (config.getWindowConfig window) created 0 feed.points
        rw [if_pos (listed.mpr ⟨_,found⟩),Option.map_some,same,update_updatedAt]
  · cases answered

def allWindows : List TimeWindow := [.oneMinute,.fiveMinutes,.fifteenMinutes,.sixtyMinutes]

omit [Field K] [LinearOrder K] [FloorRing K] in
theorem Feed.memory_le (feed : Feed K) (distinct : feed.windows.Nodup) : feed.memory ≤ 488000 := by
  have among : feed.windows.Subperm allWindows :=
    distinct.subperm (fun window _ => by cases window <;> decide)
  obtain ⟨sorted,reordered,taken⟩ := among
  have each : ∀ windows : List TimeWindow,
      (windows.map (fun window => 500 + min window.points feed.points.length * 100)).sum ≤
        (windows.map (fun window => 500 + window.points * 100)).sum := fun windows =>
    List.sum_le_sum (fun window _ => Nat.add_le_add_left (Nat.mul_le_mul_right _ (Nat.min_le_left _ _)) _)
  calc feed.memory
      ≤ (feed.windows.map (fun window => 500 + window.points * 100)).sum := each _
    _ = (sorted.map (fun window => 500 + window.points * 100)).sum := (reordered.map _).sum_eq.symm
    _ ≤ (allWindows.map (fun window => 500 + window.points * 100)).sum :=
        (taken.map _).sum_le_sum (fun _ _ => Nat.zero_le _)
    _ = 488000 := rfl

-- In any order of calls the windows are one list of points, seen by averages that
-- differ in their parameters only.
theorem windows_fed_alike (config : EWMAManagerConfig K) (calls : List (ManagerCall K)) :
    let manager := (exec (EWMAManager.call math) (.create config) calls).1
    let feed := Feed.of config calls
    manager.getActiveWindows = feed.windows ∧ manager.isInitialized = feed.running ∧
      (∀ window ewma, manager.getEWMAInstance window = some ewma →
        (∃ created, ewma = fed math (config.getWindowConfig window) created feed.points) ∧
          ewma.dataPoints = feed.points.rtake window.points) ∧
      manager.getTotalMemoryUsage = feed.memory ∧ feed.memory ≤ 488000 ∧
      (488000 ≤ config.maxMemoryUsage → manager.performCleanup = manager) ∧
      ∀ clock point answer, (manager.call math (.processDataPoint clock point)).2 = some answer →
        ∀ window, answer.windows.get window =
          if window ∈ feed.windows then
            some ((fed math (config.getWindowConfig window) 0 feed.points).update math (clock window) point).1
          else none := by
  intro manager feed
  have follows : Follows math config manager feed := run_follows config calls
  have bound : feed.memory ≤ 488000 := feed.memory_le (follows.windows ▸ manager.ewmaInstances.distinct)
  refine ⟨follows.windows,follows.running,?_,follows.memory,bound,?_,?_⟩
  · intro window ewma found
    exact ⟨follows.instances window ewma found,follows.stored found⟩
  · intro enough
    rw [EWMAManager.performCleanup,EWMAManager.isMemoryUsageHealthy,follows.memory,follows.config_eq]
    exact if_pos (decide_eq_true (Nat.le_trans bound enough))
  · intro clock point answer answered
    exact follows.answers clock point answered

end Follows

end PhantomFlow.Ewma
