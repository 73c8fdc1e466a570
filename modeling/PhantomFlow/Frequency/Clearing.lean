import PhantomFlow.Ewma.Reset
import PhantomFlow.Frequency.FrequencyAnalyzer
import PhantomFlow.Markov.Insights

namespace PhantomFlow.Frequency
open Library Library.Machine Sketch

namespace FrequencyAnalyzer
variable (analyzer : FrequencyAnalyzer)

def persistToRedis : List (String × SketchPersistenceData) :=
  analyzer.sketches.entries.map (fun entry => ("frequency_sketch:" ++ entry.1,entry.2.serialize))

-- The first sketch that cannot be read ends the loading; those before it stay.
def loadSketches (stored : String → Option SketchPersistenceData) :
    List String → FrequencyAnalyzer → FrequencyAnalyzer
  | [],analyzer => analyzer
  | name :: rest,analyzer =>
    match stored ("frequency_sketch:" ++ name) with
    | none => loadSketches stored rest analyzer
    | some data =>
      match CountMinSketch.deserialize data with
      | .error _ => analyzer
      | .ok sketch => loadSketches stored rest { analyzer with sketches := analyzer.sketches.set name sketch }

def loadFromRedis (stored : String → Option SketchPersistenceData) : FrequencyAnalyzer :=
  loadSketches stored analyzer.getSketchNames analyzer

end FrequencyAnalyzer

inductive Call where
  | createSketch (name : String) (config : CountMinSketchConfig)
  | track (call : TrackCall)
  | analyzePattern (sketchName item : String)
  | getTopItems (sketchName : String) (candidates : List String) (limit : ℤ)
  | updateBaseline (sketchName item : String) (baseline : JsNumber ℚ)
  | updateThresholds (sketchName : String) (thresholds : FrequencyThresholds)
  | getSketchMetrics (sketchName : String)
  | getSketchNames
  | getTotalMemoryUsage
  | clearAll
  | persistToRedis
  | loadFromRedis (stored : String → Option SketchPersistenceData)

inductive Answer where
  | done
  | failed (message : String)
  | tracked (result : Except String FrequencyAnalysisResult)
  | pattern (result : Except String FrequencyPattern)
  | top (result : Except String (List FrequencyEstimate))
  | metrics (result : Option SketchMetrics)
  | names (result : List String)
  | memory (result : ℕ)
  | persisted (result : List (String × SketchPersistenceData))

def callStep (text : Cardinality.TextFunctions) (analyzer : FrequencyAnalyzer) : Call → FrequencyAnalyzer × Answer
  | .createSketch name config =>
    match analyzer.createSketch name config with
    | .ok created => (created,.done)
    | .error message => (analyzer,.failed message)
  | .track call => ((analyzer.track text call).1,.tracked (analyzer.track text call).2)
  | .analyzePattern sketchName item => (analyzer,.pattern (analyzer.analyzePattern sketchName item))
  | .getTopItems sketchName candidates limit =>
    let answered := analyzer.getTopItems sketchName candidates limit
    (answered.1,.top answered.2)
  | .updateBaseline sketchName item baseline => (analyzer.updateBaseline sketchName item baseline,.done)
  | .updateThresholds sketchName thresholds => (analyzer.updateThresholds sketchName thresholds,.done)
  | .getSketchMetrics sketchName => (analyzer,.metrics (analyzer.getSketchMetrics sketchName))
  | .getSketchNames => (analyzer,.names analyzer.getSketchNames)
  | .getTotalMemoryUsage => (analyzer,.memory analyzer.getTotalMemoryUsage)
  | .clearAll => (analyzer.clearAll,.done)
  | .persistToRedis => (analyzer,.persisted analyzer.persistToRedis)
  | .loadFromRedis stored => (analyzer.loadFromRedis stored,.done)

namespace Call

def keepsSettings : Call → Bool
  | .createSketch _ _ | .updateThresholds _ _ | .loadFromRedis _ => false
  | _ => true

def reads : Call → Bool
  | .analyzePattern _ _ | .getSketchMetrics _ => true
  | _ => false

end Call

-- The window lists are gone, and a fresh analyzer has them.
theorem clearAll_not_alike (text : Cardinality.TextFunctions) (analyzer : FrequencyAnalyzer) (random : ℚ) :
    ¬ Alike (callStep text) analyzer.clearAll (.create random) := by
  intro alike
  have answers := alike [.analyzePattern "ip_addresses" ""]
  injection answers with answer _
  cases answer

section Queries

def unqueried (sketch : CountMinSketch) : CountMinSketch :=
  { sketch with metrics := { sketch.metrics with totalQueries := 0 } }

variable {a b : CountMinSketch} (same : unqueried a = unqueried b)
include same

theorem query_unqueried (item : String) :
    (a.query item).1 = (b.query item).1 ∧ unqueried (a.query item).2 = unqueried (b.query item).2 := by
  have blind : ∀ sketch : CountMinSketch, (sketch.query item).1 = ((unqueried sketch).query item).1 := fun _ => rfl
  refine ⟨?_,same⟩
  rw [blind a,blind b,same]

theorem insert_unqueried (item : String) (count : ℚ) : unqueried (a.insert item count) = unqueried (b.insert item count) :=
  congrArg (fun sketch => CountMinSketch.insert sketch item count) same

theorem queryBatch_unqueried (items : List String) :
    (queryBatch a items).1 = (queryBatch b items).1 ∧ unqueried (queryBatch a items).2 = unqueried (queryBatch b items).2 := by
  induction items generalizing a b with
  | nil => exact ⟨rfl,same⟩
  | cons item rest ih =>
      obtain ⟨first,next⟩ := query_unqueried same item
      obtain ⟨others,final⟩ := ih next
      simp only [queryBatch,first,others]
      exact ⟨trivial,final⟩

end Queries

structure Related (s t : FrequencyAnalyzer) : Prop where
  sketches : s.sketches.map (fun _ => unqueried) = t.sketches.map (fun _ => unqueried)
  baselines : s.baselines = t.baselines
  thresholds : s.thresholds = t.thresholds

section Lockstep
variable {s t : FrequencyAnalyzer}

theorem Related.names (related : Related s t) : s.getSketchNames = t.getSketchNames := by
  have keys := congrArg OrderedMap.keys related.sketches
  rwa [OrderedMap.keys_map,OrderedMap.keys_map] at keys

theorem Related.get_cases (related : Related s t) (name : String) :
    (s.sketches.get name = none ∧ t.sketches.get name = none) ∨
      ∃ a b, s.sketches.get name = some a ∧ t.sketches.get name = some b ∧ unqueried a = unqueried b := by
  have reads := congrArg (fun sketches => OrderedMap.get sketches name) related.sketches
  simp only [OrderedMap.get_map] at reads
  cases here : s.sketches.get name with
  | none =>
      cases there : t.sketches.get name with
      | none => exact .inl ⟨rfl,rfl⟩
      | some b =>
          rw [here,there] at reads
          cases reads
  | some a =>
      cases there : t.sketches.get name with
      | none =>
          rw [here,there] at reads
          cases reads
      | some b =>
          rw [here,there] at reads
          exact .inr ⟨a,b,rfl,rfl,Option.some.inj reads⟩

theorem Related.set_sketch (related : Related s t) (name : String) (same : unqueried a = unqueried b)
    (windows windows' : OrderedMap String (List TimeWindowFrequency)) :
    Related { s with sketches := s.sketches.set name a, timeWindows := windows }
      { t with sketches := t.sketches.set name b, timeWindows := windows' } := by
  refine ⟨?_,related.baselines,related.thresholds⟩
  simp only [OrderedMap.map_set,related.sketches,same]

theorem trackItem_effect {analyzer : FrequencyAnalyzer} (found : analyzer.sketches.get sketchName = some sketch)
    (item : String) (moment : Moment) :
    ∃ windows, (analyzer.trackItem sketchName item moment).1 =
      { analyzer with
        sketches := analyzer.sketches.set sketchName ((sketch.insert item 1).query item).2
        timeWindows := windows } := by
  simp only [FrequencyAnalyzer.trackItem,found]
  split
  · exact ⟨_,rfl⟩
  · unfold FrequencyAnalyzer.updateTimeWindow
    dsimp only
    split
    · exact ⟨_,rfl⟩
    · exact ⟨_,rfl⟩

theorem trackItem_lockstep (related : Related s t) (sketchName item : String) (moment : Moment) :
    Related (s.trackItem sketchName item moment).1 (t.trackItem sketchName item moment).1 ∧
      (s.trackItem sketchName item moment).2 = (t.trackItem sketchName item moment).2 := by
  rcases related.get_cases sketchName with ⟨here,there⟩ | ⟨a,b,here,there,same⟩
  · simp only [FrequencyAnalyzer.trackItem,here,there]
    exact ⟨related,trivial⟩
  · obtain ⟨answer,next⟩ := query_unqueried (insert_unqueried same item 1) item
    refine ⟨?_,?_⟩
    · obtain ⟨windows,left⟩ := trackItem_effect here item moment
      obtain ⟨windows',right⟩ := trackItem_effect there item moment
      rw [left,right]
      exact related.set_sketch sketchName next windows windows'
    · simp only [FrequencyAnalyzer.trackItem,here,there,related.thresholds,related.baselines,answer]
      split <;> rfl

theorem getTopItems_lockstep (related : Related s t) (sketchName : String) (candidates : List String) (limit : ℤ) :
    Related (s.getTopItems sketchName candidates limit).1 (t.getTopItems sketchName candidates limit).1 ∧
      (s.getTopItems sketchName candidates limit).2 = (t.getTopItems sketchName candidates limit).2 := by
  rcases related.get_cases sketchName with ⟨here,there⟩ | ⟨a,b,here,there,same⟩
  · simp only [FrequencyAnalyzer.getTopItems,here,there]
    exact ⟨related,trivial⟩
  · obtain ⟨answers,next⟩ := queryBatch_unqueried same candidates
    simp only [FrequencyAnalyzer.getTopItems,here,there,getTopK,answers]
    exact ⟨related.set_sketch sketchName next _ _,trivial⟩

theorem loadSketches_lockstep (stored : String → Option SketchPersistenceData) (names : List String)
    (related : Related s t) :
    Related (FrequencyAnalyzer.loadSketches stored names s) (FrequencyAnalyzer.loadSketches stored names t) := by
  induction names generalizing s t with
  | nil => exact related
  | cons name rest ih =>
      simp only [FrequencyAnalyzer.loadSketches]
      split
      · exact ih related
      · split
        · exact related
        · exact ih (related.set_sketch name rfl _ _)

theorem Related.clearAll (related : Related s t) : Related s.clearAll t.clearAll := by
  refine ⟨?_,rfl,related.thresholds⟩
  have cleared := congrArg (fun sketches => OrderedMap.map sketches (fun _ sketch => sketch.clear)) related.sketches
  simp only [OrderedMap.map_map] at cleared
  simp only [FrequencyAnalyzer.clearAll,OrderedMap.map_map]
  exact cleared

theorem Related.persisted (related : Related s t) : s.persistToRedis = t.persistToRedis := by
  have entries := congrArg (fun sketches => (OrderedMap.entries sketches).map (fun entry =>
    ("frequency_sketch:" ++ entry.1,entry.2.serialize))) related.sketches
  simp only [OrderedMap.map,List.map_map] at entries
  exact entries

theorem Related.memory (related : Related s t) : s.getTotalMemoryUsage = t.getTotalMemoryUsage := by
  have usages := congrArg (fun sketches => ((OrderedMap.values sketches).map (fun sketch =>
    CountMinSketch.memoryUsageOf sketch.config)).sum) related.sketches
  simp only [OrderedMap.values_map,List.map_map] at usages
  exact usages

theorem callStep_lockstep (text : Cardinality.TextFunctions) (s t : FrequencyAnalyzer) (call : Call)
    (blind : call.reads = false) (related : Related s t) :
    Related (callStep text s call).1 (callStep text t call).1 ∧ (callStep text s call).2 = (callStep text t call).2 := by
  cases call with
  | createSketch name config =>
      cases created : CountMinSketch.create config with
      | error message =>
          simp only [callStep,FrequencyAnalyzer.createSketch,created]
          exact ⟨related,rfl⟩
      | ok sketch =>
          simp only [callStep,FrequencyAnalyzer.createSketch,created]
          exact ⟨related.set_sketch name rfl _ _,rfl⟩
  | track call =>
      obtain ⟨next,same⟩ := trackItem_lockstep related call.sketchName (call.item text) call.moment
      exact ⟨next,congrArg Answer.tracked same⟩
  | getTopItems sketchName candidates limit =>
      obtain ⟨next,same⟩ := getTopItems_lockstep related sketchName candidates limit
      exact ⟨next,congrArg Answer.top same⟩
  | updateBaseline sketchName item baseline =>
      refine ⟨⟨related.sketches,?_,related.thresholds⟩,rfl⟩
      simp only [callStep,FrequencyAnalyzer.updateBaseline,related.baselines]
  | updateThresholds sketchName thresholds =>
      refine ⟨⟨related.sketches,related.baselines,?_⟩,rfl⟩
      simp only [callStep,FrequencyAnalyzer.updateThresholds,related.thresholds]
  | getSketchNames => exact ⟨related,congrArg Answer.names related.names⟩
  | getTotalMemoryUsage => exact ⟨related,congrArg Answer.memory related.memory⟩
  | clearAll => exact ⟨related.clearAll,rfl⟩
  | persistToRedis => exact ⟨related,congrArg Answer.persisted related.persisted⟩
  | loadFromRedis stored =>
      refine ⟨?_,rfl⟩
      simp only [callStep,FrequencyAnalyzer.loadFromRedis,related.names]
      exact loadSketches_lockstep stored _ related
  | analyzePattern sketchName item => cases blind
  | getSketchMetrics sketchName => cases blind

end Lockstep

section History
variable {s fresh : FrequencyAnalyzer}

structure SameSettings (s fresh : FrequencyAnalyzer) : Prop where
  sketches : s.sketches.map (fun _ sketch => unqueried sketch.clear) =
    fresh.sketches.map (fun _ sketch => unqueried sketch.clear)
  thresholds : s.thresholds = fresh.thresholds

theorem SameSettings.set_sketch (settings : SameSettings s fresh) (found : s.sketches.get name = some sketch)
    (same : unqueried replaced.clear = unqueried sketch.clear)
    (windows : OrderedMap String (List TimeWindowFrequency)) :
    SameSettings { s with sketches := s.sketches.set name replaced, timeWindows := windows } fresh := by
  refine ⟨?_,settings.thresholds⟩
  have present : (s.sketches.map (fun _ sketch => unqueried sketch.clear)).get name = some (unqueried sketch.clear) := by
    rw [OrderedMap.get_map,found]
    rfl
  dsimp only
  rw [OrderedMap.map_set,same,OrderedMap.set_eq_self present,settings.sketches]

theorem queryBatch_cleared (items : List String) (sketch : CountMinSketch) :
    unqueried (queryBatch sketch items).2.clear = unqueried sketch.clear := by
  induction items generalizing sketch with
  | nil => rfl
  | cons item rest ih => exact ih (sketch.query item).2

theorem callStep_settings (text : Cardinality.TextFunctions) (s : FrequencyAnalyzer) (call : Call)
    (keeps : call.keepsSettings = true) (settings : SameSettings s fresh) :
    SameSettings (callStep text s call).1 fresh := by
  cases call with
  | track call =>
      simp only [callStep,FrequencyAnalyzer.track]
      cases found : s.sketches.get call.sketchName with
      | none =>
          simp only [FrequencyAnalyzer.trackItem,found]
          exact settings
      | some sketch =>
          obtain ⟨windows,effect⟩ := trackItem_effect found (call.item text) call.moment
          have same : unqueried ((sketch.insert (call.item text) 1).query (call.item text)).2.clear =
              unqueried sketch.clear := rfl
          rw [effect]
          exact settings.set_sketch found same windows
  | getTopItems sketchName candidates limit =>
      simp only [callStep,FrequencyAnalyzer.getTopItems]
      cases found : s.sketches.get sketchName with
      | none => exact settings
      | some sketch => exact settings.set_sketch found (queryBatch_cleared candidates sketch) _
  | clearAll =>
      refine ⟨?_,settings.thresholds⟩
      simp only [callStep,FrequencyAnalyzer.clearAll,OrderedMap.map_map]
      exact settings.sketches
  | updateBaseline sketchName item baseline => exact ⟨settings.sketches,settings.thresholds⟩
  | createSketch name config => cases keeps
  | updateThresholds sketchName thresholds => cases keeps
  | loadFromRedis stored => cases keeps
  | _ => exact settings

-- After calls that keep the settings, only the window lists and the query counters
-- tell a cleared analyzer from a fresh one.
theorem clearAll_related (text : Cardinality.TextFunctions) (random : ℚ) {history : List Call}
    (keeps : ∀ call ∈ history, call.keepsSettings = true) :
    Related (exec (callStep text) (.create random) history).1.clearAll (.create random) := by
  have start : SameSettings (.create random) (.create random) := ⟨rfl,rfl⟩
  have preserved : ∀ (s : FrequencyAnalyzer) (call : Call), SameSettings s (.create random) →
      call.keepsSettings = true → SameSettings (callStep text s call).1 (.create random) :=
    fun s call settings keeps => callStep_settings text s call keeps settings
  have settings := (throughout_of_along preserved start (along_of_forall keeps)).final
  refine ⟨?_,rfl,settings.thresholds⟩
  simp only [FrequencyAnalyzer.clearAll,OrderedMap.map_map]
  rw [settings.sketches]
  rfl

end History

-- A reset average answers every continuation like a fresh one, a cleared sequence
-- analyzer exactly when it has processed no request, and a cleared frequency analyzer
-- never; it does so for the calls that read neither windows nor query counters, if
-- those before the clearing have kept its settings.
theorem clearing_alike_iff {K : Type} [Field K] [LinearOrder K] [FloorRing K] (math : JsMath K)
    (text : Cardinality.TextFunctions) :
    (∀ (config : Ewma.EWMAConfig K) (now now' : ℤ) (history : List (Ewma.Call K)),
      Alike (Ewma.callStep math) (exec (Ewma.callStep math) (.create config now) history).1.reset
        (.create config now')) ∧
    (∀ (config : Markov.MarkovChainConfig K) (thresholds : Markov.AnomalyThresholds K) (now now' : ℤ)
        (history : List (Markov.AnalyzerCall K)),
      Alike (Markov.callStep math) ((exec (Markov.callStep math) (.create config thresholds now) history).1.clear now')
        (.create config thresholds now') ↔ ∀ call ∈ history, call.isRequest = false) ∧
    (∀ (random : ℚ) (history : List Call),
      ¬ Alike (callStep text) (exec (callStep text) (.create random) history).1.clearAll (.create random)) ∧
    (∀ (random : ℚ) (history continuation : List Call), (∀ call ∈ history, call.keepsSettings = true) →
      (∀ call ∈ continuation, call.reads = false) →
        (exec (callStep text) (exec (callStep text) (.create random) history).1.clearAll continuation).2 =
          (exec (callStep text) (.create random) continuation).2) := by
  refine ⟨Ewma.reset_alike math,Markov.clear_alike_iff math,?_,?_⟩
  · intro random history
    exact clearAll_not_alike text _ random
  · intro random history continuation keeps blind
    exact exec_alike_while (callStep_lockstep text) (clearAll_related text random keeps) blind

theorem clearing_alike_iff_tracked :
    let text : Cardinality.TextFunctions := ⟨id,fun _ => none⟩
    let calls := [Call.track (.trackIPAddress "10.0.0.1" ⟨none,0,0⟩)]
    (∀ call ∈ calls, call.keepsSettings = true) ∧ (∀ call ∈ calls, call.reads = false) ∧
    (exec (callStep text) (exec (callStep text) (.create 0) calls).1.clearAll calls).2 =
      (exec (callStep text) (.create 0) calls).2 := by
  intro text calls
  have keeps : ∀ call ∈ calls, call.keepsSettings = true := by simp [calls,Call.keepsSettings]
  have blind : ∀ call ∈ calls, call.reads = false := by simp [calls,Call.reads]
  have math : JsMath ℚ := ⟨id,id,id,id⟩
  exact ⟨keeps,blind,(clearing_alike_iff math text).2.2.2 0 calls calls keeps blind⟩

-- Cleared right away, the analyzer throws where a fresh one answers.
theorem clearing_forgets_windows :
    ¬ ∀ (text : Cardinality.TextFunctions) (random : ℚ) (history : List Call),
      Alike (callStep text) (exec (callStep text) (.create random) history).1.clearAll (.create random) := by
  intro all
  exact clearAll_not_alike ⟨id,fun _ => none⟩ _ 0 (all _ 0 [])

end PhantomFlow.Frequency
