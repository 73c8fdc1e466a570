import PhantomFlow.Traffic.TrafficStores

namespace PhantomFlow.Traffic
open Library Library.Machine

-- One analysis: the time stamp of its request, and what the clock gives at the update
-- of each window.
structure Analysis where
  requestData : RequestData
  timestamp : ℤ
  clock : ℕ → ℤ

def Analysis.updateFor (analysis : Analysis) (windowMs : ℕ) : Update :=
  ⟨analysis.clock windowMs,windowMs,analysis.requestData,analysis.timestamp⟩

def analyzed (analyses : List Analysis) : StatisticalAnalyzer :=
  analyses.foldl (fun analyzer analysis =>
    analyzer.updateTrafficPatterns false analysis.clock analysis.requestData analysis.timestamp) .create

def InOrder (analyses : List Analysis) : Prop :=
  (∀ analysis ∈ analyses, ∀ windowMs ∈ timeWindows, analysis.timestamp ≤ analysis.clock windowMs) ∧
    analyses.Pairwise (fun one two => ∀ windowMs ∈ timeWindows, one.clock windowMs ≤ two.timestamp)

def within (startTime endTime : ℤ) (analysis : Analysis) : Bool :=
  decide (startTime ≤ analysis.timestamp) && decide (analysis.timestamp ≤ endTime)

def analysedIn (startTime endTime : ℤ) (analyses : List Analysis) : ℕ := analyses.countP (within startTime endTime)

-- The requests of a time span that were within the window at its last update, the
-- newest one always, and those that were not.
def heldIn (windowMs : ℕ) (startTime endTime : ℤ) (analyses : List Analysis) : ℕ :=
  match analyses.getLast? with
  | none => 0
  | some last => analyses.dropLast.countP (fun analysis =>
        within startTime endTime analysis && decide (last.clock windowMs - windowMs < analysis.timestamp)) +
      [last].countP (within startTime endTime)

def droppedFrom (windowMs : ℕ) (startTime endTime : ℤ) (analyses : List Analysis) : ℕ :=
  match analyses.getLast? with
  | none => 0
  | some last => analyses.dropLast.countP (fun analysis =>
      within startTime endTime analysis && decide (analysis.timestamp ≤ last.clock windowMs - windowMs))

section Caches
variable {analyses : List Analysis}

def updates (analyses : List Analysis) : List Update :=
  analyses.flatMap (fun analysis => timeWindows.map analysis.updateFor)

theorem analyzed_run (analyses : List Analysis) :
    (exec storesStep .initial (updates analyses)).1.unbacked = analyzed analyses := by
  have general : ∀ s : Stores, (exec storesStep s (updates analyses)).1.unbacked =
      analyses.foldl (fun analyzer analysis =>
        analyzer.updateTrafficPatterns false analysis.clock analysis.requestData analysis.timestamp) s.unbacked := by
    induction analyses with
    | nil => exact fun s => rfl
    | cons analysis rest ih =>
        intro s
        rw [updates,List.flatMap_cons,exec_append,List.foldl_cons]
        rw [← (updateTrafficPatterns_run s analysis.clock analysis.requestData analysis.timestamp).2]
        exact ih _
  exact general .initial

theorem held_analyzed (analyses : List Analysis) : Held (exec storesStep .initial (updates analyses)).1 :=
  exec_invariant held_step ⟨fun _ => rfl,fun _ => rfl,fun _ => rfl⟩ _

theorem updatesOf_updates (listed : windowMs ∈ timeWindows) (analyses : List Analysis) :
    updatesOf (updates analyses) windowMs = analyses.map (fun analysis => analysis.updateFor windowMs) := by
  induction analyses with
  | nil => rfl
  | cons analysis rest ih =>
      have one : updatesOf (timeWindows.map analysis.updateFor) windowMs = [analysis.updateFor windowMs] := by
        simp only [timeWindows,List.mem_cons,List.not_mem_nil,or_false] at listed
        rcases listed with rfl | rfl | rfl | rfl <;> rfl
      unfold updatesOf at ih one ⊢
      unfold updates at ih ⊢
      rw [List.flatMap_cons,List.filter_append,one,ih]
      rfl

theorem patternsIn_analyzed (listed : windowMs ∈ timeWindows) (analyses : List Analysis) :
    patternsIn (analyzed analyses) windowMs =
      keptBy windowMs (analyses.map (fun analysis => analysis.updateFor windowMs)) := by
  rw [← analyzed_run,(held_analyzed analyses).unbacked,storesStep_recorded,← updatesOf_updates listed]
  rfl

def keysAfter (keys : List ℕ) (windowMs : ℕ) : List ℕ := if windowMs ∈ keys then keys else keys ++ [windowMs]

theorem keys_run (events : List Update) (s : Stores) (held : Held s) :
    (exec storesStep s events).1.unbacked.trafficCache.keys =
      (events.map Update.windowMs).foldl keysAfter s.unbacked.trafficCache.keys := by
  induction events generalizing s with
  | nil => rfl
  | cons update rest ih =>
      rw [exec_cons,ih _ (held_step s update held),List.map_cons,List.foldl_cons]
      congr 1
      change (s.unbacked.updateTrafficWindow false update.now update.windowMs update.pattern).trafficCache.keys = _
      rw [updated_cache s update held]
      exact OrderedMap.upsert_keys _ _ _

theorem keys_analyzed (some' : analyses ≠ []) : (analyzed analyses).trafficCache.keys = timeWindows := by
  have windows : ∀ analysis : Analysis, (timeWindows.map analysis.updateFor).map Update.windowMs = timeWindows :=
    fun analysis => rfl
  have stays : ∀ rest : List Analysis, ((updates rest).map Update.windowMs).foldl keysAfter timeWindows = timeWindows := by
    intro rest
    induction rest with
    | nil => rfl
    | cons analysis rest ih =>
        rw [updates,List.flatMap_cons,List.map_append,windows,List.foldl_append]
        exact ih
  rw [← analyzed_run,keys_run _ _ ⟨fun _ => rfl,fun _ => rfl,fun _ => rfl⟩]
  cases analyses with
  | nil => exact absurd rfl some'
  | cons analysis rest =>
      rw [updates,List.flatMap_cons,List.map_append,windows,List.foldl_append]
      exact stays rest

theorem values_analyzed (analyses : List Analysis) :
    (analyzed analyses).trafficCache.values.flatten = timeWindows.flatMap (patternsIn (analyzed analyses)) := by
  by_cases some' : analyses = []
  · rw [some']
    rfl
  · have rows : (analyzed analyses).trafficCache.values =
        (analyzed analyses).trafficCache.keys.map (patternsIn (analyzed analyses)) := by
      rw [OrderedMap.values,OrderedMap.keys,List.map_map]
      apply List.map_congr_left
      intro entry listed
      have read := (OrderedMap.get_exact _ entry.1 entry.2).mpr listed
      rw [Function.comp_apply,patternsIn,read]
      rfl
    rw [rows,keys_analyzed some',List.flatMap]

end Caches

section Counts
variable {analyses : List Analysis}

theorem length_patternsIn (listed : windowMs ∈ timeWindows) (ordered : InOrder analyses) (startTime endTime : ℤ) :
    ((patternsIn (analyzed analyses) windowMs).filter (fun pattern =>
      decide (startTime ≤ pattern.timestamp.time) && decide (pattern.timestamp.time ≤ endTime))).length =
        heldIn windowMs startTime endTime analyses := by
  rw [patternsIn_analyzed listed]
  unfold heldIn
  cases newest : analyses.getLast? with
  | none =>
      rw [List.getLast?_eq_none_iff.mp newest]
      rfl
  | some last =>
      have times : ((analyses.map (fun analysis => analysis.updateFor windowMs)).map Update.now).Pairwise (· ≤ ·) := by
        rw [List.map_map,List.pairwise_map]
        refine (List.pairwise_iff_forall_sublist.mpr ?_)
        intro one two sub
        have before := List.pairwise_iff_forall_sublist.mp ordered.2 sub windowMs listed
        exact le_trans before (ordered.1 two (sub.subset (by simp)) windowMs listed)
      have final : (analyses.map (fun analysis => analysis.updateFor windowMs)).getLast? = some (last.updateFor windowMs) := by
        rw [List.getLast?_map,newest]
        rfl
      rw [keptBy_ordered windowMs _ times final,List.filter_append,List.length_append,← List.map_dropLast,List.map_map,List.filter_filter,List.filter_map,
        List.length_map,← List.countP_eq_length_filter,← List.countP_eq_length_filter]
      rfl

theorem pattern_analyzed (listed : windowMs ∈ timeWindows) (present : pattern ∈ patternsIn (analyzed analyses) windowMs) :
    pattern.requestCount = 1 ∧ pattern.timestamp.isText = false := by
  rw [patternsIn_analyzed listed] at present
  refine ⟨?_,keptBy_dates _ _ pattern present⟩
  have general : ∀ updates : List Update, ∀ pattern ∈ keptBy windowMs updates, pattern.requestCount = 1 := by
    intro updates
    induction updates using List.reverseRecOn with
    | nil => exact fun _ member => nomatch member
    | append_singleton updates update ih =>
        intro pattern member
        rw [keptBy_snoc] at member
        rcases List.mem_append.mp member with kept | new
        · exact ih pattern (List.mem_filter.mp kept).1
        · rw [List.mem_singleton.mp new]
          rfl
  exact general _ pattern present

theorem requestsOf_length (patterns : List TrafficPattern) (ones : ∀ pattern ∈ patterns, pattern.requestCount = 1) :
    requestsOf patterns = patterns.length := by
  rw [requestsOf,List.map_congr_left ones,List.map_const',List.sum_replicate]
  simp

theorem getPatternsInWindow_analyzed (ordered : InOrder analyses) (startTime endTime : ℤ) :
    ∃ patterns, (analyzed analyses).getPatternsInWindow startTime endTime = .ok patterns ∧
      requestsOf patterns = (timeWindows.map (fun windowMs => heldIn windowMs startTime endTime analyses)).sum := by
  have every : ∀ pattern ∈ timeWindows.flatMap (patternsIn (analyzed analyses)),
      pattern.requestCount = 1 ∧ pattern.timestamp.isText = false := by
    intro pattern present
    obtain ⟨windowMs,listed,here⟩ := List.mem_flatMap.mp present
    exact pattern_analyzed listed here
  have dates : (timeWindows.flatMap (patternsIn (analyzed analyses))).any (fun pattern => pattern.timestamp.isText) = false := by
    rw [List.any_eq_false]
    intro pattern present
    rw [(every pattern present).2]
    exact Bool.false_ne_true
  refine ⟨_,by rw [StatisticalAnalyzer.getPatternsInWindow,values_analyzed,if_neg (by rw [dates]; exact Bool.false_ne_true)],?_⟩
  rw [requestsOf_length _ (fun pattern present => (every pattern (List.mem_filter.mp present).1).1),List.filter_flatMap,
    List.length_flatMap]
  apply congrArg List.sum
  apply List.map_congr_left
  intro windowMs listed
  exact length_patternsIn listed ordered startTime endTime

theorem analysedIn_last (newest : analyses.getLast? = some last) (startTime endTime : ℤ) :
    analysedIn startTime endTime analyses =
      analyses.dropLast.countP (within startTime endTime) + [last].countP (within startTime endTime) := by
  obtain ⟨earlier,rfl⟩ := List.getLast?_eq_some_iff.mp newest
  rw [analysedIn,List.countP_append,List.dropLast_concat]

theorem countP_cut (p : Analysis → Bool) (cutoff : ℤ) (analyses : List Analysis) :
    analyses.countP (fun analysis => p analysis && decide (cutoff < analysis.timestamp)) +
      analyses.countP (fun analysis => p analysis && decide (analysis.timestamp ≤ cutoff)) = analyses.countP p := by
  induction analyses with
  | nil => rfl
  | cons analysis rest ih =>
      rw [List.countP_cons,List.countP_cons,List.countP_cons,← ih]
      cases p analysis with
      | false => simp
      | true =>
          by_cases later : cutoff < analysis.timestamp
          · simp [later,not_le.mpr later]
            omega
          · simp [later,not_lt.mp later]
            omega

theorem held_add_dropped (windowMs : ℕ) (startTime endTime : ℤ) (analyses : List Analysis) :
    heldIn windowMs startTime endTime analyses + droppedFrom windowMs startTime endTime analyses =
      analysedIn startTime endTime analyses := by
  cases newest : analyses.getLast? with
  | none =>
      rw [heldIn,droppedFrom,newest,List.getLast?_eq_none_iff.mp newest]
      rfl
  | some last =>
      rw [analysedIn_last newest,heldIn,droppedFrom,newest]
      dsimp only
      have parts := countP_cut (within startTime endTime) (last.clock windowMs - windowMs) analyses.dropLast
      omega

theorem dropped_none (listed : windowMs ∈ timeWindows)
    (after : ∀ analysis ∈ analyses, ∀ windowMs ∈ timeWindows, analysis.clock windowMs ≤ now)
    {span : ℤ} (longer : span < windowMs) : droppedFrom windowMs (now - span) now analyses = 0 := by
  unfold droppedFrom
  cases newest : analyses.getLast? with
  | none => rfl
  | some last =>
      rw [List.countP_eq_zero]
      intro analysis present
      have reading := after last (List.mem_of_getLast? newest) windowMs listed
      simp only [within,Bool.and_eq_true,decide_eq_true_eq]
      intro both
      omega

-- Each of the three longer windows counts a request of the last minute, so the rate
-- is right where there is none. A request of the last hour is counted by the shorter
-- windows as far as they hold it, and those counts would have to make up for what the
-- longest window has dropped.
theorem traffic_rates_exact (analyses : List Analysis) (now : ℤ) (ordered : InOrder analyses)
    (after : ∀ analysis ∈ analyses, ∀ windowMs ∈ timeWindows, analysis.clock windowMs ≤ now) :
    ∃ statistics, (analyzed analyses).calculateCurrentStatistics now = .ok statistics ∧
      (statistics.requestsPerMinute = analysedIn (now - 60000) now analyses ↔
        ∀ analysis ∈ analyses, within (now - 60000) now analysis = false) ∧
      (statistics.requestsPerHour = analysedIn (now - 3600000) now analyses ↔
        heldIn 60000 (now - 3600000) now analyses + heldIn 300000 (now - 3600000) now analyses +
            heldIn 900000 (now - 3600000) now analyses =
          droppedFrom 3600000 (now - 3600000) now analyses) := by
  obtain ⟨minute,minuteRead,minuteSum⟩ := getPatternsInWindow_analyzed ordered (now - 60000) now
  obtain ⟨hour,hourRead,hourSum⟩ := getPatternsInWindow_analyzed ordered (now - 3600000) now
  refine ⟨_,by rw [StatisticalAnalyzer.calculateCurrentStatistics,minuteRead,hourRead]; rfl,?_,?_⟩
  · change requestsOf minute = _ ↔ _
    have kept (windowMs : ℕ) (listed : windowMs ∈ timeWindows) (longer : (60000 : ℤ) < windowMs) :
        heldIn windowMs (now - 60000) now analyses = analysedIn (now - 60000) now analyses := by
      rw [← held_add_dropped windowMs,dropped_none listed after longer,Nat.add_zero]
    have second := kept 300000 (by decide) (by decide)
    have third := kept 900000 (by decide) (by decide)
    have fourth := kept 3600000 (by decide) (by decide)
    have none : (∀ analysis ∈ analyses, within (now - 60000) now analysis = false) ↔
        analysedIn (now - 60000) now analyses = 0 := by
      simp only [analysedIn,List.countP_eq_zero,Bool.not_eq_true]
    have first := held_add_dropped 60000 (now - 60000) now analyses
    simp only [timeWindows,List.map_cons,List.map_nil,List.sum_cons,List.sum_nil] at minuteSum
    rw [none,minuteSum]
    omega
  · change requestsOf hour = _ ↔ _
    have fourth := held_add_dropped 3600000 (now - 3600000) now analyses
    simp only [timeWindows,List.map_cons,List.map_nil,List.sum_cons,List.sum_nil] at hourSum
    rw [hourSum]
    omega

def analysisAt (now : ℤ) : Analysis := ⟨⟨some 20,false,none⟩,now,fun _ => now⟩

-- One request within the last minute and two more within the hour: neither rate is right.
theorem traffic_rates_exact_visits :
    ∃ statistics, (analyzed [analysisAt 0,analysisAt 40000,analysisAt 3500000]).calculateCurrentStatistics 3550000 =
        .ok statistics ∧
      statistics.requestsPerMinute ≠
        analysedIn (3550000 - 60000) 3550000 [analysisAt 0,analysisAt 40000,analysisAt 3500000] ∧
      statistics.requestsPerHour ≠
        analysedIn (3550000 - 3600000) 3550000 [analysisAt 0,analysisAt 40000,analysisAt 3500000] := by
  obtain ⟨statistics,computed,minute,hour⟩ := traffic_rates_exact
    [analysisAt 0,analysisAt 40000,analysisAt 3500000] 3550000 ⟨by decide,by simp [analysisAt]⟩ (by decide)
  refine ⟨statistics,computed,?_,?_⟩
  · exact fun same => absurd (minute.mp same) (by decide)
  · exact fun same => absurd (hour.mp same) (by decide)

-- The first request of all is counted four times.
theorem request_counted_four_times : ¬ ∀ (analyses : List Analysis) (now : ℤ), InOrder analyses →
    (∀ analysis ∈ analyses, ∀ windowMs ∈ timeWindows, analysis.clock windowMs ≤ now) →
    ∃ statistics, (analyzed analyses).calculateCurrentStatistics now = .ok statistics ∧
      statistics.requestsPerMinute = analysedIn (now - 60000) now analyses ∧
      statistics.requestsPerHour = analysedIn (now - 3600000) now analyses := by
  intro all
  obtain ⟨statistics,computed,minute,_⟩ := all [analysisAt 0] 0 ⟨by decide,by simp⟩ (by decide)
  have four : ((analyzed [analysisAt 0]).calculateCurrentStatistics 0).toOption.map TrafficStatistics.requestsPerMinute =
      some 4 := by decide +kernel
  rw [computed] at four
  rw [Option.some.inj four] at minute
  revert minute
  decide

end Counts
end PhantomFlow.Traffic
