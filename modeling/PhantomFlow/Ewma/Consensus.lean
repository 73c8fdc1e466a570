import PhantomFlow.Ewma.Windows

namespace PhantomFlow.Ewma
open Library Library.Machine

section Counts

theorem maxCount_eq (counts : OrderedMap TrendDirection ℕ) : EWMAAnalytics.maxCount counts = (largest counts.entries).2 := by
  have scan : ∀ (entries : List (TrendDirection × ℕ)) (best : Option TrendDirection × ℕ),
      (entries.map Prod.snd).foldl max best.2 =
        (entries.foldl (fun best entry => if best.2 < entry.2 then (some entry.1,entry.2) else best) best).2 := by
    intro entries
    induction entries with
    | nil => exact fun _ => rfl
    | cons entry rest ih =>
        intro best
        rw [List.map_cons,List.foldl_cons,List.foldl_cons,← ih]
        split
        · rename_i larger
          rw [Nat.max_eq_right (Nat.le_of_lt larger)]
        · rename_i smaller
          rw [Nat.max_eq_left (Nat.not_lt.mp smaller)]
  exact scan counts.entries (none,0)

theorem length_eq_counts (trends : List TrendDirection) :
    trends.length = trends.count .increasing + trends.count .decreasing + trends.count .stable + trends.count .volatile := by
  induction trends with
  | nil => rfl
  | cons trend rest ih =>
      cases trend <;> simp only [List.length_cons,List.count_cons,ih,beq_iff_eq,reduceCtorEq,if_false,if_true] <;> omega

theorem length_le_of_count_le (trends : List TrendDirection) (trend : TrendDirection)
    (most : ∀ other, trends.count other ≤ trends.count trend) : trends.length ≤ 4 * trends.count trend := by
  have total := length_eq_counts trends
  have increasing := most .increasing
  have decreasing := most .decreasing
  have stable := most .stable
  have volatile := most .volatile
  omega

end Counts

section Bounds
variable {K : Type} [Field K] [LinearOrder K] [IsStrictOrderedRing K] {math : JsMath K}

theorem detectAnomaly_score (nonneg : ∀ x, 0 ≤ math.sqrt x) (ewma : EWMA K) (actualValue ewmaValue : K) :
    0 ≤ (ewma.detectAnomaly math actualValue ewmaValue).score ∧
      (ewma.detectAnomaly math actualValue ewmaValue).score ≤ 1 := by
  have threshold : (0 : K) ≤ math.sqrt ewma.variance * lit (5/2) + lit (1/1000) := by
    have root := nonneg ewma.variance
    rw [lit_cast,lit_cast]
    push_cast
    positivity
  exact ⟨le_min zero_le_one (div_nonneg (abs_nonneg _) threshold),min_le_left _ _⟩

theorem calculateConfidence_pos (ewma : EWMA K) (now : ℤ) :
    0 < ewma.calculateConfidence math now ∧ ewma.calculateConfidence math now ≤ 95/100 := by
  unfold EWMA.calculateConfidence
  split
  · rw [lit_cast]
    push_cast
    constructor <;> norm_num
  · rename_i enough
    have stored : (0 : K) < ewma.dataPoints.length := Nat.cast_pos.mpr (by omega)
    have quality : (0 : K) < min 1 ((ewma.dataPoints.length : K) / lit 50) := by
      rw [lit_cast]
      push_cast
      exact lt_min zero_lt_one (by positivity)
    have volatility : (0 : K) < max (lit (1/10)) (1 - ewma.calculateVolatility math / lit 10) := by
      rw [lit_cast]
      push_cast
      exact lt_max_of_lt_left (by norm_num)
    have time : 0 < ewma.calculateTimeFactor math now := by
      unfold EWMA.calculateTimeFactor
      split
      · rw [lit_cast]
        push_cast
        norm_num
      · rw [lit_cast]
        push_cast
        exact lt_max_of_lt_left (by norm_num)
    have limit : (lit (95/100) : K) = 95/100 := by
      rw [lit_cast]
      push_cast
      rfl
    dsimp only
    rw [limit]
    exact ⟨lt_min (by norm_num) (mul_pos (mul_pos quality volatility) time),min_le_left _ _⟩

variable [FloorRing K]

theorem update_bounds (nonneg : ∀ x, 0 ≤ math.sqrt x) (ewma : EWMA K) (now : ℤ) (point : DataPoint K) :
    let result := (ewma.update math now point).1
    (0 ≤ result.anomaly.score ∧ result.anomaly.score ≤ 1) ∧ 0 < EWMAAnalytics.confidenceOf result ∧
      EWMAAnalytics.confidenceOf result ≤ 95/100 := by
  intro result
  have confidence : 0 < result.current.confidence ∧ result.current.confidence ≤ 95/100 :=
    calculateConfidence_pos (ewma.judged math point).2 now
  refine ⟨detectAnomaly_score nonneg (ewma.judged math point).2 _ _,?_⟩
  rw [EWMAAnalytics.confidenceOf,if_neg confidence.1.ne']
  exact confidence

def heldBy (answer : MultiWindowEWMA K) (direction : TrendDirection) : ℕ :=
  (answer.windows.values.map (fun result => result.trend.direction)).count direction

structure Sound (answer : MultiWindowEWMA K) : Prop where
  share : answer.consensus.agreement * answer.windows.values.length = heldBy answer answer.consensus.trend
  most : ∀ direction, heldBy answer direction ≤ heldBy answer answer.consensus.trend
  quarter : answer.windows.values.length ≤ 4 * heldBy answer answer.consensus.trend
  score : 0 ≤ answer.consensus.anomalyScore ∧ answer.consensus.anomalyScore ≤ 1
  confidence : 0 < answer.consensus.confidence ∧ answer.consensus.confidence ≤ 95/100 * answer.consensus.agreement

omit [FloorRing K] in
theorem analyze_sound (windowResults : OrderedMap TimeWindow (EWMAResult K)) (several : 2 ≤ windowResults.values.length)
    (bounds : ∀ result ∈ windowResults.values, (0 ≤ result.anomaly.score ∧ result.anomaly.score ≤ 1) ∧
      0 < EWMAAnalytics.confidenceOf result ∧ EWMAAnalytics.confidenceOf result ≤ 95/100) (recommendations : List String) :
    Sound ⟨windowResults,EWMAAnalytics.analyzeMultiWindowConsensus windowResults,recommendations⟩ := by
  let results := windowResults.values
  let trends := results.map (fun result => result.trend.direction)
  have enough : 2 ≤ results.length := several
  have some' : results ≠ [] := fun none => by
    have length : results.length = 0 := by rw [none]; rfl
    omega
  have mapped {β : Type} (f : EWMAResult K → β) : results.map f ≠ [] := fun none => some' (List.map_eq_nil_iff.mp none)
  obtain ⟨trend,_,named,number,most⟩ := largest_countOccurrences (mapped (fun result => result.trend.direction))
  have size : (0 : K) < results.length := Nat.cast_pos.mpr (List.length_pos_of_ne_nil some')
  have counted : 0 < trends.count trend := by
    have quarter : trends.length ≤ 4 * trends.count trend := length_le_of_count_le trends trend most
    have length : trends.length = results.length := List.length_map _
    omega
  have consensus : EWMAAnalytics.analyzeMultiWindowConsensus windowResults = {
      trend
      anomalyScore := average (results.map (fun result => result.anomaly.score))
      confidence := average (results.map EWMAAnalytics.confidenceOf) * ((trends.count trend : K) / results.length)
      agreement := (trends.count trend : K) / results.length } := by
    unfold EWMAAnalytics.analyzeMultiWindowConsensus EWMAAnalytics.getMostCommon
    dsimp only
    rw [if_neg (Nat.not_lt.mpr several),named,maxCount_eq,number]
    rfl
  have agreement : (0 : K) < (trends.count trend : K) / results.length := div_pos (Nat.cast_pos.mpr counted) size
  rw [consensus]
  refine ⟨div_mul_cancel₀ _ size.ne',most,?_,⟨?_,?_⟩,?_,?_⟩
  · have quarter := length_le_of_count_le trends trend most
    rwa [List.length_map] at quarter
  · exact average_nonneg (List.forall_mem_map.mpr (fun result here => (bounds result here).1.1))
  · exact average_le (mapped _) (List.forall_mem_map.mpr (fun result here => (bounds result here).1.2))
  · refine mul_pos ?_ agreement
    rw [average_pos_iff (List.forall_mem_map.mpr (fun result here => (bounds result here).2.1.le))]
    obtain ⟨result,here⟩ := List.exists_mem_of_ne_nil results some'
    exact ⟨_,List.mem_map_of_mem here,(bounds result here).2.1⟩
  · exact mul_le_mul_of_nonneg_right
      (average_le (mapped _) (List.forall_mem_map.mpr (fun result here => (bounds result here).2.2))) agreement.le

theorem processDataPoint_sound (nonneg : ∀ x, 0 ≤ math.sqrt x) (manager : EWMAManager K) (call : ManagerCall K) :
    ∀ answer, (manager.call math call).2 = some answer →
      answer.recommendations = generateRecommendations answer.consensus ∧ (2 ≤ answer.windows.values.length → Sound answer) := by
  intro answer answered
  cases call with
  | processDataPoint clock point =>
      rw [EWMAManager.call,EWMAManager.processDataPoint] at answered
      split at answered
      · have same := Option.some.inj answered
        subst same
        refine ⟨rfl,fun several => analyze_sound _ several ?_ _⟩
        intro result listed
        obtain ⟨window,found⟩ := (OrderedMap.mem_values _ _).mp listed
        rw [OrderedMap.map_map,OrderedMap.get_map] at found
        obtain ⟨ewma,_,rfl⟩ := Option.map_eq_some_iff.mp found
        exact update_bounds nonneg ewma (clock window) point
      · cases answered
  | _ => cases answered

section Recommended
variable (consensus : Consensus K)

omit [IsStrictOrderedRing K] [FloorRing K] in
theorem mem_generateRecommendations (text : String)
    (other : text ≠ "EWMA analysis shows normal patterns - continue monitoring") :
    text ∈ generateRecommendations consensus ↔ text ∈ recommendationsOf consensus := by
  unfold generateRecommendations
  dsimp only
  split
  · rename_i none
    rw [none]
    exact ⟨fun member => absurd (List.mem_singleton.mp member) other,fun member => absurd member List.not_mem_nil⟩
  · exact Iff.rfl

omit [FloorRing K] in
theorem lit_half : (lit (1/2) : K) = 1/2 := by
  rw [lit_cast]
  push_cast
  rfl

omit [FloorRing K] in
theorem lowConsensus_iff : lowConsensus ∈ generateRecommendations consensus ↔ consensus.agreement < 1/2 := by
  have anomaly : lowConsensus ∉ anomalyAdvice consensus := by
    unfold anomalyAdvice
    split_ifs <;> decide
  have trend : lowConsensus ∉ trendAdvice consensus.trend := by
    cases consensus.trend <;> decide
  have confidence : lowConsensus ∉ confidenceAdvice consensus := by
    unfold confidenceAdvice
    split_ifs <;> decide
  have agreement : lowConsensus ∈ agreementAdvice consensus ↔ consensus.agreement < 1/2 := by
    unfold agreementAdvice
    rw [lit_half]
    split_ifs with low high
    · exact ⟨fun _ => low,fun _ => List.mem_singleton_self _⟩
    · exact ⟨fun member => absurd member (by decide),fun lower => absurd lower low⟩
    · exact ⟨fun member => absurd member List.not_mem_nil,fun lower => absurd lower low⟩
  rw [mem_generateRecommendations _ _ (by decide),recommendationsOf,List.mem_append,List.mem_append,List.mem_append,
    or_iff_left confidence,or_iff_left trend,or_iff_left anomaly,agreement]

omit [FloorRing K] in
theorem lowConfidence_iff : lowConfidence ∈ generateRecommendations consensus ↔ consensus.confidence < 1/2 := by
  have agreement : lowConfidence ∉ agreementAdvice consensus := by
    unfold agreementAdvice
    split_ifs <;> decide
  have anomaly : lowConfidence ∉ anomalyAdvice consensus := by
    unfold anomalyAdvice
    split_ifs <;> decide
  have trend : lowConfidence ∉ trendAdvice consensus.trend := by
    cases consensus.trend <;> decide
  have confidence : lowConfidence ∈ confidenceAdvice consensus ↔ consensus.confidence < 1/2 := by
    unfold confidenceAdvice
    rw [lit_half]
    split_ifs with low
    · exact ⟨fun _ => low,fun _ => List.mem_singleton_self _⟩
    · exact ⟨fun member => absurd member List.not_mem_nil,fun lower => absurd lower low⟩
  rw [mem_generateRecommendations _ _ (by decide),recommendationsOf,List.mem_append,List.mem_append,List.mem_append,
    or_iff_right (not_or.mpr ⟨not_or.mpr ⟨agreement,anomaly⟩,trend⟩),confidence]

end Recommended

omit [FloorRing K] in
-- Confidence is capped below the agreement, so without a strict majority it is low.
theorem Sound.majority {answer : MultiWindowEWMA K} (sound : Sound answer) (several : 2 ≤ answer.windows.values.length)
    (confident : 1/2 ≤ answer.consensus.confidence) :
    answer.windows.values.length < 2 * heldBy answer answer.consensus.trend := by
  have agreement : 1/2 < answer.consensus.agreement := by
    have capped := confident.trans sound.confidence.2
    linarith
  have size : (0 : K) < answer.windows.values.length := Nat.cast_pos.mpr (by omega)
  have twice : (answer.windows.values.length : K) < 2 * heldBy answer answer.consensus.trend := by
    have half := mul_lt_mul_of_pos_right agreement size
    rw [sound.share] at half
    linarith
  exact_mod_cast twice

omit [FloorRing K] in
theorem Sound.minority {answer : MultiWindowEWMA K} (sound : Sound answer) (several : 2 ≤ answer.windows.values.length) :
    answer.consensus.agreement < 1/2 ↔ 2 * heldBy answer answer.consensus.trend < answer.windows.values.length := by
  have size : (0 : K) < answer.windows.values.length := Nat.cast_pos.mpr (by omega)
  rw [← mul_lt_mul_iff_left₀ size,sound.share,← Nat.cast_lt (α:=K)]
  push_cast
  constructor <;> intro fewer <;> linarith

-- Every consensus of several windows is the direction most of them have.
theorem consensus_of_windows (nonneg : ∀ x, 0 ≤ math.sqrt x) (config : EWMAManagerConfig K) (calls : List (ManagerCall K))
    (answer : MultiWindowEWMA K) (answered : some answer ∈ (exec (EWMAManager.call math) (.create config) calls).2)
    (several : 2 ≤ answer.windows.values.length) :
    Sound answer ∧
      (lowConsensus ∈ answer.recommendations ↔ 2 * heldBy answer answer.consensus.trend < answer.windows.values.length) ∧
      (lowConfidence ∉ answer.recommendations →
        answer.windows.values.length < 2 * heldBy answer answer.consensus.trend) := by
  have each : ∀ output ∈ (exec (EWMAManager.call math) (.create config) calls).2, ∀ answer, output = some answer →
      answer.recommendations = generateRecommendations answer.consensus ∧
        (2 ≤ answer.windows.values.length → Sound answer) :=
    exec_answers (processDataPoint_sound nonneg) _ calls
  obtain ⟨advice,consensus⟩ := each (some answer) answered answer rfl
  have sound := consensus several
  rw [advice,lowConsensus_iff,lowConfidence_iff,not_lt]
  exact ⟨sound,sound.minority several,sound.majority several⟩

end Bounds

section TwoWindows

def twoWindows : EWMAManagerConfig ℚ := ⟨[.oneMinute,.fiveMinutes],getDefaultEWMAConfig,fun _ => none,1000000⟩

def rootOfZero : JsMath ℚ := ⟨fun x => |x|,id,id,id⟩

def firstResults : OrderedMap TimeWindow (EWMAResult ℚ) :=
  (((EWMAManager.create twoWindows).initializeManager (fun _ => 0) none).ewmaInstances.map
    (fun _ ewma => ewma.update rootOfZero 60000 ⟨5,60000⟩)).map (fun _ update => update.1)

theorem consensus_of_windows_two :
    Sound ⟨firstResults,EWMAAnalytics.analyzeMultiWindowConsensus firstResults,
      generateRecommendations (EWMAAnalytics.analyzeMultiWindowConsensus firstResults)⟩ := by
  let answer : MultiWindowEWMA ℚ := ⟨firstResults,EWMAAnalytics.analyzeMultiWindowConsensus firstResults,
    generateRecommendations (EWMAAnalytics.analyzeMultiWindowConsensus firstResults)⟩
  have answered : some answer ∈ (exec (EWMAManager.call rootOfZero) (.create twoWindows)
      [.initializeManager (fun _ => 0) none,.processDataPoint (fun _ => 60000) ⟨5,60000⟩]).2 :=
    List.mem_cons_of_mem _ (List.mem_singleton_self _)
  exact (consensus_of_windows (fun x => abs_nonneg x) twoWindows _ answer answered (Nat.le_refl 2)).1

end TwoWindows
end PhantomFlow.Ewma
