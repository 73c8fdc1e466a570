import PhantomFlow.Ewma.Levels
import PhantomFlow.Ewma.Reset
import PhantomFlow.Library.RealMath

namespace PhantomFlow.Ewma
open Library

def Varied (values : List ℝ) : Prop := ∃ one ∈ values, ∃ two ∈ values, one ≠ two

theorem Varied.mono (within : ∀ value ∈ values, value ∈ others) (varied : Varied values) : Varied others := by
  obtain ⟨one,here,two,there,different⟩ := varied
  exact ⟨one,within one here,two,within two there,different⟩

theorem deviation_pos_iff (values : List ℝ) : 0 < realMath.sqrt (spreadOf values) ↔ Varied values := by
  rw [realMath_sqrt,Real.sqrt_pos,spreadOf_eq_spread]
  exact spread_pos_iff

theorem deviation_nonneg (values : List ℝ) : 0 ≤ realMath.sqrt (spreadOf values) := Real.sqrt_nonneg _

theorem length_calculateVolatilityHistory (values : List ℝ) :
    (calculateVolatilityHistory realMath values).length = values.length - 5 := by
  rw [calculateVolatilityHistory,List.length_map,List.length_range]

theorem calculateVolatilityHistory_nonneg (values : List ℝ) :
    ∀ volatility ∈ calculateVolatilityHistory realMath values, 0 ≤ volatility := by
  intro volatility listed
  obtain ⟨i,_,rfl⟩ := List.mem_map.mp listed
  exact deviation_nonneg _

theorem getElem_mem_window {values : List ℝ} {i first : ℕ} (inside : i < values.length) (after : first ≤ i)
    (near : i < first + 5) : values[i] ∈ (values.drop first).take 5 := by
  rw [List.mem_iff_getElem]
  have place : i - first < ((values.drop first).take 5).length := by
    rw [List.length_take,List.length_drop]; omega
  refine ⟨i - first,place,?_⟩
  rw [List.getElem_take,List.getElem_drop]
  congr 1
  omega

theorem getElem_mem_lastOf {values : List ℝ} {i n : ℕ} (inside : i < values.length) (late : values.length - n ≤ i) :
    values[i] ∈ lastOf n values := by
  rw [lastOf,List.mem_iff_getElem]
  have place : i - (values.length - n) < (values.drop (values.length - n)).length := by
    rw [List.length_drop]; omega
  refine ⟨i - (values.length - n),place,?_⟩
  rw [List.getElem_drop]
  congr 1
  omega

-- The windows of five overlap, and the last ten values reach over the last window:
-- whatever differs, differs within one of them.
theorem varied_iff (enough : 6 ≤ values.length) :
    Varied values ↔ Varied (lastOf 10 values) ∨ 0 < average (calculateVolatilityHistory realMath values) := by
  rw [average_pos_iff (calculateVolatilityHistory_nonneg values)]
  constructor
  · intro varied
    obtain ⟨i,_,next,differs⟩ := exists_ne_iff_adjacent.mp varied
    by_cases last : i + 2 = values.length
    · left
      exact ⟨_,getElem_mem_lastOf (by omega) (by omega),_,getElem_mem_lastOf next (by omega),differs⟩
    · right
      have window : Varied ((values.drop (min i (values.length - 6))).take 5) :=
        ⟨_,getElem_mem_window (by omega) (by omega) (by omega),_,getElem_mem_window next (by omega) (by omega),differs⟩
      refine ⟨_,List.mem_map_of_mem (List.mem_range.mpr ?_),(deviation_pos_iff _).mpr window⟩
      omega
  · rintro (late | ⟨volatility,listed,positive⟩)
    · exact late.mono (fun value here => List.mem_of_mem_drop here)
    · obtain ⟨i,_,rfl⟩ := List.mem_map.mp listed
      exact ((deviation_pos_iff _).mp positive).mono (fun value here => List.mem_of_mem_drop (List.mem_of_mem_take here))

def Meaningful (analysis : VolatilityAnalysis ℝ) : Prop :=
  ∃ mean, analysis.average = .finite mean ∧
    (analysis.regime = .extreme → 0 < analysis.current ∧ lit 3 * mean ≤ analysis.current)

section Analysis
variable (ewma : EWMA ℝ) (now : ℤ)

theorem length_recent (n : ℕ) : (ewma.recent n).length = min n ewma.dataPoints.length := by
  rw [EWMA.recent,List.length_map]
  exact length_rtake ewma.dataPoints n

theorem lastOf_recent : lastOf 10 (ewma.recent 20) = ewma.recent 10 := by
  rw [recent_eq,recent_eq]
  exact rtake_rtake _ (by decide)

theorem analysis_current_pos_iff (enough : 2 ≤ ewma.dataPoints.length) :
    0 < (ewma.getVolatilityAnalysis realMath now).current ↔ Varied (ewma.recent 10) := by
  have current : (ewma.getVolatilityAnalysis realMath now).current = realMath.sqrt (spreadOf (ewma.recent 10)) :=
    if_neg (Nat.not_lt.mpr enough)
  rw [current,deviation_pos_iff]

theorem analysis_current_nonneg : 0 ≤ (ewma.getVolatilityAnalysis realMath now).current := by
  have current : (ewma.getVolatilityAnalysis realMath now).current = ewma.calculateVolatility realMath := rfl
  rw [current,EWMA.calculateVolatility]
  split
  · exact le_refl 0
  · exact deviation_nonneg _

theorem analysis_average_few (few : ewma.dataPoints.length < 6) :
    (ewma.getVolatilityAnalysis realMath now).average = .nan := by
  have none : calculateVolatilityHistory realMath (ewma.recent 20) = [] := by
    rw [← List.length_eq_zero_iff,length_calculateVolatilityHistory,length_recent]
    omega
  have shown : (ewma.getVolatilityAnalysis realMath now).average =
      JsNumber.div (calculateVolatilityHistory realMath (ewma.recent 20)).sum
        (calculateVolatilityHistory realMath (ewma.recent 20)).length := rfl
  rw [shown,none]
  simp [JsNumber.div]

theorem analysis_average (enough : 6 ≤ ewma.dataPoints.length) :
    (ewma.getVolatilityAnalysis realMath now).average =
      .finite (average (calculateVolatilityHistory realMath (ewma.recent 20))) := by
  have some' : ((calculateVolatilityHistory realMath (ewma.recent 20)).length : ℝ) ≠ 0 := by
    rw [Nat.cast_ne_zero,length_calculateVolatilityHistory,length_recent]
    omega
  exact if_pos some'

-- With a finite average the cascade of comparisons reaches its end from three times
-- the average on.
theorem analysis_extreme_iff (enough : 6 ≤ ewma.dataPoints.length) :
    (ewma.getVolatilityAnalysis realMath now).regime = .extreme ↔
      lit 3 * average (calculateVolatilityHistory realMath (ewma.recent 20)) ≤
        (ewma.getVolatilityAnalysis realMath now).current := by
  have nonneg := average_nonneg (calculateVolatilityHistory_nonneg (ewma.recent 20))
  have mean := analysis_average ewma now enough
  generalize average (calculateVolatilityHistory realMath (ewma.recent 20)) = level at nonneg mean ⊢
  have regime : (ewma.getVolatilityAnalysis realMath now).regime =
      if (ewma.getVolatilityAnalysis realMath now).current < level * lit (1/2) then .low
      else if (ewma.getVolatilityAnalysis realMath now).current < level * lit (3/2) then .medium
      else if (ewma.getVolatilityAnalysis realMath now).current < level * lit 3 then .high else .extreme := by
    rw [EWMA.getVolatilityAnalysis] at mean ⊢
    simp only at mean ⊢
    simp only [mean,JsNumber.scale,JsNumber.lt,decide_eq_true_eq]
  rw [regime]
  simp only [lit_cast]
  push_cast
  constructor
  · intro extreme
    by_contra lower
    split_ifs at extreme
    linarith
  · intro above
    rw [if_neg (by linarith),if_neg (by linarith),if_neg (by linarith)]

theorem meaningful_iff :
    Meaningful (ewma.getVolatilityAnalysis realMath now) ↔ 6 ≤ ewma.dataPoints.length ∧ Varied (ewma.recent 20) := by
  by_cases enough : 6 ≤ ewma.dataPoints.length
  · have six : 6 ≤ (ewma.recent 20).length := by rw [length_recent]; omega
    have positive := analysis_current_pos_iff ewma now (le_trans (by decide) enough)
    have nonneg := average_nonneg (calculateVolatilityHistory_nonneg (ewma.recent 20))
    have three : (lit 3 : ℝ) = 3 := by norm_num
    rw [varied_iff six,lastOf_recent,← positive,and_iff_right enough]
    constructor
    · rintro ⟨mean,known,meaning⟩
      by_contra flat
      rw [not_or,not_lt,not_lt] at flat
      apply flat.1.not_gt
      refine (meaning ((analysis_extreme_iff ewma now enough).mpr ?_)).1
      rw [three]
      linarith [analysis_current_nonneg ewma now]
    · intro varied
      refine ⟨_,analysis_average ewma now enough,fun extreme => ?_⟩
      have above := (analysis_extreme_iff ewma now enough).mp extreme
      refine ⟨?_,above⟩
      rcases varied with current | mean
      · exact current
      · rw [three] at above
        linarith
  · have nan := analysis_average_few ewma now (Nat.lt_of_not_le enough)
    constructor
    · rintro ⟨mean,known,_⟩
      rw [nan] at known
      cases known
    · rintro ⟨six,_⟩
      exact absurd six enough

end Analysis

theorem volatility_regimes_exact (config : EWMAConfig ℝ) (start : ℤ) (operations : List (Operation ℝ)) (now : ℤ) :
    let ewma := (Machine.exec (step realMath) (EWMA.create config start) operations).1
    Meaningful (ewma.getVolatilityAnalysis realMath now) ↔ 6 ≤ ewma.dataPoints.length ∧ Varied (ewma.recent 20) :=
  meaningful_iff _ now

-- After one point the average is NaN.
theorem volatility_regimes_fail :
    ¬Meaningful ((Machine.exec (step realMath) (EWMA.create getDefaultEWMAConfig 0) [.update 0 ⟨3,0⟩]).1.getVolatilityAnalysis
      realMath 1) := by
  rw [meaningful_iff]
  rintro ⟨six,_⟩
  have one : (Machine.exec (step realMath) (EWMA.create getDefaultEWMAConfig 0) [.update 0 ⟨3,0⟩]).1.dataPoints.length = 1 := by
    have points := (judged_variance realMath (EWMA.create getDefaultEWMAConfig 0) ⟨3,0⟩).1
    exact congrArg List.length points
  omega

end PhantomFlow.Ewma
