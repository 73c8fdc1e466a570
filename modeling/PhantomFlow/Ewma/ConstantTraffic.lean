import PhantomFlow.Ewma.RoundedLevels

namespace PhantomFlow.Ewma.Rounded
open Library

def newest (values : List α) : List α := lastOf 5 values

variable {K : Type} [Field K] [LinearOrder K] (r : Rounding K) (math : JsMath K)

def storedValues (ewma : EWMA K) (point : DataPoint K) : List K := (ewma.store point).dataPoints.map DataPoint.value

structure Flat (config : EWMAConfig K) (v : K) (n : ℕ) (ewma : EWMA K) : Prop where
  settled : Settled config ewma
  level : ∀ t, levelBefore ewma ⟨v,t⟩ = v
  trend : trendBefore ewma = 0
  variance : varianceBefore ewma = 0
  same : ∀ point ∈ ewma.dataPoints, point.value = v
  stored : ewma.dataPoints.length = min n config.windowSize

omit [LinearOrder K] in
theorem create_flat (config : EWMAConfig K) (v : K) (start : ℤ) : Flat config v 0 (EWMA.create config start) where
  settled := create_settled config start
  level := fun _ => rfl
  trend := rfl
  variance := rfl
  same := fun _ none => absurd none List.not_mem_nil
  stored := (Nat.zero_min _).symm

omit [LinearOrder K] in
theorem store_flat {config : EWMAConfig K} {ewma : EWMA K} {v : K} {n : ℕ} (flat : Flat config v n ewma) (window : 10 ≤ config.windowSize) (t : ℤ) :
    storedValues ewma ⟨v,t⟩ = List.replicate (min (n + 1) config.windowSize) v := by
  have all : ∀ point ∈ ewma.dataPoints ++ [⟨v,t⟩], point.value = v := by
    intro point here
    rcases List.mem_append.mp here with earlier | last
    · exact flat.same point earlier
    · rw [List.mem_singleton.mp last]
  have length : (ewma.dataPoints ++ [(⟨v,t⟩ : DataPoint K)]).length = min n config.windowSize + 1 := by
    rw [List.length_append,List.length_singleton,flat.stored]
  rw [storedValues,EWMA.store,flat.settled.config_eq,List.eq_replicate_iff]
  constructor
  · rw [List.length_map]
    simp only
    split
    · rw [lastOf,List.length_drop,length]; omega
    · rw [length]; omega
  · intro value listed
    obtain ⟨point,here,rfl⟩ := List.mem_map.mp listed
    simp only at here
    split at here
    · exact all point (List.mem_of_mem_drop here)
    · exact all point here

def constantFactor (config : EWMAConfig K) (v : K) (n : ℕ) : K :=
  if config.variant = .adaptive then
    if config.volatilityThreshold < (if n < 2 then 0 else math.sqrt (spreadOf r (List.replicate n v)))
    then min config.maxAlpha (r.mul config.alpha (r.lit (3/2)))
    else max config.minAlpha (r.mul config.alpha (r.lit (95/100)))
  else config.alpha

def Kept (config : EWMAConfig K) (v : K) (n : ℕ) : Prop := blend r (constantFactor r math config v n) v v = v

section Step
variable {r} {config : EWMAConfig K} {ewma : EWMA K} {v : K} {n : ℕ}

theorem flat_factor (flat : Flat config v n ewma) (window : 10 ≤ config.windowSize) (few : n < 4) (t : ℤ) :
    smoothingFactor r math ewma ⟨v,t⟩ = constantFactor r math config v (n + 1) := by
  obtain ⟨config_eq,_,_,_,_,points,_⟩ := prepared_spec r math ewma ⟨v,t⟩
  have values := store_flat flat window t
  rw [Nat.min_eq_left (by omega)] at values
  have stored : (prepared r ewma math ⟨v,t⟩).dataPoints.map DataPoint.value = List.replicate (n + 1) v := by
    rw [points,← values,storedValues]
  have count : (prepared r ewma math ⟨v,t⟩).dataPoints.length = n + 1 := by
    have lengths := congrArg List.length stored
    rwa [List.length_map,List.length_replicate] at lengths
  have recent : (prepared r ewma math ⟨v,t⟩).recent 10 = List.replicate (n + 1) v := by
    rw [recent_eq,stored,lastOf,List.length_replicate,Nat.sub_eq_zero_of_le (by omega),List.drop_zero]
  have unchanged : detectChangePoint r (prepared r ewma math ⟨v,t⟩) math = false := by
    rw [detectChangePoint,if_pos (by omega)]
  rw [smoothingFactor,constantFactor,adaptiveFactor,calculateVolatility,unchanged,count,recent,config_eq,
    flat.settled.config_eq]
  simp only [Bool.false_eq_true,or_false]

theorem judged_flat (number : r.round v = v) (flat : Flat config v n ewma) (t : ℤ) :
    (judged r ewma math ⟨v,t⟩).1 = blend r (smoothingFactor r math ewma ⟨v,t⟩) v v ∧
      (judged r ewma math ⟨v,t⟩).2.variance = 0 := by
  have level := (judged_spec r math flat.settled ⟨v,t⟩).1
  have still : projected r config v 0 = v := by rw [projected,r.add_nothing number,ite_self]
  rw [flat.level,flat.trend,still] at level
  refine ⟨level,?_⟩
  rw [(judged_variance r math ewma ⟨v,t⟩).2,varianceAfter,flat.level,flat.variance,r.sub_same,r.mul_nothing,
    blend_nothing]

theorem flat_count (flat : Flat config v n ewma) (window : 10 ≤ config.windowSize) (t : ℤ) :
    (judged r ewma math ⟨v,t⟩).2.dataPoints.length = min (n + 1) config.windowSize := by
  have lengths := congrArg List.length (store_flat flat window t)
  rw [storedValues,List.length_map,List.length_replicate] at lengths
  rw [(judged_variance r math ewma ⟨v,t⟩).1,lengths]

theorem update_flat (number : r.round v = v) (flat : Flat config v n ewma) (window : 10 ≤ config.windowSize) (t : ℤ)
    (kept : blend r (smoothingFactor r math ewma ⟨v,t⟩) v v = v) :
    Flat config v (n + 1) (update r ewma math ⟨v,t⟩).2 := by
  obtain ⟨level,variance⟩ := judged_flat math number flat t
  obtain ⟨_,settled,known⟩ := update_spec r math flat.settled ⟨v,t⟩
  have values := store_flat flat window t
  have points : (update r ewma math ⟨v,t⟩).2.dataPoints = (ewma.store ⟨v,t⟩).dataPoints :=
    (judged_variance r math ewma ⟨v,t⟩).1
  have trend := judged_trendValue r math flat.settled ⟨v,t⟩
  rw [level,kept,flat.level,flat.trend,r.sub_same,blend_nothing,ite_self] at trend
  refine ⟨settled,?_,?_,?_,?_,?_⟩
  · intro t'; rw [levelBefore,if_pos known]; exact level.trans kept
  · rw [trendBefore,if_pos known]; exact trend
  · rw [varianceBefore,if_pos known]; exact variance
  · intro point here
    rw [points] at here
    have value : point.value ∈ storedValues ewma ⟨v,t⟩ := List.mem_map_of_mem here
    rw [values] at value
    exact List.eq_of_mem_replicate value
  · exact flat_count math flat window t

def Quiet (r : Rounding K) (math : JsMath K) (ewma : EWMA K) (point : DataPoint K) : Prop :=
  let result := (update r ewma math point).1
  result.trend.direction = .stable ∧ result.trend.changePoint = false ∧ result.anomaly.isAnomalous = false

-- From the fifth point on no slope is below the threshold, which is zero.
theorem flat_direction (root : math.sqrt 0 = 0) (number : r.round v = v) (flat : Flat config v n ewma)
    (window : 10 ≤ config.windowSize) (late : 4 ≤ n) (t : ℤ) [IsStrictOrderedRing K] :
    (update r ewma math ⟨v,t⟩).1.trend.direction ≠ .stable := by
  have variance := (judged_flat math number flat t).2
  have count : ¬ (judged r ewma math ⟨v,t⟩).2.dataPoints.length < 5 := by
    rw [flat_count math flat window t]
    omega
  change (detectTrend r (judged r ewma math ⟨v,t⟩).2 math).direction ≠ .stable
  have never : ¬ |calculateSlope r ((judged r ewma math ⟨v,t⟩).2.recent 10)| < 0 := not_lt.mpr (abs_nonneg _)
  rw [detectTrend,if_neg count,variance,root,r.nothing_mul]
  simp only [never,if_false]
  split
  · decide
  · split <;> decide

theorem flat_trend (flat : Flat config v n ewma) (window : 10 ≤ config.windowSize) (early : n < 4) (t : ℤ) :
    (update r ewma math ⟨v,t⟩).1.trend = ⟨.stable,0,false,0⟩ := by
  have count : (judged r ewma math ⟨v,t⟩).2.dataPoints.length < 5 := by
    rw [flat_count math flat window t]
    omega
  change detectTrend r (judged r ewma math ⟨v,t⟩).2 math = _
  rw [detectTrend,if_pos count]

theorem flat_anomaly (root : math.sqrt 0 = 0) (number : r.round v = v) (flat : Flat config v n ewma) (t : ℤ)
    [IsStrictOrderedRing K] : (update r ewma math ⟨v,t⟩).1.anomaly.isAnomalous = false ↔
      blend r (smoothingFactor r math ewma ⟨v,t⟩) v v = v := by
  obtain ⟨level,variance⟩ := judged_flat math number flat t
  change (detectAnomaly r (judged r ewma math ⟨v,t⟩).2 math v (judged r ewma math ⟨v,t⟩).1).isAnomalous = false ↔ _
  simp only [detectAnomaly,level,variance,root,r.nothing_mul,decide_eq_false_iff_not,abs_pos,not_not]
  rw [r.sub_eq_nothing number (blend_number r _ _ _),eq_comm]

theorem flat_quiet_iff (root : math.sqrt 0 = 0) (number : r.round v = v) (flat : Flat config v n ewma)
    (window : 10 ≤ config.windowSize) (t : ℤ) [IsStrictOrderedRing K] :
    Quiet r math ewma ⟨v,t⟩ ↔ n < 4 ∧ Kept r math config v (n + 1) := by
  have anomaly := flat_anomaly math root number flat t
  by_cases early : n < 4
  · rw [flat_factor math flat window early] at anomaly
    rw [Quiet,flat_trend math flat window early,anomaly,Kept]
    simp [early]
  · simp only [early,false_and,iff_false]
    exact fun quiet => flat_direction math root number flat window (Nat.le_of_not_lt early) t quiet.1

theorem flat_next (number : r.round v = v) (flat : Flat config v n ewma) (window : 10 ≤ config.windowSize)
    (early : n < 4) (kept : Kept r math config v (n + 1)) (t : ℤ) :
    Flat config v (n + 1) (update r ewma math ⟨v,t⟩).2 := by
  refine update_flat math number flat window t ?_
  rw [flat_factor math flat window early]
  exact kept

end Step

def constantRun (v : K) (times : List ℤ) : List (Operation K) := times.map (fun time => .update ⟨v,time⟩)

theorem flat_run_iff (root : math.sqrt 0 = 0) (number : r.round v = v) (flat : Flat config v n ewma)
    (window : 10 ≤ config.windowSize) (times : List ℤ) [IsStrictOrderedRing K] :
    Machine.Along (step r math) (Updating (Quiet r math)) ewma (constantRun v times) ↔
      (times = [] ∨ n + times.length ≤ 4) ∧ ∀ k < times.length, Kept r math config v (n + k + 1) := by
  induction times generalizing n ewma with
  | nil => exact ⟨fun _ => ⟨Or.inl rfl,fun k none => absurd none (Nat.not_lt_zero k)⟩,fun _ => trivial⟩
  | cons time rest ih =>
      have first : Updating (Quiet r math) ewma (.update ⟨v,time⟩) ↔ n < 4 ∧ Kept r math config v (n + 1) := by
        rw [← flat_quiet_iff math root number flat window time]
        constructor
        · exact fun all => all _ rfl
        · intro quiet point same
          cases same
          exact quiet
      have run : Machine.Along (step r math) (Updating (Quiet r math)) ewma (constantRun v (time :: rest)) ↔
          (n < 4 ∧ Kept r math config v (n + 1)) ∧
            Machine.Along (step r math) (Updating (Quiet r math)) (update r ewma math ⟨v,time⟩).2 (constantRun v rest) :=
        and_congr_left' first
      rw [run]
      constructor
      · rintro ⟨⟨early,kept⟩,later⟩
        have next := flat_next math number flat window early kept time
        obtain ⟨short,others⟩ := (ih next).mp later
        refine ⟨Or.inr ?_,?_⟩
        · rw [List.length_cons]
          rcases short with rfl | few
          · exact early
          · omega
        · intro k bound
          cases k with
          | zero => exact kept
          | succ k =>
              have there := others k (Nat.lt_of_succ_lt_succ bound)
              rwa [Nat.add_right_comm n 1 k] at there
      · rintro ⟨short,all⟩
        have few := short.resolve_left (List.cons_ne_nil time rest)
        rw [List.length_cons] at few
        have kept := all 0 (Nat.succ_pos _)
        have early : n < 4 := by omega
        have next := flat_next math number flat window early kept time
        refine ⟨⟨early,kept⟩,(ih next).mpr ⟨Or.inr (by omega),?_⟩⟩
        intro k bound
        have there := all (k + 1) (Nat.succ_lt_succ bound)
        rwa [← Nat.add_assoc,Nat.add_right_comm n k 1] at there

theorem few_iff (times : List ℤ) : times = [] ∨ times.length ≤ 4 ↔ times.length ≤ 4 := by
  cases times with
  | nil => exact ⟨fun _ => Nat.zero_le 4,fun _ => Or.inl rfl⟩
  | cons time rest => exact or_iff_right (List.cons_ne_nil time rest)

-- Without rounding every value is given back.
omit [LinearOrder K] in
theorem blend_same_exact (alpha v : K) : blend .exact alpha v v = v := by
  rw [blend_exact]
  ring

theorem constant_traffic_unrounded [IsStrictOrderedRing K] (root : math.sqrt 0 = 0) (config : EWMAConfig K)
    (window : 10 ≤ config.windowSize) (start : ℤ) (v : K) (times : List ℤ) :
    Machine.Along (step .exact math) (Updating (Quiet .exact math)) (EWMA.create config start) (constantRun v times) ↔
      times.length ≤ 4 := by
  rw [flat_run_iff .exact math root rfl (create_flat config v start) window times,Nat.zero_add]
  have kept : ∀ k < times.length, Kept .exact math config v (0 + k + 1) := fun k _ => blend_same_exact _ v
  rw [and_iff_left kept,few_iff]

end PhantomFlow.Ewma.Rounded
