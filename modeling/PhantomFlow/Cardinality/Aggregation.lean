import Mathlib.Tactic.Linarith
import PhantomFlow.Library.Averages
import PhantomFlow.Cardinality.VisitorInsights

namespace PhantomFlow.Cardinality
open Library

namespace HyperLogLogManager
variable {K : Type} [Field K] [LinearOrder K]

def startMetrics (now : ℤ) (timeWindowMs : Option ℚ) : VisitorMetrics K :=
  let window := timeWindowMs.filter (· ≠ 0)
  { start := (window.map (fun windowMs => (now : ℚ) - windowMs)).getD 0
    finish := now
    duration := window.getD now
    total := .finite 0
    ips := .finite 0
    sessions := .finite 0
    userAgents := .finite 0
    locations := .finite 0
    paths := .finite 0
    growthRate := 0
    confidence := 0 }

def aggregateAll (now : ℤ) (timeWindowMs : Option ℚ) (answers : List (VisitorMetrics K)) : VisitorMetrics K :=
  answers.foldl aggregate (startMetrics now timeWindowMs)

def trackerMetrics [FloorRing K] (math : JsMath K) (now : ℤ) (timeWindowMs : Option ℚ) (manager : HyperLogLogManager K) :
    List (VisitorMetrics K) :=
  manager.visitorTrackers.values.map (fun tracker => (tracker.getVisitorMetrics math now timeWindowMs).1)

theorem getAggregatedMetrics_all [FloorRing K] (math : JsMath K) (now : ℤ) (timeWindowMs : Option ℚ)
    (manager : HyperLogLogManager K) :
    (manager.getAggregatedMetrics math now timeWindowMs).1 =
      aggregateAll now timeWindowMs (manager.trackerMetrics math now timeWindowMs) := by
  simp only [getAggregatedMetrics,trackerMetrics,OrderedMap.values_map,List.map_map]
  rfl

def Averaged (now : ℤ) (timeWindowMs : Option ℚ) (answers : List (VisitorMetrics K)) : Prop :=
  (aggregateAll now timeWindowMs answers).growthRate = average (answers.map VisitorMetrics.growthRate) ∧
    ∀ others, others.Perm answers → aggregateAll now timeWindowMs others = aggregateAll now timeWindowMs answers

section Maxima

def maxima (aggregated metrics : VisitorMetrics K) : VisitorMetrics K :=
  { aggregate aggregated metrics with growthRate := aggregated.growthRate }

def halved (start : K) (rates : List K) : K := rates.foldl (fun total rate => (total + rate) / lit 2) start

omit [LinearOrder K] in
theorem halved_cons (start rate : K) (rest : List K) :
    halved start (rate :: rest) = halved ((start + rate) / 2) rest := by
  simp only [halved,List.foldl_cons,lit_cast,Rat.cast_ofNat]

theorem foldl_aggregate (answers : List (VisitorMetrics K)) (start : VisitorMetrics K) (growthRate : K) :
    answers.foldl aggregate { start with growthRate } =
      { answers.foldl maxima start with growthRate := halved growthRate (answers.map VisitorMetrics.growthRate) } := by
  induction answers generalizing start growthRate with
  | nil => rfl
  | cons metrics rest ih =>
      rw [List.map_cons,halved_cons]
      exact ih (maxima start metrics) ((growthRate + metrics.growthRate) / 2)

omit [Field K] in
theorem max_right_comm' (x y z : JsNumber K) : (x.max y).max z = (x.max z).max y := by
  cases x <;> cases y <;> cases z <;> simp [JsNumber.max,max_right_comm]
  exact max_comm _ _

instance : RightCommutative (maxima (K:=K)) where
  right_comm aggregated one two := by
    simp only [maxima,aggregate,max_right_comm',max_right_comm]

theorem aggregateAll_perm_iff {answers others : List (VisitorMetrics K)} (now : ℤ) (timeWindowMs : Option ℚ)
    (shuffled : others.Perm answers) :
    aggregateAll now timeWindowMs others = aggregateAll now timeWindowMs answers ↔
      halved 0 (others.map VisitorMetrics.growthRate) = halved 0 (answers.map VisitorMetrics.growthRate) := by
  have all (entries : List (VisitorMetrics K)) : aggregateAll now timeWindowMs entries =
      { entries.foldl maxima (startMetrics now timeWindowMs) with
        growthRate := halved 0 (entries.map VisitorMetrics.growthRate) } := 
    foldl_aggregate entries (startMetrics now timeWindowMs) 0
  rw [all,all,shuffled.foldl_eq]
  constructor
  · exact congrArg VisitorMetrics.growthRate
  · intro same
    rw [same]

theorem aggregateAll_growthRate (now : ℤ) (timeWindowMs : Option ℚ) (answers : List (VisitorMetrics K)) :
    (aggregateAll now timeWindowMs answers).growthRate = halved 0 (answers.map VisitorMetrics.growthRate) :=
  congrArg VisitorMetrics.growthRate (foldl_aggregate answers (startMetrics now timeWindowMs) 0)

end Maxima

section Halving
variable [IsStrictOrderedRing K]

omit [LinearOrder K] [IsStrictOrderedRing K] in
theorem halved_append (start : K) (rates others : List K) : halved start (rates ++ others) = halved (halved start rates) others :=
  List.foldl_append

theorem halved_constant {rates : List K} (same : ∀ other ∈ rates, other = rate) (start : K) :
    (rate - halved start rates) * 2 ^ rates.length = rate - start := by
  induction rates generalizing start with
  | nil => simp [halved]
  | cons first rest ih =>
      have next := ih (fun other here => same other (List.mem_cons_of_mem _ here)) ((start + first) / 2)
      rw [same first List.mem_cons_self] at next ⊢
      rw [List.length_cons,pow_succ,← mul_assoc,halved_cons,next]
      ring

theorem halved_swap_iff (start one two : K) (rates : List K) :
    halved start (rates ++ [one,two]) = halved start (rates ++ [two,one]) ↔ one = two := by
  rw [halved_append,halved_append]
  generalize halved start rates = reached
  simp only [halved_cons]
  change ((reached + one) / 2 + two) / 2 = ((reached + two) / 2 + one) / 2 ↔ one = two
  constructor
  · intro same
    linarith
  · intro same
    rw [same]

theorem halved_zero {rates : List K} (zero : ∀ rate ∈ rates, rate = 0) : halved 0 rates = 0 := by
  have distance := halved_constant zero 0
  rw [sub_zero,zero_sub,mul_eq_zero,neg_eq_zero] at distance
  exact distance.resolve_right (pow_ne_zero _ two_ne_zero)

omit [Field K] [LinearOrder K] [IsStrictOrderedRing K] in
theorem perm_lastTwo {answers : List (VisitorMetrics K)} (here : one ∈ answers) (there : two ∈ answers) :
    one = two ∨ ∃ rest, (rest ++ [one,two]).Perm answers ∧ (rest ++ [two,one]).Perm answers := by
  obtain ⟨before,after,rfl⟩ := List.append_of_mem here
  have others : two = one ∨ two ∈ before ++ after := by
    simp only [List.mem_append,List.mem_cons] at there ⊢
    tauto
  rcases others with same | elsewhere
  · exact .inl same.symm
  · obtain ⟨first,last,split⟩ := List.append_of_mem elsewhere
    have front : (one :: two :: (first ++ last)).Perm (before ++ one :: after) := by
      have moved : (one :: (before ++ after)).Perm (before ++ one :: after) := List.perm_middle.symm
      rw [split] at moved
      exact (List.Perm.cons one List.perm_middle.symm).trans moved
    have behind : ((first ++ last) ++ [one,two]).Perm (one :: two :: (first ++ last)) := List.perm_append_comm
    refine .inr ⟨first ++ last,behind.trans front,?_⟩
    exact ((List.Perm.swap one two []).append_left (first ++ last)).trans (behind.trans front)

theorem averaged_iff (now : ℤ) (timeWindowMs : Option ℚ) {answers : List (VisitorMetrics K)} (some' : answers ≠ []) :
    Averaged now timeWindowMs answers ↔ ∀ metrics ∈ answers, metrics.growthRate = 0 := by
  have some'' : answers.map VisitorMetrics.growthRate ≠ [] := by simpa using some'
  constructor
  · rintro ⟨mean,ordered⟩
    have equal : ∀ one ∈ answers, ∀ two ∈ answers, two.growthRate = one.growthRate := by
      intro one here two there
      rcases perm_lastTwo here there with rfl | ⟨rest,first,second⟩
      · rfl
      · have same := congrArg VisitorMetrics.growthRate ((ordered _ first).trans (ordered _ second).symm)
        rw [aggregateAll_growthRate,aggregateAll_growthRate,List.map_append,List.map_append] at same
        exact ((halved_swap_iff 0 one.growthRate two.growthRate _).mp same).symm
    intro metrics here
    have same : ∀ rate ∈ answers.map VisitorMetrics.growthRate, rate = metrics.growthRate := by
      intro rate listed
      obtain ⟨other,there,rfl⟩ := List.mem_map.mp listed
      exact equal metrics here other there
    have distance := halved_constant same 0
    rw [aggregateAll_growthRate,average_constant some'' same] at mean
    rw [mean,sub_self,zero_mul,sub_zero] at distance
    exact distance.symm
  · intro zero
    have still (entries : List (VisitorMetrics K)) (shuffled : entries.Perm answers) :
        ∀ rate ∈ entries.map VisitorMetrics.growthRate, rate = 0 := by
      intro rate listed
      obtain ⟨other,there,rfl⟩ := List.mem_map.mp listed
      exact zero other (shuffled.mem_iff.mp there)
    have own := still answers (List.Perm.refl _)
    refine ⟨?_,?_⟩
    · rw [aggregateAll_growthRate,halved_zero own,average_constant some'' own]
    · intro others shuffled
      rw [aggregateAll_perm_iff now timeWindowMs shuffled,halved_zero own,halved_zero (still others shuffled)]

end Halving

section Managers
variable [FloorRing K] (math : JsMath K) (now : ℤ) (timeWindowMs : Option ℚ)

theorem getVisitorMetrics_growthRate (tracker : VisitorTracker K) :
    (tracker.getVisitorMetrics math now timeWindowMs).1.growthRate = 0 := by
  have populated : ∀ (types : List TrackingType) (start : VisitorMetrics K × VisitorTracker K),
      (types.foldl (VisitorTracker.populateMetricsForType math timeWindowMs) start).1.growthRate = start.1.growthRate := by
    intro types
    induction types with
    | nil => exact fun _ => rfl
    | cons trackingType rest ih =>
        intro start
        refine (ih _).trans ?_
        unfold VisitorTracker.populateMetricsForType
        dsimp only
        split
        · cases trackingType <;> rfl
        · rfl
  exact populated _ (_,tracker)

variable [IsStrictOrderedRing K]

theorem trackers_averaged (manager : HyperLogLogManager K) (some' : manager.visitorTrackers.values ≠ []) :
    Averaged now timeWindowMs (manager.trackerMetrics math now timeWindowMs) := by
  apply (averaged_iff now timeWindowMs (by simpa [trackerMetrics] using some')).mpr
  intro metrics listed
  obtain ⟨tracker,_,rfl⟩ := List.mem_map.mp listed
  exact getVisitorMetrics_growthRate math now timeWindowMs tracker

theorem aggregated_average_iff :
    (∀ manager : HyperLogLogManager K, (manager.getAggregatedMetrics math now timeWindowMs).1 =
      aggregateAll now timeWindowMs (manager.trackerMetrics math now timeWindowMs)) ∧
    ∀ answers : List (VisitorMetrics K), answers ≠ [] →
      (Averaged now timeWindowMs answers ↔ ∀ metrics ∈ answers, metrics.growthRate = 0) :=
  ⟨getAggregatedMetrics_all math now timeWindowMs,fun _ => averaged_iff now timeWindowMs⟩

end Managers

def growing (growthRate : ℚ) : VisitorMetrics ℚ := { startMetrics 0 none with growthRate }

theorem aggregated_average_still : Averaged 0 none [growing 0,growing 0] := by
  apply ((aggregated_average_iff developmentMath 0 none).2 [growing 0,growing 0] (List.cons_ne_nil _ _)).mpr
  intro metrics listed
  simp only [List.mem_cons,List.not_mem_nil,or_false,or_self] at listed
  rw [listed]
  rfl

-- A single tracker that grows by 10 percent, and a second one that does not.
theorem growth_halved : ¬ Averaged 0 none [growing 10] ∧
    (aggregateAll 0 none [growing 10]).growthRate = 5 ∧
    (aggregateAll 0 none [growing 10,growing 0]).growthRate = 5/2 ∧
    (aggregateAll 0 none [growing 0,growing 10]).growthRate = 5 := by
  have single : (aggregateAll 0 none [growing 10]).growthRate = 5 := by decide +kernel
  refine ⟨?_,single,by decide +kernel,by decide +kernel⟩
  rintro ⟨mean,-⟩
  rw [single] at mean
  have ten : average ([growing 10].map VisitorMetrics.growthRate) = 10 := by decide +kernel
  rw [ten] at mean
  norm_num at mean

end HyperLogLogManager
end PhantomFlow.Cardinality
