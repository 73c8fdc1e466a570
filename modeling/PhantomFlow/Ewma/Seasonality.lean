import PhantomFlow.Ewma.Forecast

namespace PhantomFlow.Ewma
open Library

structure Seasonality (K : Type) where
  detected : Bool
  period : ℕ
  strength : K
  confidence : K

section Hours
variable {K : Type} [Field K] [LinearOrder K] (getHours : ℤ → Fin 24)

def hourlyData (data : List (DataPoint K)) (hour : Fin 24) : List K :=
  (data.filter (fun point => decide (getHours point.timestamp = hour))).map DataPoint.value

def calculateHourlyAverages (data : List (DataPoint K)) : List K :=
  (List.finRange 24).map (fun hour =>
    if hourlyData getHours data hour ≠ [] then meanOf (hourlyData getHours data hour) else 0)

def detectSeasonality (data : List (DataPoint K)) : Seasonality K :=
  if data.length < 60 then ⟨false,0,0,0⟩
  else
    let values := data.map DataPoint.value
    let hourlyAverages := calculateHourlyAverages getHours data
    let hourlyVariance := calculateVariance hourlyAverages
    let overallVariance := calculateVariance values
    let seasonalityStrength := hourlyVariance / (overallVariance + lit (1/1000))
    { detected := decide (lit (3/10) < seasonalityStrength)
      period := 60
      strength := min 1 seasonalityStrength
      confidence := min (lit (8/10)) (data.length / lit 200) }

def coveredAverages (data : List (DataPoint K)) : List K :=
  ((List.finRange 24).filter (fun hour => decide (hourlyData getHours data hour ≠ []))).map (fun hour =>
    meanOf (hourlyData getHours data hour))

end Hours

theorem calculateVariance_nonneg (values : List ℝ) : 0 ≤ calculateVariance values := by
  rw [calculateVariance,spreadOf_eq_spread]
  split
  · exact le_refl 0
  · exact spread_nonneg values

def raised (offset : ℝ) (data : List (DataPoint ℝ)) : List (DataPoint ℝ) :=
  data.map (fun point => { point with value := point.value + offset })

section Coverage
variable (getHours : ℤ → Fin 24) (data : List (DataPoint ℝ))

-- The hours without points are averaged as zeros.
theorem calculateHourlyAverages_perm : (calculateHourlyAverages getHours data).Perm
    (coveredAverages getHours data ++ List.replicate (24 - (coveredAverages getHours data).length) 0) := by
  have parts := (List.filter_append_perm (fun hour => decide (hourlyData getHours data hour ≠ [])) (List.finRange 24)).symm
  have covered : ((List.finRange 24).filter (fun hour => decide (hourlyData getHours data hour ≠ []))).map (fun hour =>
      if hourlyData getHours data hour ≠ [] then meanOf (hourlyData getHours data hour) else 0) =
        coveredAverages getHours data := by
    apply List.map_congr_left
    intro hour listed
    exact if_pos (of_decide_eq_true (List.mem_filter.mp listed).2)
  have missing : ((List.finRange 24).filter (fun hour => !decide (hourlyData getHours data hour ≠ []))).map (fun hour =>
      if hourlyData getHours data hour ≠ [] then meanOf (hourlyData getHours data hour) else 0) =
        List.replicate (24 - (coveredAverages getHours data).length) 0 := by
    have count := parts.length_eq
    rw [List.length_append,List.length_finRange] at count
    rw [List.eq_replicate_iff,List.length_map,coveredAverages,List.length_map]
    refine ⟨by omega,?_⟩
    intro value listed
    obtain ⟨hour,here,rfl⟩ := List.mem_map.mp listed
    have none := (List.mem_filter.mp here).2
    rw [Bool.not_eq_true_eq_eq_false,decide_eq_false_iff_not] at none
    exact if_neg none
  have all := parts.map (fun hour =>
    if hourlyData getHours data hour ≠ [] then meanOf (hourlyData getHours data hour) else 0)
  rw [List.map_append,covered,missing] at all
  exact all

theorem length_coveredAverages : (coveredAverages getHours data).length ≤ 24 := by
  rw [coveredAverages,List.length_map]
  exact (List.length_filter_le _ _).trans (List.length_finRange).le

theorem coveredAverages_ne_nil (some' : data ≠ []) : coveredAverages getHours data ≠ [] := by
  obtain ⟨point,rest,rfl⟩ := List.exists_cons_of_ne_nil some'
  have here : point.value ∈ hourlyData getHours (point :: rest) (getHours point.timestamp) := by
    apply List.mem_map_of_mem
    exact List.mem_filter.mpr ⟨List.mem_cons_self,decide_eq_true rfl⟩
  have covered : getHours point.timestamp ∈ (List.finRange 24).filter (fun hour =>
      decide (hourlyData getHours (point :: rest) hour ≠ [])) :=
    List.mem_filter.mpr ⟨List.mem_finRange _,decide_eq_true (List.ne_nil_of_mem here)⟩
  exact List.ne_nil_of_mem (List.mem_map_of_mem covered)

-- The variance between the hours: that of the covered ones, and the distance of
-- their mean from the zeros.
noncomputable def betweenHours (averages : List ℝ) : ℝ :=
  spread averages * (averages.length / 24) +
    average averages * average averages * (averages.length * (24 - averages.length) / 576)

theorem hourlyVariance_eq (some' : data ≠ []) :
    calculateVariance (calculateHourlyAverages getHours data) = betweenHours (coveredAverages getHours data) := by
  have few := length_coveredAverages getHours data
  have long : ¬(calculateHourlyAverages getHours data).length < 2 := by
    rw [calculateHourlyAverages,List.length_map,List.length_finRange]
    decide
  have zeros : ((24 - (coveredAverages getHours data).length : ℕ) : ℝ) = 24 - (coveredAverages getHours data).length := by
    rw [Nat.cast_sub few]
    norm_num
  have total : ((coveredAverages getHours data).length : ℝ) + (24 - (coveredAverages getHours data).length) = 24 := by ring
  rw [calculateVariance,if_neg long,spreadOf_eq_spread,spread_perm (calculateHourlyAverages_perm getHours data),
    spread_append_zeros (coveredAverages_ne_nil getHours data some'),zeros,total,betweenHours]
  norm_num

theorem detected_iff (long : 60 ≤ data.length) : (detectSeasonality getHours data).detected = true ↔
    3/10 * (calculateVariance (data.map DataPoint.value) + 1/1000) < betweenHours (coveredAverages getHours data) := by
  have some' : data ≠ [] := List.ne_nil_of_length_pos (lt_of_lt_of_le (by decide) long)
  have nonneg := calculateVariance_nonneg (data.map DataPoint.value)
  have positive : 0 < calculateVariance (data.map DataPoint.value) + lit (1/1000) := by
    rw [lit_cast]
    push_cast
    linarith
  rw [detectSeasonality,if_neg (Nat.not_lt.mpr long)]
  simp only [decide_eq_true_iff]
  rw [lt_div_iff₀ positive,hourlyVariance_eq getHours data some',lit_cast,lit_cast]
  push_cast
  exact Iff.rfl

theorem detected_short (short : data.length < 60) : (detectSeasonality getHours data).detected = false := by
  rw [detectSeasonality,if_pos short]

theorem mem_hourlyData (listed : value ∈ hourlyData getHours data hour) : ∃ point ∈ data, point.value = value := by
  obtain ⟨point,here,rfl⟩ := List.mem_map.mp listed
  exact ⟨point,(List.mem_filter.mp here).1,rfl⟩

theorem coveredAverages_constant (same : ∀ point ∈ data, point.value = v) :
    ∀ mean ∈ coveredAverages getHours data, mean = v := by
  intro mean listed
  obtain ⟨hour,here,rfl⟩ := List.mem_map.mp listed
  have some' := of_decide_eq_true (List.mem_filter.mp here).2
  apply average_constant some'
  intro value there
  obtain ⟨point,known,rfl⟩ := mem_hourlyData getHours data there
  exact same point known

theorem constant_undetected_iff (same : ∀ point ∈ data, point.value = v) :
    (detectSeasonality getHours data).detected = false ↔ data.length < 60 ∨
      v * v * ((coveredAverages getHours data).length * (24 - (coveredAverages getHours data).length) / 576) ≤ 3/10000 := by
  by_cases short : data.length < 60
  · constructor
    · intro _; exact Or.inl short
    · intro _; exact detected_short getHours data short
  · have long := Nat.le_of_not_lt short
    have some' := coveredAverages_ne_nil getHours data (List.ne_nil_of_length_pos (lt_of_lt_of_le (by decide) long))
    have constant := coveredAverages_constant getHours data same
    have overall : calculateVariance (data.map DataPoint.value) = 0 := by
      rw [calculateVariance,spreadOf_eq_spread,spread_constant (List.forall_mem_map.mpr same),ite_self]
    rw [or_iff_right short,← Bool.not_eq_true,detected_iff getHours data long,overall,betweenHours,spread_constant constant,
      average_constant some' constant,not_lt]
    norm_num

section Raised
variable (offset : ℝ)

theorem raised_values : (raised offset data).map DataPoint.value =
    (data.map DataPoint.value).map (fun value => value + offset) := by
  rw [raised,List.map_map,List.map_map]
  rfl

theorem hourlyData_raised (hour : Fin 24) : hourlyData getHours (raised offset data) hour =
    (hourlyData getHours data hour).map (fun value => value + offset) := by
  rw [hourlyData,raised,List.filter_map,List.map_map,hourlyData,List.map_map]
  rfl

theorem coveredAverages_raised : coveredAverages getHours (raised offset data) =
    (coveredAverages getHours data).map (fun mean => mean + offset) := by
  have covered : (List.finRange 24).filter (fun hour => decide (hourlyData getHours (raised offset data) hour ≠ [])) =
      (List.finRange 24).filter (fun hour => decide (hourlyData getHours data hour ≠ [])) := by
    congr 1
    funext hour
    rw [hourlyData_raised]
    exact decide_eq_decide.mpr (not_congr List.map_eq_nil_iff)
  rw [coveredAverages,coveredAverages,covered,List.map_map]
  apply List.map_congr_left
  intro hour here
  have some' := of_decide_eq_true (List.mem_filter.mp here).2
  rw [hourlyData_raised]
  exact average_offset some' offset

theorem betweenHours_raised (some' : data ≠ []) : betweenHours (coveredAverages getHours (raised offset data)) =
    spread (coveredAverages getHours data) * ((coveredAverages getHours data).length / 24) +
      (average (coveredAverages getHours data) + offset) * (average (coveredAverages getHours data) + offset) *
        ((coveredAverages getHours data).length * (24 - (coveredAverages getHours data).length) / 576) := by
  rw [betweenHours,coveredAverages_raised,spread_offset,average_offset (coveredAverages_ne_nil getHours data some'),
    List.length_map]

theorem calculateVariance_raised : calculateVariance ((raised offset data).map DataPoint.value) =
    calculateVariance (data.map DataPoint.value) := by
  rw [calculateVariance,calculateVariance,raised_values,List.length_map,spreadOf_eq_spread,spread_offset,spreadOf_eq_spread]

end Raised

def OffsetFree : Prop :=
  ∀ offset, (detectSeasonality getHours (raised offset data)).detected = (detectSeasonality getHours data).detected

theorem quadratic_exceeds_iff {fixed factor limit : ℝ} (positive : 0 < factor) (limit_pos : 0 < limit)
    (nonneg : 0 ≤ fixed) (mean : ℝ) :
    (∀ offset, limit < fixed + (mean + offset) * (mean + offset) * factor ↔ limit < fixed + mean * mean * factor) ↔
      limit < fixed := by
  constructor
  · intro same
    have far := (same (limit / factor + 1 - mean)).mp (by
      have large : 1 ≤ limit / factor + 1 := by linarith [div_pos limit_pos positive]
      have grown : (limit / factor + 1) * factor ≤ (limit / factor + 1) * (limit / factor + 1) * factor := by
        apply mul_le_mul_of_nonneg_right _ positive.le
        exact le_mul_of_one_le_left (by linarith) large
      have split' : (limit / factor + 1) * factor = limit + factor := by field_simp
      rw [add_sub_cancel]
      linarith)
    have least := (same (-mean)).mpr far
    rw [add_neg_cancel,mul_zero,zero_mul,add_zero] at least
    exact least
  · intro enough offset
    have here := mul_nonneg (mul_self_nonneg (mean + offset)) positive.le
    have there := mul_nonneg (mul_self_nonneg mean) positive.le
    exact ⟨fun _ => by linarith,fun _ => by linarith⟩

theorem offsetFree_iff : OffsetFree getHours data ↔
    data.length < 60 ∨ (coveredAverages getHours data).length = 24 ∨
      3/10 * (calculateVariance (data.map DataPoint.value) + 1/1000) <
        spread (coveredAverages getHours data) * ((coveredAverages getHours data).length / 24) := by
  have length (offset : ℝ) : (raised offset data).length = data.length := by rw [raised,List.length_map]
  by_cases short : data.length < 60
  · constructor
    · intro _; exact Or.inl short
    · intro _ offset
      rw [detected_short getHours data short,detected_short getHours _ (by rw [length]; exact short)]
  · have long := Nat.le_of_not_lt short
    have some' : data ≠ [] := List.ne_nil_of_length_pos (lt_of_lt_of_le (by decide) long)
    have flags : OffsetFree getHours data ↔ ∀ offset : ℝ,
        (3/10 * (calculateVariance (data.map DataPoint.value) + 1/1000) <
          betweenHours (coveredAverages getHours (raised offset data)) ↔
        3/10 * (calculateVariance (data.map DataPoint.value) + 1/1000) < betweenHours (coveredAverages getHours data)) := by
      apply forall_congr'
      intro offset
      rw [Bool.eq_iff_iff,detected_iff getHours data long,detected_iff getHours _ (by rw [length]; exact long),
        calculateVariance_raised]
    have limit_pos : 0 < 3/10 * (calculateVariance (data.map DataPoint.value) + 1/1000) := by
      have nonneg : 0 ≤ calculateVariance (data.map DataPoint.value) := calculateVariance_nonneg _
      linarith
    rw [flags,or_iff_right short]
    simp only [betweenHours_raised getHours data _ some']
    rw [betweenHours]
    by_cases full : (coveredAverages getHours data).length = 24
    · rw [full]
      simp
    · have few := lt_of_le_of_ne (length_coveredAverages getHours data) full
      have covered := List.length_pos_iff.mpr (coveredAverages_ne_nil getHours data some')
      have factor : 0 < ((coveredAverages getHours data).length : ℝ) * (24 - (coveredAverages getHours data).length) / 576 := by
        have more : (0 : ℝ) < 24 - (coveredAverages getHours data).length := by
          rw [sub_pos]
          exact_mod_cast few
        have some'' : (0 : ℝ) < (coveredAverages getHours data).length := Nat.cast_pos.mpr covered
        positivity
      rw [or_iff_right full]
      apply quadratic_exceeds_iff factor limit_pos
      exact mul_nonneg (spread_nonneg _) (by positivity)

end Coverage

-- Over the reals. On the bound itself doubles may fall to the other side: 0.04 over six
-- hours is detected.
theorem seasonality_exact (getHours : ℤ → Fin 24) (data : List (DataPoint ℝ)) :
    (∀ v, (∀ point ∈ data, point.value = v) → ((detectSeasonality getHours data).detected = false ↔
      data.length < 60 ∨
        v * v * ((coveredAverages getHours data).length * (24 - (coveredAverages getHours data).length) / 576) ≤ 3/10000)) ∧
      (OffsetFree getHours data ↔ data.length < 60 ∨ (coveredAverages getHours data).length = 24 ∨
        3/10 * (calculateVariance (data.map DataPoint.value) + 1/1000) <
          spread (coveredAverages getHours data) * ((coveredAverages getHours data).length / 24)) :=
  ⟨fun _ same => constant_undetected_iff getHours data same,offsetFree_iff getHours data⟩

theorem coveredAverages_midnight (v : ℝ) :
    (coveredAverages (fun _ => 0) (List.replicate 60 (⟨v,0⟩ : DataPoint ℝ))).length = 1 := by
  have covered : (List.finRange 24).filter (fun hour =>
      decide (hourlyData (fun _ => 0) (List.replicate 60 (⟨v,0⟩ : DataPoint ℝ)) hour ≠ [])) =
        (List.finRange 24).filter (fun hour => decide ((0 : Fin 24) = hour)) := by
    apply List.filter_congr
    intro hour _
    apply decide_eq_decide.mpr
    rw [hourlyData,ne_eq,List.map_eq_nil_iff,List.filter_eq_nil_iff]
    constructor
    · intro some'
      by_contra other
      exact some' (fun _ _ => decide_eq_true_iff.not.mpr other)
    · intro here none
      exact none ⟨v,0⟩ (List.mem_replicate.mpr ⟨by decide,rfl⟩) (decide_eq_true here)
  rw [coveredAverages,List.length_map,covered]
  decide

-- Small values are not taken for a season.
theorem seasonality_exact_midnight :
    (detectSeasonality (fun _ => 0) (List.replicate 60 (⟨1/100,0⟩ : DataPoint ℝ))).detected = false := by
  have same : ∀ point ∈ List.replicate 60 (⟨1/100,0⟩ : DataPoint ℝ), point.value = 1/100 := by
    intro point listed
    rw [List.eq_of_mem_replicate listed]
  refine ((seasonality_exact (fun _ => 0) (List.replicate 60 ⟨1/100,0⟩)).1 (1/100) same).mpr (Or.inr ?_)
  rw [coveredAverages_midnight]
  norm_num

-- Ones are.
theorem constant_series_detected :
    ¬∀ (getHours : ℤ → Fin 24) (data : List (DataPoint ℝ)) (v : ℝ), (∀ point ∈ data, point.value = v) →
      (detectSeasonality getHours data).detected = false := by
  intro all
  have same : ∀ point ∈ List.replicate 60 (⟨1,0⟩ : DataPoint ℝ), point.value = 1 := by
    intro point listed
    rw [List.eq_of_mem_replicate listed]
  have undetected := (constant_undetected_iff _ _ same).mp (all (fun _ => 0) _ 1 same)
  rw [coveredAverages_midnight,List.length_replicate] at undetected
  norm_num at undetected

end PhantomFlow.Ewma
