import PhantomFlow.Ewma.Forecast

namespace PhantomFlow.Ewma
open Library

inductive OutlierMethod where
  | zscore | iqr
  deriving DecidableEq

structure OutlierReport (K : Type) where
  indices : List ℕ
  scores : List (JsNumber K)

section Outliers
variable {K : Type} [Field K] [LinearOrder K] (math : JsMath K)

-- The position is exact, between its floor and its ceiling.
def calculatePercentile (sortedValues : List K) (percentile : ℚ) : K :=
  let index : ℚ := percentile / 100 * ((sortedValues.length : ℚ) - 1)
  let lower := ⌊index⌋
  let upper := ⌈index⌉
  if lower = upper then sortedValues.getD lower.toNat 0
  else
    let weight : K := lit (index - lower)
    sortedValues.getD lower.toNat 0 * (1 - weight) + sortedValues.getD upper.toNat 0 * weight

def zScores (values : List K) (value : K) : Option (JsNumber K) :=
  let mean := meanOf values
  let stdDev := math.sqrt (calculateVariance values)
  let zScore := |value - mean| / (stdDev + lit (1/1000))
  if lit (5/2) < zScore then some (.finite zScore) else none

def iqrScores (values : List K) (value : K) : Option (JsNumber K) :=
  let sorted := values.insertionSort (· ≤ ·)
  let q1 := calculatePercentile sorted 25
  let q3 := calculatePercentile sorted 75
  let iqr := q3 - q1
  let lowerBound := q1 - lit (3/2) * iqr
  let upperBound := q3 + lit (3/2) * iqr
  if value < lowerBound ∨ upperBound < value then
    some ((JsNumber.div |value - lowerBound| iqr).max (JsNumber.div |value - upperBound| iqr))
  else none

def reportBy (score : K → Option (JsNumber K)) (values : List K) : OutlierReport K :=
  let flagged := values.zipIdx.filterMap (fun entry => (score entry.1).map (fun score => (entry.2,score)))
  ⟨flagged.map Prod.fst,flagged.map Prod.snd⟩

def detectStatisticalOutliers (values : List K) (method : OutlierMethod) : OutlierReport K :=
  if values.length < 5 then ⟨[],[]⟩
  else
    match method with
    | .zscore => reportBy (zScores math values) values
    | .iqr => reportBy (iqrScores values) values

end Outliers

def lone (a b : ℝ) (before after : ℕ) : List ℝ := List.replicate before a ++ b :: List.replicate after a

theorem length_lone (a b : ℝ) (before after : ℕ) : (lone a b before after).length = before + after + 1 := by
  rw [lone,List.length_append,List.length_cons,List.length_replicate,List.length_replicate]
  omega

theorem perm_lone (a b : ℝ) (before after : ℕ) :
    (lone a b before after).Perm (List.replicate (before + after) a ++ List.replicate 1 b) := by
  have front : (lone a b before after).Perm (b :: List.replicate (before + after) a) := by
    rw [lone,List.replicate_add]
    exact List.perm_middle
  exact front.trans (List.perm_append_singleton b _).symm

theorem flagged_replicate {score : ℝ → Option (JsNumber ℝ)} (unflagged : score a = none) (n first : ℕ) :
    ((List.replicate n a).zipIdx first).filterMap (fun entry => (score entry.1).map (fun score => (entry.2,score))) = [] := by
  rw [List.filterMap_eq_nil_iff]
  intro entry listed
  have value : entry.1 = a := List.eq_of_mem_replicate (List.fst_mem_of_mem_zipIdx listed)
  rw [value,unflagged]
  rfl

theorem reportBy_lone {score : ℝ → Option (JsNumber ℝ)} (unflagged : score a = none) (b : ℝ) (before after : ℕ) :
    reportBy score (lone a b before after) = ⟨((score b).map (fun _ => before)).toList,(score b).toList⟩ := by
  have flagged : (lone a b before after).zipIdx.filterMap
      (fun entry => (score entry.1).map (fun score => (entry.2,score))) =
        ((score b).map (fun score => (before,score))).toList := by
    rw [lone,List.zipIdx_append,List.filterMap_append,flagged_replicate unflagged,List.zipIdx_cons,List.filterMap_cons,
      flagged_replicate unflagged,List.nil_append,List.length_replicate,Nat.zero_add]
    cases score b <;> rfl
  rw [reportBy,flagged]
  cases score b <;> rfl

-- The mean and the variance of such a list, through the distance between the values.
section Deviation
variable (a b : ℝ) (before after : ℕ)

def othersCount : ℝ := before + after

theorem othersCount_succ_pos : 0 < othersCount before after + 1 := by
  rw [othersCount]
  positivity

theorem meanOf_lone : meanOf (lone a b before after) = a + (b - a) / (othersCount before after + 1) := by
  have mean := average_two (perm_lone a b before after) (Nat.succ_pos _)
  rw [Nat.cast_one,mul_one] at mean
  rw [othersCount,← Nat.cast_add]
  exact mean

theorem variance_lone (enough : 1 ≤ before + after) : calculateVariance (lone a b before after) =
    (b - a) ^ 2 * othersCount before after / (othersCount before after + 1) ^ 2 := by
  have long : ¬(lone a b before after).length < 2 := by rw [length_lone]; omega
  have spread := spread_two (perm_lone a b before after) (Nat.succ_pos _)
  rw [Nat.cast_one,mul_one] at spread
  rw [calculateVariance,if_neg long,spreadOf_eq_spread,othersCount,← Nat.cast_add]
  exact spread

theorem deviation_lone (enough : 1 ≤ before + after) : √(calculateVariance (lone a b before after)) =
    |b - a| * √(othersCount before after) / (othersCount before after + 1) := by
  have count := othersCount_succ_pos before after
  rw [variance_lone a b before after enough,Real.sqrt_div' _ (sq_nonneg _),Real.sqrt_sq count.le,
    Real.sqrt_mul (sq_nonneg _),Real.sqrt_sq_eq_abs]

theorem zScores_lone (enough : 4 ≤ before + after) :
    zScores realMath (lone a b before after) b =
      if 5/2 < |b - a| * othersCount before after /
          (|b - a| * √(othersCount before after) + (othersCount before after + 1) / 1000) then
        some (.finite (|b - a| * othersCount before after /
          (|b - a| * √(othersCount before after) + (othersCount before after + 1) / 1000)))
      else none := by
  have count := othersCount_succ_pos before after
  have positive : 0 < |b - a| * √(othersCount before after) + (othersCount before after + 1) / 1000 := by positivity
  have distance : |b - meanOf (lone a b before after)| =
      |b - a| * othersCount before after / (othersCount before after + 1) := by
    have nonneg : 0 ≤ othersCount before after / (othersCount before after + 1) := by
      apply div_nonneg _ count.le
      rw [othersCount]; positivity
    have split' : b - meanOf (lone a b before after) =
        (b - a) * (othersCount before after / (othersCount before after + 1)) := by
      rw [meanOf_lone]; field_simp; ring
    rw [split',abs_mul,abs_of_nonneg nonneg,mul_div_assoc]
  have score : |b - meanOf (lone a b before after)| /
      (realMath.sqrt (calculateVariance (lone a b before after)) + lit (1/1000)) =
        |b - a| * othersCount before after /
          (|b - a| * √(othersCount before after) + (othersCount before after + 1) / 1000) := by
    rw [realMath_sqrt,deviation_lone a b before after (by omega),distance,lit_cast]
    push_cast
    field_simp
  have half : (lit (5/2) : ℝ) = 5/2 := by norm_num
  simp only [zScores,score,half]

theorem two_le_sqrt_othersCount (enough : 4 ≤ before + after) : 2 ≤ √(othersCount before after) := by
  apply Real.le_sqrt_of_sq_le
  have four : ((4 : ℕ) : ℝ) ≤ ((before + after : ℕ) : ℝ) := Nat.cast_le.mpr enough
  rw [othersCount]
  push_cast at four
  linarith

theorem zScores_common (enough : 4 ≤ before + after) : zScores realMath (lone a b before after) a = none := by
  have count := othersCount_succ_pos before after
  have root := two_le_sqrt_othersCount before after enough
  have distance : |a - meanOf (lone a b before after)| = |b - a| / (othersCount before after + 1) := by
    have split' : a - meanOf (lone a b before after) = -((b - a) / (othersCount before after + 1)) := by
      rw [meanOf_lone]; ring
    rw [split',abs_neg,abs_div,abs_of_pos count]
  have small : |a - meanOf (lone a b before after)| /
      (realMath.sqrt (calculateVariance (lone a b before after)) + lit (1/1000)) ≤ lit (5/2) := by
    have share : |b - a| / (othersCount before after + 1) * 2 ≤
        |b - a| * √(othersCount before after) / (othersCount before after + 1) := by
      rw [div_mul_eq_mul_div]
      exact div_le_div_of_nonneg_right (mul_le_mul_of_nonneg_left root (abs_nonneg _)) count.le
    have nonneg : 0 ≤ |b - a| / (othersCount before after + 1) := div_nonneg (abs_nonneg _) count.le
    rw [realMath_sqrt,deviation_lone a b before after (by omega),distance,lit_cast,lit_cast]
    push_cast
    rw [div_le_iff₀ (by linarith)]
    linarith
  simp only [zScores]
  rw [if_neg (not_lt.mpr small)]

end Deviation

theorem exists_far (a bound : ℝ) : ∃ b, bound < |b - a| ∧ b ≠ a := by
  have distance : |(a + (|bound| + 1)) - a| = |bound| + 1 := by
    rw [add_sub_cancel_left]
    exact abs_of_pos (by positivity)
  refine ⟨a + (|bound| + 1),?_,?_⟩
  · rw [distance]
    exact lt_of_le_of_lt (le_abs_self bound) (lt_add_one _)
  · intro same
    rw [same,sub_self,abs_zero] at distance
    linarith [abs_nonneg bound]

def LoneReported (method : OutlierMethod) (a : ℝ) (before after : ℕ) : Prop :=
  ∃ bound, ∀ b, bound < |b - a| →
    (detectStatisticalOutliers realMath (lone a b before after) method).indices = [before] ∧
      ∃ score, (detectStatisticalOutliers realMath (lone a b before after) method).scores = [.finite score]

theorem detect_zscore (a b : ℝ) (enough : 4 ≤ before + after) :
    detectStatisticalOutliers realMath (lone a b before after) .zscore =
      ⟨((zScores realMath (lone a b before after) b).map (fun _ => before)).toList,
        (zScores realMath (lone a b before after) b).toList⟩ := by
  have long : ¬(lone a b before after).length < 5 := by rw [length_lone]; omega
  rw [detectStatisticalOutliers,if_neg long]
  exact reportBy_lone (zScores_common a b before after enough) b before after

-- One value's z-score stays below the root of the number of the others.
theorem lone_zscore_iff (a : ℝ) (enough : 4 ≤ before + after) :
    LoneReported .zscore a before after ↔ 7 ≤ before + after := by
  have root := two_le_sqrt_othersCount before after enough
  have square : √(othersCount before after) * √(othersCount before after) = othersCount before after :=
    Real.mul_self_sqrt (by rw [othersCount]; positivity)
  have count : othersCount before after = ((before + after : ℕ) : ℝ) := by rw [othersCount]; push_cast; rfl
  constructor
  · rintro ⟨bound,reported⟩
    by_contra few
    have six : othersCount before after ≤ 6 := by
      rw [count]
      exact_mod_cast (by omega : before + after ≤ 6)
    obtain ⟨b,far,_⟩ := exists_far a bound
    obtain ⟨indices,_⟩ := reported b far
    have distance : 0 ≤ |b - a| := abs_nonneg _
    have low : √(othersCount before after) ≤ 5/2 := by nlinarith
    have positive : 0 < othersCount before after := by nlinarith
    rw [detect_zscore a b enough,zScores_lone a b before after enough,if_neg] at indices
    · cases indices
    · rw [not_lt,div_le_iff₀ (by positivity)]
      nlinarith [mul_nonneg distance (mul_nonneg (by linarith : (0 : ℝ) ≤ √(othersCount before after)) (sub_nonneg.mpr low))]
  · intro many
    have seven : 7 ≤ othersCount before after := by
      rw [count]
      exact_mod_cast many
    have high : 5/2 < √(othersCount before after) := by
      apply Real.lt_sqrt_of_sq_lt
      linarith
    have gain : 0 < othersCount before after - 5/2 * √(othersCount before after) := by nlinarith
    refine ⟨(othersCount before after + 1) / 400 / (othersCount before after - 5/2 * √(othersCount before after)),?_⟩
    intro b far
    rw [div_lt_iff₀ gain] at far
    have flagged : 5/2 < |b - a| * othersCount before after /
        (|b - a| * √(othersCount before after) + (othersCount before after + 1) / 1000) := by
      rw [lt_div_iff₀ (by positivity)]
      linarith
    rw [detect_zscore a b enough,zScores_lone a b before after enough,if_pos flagged]
    exact ⟨rfl,_,rfl⟩

theorem calculatePercentile_inner {sorted : List ℝ} (enough : 5 ≤ sorted.length)
    (inner : ∀ i, 1 ≤ i → i + 1 < sorted.length → sorted.getD i 0 = a) (low : 25 ≤ percentile) (high : percentile ≤ 75) :
    calculatePercentile sorted percentile = a := by
  have four : (4 : ℚ) ≤ (sorted.length : ℚ) - 1 := by
    have cast : ((5 : ℕ) : ℚ) ≤ sorted.length := Nat.cast_le.mpr enough
    push_cast at cast
    linarith
  have first : (1 : ℚ) ≤ percentile / 100 * ((sorted.length : ℚ) - 1) := by nlinarith
  have last : percentile / 100 * ((sorted.length : ℚ) - 1) ≤ ((sorted.length - 2 : ℤ) : ℚ) := by
    push_cast
    nlinarith
  have below : (1 : ℤ) ≤ ⌊percentile / 100 * ((sorted.length : ℚ) - 1)⌋ := Int.le_floor.mpr (by exact_mod_cast first)
  have above : ⌈percentile / 100 * ((sorted.length : ℚ) - 1)⌉ ≤ (sorted.length - 2 : ℤ) := Int.ceil_le.mpr last
  have order := Int.floor_le_ceil (percentile / 100 * ((sorted.length : ℚ) - 1))
  have lower := inner ⌊percentile / 100 * ((sorted.length : ℚ) - 1)⌋.toNat (by omega) (by omega)
  have upper := inner ⌈percentile / 100 * ((sorted.length : ℚ) - 1)⌉.toNat (by omega) (by omega)
  simp only [calculatePercentile,lower,upper]
  split
  · rfl
  · ring

theorem sorted_lone (a b : ℝ) (i : ℕ) (first : 1 ≤ i) (last : i + 1 < before + after + 1) :
    ((lone a b before after).insertionSort (· ≤ ·)).getD i 0 = a := by
  have sorted := List.pairwise_insertionSort (· ≤ ·) (lone a b before after)
  have same := (List.perm_insertionSort (· ≤ ·) (lone a b before after)).trans (perm_lone a b before after)
  rcases le_total a b with above | below
  · have target : (List.replicate (before + after) a ++ [b]).Pairwise (· ≤ ·) := by
      rw [List.pairwise_append]
      refine ⟨List.pairwise_replicate.mpr (Or.inr (le_refl a)),List.pairwise_singleton _ b,?_⟩
      intro one here two there
      rw [List.eq_of_mem_replicate here,List.mem_singleton.mp there]
      exact above
    rw [same.eq_of_pairwise' sorted target]
    rw [List.getD_eq_getElem?_getD,List.getElem?_append_left (by rw [List.length_replicate]; omega),
      List.getElem?_replicate_of_lt (by omega),Option.getD_some]
  · have target : (b :: List.replicate (before + after) a).Pairwise (· ≤ ·) := by
      rw [List.pairwise_cons]
      refine ⟨?_,List.pairwise_replicate.mpr (Or.inr (le_refl a))⟩
      intro one here
      rw [List.eq_of_mem_replicate here]
      exact below
    rw [(same.trans (List.perm_append_singleton b _)).eq_of_pairwise' sorted target]
    obtain ⟨j,rfl⟩ := Nat.exists_eq_add_of_le' first
    rw [List.getD_cons_succ,List.getD_eq_getElem?_getD,List.getElem?_replicate_of_lt (by omega),Option.getD_some]

-- The range is zero: every other value is outside it, infinitely far.
theorem iqrScores_lone (enough : 4 ≤ before + after) (a b value : ℝ) :
    iqrScores (lone a b before after) value = if value = a then none else some .posInf := by
  have length : ((lone a b before after).insertionSort (· ≤ ·)).length = before + after + 1 := by
    rw [List.length_insertionSort,length_lone]
  have quartile (percentile : ℚ) (low : 25 ≤ percentile) (high : percentile ≤ 75) :
      calculatePercentile ((lone a b before after).insertionSort (· ≤ ·)) percentile = a := by
    apply calculatePercentile_inner _ _ low high
    · rw [length]; omega
    · intro i first last
      rw [length] at last
      exact sorted_lone a b i first last
  simp only [iqrScores,quartile 25 (le_refl 25) (by norm_num),quartile 75 (by norm_num) (le_refl 75),sub_self,mul_zero,
    sub_zero,add_zero]
  by_cases common : value = a
  · rw [if_pos common,if_neg (by rw [common,or_self]; exact lt_irrefl a)]
  · have far : 0 < |value - a| := abs_pos.mpr (sub_ne_zero.mpr common)
    rw [if_neg common,if_pos (lt_or_gt_of_ne common),JsNumber.div,if_neg (not_not.mpr rfl),if_pos far]
    rfl

theorem detect_iqr (enough : 4 ≤ before + after) (a b : ℝ) (different : b ≠ a) :
    detectStatisticalOutliers realMath (lone a b before after) .iqr = ⟨[before],[.posInf]⟩ := by
  have long : ¬(lone a b before after).length < 5 := by rw [length_lone]; omega
  have common : iqrScores (lone a b before after) a = none := by rw [iqrScores_lone enough,if_pos rfl]
  rw [detectStatisticalOutliers,if_neg long]
  refine (reportBy_lone common b before after).trans ?_
  rw [iqrScores_lone enough,if_neg different]
  rfl

theorem lone_iqr_infinite (enough : 4 ≤ before + after) (a : ℝ) : ¬LoneReported .iqr a before after := by
  intro reports
  obtain ⟨bound,reported⟩ := reports
  obtain ⟨b,far,different⟩ := exists_far a bound
  obtain ⟨_,score,finite⟩ := reported b far
  rw [detect_iqr enough a b different] at finite
  cases finite

theorem lone_outliers_exact (a : ℝ) (before after : ℕ) (enough : 5 ≤ before + after + 1) :
    (LoneReported .zscore a before after ↔ 8 ≤ before + after + 1) ∧ ¬LoneReported .iqr a before after ∧
      ∀ b, b ≠ a → detectStatisticalOutliers realMath (lone a b before after) .iqr = ⟨[before],[.posInf]⟩ := by
  have others' : 4 ≤ before + after := by omega
  refine ⟨?_,lone_iqr_infinite others' a,fun b => detect_iqr others' a b⟩
  rw [lone_zscore_iff a others']
  omega

theorem lone_outliers_exact_eight : LoneReported .zscore 3 2 5 :=
  (lone_outliers_exact 3 2 5 (by decide)).1.mpr (by decide)

-- Five values: no z-score reaches the limit, and the interquartile score is infinite.
theorem lone_outlier_missed : ¬LoneReported .zscore 10 0 4 ∧ ¬LoneReported .iqr 10 0 4 := by
  refine ⟨?_,lone_iqr_infinite (by decide) 10⟩
  rw [lone_zscore_iff 10 (by decide)]
  decide

end PhantomFlow.Ewma
