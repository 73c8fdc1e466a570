import PhantomFlow.Ewma.Forecast
import PhantomFlow.Library.LeastSquares

namespace PhantomFlow.Ewma
open Library

-- The values over their indices.
section Sums
variable {K : Type} [Field K]

def points (values : List K) : List (K × K) := values.zipIdx.map (fun entry => ((entry.2 : K),entry.1))

def slopeNumerator (values : List K) : K :=
  values.length * (values.zipIdx.map (fun entry => (entry.2 : K) * entry.1)).sum -
    values.length * (values.length - 1) / lit 2 * values.sum

def slopeDenominator (values : List K) : K :=
  let n : K := values.length
  n * (n * (n - 1) * (lit 2 * n - 1) / lit 6) - n * (n - 1) / lit 2 * (n * (n - 1) / lit 2)

theorem calculateSlope_eq (values : List K) (enough : 2 ≤ values.length) :
    calculateSlope values = slopeNumerator values / slopeDenominator values :=
  if_neg (Nat.not_lt.mpr enough)

@[simp] theorem length_points (values : List K) : (points values).length = values.length := by simp [points]

theorem sumY_points (values : List K) : LeastSquares.sumY (points values) = values.sum := by
  unfold LeastSquares.sumY points
  rw [List.map_map]
  exact congrArg List.sum (List.zipIdx_map_fst 0 values)

theorem sumXY_points (values : List K) :
    LeastSquares.sumXY (points values) = (values.zipIdx.map (fun entry => (entry.2 : K) * entry.1)).sum := by
  unfold LeastSquares.sumXY points
  rw [List.map_map]
  rfl

theorem points_snoc (values : List K) (value : K) :
    points (values ++ [value]) = points values ++ [((values.length : K),value)] := by
  unfold points
  rw [List.zipIdx_append,List.map_append,Nat.zero_add]
  rfl

theorem sumX_points [CharZero K] (values : List K) :
    LeastSquares.sumX (points values) = values.length * (values.length - 1) / lit 2 := by
  induction values using List.reverseRecOn with
  | nil => simp [points]
  | append_singleton values value ih =>
      unfold LeastSquares.sumX at ih ⊢
      rw [points_snoc,List.map_append,List.sum_append,ih,List.length_append]
      simp
      ring

theorem sumX2_points [CharZero K] (values : List K) : LeastSquares.sumX2 (points values) =
    values.length * (values.length - 1) * (lit 2 * values.length - 1) / lit 6 := by
  induction values using List.reverseRecOn with
  | nil => simp [points]
  | append_singleton values value ih =>
      unfold LeastSquares.sumX2 at ih ⊢
      rw [points_snoc,List.map_append,List.sum_append,ih,List.length_append]
      simp
      ring

theorem spread_points [CharZero K] (values : List K) :
    LeastSquares.spread (points values) = slopeDenominator values := by
  unfold LeastSquares.spread slopeDenominator
  rw [length_points,sumX_points,sumX2_points]

theorem calculateSlope_eq_slope [CharZero K] (values : List K) (enough : 2 ≤ values.length) :
    calculateSlope values = LeastSquares.slope (points values) := by
  rw [calculateSlope_eq values enough,LeastSquares.slope,spread_points,length_points,sumX_points,sumY_points,sumXY_points]
  rfl

theorem slopeDenominator_congr {values others : List K} (same : values.length = others.length) :
    slopeDenominator values = slopeDenominator others := by
  unfold slopeDenominator
  rw [same]

theorem slopeDenominator_eq [CharZero K] (values : List K) :
    slopeDenominator values = values.length ^ 2 * ((values.length - 1) * (values.length + 1)) / 12 := by
  unfold slopeDenominator
  simp only [lit_cast]
  push_cast
  field_simp
  ring

theorem weighted_zipWith (values others : List K) :
    (List.zipWith (· + ·) values others).zipIdx.map (fun entry => (entry.2 : K) * entry.1) =
      List.zipWith (· + ·) (values.zipIdx.map (fun entry => (entry.2 : K) * entry.1))
        (others.zipIdx.map (fun entry => (entry.2 : K) * entry.1)) := by
  apply List.ext_getElem
  · simp
  · intro i first second
    simp [mul_add]

theorem slopeNumerator_add (same : values.length = others.length) :
    slopeNumerator (List.zipWith (· + ·) values others) = slopeNumerator values + (slopeNumerator others : K) := by
  have total := List.sum_add_sum_eq_sum_zipWith_of_length_eq values others same
  have weighted := List.sum_add_sum_eq_sum_zipWith_of_length_eq
    (values.zipIdx.map (fun entry => (entry.2 : K) * entry.1)) (others.zipIdx.map (fun entry => (entry.2 : K) * entry.1))
    (by simpa using same)
  unfold slopeNumerator
  rw [weighted_zipWith values others,← weighted,← total,List.length_zipWith,same,Nat.min_self]
  ring

theorem points_reverse (values : List K) :
    points values.reverse = (LeastSquares.mirrored ((values.length - 1 : ℕ) : K) (points values)).reverse := by
  apply List.ext_getElem
  · simp [LeastSquares.mirrored]
  · intro i first second
    have below : i < values.length := by simpa using first
    have index : ((values.length - 1 - (values.length - 1 - i) : ℕ) : K) = i := by
      rw [Nat.sub_sub_self (by omega)]
    simp [points,LeastSquares.mirrored]
    rw [← Nat.cast_sub (by omega),index]

end Sums

section Order
variable {K : Type} [Field K] [LinearOrder K] [IsStrictOrderedRing K]

theorem slopeDenominator_pos {values : List K} (enough : 2 ≤ values.length) : 0 < slopeDenominator values := by
  have above : (1 : K) < values.length := by exact_mod_cast Nat.lt_of_succ_le enough
  have below : 0 < (values.length : K) - 1 := sub_pos.mpr above
  rw [slopeDenominator_eq]
  positivity

structure TrendLaw (values : List K) : Prop where
  alike : calculateLinearTrend values = calculateSlope values
  quotient : calculateSlope values = slopeNumerator values / slopeDenominator values
  positive : 0 < slopeDenominator values
  best : ∀ b, (∃ a, LeastSquares.IsLeastSquares (points values) a b) ↔ b = calculateSlope values
  line : ∀ a b, (∀ i (below : i < values.length), values[i] = a + b * i) → calculateSlope values = b
  additive : ∀ others : List K, others.length = values.length →
    calculateSlope (List.zipWith (· + ·) values others) = calculateSlope values + calculateSlope others
  reversed : calculateSlope values.reverse = -calculateSlope values

theorem trend_law (values : List K) (enough : 2 ≤ values.length) : TrendLaw values := by
  have positive := slopeDenominator_pos enough
  have spreads : 0 < LeastSquares.spread (points values) := by rwa [spread_points]
  have slope := calculateSlope_eq_slope values enough
  refine ⟨rfl,calculateSlope_eq values enough,positive,?_,?_,?_,?_⟩
  · intro b
    rw [slope]
    constructor
    · intro some'
      obtain ⟨a,best⟩ := some'
      exact ((LeastSquares.isLeastSquares_iff spreads).mp best).2
    · intro same
      exact ⟨_,(LeastSquares.isLeastSquares_iff spreads).mpr ⟨rfl,same⟩⟩
  · intro a b line
    rw [slope]
    apply (LeastSquares.normal_of_line _).slope_eq spreads.ne'
    · exact a
    · intro point member
      obtain ⟨entry,found,same⟩ := List.mem_map.mp member
      obtain ⟨below,value⟩ := List.mem_zipIdx' found
      rw [← same]
      exact value.trans (line entry.2 below)
  · intro others same
    have length : (List.zipWith (· + ·) values others).length = values.length := by
      rw [List.length_zipWith,same,Nat.min_self]
    rw [calculateSlope_eq _ (by omega),calculateSlope_eq _ enough,calculateSlope_eq _ (by omega),
      slopeDenominator_congr length,slopeDenominator_congr same,slopeNumerator_add same.symm,add_div]
  · have many : 2 ≤ values.reverse.length := by rwa [List.length_reverse]
    rw [slope,calculateSlope_eq_slope _ many,points_reverse,LeastSquares.slope_perm (List.reverse_perm _),
      LeastSquares.slope_mirrored]

theorem trend_law_three : 2 ≤ [1,3,(2 : ℚ)].length ∧ TrendLaw [1,3,(2 : ℚ)] :=
  ⟨by decide,trend_law [1,3,2] (by decide)⟩

end Order

end PhantomFlow.Ewma
