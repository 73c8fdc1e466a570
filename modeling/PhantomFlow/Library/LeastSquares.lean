import Mathlib.Algebra.BigOperators.Group.List.Basic
import Mathlib.Algebra.Order.Field.Basic
import Mathlib.Tactic.FieldSimp
import Mathlib.Tactic.Linarith
import Mathlib.Tactic.LinearCombination
import Mathlib.Tactic.Ring

namespace PhantomFlow.Library.LeastSquares

-- Lines through points of the plane, by the sums of their coordinates.
section Sums
variable {K : Type u} [Field K] {points others : List (K × K)}

def sumX (points : List (K × K)) : K := (points.map Prod.fst).sum
def sumY (points : List (K × K)) : K := (points.map Prod.snd).sum
def sumXY (points : List (K × K)) : K := (points.map (fun point => point.1 * point.2)).sum
def sumX2 (points : List (K × K)) : K := (points.map (fun point => point.1 ^ 2)).sum
def sumY2 (points : List (K × K)) : K := (points.map (fun point => point.2 ^ 2)).sum

def spread (points : List (K × K)) : K := points.length * sumX2 points - sumX points * sumX points

def slope (points : List (K × K)) : K := (points.length * sumXY points - sumX points * sumY points) / spread points

def intercept (points : List (K × K)) : K := (sumY points - slope points * sumX points) / points.length

def squaredError (points : List (K × K)) (a b : K) : K :=
  (points.map (fun point => (point.2 - (a + b * point.1)) ^ 2)).sum

section Cons
variable (point : K × K) (rest : List (K × K))

@[simp] theorem sumX_nil : sumX ([] : List (K × K)) = 0 := rfl
@[simp] theorem sumX_cons : sumX (point :: rest) = point.1 + sumX rest := List.sum_cons
@[simp] theorem sumY_nil : sumY ([] : List (K × K)) = 0 := rfl
@[simp] theorem sumY_cons : sumY (point :: rest) = point.2 + sumY rest := List.sum_cons
@[simp] theorem sumXY_nil : sumXY ([] : List (K × K)) = 0 := rfl
@[simp] theorem sumXY_cons : sumXY (point :: rest) = point.1 * point.2 + sumXY rest := List.sum_cons
@[simp] theorem sumX2_nil : sumX2 ([] : List (K × K)) = 0 := rfl
@[simp] theorem sumX2_cons : sumX2 (point :: rest) = point.1 ^ 2 + sumX2 rest := List.sum_cons
@[simp] theorem sumY2_nil : sumY2 ([] : List (K × K)) = 0 := rfl
@[simp] theorem sumY2_cons : sumY2 (point :: rest) = point.2 ^ 2 + sumY2 rest := List.sum_cons

end Cons

theorem squaredError_eq (points : List (K × K)) (a b : K) :
    squaredError points a b = sumY2 points - 2 * a * sumY points - 2 * b * sumXY points +
      points.length * a ^ 2 + 2 * a * b * sumX points + b ^ 2 * sumX2 points := by
  induction points with
  | nil => simp [squaredError]
  | cons point rest ih =>
      have split : squaredError (point :: rest) a b = (point.2 - (a + b * point.1)) ^ 2 + squaredError rest a b :=
        List.sum_cons
      rw [split,ih]
      simp only [sumX_cons,sumY_cons,sumXY_cons,sumX2_cons,sumY2_cons,List.length_cons,Nat.cast_succ]
      ring

structure Normal (points : List (K × K)) (a b : K) : Prop where
  level : sumY points = points.length * a + b * sumX points
  moment : sumXY points = a * sumX points + b * sumX2 points

theorem normal_fit (counted : (points.length : K) ≠ 0) (spreads : spread points ≠ 0) :
    Normal points (intercept points) (slope points) := by
  have times : slope points * spread points = points.length * sumXY points - sumX points * sumY points :=
    div_mul_cancel₀ _ spreads
  have level : intercept points * points.length = sumY points - slope points * sumX points := div_mul_cancel₀ _ counted
  refine ⟨?_,?_⟩
  · linear_combination -level
  · apply mul_left_cancel₀ counted
    unfold spread at times
    linear_combination -times - sumX points * level

theorem Normal.slope_eq (normal : Normal points a b) (spreads : spread points ≠ 0) : slope points = b := by
  apply (div_eq_iff spreads).mpr
  rw [normal.level,normal.moment,spread]
  ring

theorem normal_of_line (line : ∀ point ∈ points, point.2 = a + b * point.1) : Normal points a b := by
  induction points with
  | nil => exact ⟨by simp,by simp⟩
  | cons point rest ih =>
      have here := line point (List.mem_cons_self ..)
      have there := ih (fun other member => line other (List.mem_cons_of_mem _ member))
      refine ⟨?_,?_⟩
      · simp only [sumY_cons,sumX_cons,List.length_cons,Nat.cast_succ,here,there.level]
        ring
      · simp only [sumXY_cons,sumX_cons,sumX2_cons,here,there.moment]
        ring

theorem Normal.squaredError_split (normal : Normal points a b) (a' b' : K) :
    points.length * (squaredError points a' b' - squaredError points a b) =
      (points.length * (a' - a) + (b' - b) * sumX points) ^ 2 + spread points * (b' - b) ^ 2 := by
  rw [squaredError_eq,squaredError_eq,normal.level,normal.moment,spread]
  ring

theorem slope_perm (perm : points.Perm others) : slope points = slope others := by
  unfold slope spread sumX sumY sumXY sumX2
  rw [perm.length_eq,(perm.map _).sum_eq,(perm.map _).sum_eq,(perm.map _).sum_eq,(perm.map _).sum_eq]

def mirrored (c : K) (points : List (K × K)) : List (K × K) := points.map (fun point => (c - point.1,point.2))

theorem sums_mirrored (c : K) (points : List (K × K)) :
    sumX (mirrored c points) = points.length * c - sumX points ∧
      sumXY (mirrored c points) = c * sumY points - sumXY points ∧
      sumX2 (mirrored c points) = points.length * c ^ 2 - 2 * c * sumX points + sumX2 points := by
  induction points with
  | nil => simp [mirrored]
  | cons point rest ih =>
      obtain ⟨first,moment,second⟩ := ih
      have split : mirrored c (point :: rest) = (c - point.1,point.2) :: mirrored c rest := rfl
      rw [split]
      simp only [sumX_cons,sumY_cons,sumXY_cons,sumX2_cons,first,moment,second,List.length_cons,Nat.cast_succ]
      refine ⟨?_,?_,?_⟩
      all_goals ring

theorem slope_mirrored (c : K) (points : List (K × K)) : slope (mirrored c points) = -slope points := by
  have counted : ((mirrored c points).length : K) = points.length := by simp [mirrored]
  have level : sumY (mirrored c points) = sumY points := by simp [sumY,mirrored,Function.comp_def]
  obtain ⟨first,moment,second⟩ := sums_mirrored c points
  have same : spread (mirrored c points) = spread points := by
    unfold spread
    rw [counted,first,second]
    ring
  unfold slope
  rw [same,counted,level,first,moment,← neg_div]
  congr 1
  ring

end Sums

section Order
variable {K : Type u} [Field K] [LinearOrder K] [IsStrictOrderedRing K] {points : List (K × K)}

def IsLeastSquares (points : List (K × K)) (a b : K) : Prop :=
  ∀ a' b', squaredError points a b ≤ squaredError points a' b'

theorem count_pos_of_spread (spreads : 0 < spread points) : (0 : K) < points.length := by
  cases points with
  | nil => simp [spread,sumX] at spreads
  | cons point rest =>
      rw [List.length_cons,Nat.cast_succ]
      exact add_pos_of_nonneg_of_pos (Nat.cast_nonneg _) one_pos

theorem isLeastSquares_iff (spreads : 0 < spread points) :
    IsLeastSquares points a b ↔ a = intercept points ∧ b = slope points := by
  have counted := count_pos_of_spread spreads
  have normal := normal_fit counted.ne' spreads.ne'
  constructor
  · intro best
    have split := normal.squaredError_split a b
    have least := mul_nonpos_of_nonneg_of_nonpos counted.le (sub_nonpos.mpr (best (intercept points) (slope points)))
    have square := sq_nonneg (points.length * (a - intercept points) + (b - slope points) * sumX points)
    have scaled := mul_nonneg spreads.le (sq_nonneg (b - slope points))
    have steep : b - slope points = 0 := by
      have none : spread points * (b - slope points) ^ 2 = 0 := by linarith
      exact pow_eq_zero_iff two_ne_zero |>.mp ((mul_eq_zero.mp none).resolve_left spreads.ne')
    have high : points.length * (a - intercept points) = 0 := by
      have none : (points.length * (a - intercept points) + (b - slope points) * sumX points) ^ 2 = 0 := by linarith
      have root := pow_eq_zero_iff two_ne_zero |>.mp none
      rwa [steep,zero_mul,add_zero] at root
    exact ⟨sub_eq_zero.mp ((mul_eq_zero.mp high).resolve_left counted.ne'),sub_eq_zero.mp steep⟩
  · intro fit
    rw [fit.1,fit.2]
    intro a' b'
    have split := normal.squaredError_split a' b'
    have square := sq_nonneg (points.length * (a' - intercept points) + (b' - slope points) * sumX points)
    have scaled := mul_nonneg spreads.le (sq_nonneg (b' - slope points))
    apply sub_nonneg.mp
    apply nonneg_of_mul_nonneg_right _ counted
    linarith

end Order

end PhantomFlow.Library.LeastSquares
