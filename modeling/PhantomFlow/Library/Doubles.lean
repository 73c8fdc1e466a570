import Mathlib.Algebra.Order.Floor.Ring
import Mathlib.Data.Int.Log
import Mathlib.Data.Rat.Floor
import Mathlib.Tactic.FieldSimp
import Mathlib.Tactic.Linarith
import Mathlib.Tactic.NormNum

namespace PhantomFlow.Library.Doubles
variable {x y : ℚ}

def nearest (x : ℚ) : ℤ :=
  if Int.fract x < 1/2 then ⌊x⌋
  else if 1/2 < Int.fract x then ⌊x⌋ + 1
  else ⌊x⌋ + ⌊x⌋ % 2

theorem nearest_between (x : ℚ) : ⌊x⌋ ≤ nearest x ∧ nearest x ≤ ⌊x⌋ + 1 := by
  have even := Int.emod_two_eq ⌊x⌋
  unfold nearest
  split
  · omega
  · split
    · omega
    · omega

theorem nearest_int (n : ℤ) : nearest n = n := by
  unfold nearest
  rw [Int.fract_intCast,if_pos (by norm_num),Int.floor_intCast]

theorem nearest_of_near (n : ℤ) (below : n - 1/2 < x) (above : x < n + 1/2) : nearest x = n := by
  unfold nearest
  cases le_or_gt (n : ℚ) x with
  | inl from' =>
      have floor : ⌊x⌋ = n := Int.floor_eq_iff.mpr ⟨from',by linarith⟩
      have rest : Int.fract x = x - n := by rw [Int.fract,floor]
      rw [rest,floor,if_pos (by linarith)]
  | inr before =>
      have floor : ⌊x⌋ = n - 1 := by
        apply Int.floor_eq_iff.mpr
        push_cast
        exact ⟨by linarith,by linarith⟩
      have rest : Int.fract x = x - (n - 1) := by
        rw [Int.fract,floor]
        push_cast
        rfl
      rw [rest,floor,if_neg (by linarith),if_pos (by linarith)]
      omega

theorem nearest_of_even (n : ℤ) (even : n % 2 = 0) (below : n - 1/2 ≤ x) (above : x ≤ n + 1/2) : nearest x = n := by
  cases below.lt_or_eq with
  | inr tie =>
      have floor : ⌊x⌋ = n - 1 := by
        apply Int.floor_eq_iff.mpr
        push_cast
        exact ⟨by linarith,by linarith⟩
      have rest : Int.fract x = 1/2 := by
        rw [Int.fract,floor,← tie]
        push_cast
        ring
      unfold nearest
      rw [rest,floor,if_neg (lt_irrefl _),if_neg (lt_irrefl _)]
      omega
  | inl inside =>
      cases above.lt_or_eq with
      | inl inside' => exact nearest_of_near n inside inside'
      | inr tie =>
          have floor : ⌊x⌋ = n := Int.floor_eq_iff.mpr ⟨by linarith,by linarith⟩
          have rest : Int.fract x = 1/2 := by
            rw [Int.fract,floor,tie]
            ring
          unfold nearest
          rw [rest,floor,if_neg (lt_irrefl _),if_neg (lt_irrefl _),even,add_zero]

theorem nearest_mono (le : x ≤ y) : nearest x ≤ nearest y := by
  have floors := Int.floor_mono le
  cases floors.lt_or_eq with
  | inl below =>
      have above := (nearest_between x).2
      have least := (nearest_between y).1
      omega
  | inr same =>
      have fracts : Int.fract x ≤ Int.fract y := by
        unfold Int.fract
        rw [same]
        linarith
      have even := Int.emod_two_eq ⌊y⌋
      unfold nearest
      rw [same]
      by_cases low : Int.fract x < 1/2
      · rw [if_pos low]
        split
        · omega
        · split
          · omega
          · omega
      · have high : ¬ Int.fract y < 1/2 := by linarith
        rw [if_neg low,if_neg high]
        by_cases past : 1/2 < Int.fract x
        · rw [if_pos past,if_pos (by linarith)]
        · rw [if_neg past]
          split
          · omega
          · omega

-- The distance of the doubles around `x`, the subnormal ones included.
def exponent (x : ℚ) : ℤ := max (Int.log 2 x - 52) (-1074)

def spacing (x : ℚ) : ℚ := 2 ^ exponent x

-- A number from zero on, below the largest double, rounded to a double.
def toDouble (x : ℚ) : ℚ := nearest (x / spacing x) * spacing x

theorem spacing_pos (x : ℚ) : 0 < spacing x := zpow_pos (by norm_num) _

theorem exponent_mono (positive : 0 < x) (le : x ≤ y) : exponent x ≤ exponent y :=
  max_le_max (sub_le_sub_right (Int.log_mono_right positive le) 52) le_rfl

theorem toDouble_le (n : ℤ) (le : x ≤ n * spacing x) : toDouble x ≤ n * spacing x := by
  have scaled : x / spacing x ≤ n := (div_le_iff₀ (spacing_pos x)).mpr le
  have rounded := nearest_mono scaled
  rw [nearest_int] at rounded
  exact mul_le_mul_of_nonneg_right (by exact_mod_cast rounded) (spacing_pos x).le

theorem le_toDouble (n : ℤ) (le : n * spacing x ≤ x) : n * spacing x ≤ toDouble x := by
  have scaled : n ≤ x / spacing x := (le_div_iff₀ (spacing_pos x)).mpr le
  have rounded := nearest_mono scaled
  rw [nearest_int] at rounded
  exact mul_le_mul_of_nonneg_right (by exact_mod_cast rounded) (spacing_pos x).le

theorem toDouble_of_grid (n : ℤ) (grid : x = n * spacing x) : toDouble x = x := by
  apply le_antisymm
  · exact (toDouble_le n grid.le).trans grid.ge
  · exact grid.le.trans (le_toDouble n grid.ge)

theorem toDouble_zero : toDouble 0 = 0 := toDouble_of_grid 0 (by simp)

theorem toDouble_nonneg (nonneg : 0 ≤ x) : 0 ≤ toDouble x := by
  have least := le_toDouble (x:=x) 0 (by simpa using nonneg)
  simpa using least

theorem zpow_grid (above : exponent x ≤ e) : ((2 ^ (e - exponent x).toNat : ℤ) : ℚ) * spacing x = 2 ^ e := by
  have natural : ((e - exponent x).toNat : ℤ) = e - exponent x := Int.toNat_of_nonneg (by omega)
  unfold spacing
  push_cast
  rw [← zpow_natCast,natural,← zpow_add₀ (by norm_num)]
  congr 1
  omega

theorem toDouble_mono (nonneg : 0 ≤ x) (le : x ≤ y) : toDouble x ≤ toDouble y := by
  cases nonneg.lt_or_eq with
  | inr zero =>
      rw [← zero,toDouble_zero]
      exact toDouble_nonneg (nonneg.trans le)
  | inl positive =>
      cases (exponent_mono positive le).lt_or_eq with
      | inr same =>
          have spaced : spacing x = spacing y := congrArg (fun e : ℤ => (2 : ℚ) ^ e) same
          unfold toDouble
          rw [spaced]
          have rounded := nearest_mono (div_le_div_of_nonneg_right le (spacing_pos y).le)
          exact mul_le_mul_of_nonneg_right (by exact_mod_cast rounded) (spacing_pos y).le
      | inl below =>
          -- the power of two up to `y` lies on both grids, and between the two
          have normal : exponent y = Int.log 2 y - 52 := by
            unfold exponent at below ⊢
            omega
          have logs : Int.log 2 x < Int.log 2 y := by
            unfold exponent at below
            omega
          have left : x ≤ 2 ^ Int.log 2 y := ((Int.lt_zpow_iff_log_lt (by norm_num) positive).mpr logs).le
          have right : (2 : ℚ) ^ Int.log 2 y ≤ y := Int.zpow_log_le_self (by norm_num) (positive.trans_le le)
          have gridX := zpow_grid (x:=x) (e:=Int.log 2 y) (by omega)
          have gridY := zpow_grid (x:=y) (e:=Int.log 2 y) (by omega)
          have lower := toDouble_le _ (left.trans gridX.ge)
          have upper := le_toDouble _ (gridY.le.trans right)
          exact (lower.trans gridX.le).trans (gridY.ge.trans upper)

theorem toDouble_scaled (n : ℕ) (e : ℤ) (fits : n < 2 ^ 53) (fine : -1074 ≤ e) :
    toDouble (n * 2 ^ e) = n * 2 ^ e := by
  have power : (0 : ℚ) < 2 ^ e := zpow_pos (by norm_num) e
  cases Nat.eq_zero_or_pos n with
  | inl zero => rw [zero,Nat.cast_zero,zero_mul,toDouble_zero]
  | inr positive =>
      have scaled : (0 : ℚ) < n * 2 ^ e := mul_pos (by exact_mod_cast positive) power
      have bound : (n : ℚ) * 2 ^ e < 2 ^ (53 + e) := by
        rw [zpow_add₀ (by norm_num)]
        apply mul_lt_mul_of_pos_right _ power
        exact_mod_cast fits
      have log : Int.log 2 ((n : ℚ) * 2 ^ e) < 53 + e := (Int.lt_zpow_iff_log_lt (by norm_num) scaled).mp bound
      have low : exponent ((n : ℚ) * 2 ^ e) ≤ e := by
        unfold exponent
        omega
      have grid := zpow_grid low
      apply toDouble_of_grid (n * 2 ^ (e - exponent ((n : ℚ) * 2 ^ e)).toNat)
      push_cast at grid ⊢
      rw [mul_assoc,grid]

theorem toDouble_dyadic (k j : ℕ) (fits : k < 2 ^ 53) (fine : j ≤ 1074) (dyadic : x * 2 ^ j = k) : toDouble x = x := by
  have form : x = k * 2 ^ (-j : ℤ) := by
    rw [← dyadic,zpow_neg,zpow_natCast]
    field_simp
  rw [form]
  exact toDouble_scaled k (-j) fits (by omega)

theorem toDouble_natCast (n : ℕ) (fits : n ≤ 2 ^ 53) : toDouble n = n := by
  cases fits.lt_or_eq with
  | inl below =>
      apply toDouble_dyadic n 0 below (by norm_num)
      rw [pow_zero,mul_one]
  | inr last =>
      have last' : (n : ℚ) = ((2 ^ 52 : ℕ) : ℚ) * 2 ^ (1 : ℤ) := by rw [last]; norm_num
      rw [last']
      exact toDouble_scaled (2 ^ 52) 1 (by norm_num) (by norm_num)

theorem toDouble_form (nonneg : 0 ≤ x) :
    ∃ n : ℕ, ∃ e : ℤ, n < 2 ^ 53 ∧ -1074 ≤ e ∧ toDouble x = n * 2 ^ e := by
  have fine : -1074 ≤ exponent x := le_max_right _ _
  have small : x / spacing x ≤ ((2 ^ 53 : ℤ) : ℚ) := by
    cases nonneg.lt_or_eq with
    | inr zero =>
        rw [← zero,zero_div]
        norm_num
    | inl positive =>
        have above := Int.lt_zpow_succ_log_self (b:=2) (by norm_num) x
        have power : (2 : ℚ) ^ (Int.log 2 x + 1) ≤ 2 ^ (53 + exponent x) := by
          apply zpow_le_zpow_right₀ (by norm_num)
          unfold exponent
          omega
        have split : (2 : ℚ) ^ (53 + exponent x) = ((2 ^ 53 : ℤ) : ℚ) * spacing x := by
          rw [zpow_add₀ (by norm_num),spacing]
          norm_num
        rw [div_le_iff₀ (spacing_pos x),← split]
        exact (lt_of_lt_of_le (by exact_mod_cast above) power).le
  have most : nearest (x / spacing x) ≤ 2 ^ 53 := by
    have rounded := nearest_mono small
    rwa [nearest_int] at rounded
  have least : 0 ≤ nearest (x / spacing x) := by
    have rounded := nearest_mono (div_nonneg nonneg (spacing_pos x).le)
    have zero := nearest_int 0
    rw [Int.cast_zero] at zero
    rwa [zero] at rounded
  obtain ⟨n,natural⟩ := Int.eq_ofNat_of_zero_le least
  cases lt_or_eq_of_le most with
  | inl below =>
      refine ⟨n,exponent x,by omega,fine,?_⟩
      unfold toDouble spacing
      rw [← spacing,natural,Int.cast_natCast]
  | inr last =>
      refine ⟨2 ^ 52,exponent x + 1,by norm_num,by omega,?_⟩
      unfold toDouble
      rw [last,spacing,zpow_add₀ (by norm_num)]
      push_cast
      ring

theorem toDouble_toDouble (nonneg : 0 ≤ x) : toDouble (toDouble x) = toDouble x := by
  obtain ⟨n,e,fits,fine,form⟩ := toDouble_form nonneg
  rw [form]
  exact toDouble_scaled n e fits fine

theorem toDouble_between (e : ℤ) (normal : -1022 ≤ e) (low : 2 ^ e ≤ x) (high : x < 2 ^ (e + 1)) :
    toDouble x = nearest (x / 2 ^ (e - 52)) * 2 ^ (e - 52) := by
  have positive : 0 < x := (zpow_pos (by norm_num) e).trans_le low
  have least := (Int.zpow_le_iff_le_log (b:=2) (by norm_num) positive).mp low
  have most := (Int.lt_zpow_iff_log_lt (b:=2) (by norm_num) positive).mp high
  have placed : exponent x = e - 52 := by
    unfold exponent
    omega
  unfold toDouble spacing
  rw [placed]

theorem toDouble_eq (e n : ℤ) (normal : -1022 ≤ e) (low : 2 ^ e ≤ x) (high : x < 2 ^ (e + 1))
    (below : (n - 1/2) * 2 ^ (e - 52) < x) (above : x < (n + 1/2) * 2 ^ (e - 52)) : toDouble x = n * 2 ^ (e - 52) := by
  have power : (0 : ℚ) < 2 ^ (e - 52) := zpow_pos (by norm_num) _
  rw [toDouble_between e normal low high,
    nearest_of_near n ((lt_div_iff₀ power).mpr below) ((div_lt_iff₀ power).mpr above)]

theorem toDouble_tie (e n : ℤ) (even : n % 2 = 0) (normal : -1022 ≤ e) (low : 2 ^ e ≤ x) (high : x < 2 ^ (e + 1))
    (below : (n - 1/2) * 2 ^ (e - 52) ≤ x) (above : x ≤ (n + 1/2) * 2 ^ (e - 52)) : toDouble x = n * 2 ^ (e - 52) := by
  have power : (0 : ℚ) < 2 ^ (e - 52) := zpow_pos (by norm_num) _
  rw [toDouble_between e normal low high,
    nearest_of_even n even ((le_div_iff₀ power).mpr below) ((div_le_iff₀ power).mpr above)]

end PhantomFlow.Library.Doubles
