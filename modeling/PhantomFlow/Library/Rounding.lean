import PhantomFlow.Library.Doubles
import PhantomFlow.Library.JsNumber

namespace PhantomFlow.Library
open Doubles

-- An arithmetic that rounds the result of every operation. Two of its own numbers are
-- the same where their difference comes to zero.
structure Rounding (K : Type) [Field K] where
  round : K → K
  round_zero : round 0 = 0
  round_round : ∀ x, round (round x) = round x
  apart : ∀ x y, round x = x → round y = y → round (x - y) = 0 → x = y

namespace Rounding
variable {K : Type} [Field K] (r : Rounding K)

def exact : Rounding K := ⟨id,rfl,fun _ => rfl,fun _ _ _ _ => sub_eq_zero.mp⟩

def add (x y : K) : K := r.round (x + y)
def sub (x y : K) : K := r.round (x - y)
def mul (x y : K) : K := r.round (x * y)
def div (x y : K) : K := r.round (x / y)
def lit (value : ℚ) : K := r.round (Library.lit value)

def sum (values : List K) : K := values.foldl r.add 0

theorem mul_nothing (x : K) : r.mul x 0 = 0 := by rw [mul,mul_zero,round_zero]
theorem nothing_mul (x : K) : r.mul 0 x = 0 := by rw [mul,zero_mul,round_zero]
theorem sub_same (x : K) : r.sub x x = 0 := by rw [sub,sub_self,round_zero]
theorem add_nothing (number : r.round x = x) : r.add x 0 = x := by rw [add,add_zero,number]

theorem sub_eq_nothing (number : r.round x = x) (number' : r.round y = y) : r.sub x y = 0 ↔ x = y := by
  constructor
  · exact r.apart x y number number'
  · rintro rfl
    exact r.sub_same x

theorem sum_exact (values : List K) : (exact : Rounding K).sum values = values.sum := by
  rw [sum,List.sum_eq_foldl]
  rfl

end Rounding

def nearestDouble (x : ℚ) : ℚ := if 0 ≤ x then toDouble x else -toDouble (-x)

theorem nearestDouble_nonneg (nonneg : 0 ≤ x) : nearestDouble x = toDouble x := if_pos nonneg

theorem nearestDouble_natCast (n : ℕ) (fits : n ≤ 2 ^ 53) : nearestDouble n = n := by
  rw [nearestDouble_nonneg (Nat.cast_nonneg n),toDouble_natCast n fits]

theorem nearestDouble_eq {x y : ℚ} (e n : ℤ) (normal : -1022 ≤ e) (low : 2 ^ e ≤ x) (high : x < 2 ^ (e + 1))
    (below : (n - 1/2) * 2 ^ (e - 52) < x) (above : x < (n + 1/2) * 2 ^ (e - 52)) (value : n * 2 ^ (e - 52) = y) :
    nearestDouble x = y := by
  have positive : (0 : ℚ) < 2 ^ e := zpow_pos (by norm_num) e
  rw [nearestDouble_nonneg (positive.le.trans low),toDouble_eq e n normal low high below above,value]

theorem nearestDouble_neg (x : ℚ) : nearestDouble (-x) = -nearestDouble x := by
  unfold nearestDouble
  rcases lt_trichotomy x 0 with negative | zero | positive
  · rw [if_pos (by linarith),if_neg (by linarith),neg_neg]
  · simp [zero,toDouble_zero]
  · rw [if_neg (by linarith),if_pos (by linarith),neg_neg]

theorem nearestDouble_nearestDouble (x : ℚ) : nearestDouble (nearestDouble x) = nearestDouble x := by
  have positive {y : ℚ} (nonneg : 0 ≤ y) : nearestDouble (nearestDouble y) = nearestDouble y := by
    rw [nearestDouble_nonneg nonneg,nearestDouble_nonneg (toDouble_nonneg nonneg),toDouble_toDouble nonneg]
  cases le_total 0 x with
  | inl nonneg => exact positive nonneg
  | inr below =>
      have mirrored := positive (neg_nonneg.mpr below)
      rwa [nearestDouble_neg,nearestDouble_neg,neg_inj] at mirrored

def leastDouble : ℚ := 2 ^ (-1074 : ℤ)

theorem leastDouble_pos : 0 < leastDouble := zpow_pos (by norm_num) _

theorem nearestDouble_multiple (x : ℚ) : ∃ k : ℤ, nearestDouble x = k * leastDouble := by
  have positive {y : ℚ} (nonneg : 0 ≤ y) : ∃ k : ℤ, nearestDouble y = k * leastDouble := by
    obtain ⟨n,e,_,fine,form⟩ := toDouble_form nonneg
    have split : (2 : ℚ) ^ e = 2 ^ (e + 1074).toNat * leastDouble := by
      rw [leastDouble,← zpow_natCast,Int.toNat_of_nonneg (by omega),← zpow_add₀ (by norm_num)]
      congr 1
      omega
    refine ⟨n * 2 ^ (e + 1074).toNat,?_⟩
    rw [nearestDouble_nonneg nonneg,form,split]
    push_cast
    ring
  cases le_total 0 x with
  | inl nonneg => exact positive nonneg
  | inr below =>
      obtain ⟨k,multiple⟩ := positive (neg_nonneg.mpr below)
      refine ⟨-k,?_⟩
      rw [nearestDouble_neg] at multiple
      push_cast
      linarith

theorem nearestDouble_multiple_pos {k : ℤ} (positive : 0 < k) : 0 < nearestDouble (k * leastDouble) := by
  have one := toDouble_scaled 1 (-1074) (by norm_num) (le_refl _)
  rw [Nat.cast_one,one_mul] at one
  have more : leastDouble ≤ k * leastDouble := by
    apply le_mul_of_one_le_left leastDouble_pos.le
    exact_mod_cast positive
  have rounded := toDouble_mono leastDouble_pos.le more
  rw [nearestDouble_nonneg (leastDouble_pos.le.trans more)]
  exact leastDouble_pos.trans_le (one.ge.trans rounded)

theorem nearestDouble_apart (x y : ℚ) (number : nearestDouble x = x) (number' : nearestDouble y = y)
    (same : nearestDouble (x - y) = 0) : x = y := by
  obtain ⟨k,multiple⟩ := nearestDouble_multiple x
  obtain ⟨l,multiple'⟩ := nearestDouble_multiple y
  rw [number] at multiple
  rw [number'] at multiple'
  have difference : x - y = ((k - l : ℤ) : ℚ) * leastDouble := by
    rw [multiple,multiple']
    push_cast
    ring
  rcases lt_trichotomy (k - l) 0 with negative | zero | above
  · have turned : ((l - k : ℤ) : ℚ) * leastDouble = -(x - y) := by
      rw [difference]
      push_cast
      ring
    have mirrored := nearestDouble_multiple_pos (k:=l - k) (by omega)
    rw [turned,nearestDouble_neg,same,neg_zero] at mirrored
    exact absurd mirrored (lt_irrefl 0)
  · rw [zero,Int.cast_zero,zero_mul] at difference
    exact sub_eq_zero.mp difference
  · have positive := nearestDouble_multiple_pos above
    rw [← difference,same] at positive
    exact absurd positive (lt_irrefl 0)

def Rounding.double : Rounding ℚ where
  round := nearestDouble
  round_zero := by rw [nearestDouble_nonneg (le_refl 0),toDouble_zero]
  round_round := nearestDouble_nearestDouble
  apart := nearestDouble_apart

end PhantomFlow.Library
