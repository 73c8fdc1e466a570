import Mathlib.Algebra.BigOperators.Intervals
import Mathlib.Algebra.Order.Field.Basic
import Mathlib.Tactic.Linarith
import Mathlib.Tactic.Ring

namespace PhantomFlow.Library
variable {K : Type u} [Field K]

-- Exponential smoothing: every value pulls the level towards itself.
def mix (weight value level : K) : K := weight * value + (1 - weight) * level

def smooth (weight level : K) (values : List K) : K :=
  values.foldl (fun level value => mix weight value level) level

theorem mix_eq_iff (weight value level : K) : mix weight value level = level ↔ weight * (value - level) = 0 := by
  have difference : mix weight value level - level = weight * (value - level) := by rw [mix]; ring
  rw [← sub_eq_zero,difference]

@[simp] theorem mix_self (weight level : K) : mix weight level level = level :=
  (mix_eq_iff weight level level).mpr (by rw [sub_self,mul_zero])

theorem smooth_eq (weight level : K) (values : List K) :
    smooth weight level values = (1 - weight) ^ values.length * level +
      ∑ i ∈ Finset.range values.length, weight * (1 - weight) ^ (values.length - 1 - i) * values.getD i 0 := by
  induction values generalizing level with
  | nil => simp [smooth]
  | cons value rest ih =>
      have later (i : ℕ) : (value :: rest).length - 1 - (i + 1) = rest.length - 1 - i := by
        rw [List.length_cons]; omega
      calc smooth weight level (value :: rest)
          = (1 - weight) ^ rest.length * mix weight value level +
              ∑ i ∈ Finset.range rest.length, weight * (1 - weight) ^ (rest.length - 1 - i) * rest.getD i 0 := ih _
        _ = _ := by
          rw [List.length_cons,Finset.sum_range_succ']
          simp only [List.getD_cons_succ,List.getD_cons_zero,← List.length_cons (a := value),later]
          rw [List.length_cons,Nat.add_sub_cancel,Nat.sub_zero,mix,pow_succ]
          ring

variable [LinearOrder K] [IsStrictOrderedRing K]

theorem mix_le (nonneg : 0 ≤ weight) (below : weight ≤ 1) (value_le : value ≤ high) (level_le : level ≤ high) :
    mix weight value level ≤ (high : K) := by
  have first := mul_le_mul_of_nonneg_left value_le nonneg
  have second := mul_le_mul_of_nonneg_left level_le (sub_nonneg.mpr below)
  calc mix weight value level ≤ weight * high + (1 - weight) * high := add_le_add first second
    _ = high := by ring

theorem le_mix (nonneg : 0 ≤ weight) (below : weight ≤ 1) (le_value : low ≤ value) (le_level : low ≤ level) :
    (low : K) ≤ mix weight value level := by
  have first := mul_le_mul_of_nonneg_left le_value nonneg
  have second := mul_le_mul_of_nonneg_left le_level (sub_nonneg.mpr below)
  calc low = weight * low + (1 - weight) * low := by ring
    _ ≤ mix weight value level := add_le_add first second

def Spanned (values : List K) (level : K) : Prop := (∃ low ∈ values, low ≤ level) ∧ ∃ high ∈ values, level ≤ high

omit [Field K] [IsStrictOrderedRing K] in
theorem spanned_first (value : K) : Spanned [value] value :=
  ⟨⟨value,List.mem_singleton_self value,le_refl value⟩,⟨value,List.mem_singleton_self value,le_refl value⟩⟩

theorem Spanned.mix {values : List K} (spanned : Spanned values level) (nonneg : 0 ≤ weight) (below : weight ≤ 1)
    (value : K) : Spanned (values ++ [value]) (mix weight value level) := by
  obtain ⟨⟨low,lowListed,low_le⟩,⟨high,highListed,le_high⟩⟩ := spanned
  have newest : value ∈ values ++ [value] := List.mem_append_right _ (List.mem_singleton_self value)
  constructor
  · rcases le_total value low with less | more
    · exact ⟨value,newest,le_mix nonneg below (le_refl value) (less.trans low_le)⟩
    · exact ⟨low,List.mem_append_left _ lowListed,le_mix nonneg below more low_le⟩
  · rcases le_total high value with less | more
    · exact ⟨value,newest,mix_le nonneg below (le_refl value) (le_high.trans less)⟩
    · exact ⟨high,List.mem_append_left _ highListed,mix_le nonneg below more le_high⟩

-- A level that is not below what the last values alone would have left of it.
def Absorbed (weight : K) (recent : List K) (level : K) : Prop :=
  ∀ k ≤ recent.length, ∀ low ≥ 0, (∀ value ∈ recent.take k, low ≤ value) → (1 - (1 - weight) ^ k) * low ≤ level

omit [IsStrictOrderedRing K] in
theorem absorbed_nil (nonneg : 0 ≤ level) : Absorbed weight [] (level : K) := by
  intro k short low _ _
  obtain rfl : k = 0 := Nat.le_zero.mp short
  rw [pow_zero,sub_self,zero_mul]
  exact nonneg

omit [IsStrictOrderedRing K] in
theorem Absorbed.nonneg {recent : List K} (absorbed : Absorbed weight recent level) : 0 ≤ level := by
  have least := absorbed 0 (Nat.zero_le _) 0 le_rfl (by simp)
  rwa [mul_zero] at least

theorem Absorbed.mix {recent : List K} (absorbed : Absorbed weight recent level) (nonneg : 0 ≤ weight)
    (below : weight ≤ 1) (measured : 0 ≤ value) : Absorbed weight (value :: recent) (mix weight value level) := by
  intro k short low positive least
  cases k with
  | zero =>
      rw [pow_zero,sub_self,zero_mul]
      exact le_mix nonneg below measured absorbed.nonneg
  | succ k =>
      rw [List.take_succ_cons,List.forall_mem_cons] at least
      have before := absorbed k (Nat.le_of_succ_le_succ short) low positive least.2
      have first := mul_le_mul_of_nonneg_left least.1 nonneg
      have second := mul_le_mul_of_nonneg_left before (sub_nonneg.mpr below)
      calc (1 - (1 - weight) ^ (k + 1)) * low
          = weight * low + (1 - weight) * ((1 - (1 - weight) ^ k) * low) := by ring
        _ ≤ PhantomFlow.Library.mix weight value level := add_le_add first second

-- Once the level has taken in enough of the last values, only a value above one of
-- them is that much above the level.
theorem Absorbed.exceeds {recent : List K} (absorbed : Absorbed weight recent level) (long : k ≤ recent.length)
    (enough : 1 ≤ factor * (1 - (1 - weight) ^ k)) (positive : 0 ≤ factor) (measured : 0 ≤ value)
    (above : factor * level < value) : ∃ earlier ∈ recent.take k, earlier < value := by
  by_contra none
  have least : ∀ earlier ∈ recent.take k, value ≤ earlier :=
    fun earlier listed => le_of_not_gt fun less => none ⟨earlier,listed,less⟩
  have taken := mul_le_mul_of_nonneg_left (absorbed k long value measured least) positive
  have whole := mul_le_mul_of_nonneg_right enough measured
  rw [one_mul,mul_assoc] at whole
  exact absurd (whole.trans taken) (not_le.mpr above)

end PhantomFlow.Library
