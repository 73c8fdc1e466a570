import Mathlib.Algebra.Order.BigOperators.Group.List
import Mathlib.Algebra.Order.Field.Basic
import Mathlib.Data.Nat.Cast.Order.Field
import Mathlib.Tactic.FieldSimp
import Mathlib.Tactic.Ring

namespace PhantomFlow.Library
variable {K : Type u} [Field K]

def average (values : List K) : K := values.sum / values.length

def spread (values : List K) : K := average (values.map (fun value => (value - average values) * (value - average values)))

variable [LinearOrder K] [IsStrictOrderedRing K] {values : List K}

theorem length_pos_cast (some' : values ≠ []) : (0 : K) < values.length :=
  Nat.cast_pos.mpr (List.length_pos_of_ne_nil some')

theorem average_nonneg (counts : ∀ value ∈ values, 0 ≤ value) : 0 ≤ average values :=
  div_nonneg (List.sum_nonneg counts) (Nat.cast_nonneg _)

theorem average_le (some' : values ≠ []) (bound : ∀ value ∈ values, value ≤ high) : average values ≤ high := by
  rw [average,div_le_iff₀ (length_pos_cast some')]
  have total := List.sum_le_card_nsmul values high bound
  rwa [nsmul_eq_mul,mul_comm] at total

theorem le_average (some' : values ≠ []) (bound : ∀ value ∈ values, low ≤ value) : low ≤ average values := by
  rw [average,le_div_iff₀ (length_pos_cast some')]
  have total := List.card_nsmul_le_sum values low bound
  rwa [nsmul_eq_mul,mul_comm] at total

theorem average_constant (some' : values ≠ []) (same : ∀ value ∈ values, value = constant) : average values = constant :=
  le_antisymm (average_le some' (fun value here => le_of_eq (same value here)))
    (le_average some' (fun value here => le_of_eq (same value here).symm))

theorem sum_pos_of_mem (counts : ∀ value ∈ values, 0 ≤ value) (here : value ∈ values) (positive : 0 < value) :
    0 < values.sum :=
  positive.trans_le (List.single_le_sum counts value here)

theorem average_pos_iff (counts : ∀ value ∈ values, 0 ≤ value) : 0 < average values ↔ ∃ value ∈ values, 0 < value := by
  constructor
  · intro positive
    by_contra none
    have total : values.sum ≤ values.length • (0 : K) := List.sum_le_card_nsmul values 0
      (fun value here => not_lt.mp (fun above => none ⟨value,here,above⟩))
    rw [nsmul_zero] at total
    exact absurd positive (not_lt.mpr (div_nonpos_of_nonpos_of_nonneg total (Nat.cast_nonneg _)))
  · rintro ⟨value,here,positive⟩
    exact div_pos (sum_pos_of_mem counts here positive) (length_pos_cast (List.ne_nil_of_mem here))

-- One more value moves the mean by its share.
omit [LinearOrder K] [IsStrictOrderedRing K] in
theorem average_append [CharZero K] (values : List K) (value : K) :
    average (values ++ [value]) = (average values * values.length + value) / (values.length + 1) := by
  rw [average,average,List.sum_append,List.sum_singleton,List.length_append,List.length_singleton,Nat.cast_add,
    Nat.cast_one]
  cases values with
  | nil => simp
  | cons first rest =>
      have nonzero : ((first :: rest).length : K) ≠ 0 := Nat.cast_ne_zero.mpr (by simp)
      rw [div_mul_cancel₀ _ nonzero]

-- The old mean may count for `n` values only where there were `n`, or where the value
-- does not move it.
theorem average_append_iff (values : List K) (value : K) (n : ℕ) :
    (average values * n + value) / (n + 1) = average (values ++ [value]) ↔ n = values.length ∨ value = average values := by
  have weights (k : ℕ) : (k : K) + 1 ≠ 0 := Nat.cast_add_one_ne_zero k
  have difference : (average values * n + value) * ((values.length : K) + 1) -
      (average values * values.length + value) * (n + 1) = (average values - value) * (n - values.length) := by ring
  rw [average_append,div_eq_div_iff (weights _) (weights _),← sub_eq_zero,difference,mul_eq_zero,sub_eq_zero,sub_eq_zero,
    Nat.cast_inj,or_comm,eq_comm (a := average values)]

theorem squares_nonneg (values : List K) (centre : K) :
    ∀ square ∈ values.map (fun value => (value - centre) * (value - centre)), 0 ≤ square := by
  intro square listed
  obtain ⟨value,_,rfl⟩ := List.mem_map.mp listed
  exact mul_self_nonneg _

theorem spread_nonneg (values : List K) : 0 ≤ spread values := average_nonneg (squares_nonneg values _)

theorem spread_pos_iff : 0 < spread values ↔ ∃ one ∈ values, ∃ two ∈ values, one ≠ two := by
  rw [spread,average_pos_iff (squares_nonneg values _)]
  constructor
  · rintro ⟨square,listed,positive⟩
    obtain ⟨value,here,rfl⟩ := List.mem_map.mp listed
    by_contra same
    have constant : average values = value := by
      apply average_constant (List.ne_nil_of_mem here)
      intro other there
      by_contra different
      exact same ⟨other,there,value,here,different⟩
    rw [constant,sub_self,mul_zero] at positive
    exact lt_irrefl _ positive
  · rintro ⟨one,here,two,there,different⟩
    have away : ∀ value ∈ values, value ≠ average values → ∃ square ∈ values.map
        (fun value => (value - average values) * (value - average values)), 0 < square :=
      fun value listed off => ⟨_,List.mem_map_of_mem listed,mul_self_pos.mpr (sub_ne_zero.mpr off)⟩
    by_cases central : one = average values
    · exact away two there (fun equal => different (central.trans equal.symm))
    · exact away one here central

theorem spread_constant (same : ∀ value ∈ values, value = constant) : spread values = 0 := by
  apply le_antisymm _ (spread_nonneg values)
  rw [← not_lt,spread_pos_iff]
  rintro ⟨one,here,two,there,different⟩
  exact different ((same one here).trans (same two there).symm)

-- A common offset moves the mean and leaves the spread.
section Offsets

theorem average_offset (some' : values ≠ []) (offset : K) :
    average (values.map (fun value => value + offset)) = average values + offset := by
  have nonzero := (length_pos_cast some').ne'
  have sum : (values.map (fun value => value + offset)).sum = values.sum + values.length * offset := by
    rw [List.sum_map_add,List.map_id',List.map_const',List.sum_replicate,nsmul_eq_mul]
  rw [average,average,sum,List.length_map]
  field_simp

theorem spread_offset (values : List K) (offset : K) :
    spread (values.map (fun value => value + offset)) = spread values := by
  cases values with
  | nil => rfl
  | cons first rest =>
      rw [spread,average_offset (List.cons_ne_nil first rest),List.map_map,spread]
      congr 2
      funext value
      simp only [Function.comp_apply,add_sub_add_right_eq_sub]

theorem spread_eq (some' : values ≠ []) :
    spread values = average (values.map (fun value => value * value)) - average values * average values := by
  have nonzero := (length_pos_cast some').ne'
  have squares (listed : List K) (centre : K) : (listed.map (fun value => (value - centre) * (value - centre))).sum =
      (listed.map (fun value => value * value)).sum - (centre * listed.sum + centre * listed.sum) +
        listed.length * (centre * centre) := by
    induction listed with
    | nil => simp
    | cons value rest ih =>
        simp only [List.map_cons,List.sum_cons,List.length_cons,ih]
        push_cast
        ring
  rw [spread,average,squares]
  simp only [average,List.length_map]
  field_simp
  ring

theorem spread_append_zeros (some' : values ≠ []) (zeros : ℕ) :
    spread (values ++ List.replicate zeros 0) = spread values * (values.length / (values.length + zeros)) +
      average values * average values * (values.length * zeros / ((values.length + zeros) * (values.length + zeros))) := by
  have nonzero := (length_pos_cast some').ne'
  have all : ((values.length : K) + zeros) ≠ 0 :=
    (add_pos_of_pos_of_nonneg (length_pos_cast some') (Nat.cast_nonneg zeros)).ne'
  rw [spread_eq some',spread_eq (List.append_ne_nil_of_left_ne_nil some' _)]
  simp only [average,List.map_append,List.map_replicate,List.sum_append,List.sum_replicate,List.length_append,
    List.length_map,List.length_replicate,mul_zero,nsmul_zero,add_zero]
  push_cast
  field_simp
  ring

end Offsets

omit [LinearOrder K] [IsStrictOrderedRing K] in
theorem average_perm {others : List K} (shuffled : values.Perm others) : average values = average others := by
  rw [average,average,shuffled.sum_eq,shuffled.length_eq]

omit [LinearOrder K] [IsStrictOrderedRing K] in
theorem spread_perm {others : List K} (shuffled : values.Perm others) : spread values = spread others := by
  rw [spread,spread,average_perm shuffled]
  exact average_perm (shuffled.map _)

-- Two values, each with its number of occurrences, in any order.
section TwoValues
variable {a b : K} {p q : ℕ}

omit [LinearOrder K] [IsStrictOrderedRing K] in
theorem sum_map_two (shuffled : values.Perm (List.replicate p a ++ List.replicate q b)) (f : K → K) :
    (values.map f).sum = p * f a + q * f b := by
  rw [(shuffled.map f).sum_eq,List.map_append,List.sum_append,List.map_replicate,List.map_replicate,List.sum_replicate,
    List.sum_replicate,nsmul_eq_mul,nsmul_eq_mul]

omit [Field K] [LinearOrder K] [IsStrictOrderedRing K] in
theorem length_two (shuffled : values.Perm (List.replicate p a ++ List.replicate q b)) : values.length = p + q := by
  rw [shuffled.length_eq,List.length_append,List.length_replicate,List.length_replicate]

theorem average_two (shuffled : values.Perm (List.replicate p a ++ List.replicate q b)) (some' : 0 < p + q) :
    average values = a + (b - a) * q / (p + q) := by
  have count : ((p : K) + q) ≠ 0 := by exact_mod_cast some'.ne'
  have sum := sum_map_two shuffled id
  rw [List.map_id] at sum
  rw [average,sum,length_two shuffled,id,id]
  push_cast
  field_simp
  ring

theorem spread_two (shuffled : values.Perm (List.replicate p a ++ List.replicate q b)) (some' : 0 < p + q) :
    spread values = (b - a) ^ 2 * (p * q) / (p + q) ^ 2 := by
  have count : ((p : K) + q) ≠ 0 := by exact_mod_cast some'.ne'
  rw [spread,average,sum_map_two shuffled,average_two shuffled some',List.length_map,length_two shuffled]
  push_cast
  field_simp
  ring

end TwoValues

theorem exists_ne_iff_adjacent {α : Type v} {values : List α} :
    (∃ one ∈ values, ∃ two ∈ values, one ≠ two) ↔
      ∃ (i : ℕ) (_ : i < values.length) (_ : i + 1 < values.length), values[i] ≠ values[i + 1] := by
  constructor
  · rintro ⟨one,here,two,there,different⟩
    by_contra adjacent
    have positive : 0 < values.length := List.length_pos_of_mem here
    have first : ∀ (i : ℕ) (inside : i < values.length), values[i] = values[0] := by
      intro i
      induction i with
      | zero => exact fun _ => rfl
      | succ i ih =>
          intro inside
          have equal := not_ne_iff.mp (fun differs => adjacent ⟨i,Nat.lt_of_succ_lt inside,inside,differs⟩)
          exact equal.symm.trans (ih (Nat.lt_of_succ_lt inside))
    obtain ⟨i,insideOne,rfl⟩ := List.getElem_of_mem here
    obtain ⟨j,insideTwo,rfl⟩ := List.getElem_of_mem there
    exact different ((first i insideOne).trans (first j insideTwo).symm)
  · rintro ⟨i,_,_,differs⟩
    exact ⟨_,List.getElem_mem _,_,List.getElem_mem _,differs⟩

end PhantomFlow.Library
