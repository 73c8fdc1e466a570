import Mathlib.Algebra.Order.Field.Basic
import Mathlib.Data.List.Forall2

namespace PhantomFlow.Library
variable {K : Type u} [Field K] [LinearOrder K]

def raised (factors : List (Bool × K)) : K :=
  factors.foldl (fun multiplier factor => if factor.1 then multiplier * factor.2 else multiplier) 1

omit [LinearOrder K] in
theorem foldl_raised (factors : List (Bool × K)) (start : K) :
    factors.foldl (fun multiplier factor => if factor.1 then multiplier * factor.2 else multiplier) start =
      start * raised factors := by
  induction factors generalizing start with
  | nil => exact (mul_one start).symm
  | cons factor rest ih =>
      unfold raised at ih ⊢
      rw [List.foldl_cons,List.foldl_cons,ih,ih (if factor.1 then 1 * factor.2 else 1)]
      split
      · rw [one_mul,mul_assoc]
      · rw [one_mul]

omit [LinearOrder K] in
theorem raised_cons (factor : Bool × K) (rest : List (Bool × K)) :
    raised (factor :: rest) = (if factor.1 then factor.2 else 1) * raised rest := by
  unfold raised
  rw [List.foldl_cons,foldl_raised,one_mul]
  rfl

variable [IsStrictOrderedRing K]

theorem one_le_raised {factors : List (Bool × K)} (large : ∀ factor ∈ factors, 1 ≤ factor.2) : 1 ≤ raised factors := by
  induction factors with
  | nil => exact le_rfl
  | cons factor rest ih =>
      rw [List.forall_mem_cons] at large
      have first : 1 ≤ if factor.1 then factor.2 else 1 := by
        split
        · exact large.1
        · exact le_rfl
      rw [raised_cons]
      exact one_le_mul_of_one_le_of_one_le first (ih large.2)

def Implied (fewer more : List (Bool × K)) : Prop :=
  List.Forall₂ (fun one two => one.2 = two.2 ∧ (one.1 = true → two.1 = true)) fewer more

omit [IsStrictOrderedRing K] in
theorem Implied.large {fewer more : List (Bool × K)} (implied : Implied fewer more)
    (large : ∀ factor ∈ more, 1 ≤ factor.2) : ∀ factor ∈ fewer, 1 ≤ factor.2 := by
  induction implied with
  | nil => exact large
  | cons same _ ih =>
      rw [List.forall_mem_cons] at large ⊢
      exact ⟨same.1 ▸ large.1,ih large.2⟩

theorem raised_mono {fewer more : List (Bool × K)} (implied : Implied fewer more)
    (large : ∀ factor ∈ more, 1 ≤ factor.2) : raised fewer ≤ raised more := by
  induction implied with
  | nil => exact le_rfl
  | @cons one two fewer more same others ih =>
      rw [List.forall_mem_cons] at large
      have first : (if one.1 then one.2 else 1) ≤ if two.1 then two.2 else 1 := by
        cases held : one.1 with
        | true =>
            rw [if_pos rfl,if_pos (same.2 held),same.1]
        | false =>
            rw [if_neg Bool.false_ne_true]
            split
            · exact large.1
            · exact le_rfl
      rw [raised_cons,raised_cons]
      refine mul_le_mul first (ih large.2) ?_ ?_
      · exact zero_le_one.trans (one_le_raised (Implied.large others large.2))
      · split
        · exact zero_le_one.trans large.1
        · exact zero_le_one

end PhantomFlow.Library
