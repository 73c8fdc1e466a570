import Mathlib.Data.List.Sort

namespace PhantomFlow.Library
variable {α : Type u} [LinearOrder α] {values : List α}

-- The entry of the sorted list at an index, counted from zero.
def orderStatistic (values : List α) (i : ℕ) : Option α := (values.insertionSort (· ≤ ·))[i]?

theorem orderStatistic_isSome (inside : i < values.length) : ∃ value, orderStatistic values i = some value := by
  have bound : i < (values.insertionSort (· ≤ ·)).length := by rwa [List.length_insertionSort]
  exact ⟨_,List.getElem?_eq_getElem bound⟩

theorem orderStatistic_mem (found : orderStatistic values i = some value) : value ∈ values :=
  (List.mem_insertionSort _).mp (List.mem_of_getElem? found)

theorem sorted_halves (found : orderStatistic values i = some value) :
    ∃ before after, values.insertionSort (· ≤ ·) = before ++ value :: after ∧ before.length = i ∧
      (∀ other ∈ before, other ≤ value) ∧ ∀ other ∈ after, value ≤ other := by
  obtain ⟨bound,here⟩ := List.getElem?_eq_some_iff.mp found
  have split : values.insertionSort (· ≤ ·) = (values.insertionSort (· ≤ ·)).take i ++
      value :: (values.insertionSort (· ≤ ·)).drop (i + 1) := by
    rw [← here,List.getElem_cons_drop,List.take_append_drop]
  have sorted := List.pairwise_insertionSort (· ≤ ·) values
  rw [split,List.pairwise_append,List.pairwise_cons] at sorted
  obtain ⟨_,later,across⟩ := sorted
  refine ⟨_,_,split,List.length_take_of_le bound.le,?_,later.1⟩
  intro other member
  exact across other member value (List.mem_cons_self ..)

theorem orderStatistic_counts (found : orderStatistic values i = some value) :
    values.countP (· < value) ≤ i ∧ i + 1 ≤ values.countP (· ≤ value) := by
  obtain ⟨before,after,split,length,low,high⟩ := sorted_halves found
  have perm := List.perm_insertionSort (· ≤ ·) values
  rw [split] at perm
  rw [← perm.countP_eq,← perm.countP_eq,List.countP_append,List.countP_append,List.countP_cons,List.countP_cons]
  constructor
  · have none : after.countP (· < value) = 0 := by
      apply List.countP_eq_zero.mpr
      intro other member
      simpa using high other member
    have few := List.countP_le_length (p:=fun other => decide (other < value)) (l:=before)
    simp [none]
    omega
  · have all : before.countP (· ≤ value) = before.length := by
      apply List.countP_eq_length.mpr
      intro other member
      simpa using low other member
    simp [all]
    omega

theorem orderStatistic_mono (le : i ≤ j) (found : orderStatistic values i = some value)
    (found' : orderStatistic values j = some value') : value ≤ value' := by
  obtain ⟨bound,here⟩ := List.getElem?_eq_some_iff.mp found
  obtain ⟨bound',here'⟩ := List.getElem?_eq_some_iff.mp found'
  have sorted := List.pairwise_insertionSort (· ≤ ·) values
  rw [← here,← here']
  cases le.lt_or_eq with
  | inl before => exact List.pairwise_iff_getElem.mp sorted i j bound bound' before
  | inr same =>
      subst same
      exact le_refl _

end PhantomFlow.Library
