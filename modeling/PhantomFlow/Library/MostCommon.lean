import Mathlib.Data.List.Induction
import PhantomFlow.Library.OrderedMap

namespace PhantomFlow.Library
variable {α : Type u} [DecidableEq α]

def countOccurrences (items : List α) : OrderedMap α ℕ :=
  items.foldl (fun counts item => counts.set item ((counts.get item).getD 0 + 1)) .empty

def largest (entries : List (α × ℕ)) : Option α × ℕ :=
  entries.foldl (fun best entry => if best.2 < entry.2 then (some entry.1,entry.2) else best) (none,0)

theorem countOccurrences_snoc (items : List α) (item : α) :
    countOccurrences (items ++ [item]) =
      (countOccurrences items).set item (((countOccurrences items).get item).getD 0 + 1) := List.foldl_concat ..

theorem get_countOccurrences (items : List α) (a : α) :
    (countOccurrences items).get a = if a ∈ items then some (items.count a) else none := by
  induction items using List.reverseRecOn with
  | nil => rfl
  | append_singleton items item ih =>
      have counted : ((countOccurrences items).get item).getD 0 = items.count item ∨ item ≠ a := by
        by_cases same : item = a
        · left
          subst same
          rw [ih]
          split
          · rfl
          · rename_i absent
            exact (List.count_eq_zero.mpr absent).symm
        · exact .inr same
      rw [countOccurrences_snoc,OrderedMap.get_set,List.count_append]
      by_cases same : a = item
      · subst same
        rw [if_pos rfl,if_pos (by simp),counted.resolve_right (fun other => other rfl),List.count_singleton_self]
      · have other : ¬ item = a := fun eq => same eq.symm
        rw [if_neg same,ih]
        have member : a ∈ items ++ [item] ↔ a ∈ items := by simp [same]
        have none : [item].count a = 0 := List.count_eq_zero.mpr (by simpa using same)
        simp only [member,none,Nat.add_zero]

omit [DecidableEq α] in
theorem largest_spec (entries : List (α × ℕ)) :
    (∀ entry ∈ entries, entry.2 ≤ (largest entries).2) ∧
      (0 < (largest entries).2 → ∃ a, (largest entries).1 = some a ∧ (a,(largest entries).2) ∈ entries) := by
  induction entries using List.reverseRecOn with
  | nil => exact ⟨fun _ member => absurd member List.not_mem_nil,fun some => absurd some (Nat.lt_irrefl 0)⟩
  | append_singleton entries entry ih =>
      have last : largest (entries ++ [entry]) =
          if (largest entries).2 < entry.2 then (some entry.1,entry.2) else largest entries := List.foldl_concat ..
      obtain ⟨below,among⟩ := ih
      rw [last]
      split
      · rename_i larger
        refine ⟨?_,fun _ => ⟨entry.1,rfl,List.mem_append_right _ (List.mem_singleton_self _)⟩⟩
        intro other member
        rcases List.mem_append.mp member with old | new
        · exact Nat.le_trans (below other old) (Nat.le_of_lt larger)
        · rw [List.mem_singleton.mp new]
      · rename_i smaller
        refine ⟨?_,?_⟩
        · intro other member
          rcases List.mem_append.mp member with old | new
          · exact below other old
          · rw [List.mem_singleton.mp new]
            exact Nat.not_lt.mp smaller
        · intro positive
          obtain ⟨a,named,here⟩ := among positive
          exact ⟨a,named,List.mem_append_left _ here⟩

theorem largest_countOccurrences {items : List α} (some' : items ≠ []) :
    ∃ a ∈ items, (largest (countOccurrences items).entries).1 = some a ∧
      (largest (countOccurrences items).entries).2 = items.count a ∧ ∀ b, items.count b ≤ items.count a := by
  obtain ⟨below,among⟩ := largest_spec (countOccurrences items).entries
  have entry : ∀ b ∈ items, (b,items.count b) ∈ (countOccurrences items).entries := by
    intro b member
    rw [← OrderedMap.get_exact,get_countOccurrences,if_pos member]
  have positive : 0 < (largest (countOccurrences items).entries).2 := by
    obtain ⟨b,member⟩ := List.exists_mem_of_ne_nil items some'
    exact Nat.lt_of_lt_of_le (List.count_pos_iff.mpr member) (below _ (entry b member))
  obtain ⟨a,named,here⟩ := among positive
  rw [← OrderedMap.get_exact,get_countOccurrences] at here
  split at here
  · rename_i member
    have number : (largest (countOccurrences items).entries).2 = items.count a := (Option.some.inj here).symm
    refine ⟨a,member,named,number,?_⟩
    intro b
    by_cases occurs : b ∈ items
    · rw [← number]
      exact below _ (entry b occurs)
    · rw [List.count_eq_zero.mpr occurs]
      exact Nat.zero_le _
  · cases here

end PhantomFlow.Library
