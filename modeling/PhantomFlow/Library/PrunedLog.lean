import Mathlib.Data.List.Basic
import Mathlib.Order.Lattice

namespace PhantomFlow.Library
variable {α : Type u} {κ : Type v} [LinearOrder κ] (time : α → κ)

def newer (cut : κ) (log : List α) : List α := log.filter (fun entry => decide (cut < time entry))

-- Pruning an already pruned log, with what was added since, prunes the whole log.
theorem newer_pruned {cut later : κ} (ordered : cut ≤ later) (log added : List α) :
    newer time later (newer time cut log ++ added) = newer time later (log ++ added) := by
  have both : (fun entry => decide (later < time entry) && decide (cut < time entry)) =
      fun entry => decide (later < time entry) := by
    funext entry
    by_cases new : later < time entry
    · rw [decide_eq_true new,decide_eq_true (lt_of_le_of_lt ordered new)]
      rfl
    · rw [decide_eq_false new]
      rfl
  rw [newer,newer,newer,List.filter_append,List.filter_append,List.filter_filter,both]

-- A question about what is newer than a moment does not see an earlier pruning.
theorem newer_newer {cut later : κ} (ordered : cut ≤ later) (log : List α) :
    newer time later (newer time cut log) = newer time later log := by
  have pruned := newer_pruned time ordered log []
  rwa [List.append_nil,List.append_nil] at pruned

end PhantomFlow.Library
