import Mathlib.Data.List.DropRight

namespace PhantomFlow.Library
variable {α : Type u} {β : Type v}

theorem length_rtake (history : List α) (n : ℕ) : (history.rtake n).length = min n history.length := by
  rw [List.rtake,List.length_drop]
  omega

theorem rtake_of_length_le {history : List α} (short : history.length ≤ n) : history.rtake n = history := by
  rw [List.rtake,Nat.sub_eq_zero_of_le short,List.drop_zero]

theorem map_rtake (f : α → β) (history : List α) (n : ℕ) : (history.rtake n).map f = (history.map f).rtake n := by
  rw [List.rtake,List.rtake,List.map_drop,List.length_map]

theorem rtake_append_of_le {added : List α} (enough : n ≤ added.length) (history : List α) :
    (history ++ added).rtake n = added.rtake n := by
  have cut : (history ++ added).length - n = history.length + (added.length - n) := by
    rw [List.length_append]
    omega
  rw [List.rtake,List.rtake,cut,List.drop_append]
  simp

-- What was cut off does not come back: a history that was cut to more entries than
-- are asked for may be taken for the whole.
theorem rtake_append_rtake (history added : List α) (fewer : n ≤ m) :
    (history.rtake m ++ added).rtake n = (history ++ added).rtake n := by
  by_cases short : history.length ≤ m
  · rw [rtake_of_length_le short]
  · have long : n ≤ (history.rtake m ++ added).length := by
      rw [List.length_append,length_rtake]
      omega
    have parts : history ++ added = history.take (history.length - m) ++ (history.rtake m ++ added) := by
      rw [← List.append_assoc,List.rtake,List.take_append_drop]
    rw [parts,rtake_append_of_le long]

theorem rtake_rtake (history : List α) (fewer : n ≤ m) : (history.rtake m).rtake n = history.rtake n := by
  have joined := rtake_append_rtake history [] fewer
  rwa [List.append_nil,List.append_nil] at joined

theorem countP_drop_of_last {select : α → Bool} {history : List α} (n : ℕ)
    (last : history.Pairwise (fun one two => select one = true → select two = true)) :
    (history.drop n).countP select = min (history.countP select) (history.length - n) := by
  induction history generalizing n with
  | nil => simp
  | cons entry rest ih =>
      rw [List.pairwise_cons] at last
      cases n with
      | zero =>
          rw [List.drop_zero,Nat.sub_zero]
          exact (Nat.min_eq_left List.countP_le_length).symm
      | succ m =>
          rw [List.drop_succ_cons,ih m last.2,List.length_cons]
          cases selected : select entry with
          | false =>
              rw [List.countP_cons_of_neg (by rw [selected]; exact Bool.false_ne_true)]
              omega
          | true =>
              have all : rest.countP select = rest.length :=
                List.countP_eq_length.mpr (fun other here => last.1 other here selected)
              rw [List.countP_cons_of_pos selected,all]
              omega

theorem countP_rtake {select : α → Bool} {history : List α} (n : ℕ)
    (last : history.Pairwise (fun one two => select one = true → select two = true)) :
    (history.rtake n).countP select = min (history.countP select) n := by
  have bound := List.countP_le_length (p:=select) (l:=history)
  rw [List.rtake,countP_drop_of_last _ last]
  omega

end PhantomFlow.Library
