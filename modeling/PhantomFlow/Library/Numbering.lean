import Mathlib.Data.List.Induction
import PhantomFlow.Library.OrderedMap

namespace PhantomFlow.Library

section Numbering
variable {α : Type u} [DecidableEq α]

def numberNew (numbers : OrderedMap α ℕ) (item : α) : OrderedMap α ℕ :=
  if numbers.has item then numbers else numbers.set item numbers.size

def numbering (items : List α) : OrderedMap α ℕ := items.foldl numberNew .empty

structure Numbered (items : List α) (numbers : OrderedMap α ℕ) : Prop where
  known : ∀ item, numbers.has item = true ↔ item ∈ items
  below : ∀ item k, numbers.get item = some k → k < numbers.size
  apart : ∀ item other k, numbers.get item = some k → numbers.get other = some k → item = other
  onto : ∀ k, k < numbers.size → ∃ item, numbers.get item = some k

theorem Numbered.next {items : List α} {numbers : OrderedMap α ℕ} (numbered : Numbered items numbers) (item : α) :
    Numbered (items ++ [item]) (numberNew numbers item) := by
  unfold numberNew
  split
  · rename_i present
    refine ⟨?_,numbered.below,numbered.apart,numbered.onto⟩
    intro other
    rw [List.mem_append,List.mem_singleton,numbered.known other]
    constructor
    · exact fun old => .inl old
    · intro either
      rcases either with old | new
      · exact old
      · subst new
        exact (numbered.known _).mp present
  · rename_i absent
    have grown : (numbers.set item numbers.size).size = numbers.size + 1 := by rw [OrderedMap.size_set,if_neg absent]
    refine ⟨?_,?_,?_,?_⟩
    · intro other
      rw [OrderedMap.has_set,Bool.or_eq_true,decide_eq_true_iff,numbered.known other,List.mem_append,List.mem_singleton]
      exact or_comm
    · intro other k found
      rw [grown]
      rw [OrderedMap.get_set] at found
      split at found
      · cases found
        exact Nat.lt_succ_self _
      · exact Nat.lt_succ_of_lt (numbered.below other k found)
    · intro one two k first second
      rw [OrderedMap.get_set] at first second
      split at first
      · rename_i new
        split at second
        · rename_i new'
          exact new.trans new'.symm
        · cases first
          exact absurd (numbered.below two _ second) (Nat.lt_irrefl _)
      · split at second
        · cases second
          exact absurd (numbered.below one _ first) (Nat.lt_irrefl _)
        · exact numbered.apart one two k first second
    · intro k inside
      rw [grown] at inside
      rcases Nat.lt_succ_iff_lt_or_eq.mp inside with old | last
      · obtain ⟨other,found⟩ := numbered.onto k old
        have different : other ≠ item := by
          intro same
          subst same
          exact absent (OrderedMap.has_of_get found)
        exact ⟨other,by rw [OrderedMap.get_set_other _ _ different,found]⟩
      · subst last
        exact ⟨item,OrderedMap.get_set_self _ _ _⟩

theorem numbered_numbering (items : List α) : Numbered items (numbering items) := by
  induction items using List.reverseRecOn with
  | nil => exact ⟨fun _ => ⟨fun found => (nomatch found),nofun⟩,nofun,nofun,fun k inside => absurd inside (Nat.not_lt_zero k)⟩
  | append_singleton items item ih =>
      have last : numbering (items ++ [item]) = numberNew (numbering items) item := List.foldl_concat ..
      rw [last]
      exact ih.next item

end Numbering

section Marks

def marked (n : ℕ) (positions : List ℕ) : List Bool :=
  positions.foldl (fun flags i => flags.set i true) (List.replicate n false)

theorem length_foldl_set (flags : List Bool) (positions : List ℕ) :
    (positions.foldl (fun flags i => flags.set i true) flags).length = flags.length := by
  induction positions generalizing flags with
  | nil => rfl
  | cons i rest ih => rw [List.foldl_cons,ih,List.length_set]

theorem length_marked (n : ℕ) (positions : List ℕ) : (marked n positions).length = n := by
  rw [marked,length_foldl_set,List.length_replicate]

theorem getElem?_marked {n i : ℕ} (positions : List ℕ) (inside : i < n) :
    (marked n positions)[i]? = some (decide (i ∈ positions)) := by
  induction positions using List.reverseRecOn with
  | nil => simp [marked,inside]
  | append_singleton positions j ih =>
      have last : marked n (positions ++ [j]) = (marked n positions).set j true := List.foldl_concat ..
      rw [last,List.getElem?_set]
      by_cases same : j = i
      · subst same
        simp [length_marked,inside]
      · rw [if_neg same,ih]
        have other : ¬ i = j := fun eq => same eq.symm
        simp [other]

theorem marked_eq_map (n : ℕ) (positions : List ℕ) :
    marked n positions = (List.range n).map (fun i => decide (i ∈ positions)) := by
  apply List.ext_getElem?
  intro i
  by_cases inside : i < n
  · rw [getElem?_marked positions inside,List.getElem?_map,List.getElem?_range inside,Option.map_some]
  · rw [List.getElem?_eq_none (by rw [length_marked]; omega),
      List.getElem?_eq_none (by rw [List.length_map,List.length_range]; omega)]

theorem count_marked {n : ℕ} {positions : List ℕ} (once : positions.Nodup) (inside : ∀ i ∈ positions, i < n) :
    (marked n positions).count true = positions.length := by
  have same : ((List.range n).filter (fun i => decide (i ∈ positions))).Perm positions := by
    rw [List.perm_ext_iff_of_nodup (List.nodup_range.filter _) once]
    intro i
    rw [List.mem_filter,List.mem_range,decide_eq_true_iff]
    exact ⟨And.right,fun member => ⟨inside i member,member⟩⟩
  rw [marked_eq_map,List.count_eq_countP,List.countP_map,List.countP_eq_length_filter,← same.length_eq]
  congr 1
  apply List.filter_congr
  intro i _
  simp

theorem pieces_partition {order : List ℕ} {n i : ℕ} (arranged : order.Perm (List.range n)) (k l : ℕ) (inside : i < n) :
    (i ∈ order.take k ∧ i ∉ (order.drop k).take l ∧ i ∉ order.drop (k + l)) ∨
      (i ∉ order.take k ∧ i ∈ (order.drop k).take l ∧ i ∉ order.drop (k + l)) ∨
      (i ∉ order.take k ∧ i ∉ (order.drop k).take l ∧ i ∈ order.drop (k + l)) := by
  have once : order.Nodup := arranged.nodup_iff.mpr List.nodup_range
  have member : i ∈ order := arranged.mem_iff.mpr (List.mem_range.mpr inside)
  have split1 : order.take k ++ ((order.drop k).take l ++ order.drop (k + l)) = order := by
    rw [← List.drop_drop,List.take_append_drop,List.take_append_drop]
  rw [← split1] at once member
  obtain ⟨_,later,apart⟩ := List.nodup_append.mp once
  obtain ⟨_,_,apart'⟩ := List.nodup_append.mp later
  rcases List.mem_append.mp member with first | rest
  · left
    refine ⟨first,?_,?_⟩
    · intro second
      exact apart i first i (List.mem_append_left _ second) rfl
    · intro third
      exact apart i first i (List.mem_append_right _ third) rfl
  · rcases List.mem_append.mp rest with second | third
    · right; left
      exact ⟨fun first => apart i first i rest rfl,second,fun third => apart' i second i third rfl⟩
    · right; right
      exact ⟨fun first => apart i first i rest rfl,fun second => apart' i second i third rfl,third⟩

end Marks
end PhantomFlow.Library
