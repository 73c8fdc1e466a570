import Mathlib.Data.List.Infix

namespace PhantomFlow.Library
variable {α : Type u} {ι : Type v} {found front back : List α} {r : α}

theorem replicate_between (front back : List α) (r : α) (after : front.length ≤ i) (before : i < front.length + n) :
    (front ++ (List.replicate n r ++ back))[i]? = some r := by
  rw [List.getElem?_append_right after,List.getElem?_append_left (by rw [List.length_replicate]; omega),
    List.getElem?_replicate_of_lt (by omega)]

-- A run of one item that is as long as what is looked for, and that this neither begins
-- nor ends with, separates what is before it from what is after it.
theorem infix_run (first : found.head? ≠ some r) (last : found.getLast? ≠ some r) (long : found.length ≤ n)
    (inside : found <:+: front ++ (List.replicate n r ++ back)) : found <:+: front ∨ found <:+: back := by
  by_cases empty : found = []
  · rw [empty]
    exact Or.inl List.nil_infix
  have present := List.length_pos_iff.mpr empty
  obtain ⟨before,after,split⟩ := inside
  have total := congrArg List.length split
  simp only [List.length_append,List.length_replicate] at total
  have reads : ∀ k < found.length, (front ++ (List.replicate n r ++ back))[before.length + k]? = found[k]? := by
    intro k below
    rw [← split,List.append_assoc,List.getElem?_append_right (Nat.le_add_right _ _),Nat.add_sub_cancel_left,
      List.getElem?_append_left below]
  by_cases left : before.length + found.length ≤ front.length
  · -- It ends before the run.
    left
    have part : before ++ found <+: front := by
      refine List.prefix_of_prefix_length_le ⟨after,split⟩ (List.prefix_append _ _) ?_
      rw [List.length_append]
      exact left
    exact (List.suffix_append before found).isInfix.trans part.isInfix
  · by_cases right : front.length + n ≤ before.length
    · -- It begins after the run.
      right
      have part : found ++ after <:+ back := by
        rw [← List.append_assoc] at split
        have rest : found ++ after <:+ (front ++ List.replicate n r) ++ back := by
          rw [← split,List.append_assoc]
          exact List.suffix_append _ _
        refine List.suffix_of_suffix_length_le rest (List.suffix_append _ _) ?_
        rw [List.length_append]
        omega
      exact (List.prefix_append found after).isInfix.trans part.isInfix
    · exfalso
      by_cases early : before.length < front.length
      · -- Its last item is in the run.
        apply last
        have item := reads (found.length - 1) (by omega)
        rw [replicate_between front back r (by omega) (by omega)] at item
        rw [List.getLast?_eq_getElem?]
        exact item.symm
      · -- Its first item is in the run.
        apply first
        have item := reads 0 present
        rw [Nat.add_zero,replicate_between front back r (by omega) (by omega)] at item
        rw [List.head?_eq_getElem?]
        exact item.symm

theorem infix_runs {left right : ι → α} {part : ι → List α}
    (runs : ∀ i, (found.head? ≠ some (left i) ∧ found.getLast? ≠ some (left i)) ∧
      found.head? ≠ some (right i) ∧ found.getLast? ≠ some (right i)) (long : found.length ≤ n) (items : List ι)
    (inside : found <:+: items.flatMap (fun i => List.replicate n (left i) ++ (part i ++ List.replicate n (right i))) ++ back) :
    (∃ i ∈ items, found <:+: part i) ∨ found <:+: back := by
  induction items with
  | nil => exact Or.inr inside
  | cons i rest ih =>
      obtain ⟨⟨first,last⟩,first',last'⟩ := runs i
      rw [List.flatMap_cons,List.append_assoc,List.append_assoc,List.append_assoc] at inside
      rw [← List.nil_append (List.replicate n (left i) ++ _)] at inside
      cases infix_run first last long inside with
      | inl none =>
          rw [List.infix_nil.mp none]
          exact Or.inr (List.nil_infix)
      | inr inside =>
          cases infix_run first' last' long inside with
          | inl here => exact Or.inl ⟨i,List.mem_cons_self,here⟩
          | inr later =>
              cases ih later with
              | inl others =>
                  obtain ⟨j,member,there⟩ := others
                  exact Or.inl ⟨j,List.mem_cons_of_mem i member,there⟩
              | inr after => exact Or.inr after

end PhantomFlow.Library
