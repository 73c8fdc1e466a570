import Mathlib.Data.List.Nodup
import Mathlib.Data.List.Sort

namespace PhantomFlow.Library
variable {α : Type u} {β : Type v} [LinearOrder β]

-- `sort((a, b) => score(b) - score(a))`: the highest score first, equals in the
-- order they came.
def sortByScore (score : α → β) (entries : List α) : List α :=
  entries.insertionSort (fun a b => score b ≤ score a)

theorem orderedInsert_before {r : α → α → Prop} [DecidableRel r] (above : ∀ b ∈ second, r a b) (first : List α) :
    (first ++ second).orderedInsert r a = first.orderedInsert r a ++ second := by
  induction first with
  | nil =>
      cases second with
      | nil => rfl
      | cons b rest => exact List.orderedInsert_cons_of_le r rest (above b (by simp))
  | cons c rest ih =>
      simp only [List.cons_append,List.orderedInsert_cons,ih]
      split <;> rfl

theorem orderedInsert_after {r : α → α → Prop} [DecidableRel r] (below : ∀ b ∈ first, ¬ r a b) (second : List α) :
    (first ++ second).orderedInsert r a = first ++ second.orderedInsert r a := by
  induction first with
  | nil => rfl
  | cons b rest ih =>
      rw [List.cons_append,List.orderedInsert_of_not_le r _ (below b (by simp)),
        ih (fun c member => below c (List.mem_cons_of_mem b member))]
      rfl

theorem sortByScore_snoc (score : α → β) (entries : List α) (x : α) :
    sortByScore score (entries ++ [x]) =
      sortByScore score (entries.filter (fun entry => decide (score x ≤ score entry))) ++
        x :: sortByScore score (entries.filter (fun entry => decide (score entry < score x))) := by
  induction entries with
  | nil => rfl
  | cons a rest ih =>
      have unfolded : sortByScore score (a :: rest ++ [x]) =
          (sortByScore score (rest ++ [x])).orderedInsert (fun a b => score b ≤ score a) a := rfl
      rw [unfolded,ih]
      by_cases high : score x ≤ score a
      · have below : ∀ b ∈ x :: sortByScore score (rest.filter (fun entry => decide (score entry < score x))),
            score b ≤ score a := by
          intro b member
          rcases List.mem_cons.mp member with rfl | later
          · exact high
          · have low := (List.mem_filter.mp ((List.mem_insertionSort _).mp later)).2
            exact le_trans (le_of_lt (of_decide_eq_true low)) high
        rw [orderedInsert_before below,List.filter_cons_of_pos (by simpa using high),
          List.filter_cons_of_neg (by simpa using high)]
        rfl
      · have above : ∀ b ∈ sortByScore score (rest.filter (fun entry => decide (score x ≤ score entry))) ++ [x],
            ¬ score b ≤ score a := by
          intro b member low
          apply high
          rcases List.mem_append.mp member with earlier | last
          · have reached := (List.mem_filter.mp ((List.mem_insertionSort _).mp earlier)).2
            exact le_trans (of_decide_eq_true reached) low
          · rwa [List.mem_singleton.mp last] at low
        rw [List.append_cons,orderedInsert_after above,List.filter_cons_of_neg (by simpa using high),
          List.filter_cons_of_pos (by simpa using high),List.append_assoc]
        rfl

theorem sortByScore_perm (score : α → β) (entries : List α) : (sortByScore score entries).Perm entries :=
  List.perm_insertionSort _ entries

theorem sortByScore_sorted (score : α → β) (entries : List α) :
    (sortByScore score entries).Pairwise (fun a b => score b ≤ score a) := by
  have total : Std.Total (fun a b : α => score b ≤ score a) := ⟨fun a b => le_total (score b) (score a)⟩
  have trans : IsTrans α (fun a b => score b ≤ score a) := ⟨fun a b c first second => le_trans second first⟩
  exact List.pairwise_insertionSort _ entries

theorem sortByScore_eq_self (score : α → β) (entries : List α) :
    sortByScore score entries = entries ↔ entries.Pairwise (fun a b => score b ≤ score a) := by
  constructor
  · intro unchanged
    rw [← unchanged]
    exact sortByScore_sorted score entries
  · exact List.Pairwise.insertionSort_eq

theorem sortByScore_take_highest {entries : List α} (score : α → β) (n : ℕ)
    (taken : a ∈ (sortByScore score entries).take n) (present : b ∈ entries)
    (cut : b ∉ (sortByScore score entries).take n) : score b ≤ score a := by
  have sorted := sortByScore_sorted score entries
  rw [← List.take_append_drop n (sortByScore score entries),List.pairwise_append] at sorted
  have listed : b ∈ (sortByScore score entries).take n ++ (sortByScore score entries).drop n := by
    rw [List.take_append_drop]
    exact (sortByScore_perm score entries).mem_iff.mpr present
  rcases List.mem_append.mp listed with early | late
  · exact absurd early cut
  · exact sorted.2.2 a taken b late

theorem sublist_unique {whole first second : List α} (distinct : whole.Nodup) (left : first.Sublist whole)
    (right : second.Sublist whole) (same : first.Perm second) : first = second := by
  induction whole generalizing first second with
  | nil => rw [List.sublist_nil.mp left,List.sublist_nil.mp right]
  | cons a rest ih =>
      obtain ⟨fresh,tail⟩ := List.nodup_cons.mp distinct
      cases left with
      | cons _ left =>
          cases right with
          | cons _ right => exact ih tail left right same
          | cons_cons _ right => exact absurd (left.subset (same.symm.subset (by simp))) fresh
      | cons_cons _ left =>
          cases right with
          | cons _ right => exact absurd (right.subset (same.subset (by simp))) fresh
          | cons_cons _ right => rw [ih tail left right (List.Perm.cons_inv same)]

theorem take_getLast_exact {before after : List α} {x : α} (distinct : (before ++ x :: after).Nodup)
    (short : n < (before ++ x :: after).length) :
    ((before ++ x :: after).take n).getLast? = some x ↔ n = before.length + 1 := by
  constructor
  · intro last
    rcases Nat.lt_or_ge before.length n with past | early
    · by_contra further
      obtain ⟨m,rfl⟩ : ∃ m, n = before.length + (m + 2) := ⟨n - before.length - 2,by omega⟩
      obtain ⟨y,rest,rfl⟩ : ∃ y rest, after = y :: rest := by
        cases after with
        | nil => simp at short
        | cons y rest => exact ⟨y,rest,rfl⟩
      rw [List.take_length_add_append,List.take_succ_cons,List.getLast?_append_of_ne_nil _ (by simp)] at last
      have member : x ∈ (y :: rest).take (m + 1) := by
        rw [List.getLast?_cons_of_ne_nil (by simp)] at last
        exact List.mem_of_getLast? last
      have fresh := (List.nodup_cons.mp (List.nodup_append.mp distinct).2.1).1
      exact fresh (List.mem_of_mem_take member)
    · rw [List.take_append_of_le_length early] at last
      have member := List.mem_of_mem_take (List.mem_of_getLast? last)
      exact absurd rfl ((List.nodup_append.mp distinct).2.2 x member x (by simp))
  · rintro rfl
    rw [List.take_length_add_append]
    simp

end PhantomFlow.Library
