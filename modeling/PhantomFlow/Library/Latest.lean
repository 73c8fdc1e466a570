import Mathlib.Data.List.Basic

namespace PhantomFlow.Library
variable {α : Type u} {κ : Type v} [DecidableEq κ]

def latest (key : α → κ) (k : κ) (items : List α) : Option α := items.reverse.find? (fun a => decide (key a = k))

theorem latest_snoc (key : α → κ) (k : κ) (items : List α) (a : α) :
    latest key k (items ++ [a]) = if key a = k then some a else latest key k items := by
  unfold latest
  rw [List.reverse_append,List.reverse_singleton,List.singleton_append]
  by_cases same : key a = k
  · rw [if_pos same,List.find?_cons_of_pos (by simpa using same)]
  · rw [if_neg same,List.find?_cons_of_neg (by simpa using same)]

theorem latest_some {key : α → κ} {items : List α} (found : latest key k items = some a) : a ∈ items ∧ key a = k :=
  ⟨List.mem_reverse.mp (List.mem_of_find?_eq_some found),by simpa using List.find?_some found⟩

theorem latest_isSome (key : α → κ) {items : List α} (member : a ∈ items) : ∃ b, latest key (key a) items = some b := by
  apply Option.isSome_iff_exists.mp
  unfold latest
  rw [List.find?_isSome]
  exact ⟨a,List.mem_reverse.mpr member,decide_eq_true rfl⟩

-- Where one of two selections is made by the key alone, the keys that are selected tell
-- whether the two selections are the same.
theorem filter_keys_eq_iff (items : List α) (key : α → κ) (kept : κ → Bool) (own : α → Bool) :
    (items.filter (fun a => kept (key a))).map key = (items.filter own).map key ↔
      ∀ a ∈ items, kept (key a) = own a := by
  constructor
  · intro same a member
    -- Among the items of one key the first selection takes all or none.
    let group := items.filter (fun b => decide (key b = key a))
    have inside : a ∈ group := List.mem_filter.mpr ⟨member,decide_eq_true rfl⟩
    have restrict : ∀ select : α → Bool, (((items.filter select).map key).filter (fun k => decide (k = key a))).length =
        (group.filter select).length := by
      intro select
      rw [List.filter_map,List.length_map,List.filter_filter,List.filter_filter]
      congr 1
      apply List.filter_congr
      intro b _
      exact Bool.and_comm _ _
    have counts : (group.filter (fun b => kept (key b))).length = (group.filter own).length := by
      rw [← restrict,← restrict,same]
    have uniform : group.filter (fun b => kept (key b)) = group.filter (fun _ => kept (key a)) := by
      apply List.filter_congr
      intro b grouped
      rw [of_decide_eq_true (List.mem_filter.mp grouped).2]
    rw [uniform] at counts
    cases chosen : kept (key a) with
    | true =>
        rw [chosen,List.filter_true] at counts
        exact (List.length_filter_eq_length_iff.mp counts.symm a inside).symm
    | false =>
        rw [chosen,List.filter_false,List.length_nil] at counts
        have none := List.filter_eq_nil_iff.mp (List.length_eq_zero_iff.mp counts.symm) a inside
        exact (eq_false_of_ne_true none).symm
  · intro same
    rw [List.filter_congr same]

end PhantomFlow.Library
