import Mathlib.Algebra.BigOperators.Group.List.Basic
import Mathlib.Algebra.Order.Monoid.Canonical.Defs

namespace PhantomFlow.Library

def tally [AddCommMonoid M] (select : α → Bool) (stream : List (α × M)) : M :=
  ((stream.filter (fun entry => select entry.1)).map Prod.snd).sum

section Sum
variable [AddCommMonoid M] (select : α → Bool)

@[simp] theorem tally_nil : tally select ([] : List (α × M)) = 0 := rfl

@[simp] theorem tally_append (first second : List (α × M)) :
    tally select (first ++ second) = tally select first + tally select second := by
  simp [tally]

@[simp] theorem tally_singleton (a : α) (v : M) : tally select [(a,v)] = if select a then v else 0 := by
  cases chosen : select a <;> simp [tally,chosen]

theorem tally_all (stream : List (α × M)) : tally (fun _ => true) stream = (stream.map Prod.snd).sum := by
  simp [tally]

theorem tally_split (part : α → Bool) (stream : List (α × M)) :
    tally select stream = tally (fun a => select a && part a) stream + tally (fun a => select a && !part a) stream := by
  induction stream with
  | nil => simp
  | cons entry rest ih =>
      obtain ⟨a,v⟩ := entry
      rw [← List.singleton_append,tally_append,tally_append,tally_append,ih,tally_singleton,tally_singleton,tally_singleton]
      cases select a <;> cases part a <;> simp [add_assoc,add_left_comm]

theorem tally_perm {first second : List (α × M)} (same : first.Perm second) :
    tally select first = tally select second :=
  ((same.filter _).map _).sum_eq

end Sum

theorem sum_update [DecidableEq κ] [AddCommMonoid M] {keys : List κ} (distinct : keys.Nodup) (member : k ∈ keys)
    (f : κ → M) (v : M) : (keys.map (Function.update f k v)).sum + f k = (keys.map f).sum + v := by
  induction keys with
  | nil => cases member
  | cons key rest ih =>
      rw [List.nodup_cons] at distinct
      by_cases same : key = k
      · subst key
        have untouched : rest.map (Function.update f k v) = rest.map f := by
          apply List.map_congr_left
          intro other here
          exact Function.update_of_ne (fun equal => distinct.1 (by rw [← equal]; exact here)) _ _
        rw [List.map_cons,List.map_cons,List.sum_cons,List.sum_cons,untouched,Function.update_self]
        ac_rfl
      · have later : k ∈ rest := by
          rcases List.mem_cons.mp member with equal | later
          · exact absurd equal.symm same
          · exact later
        rw [List.map_cons,List.map_cons,List.sum_cons,List.sum_cons,Function.update_of_ne same,add_assoc,
          ih distinct.2 later,add_assoc]

theorem tally_classes [AddCommMonoid M] (key : α → ℕ) (bound : ∀ a, key a < n) (stream : List (α × M)) :
    ((List.range n).map (fun j => tally (fun a => key a == j) stream)).sum = (stream.map Prod.snd).sum := by
  induction stream with
  | nil => simp
  | cons entry rest ih =>
      obtain ⟨a,v⟩ := entry
      have own : ((List.range n).map (fun j => if key a = j then v else 0)).sum = v := by
        have updated := sum_update List.nodup_range (List.mem_range.mpr (bound a)) (fun _ => (0 : M)) v
        have same : (fun j => if key a = j then v else 0) = Function.update (fun _ => (0 : M)) (key a) v := by
          funext j
          simp [Function.update_apply,eq_comm]
        rw [same]
        simpa using updated
      rw [← List.singleton_append]
      simp only [tally_append,tally_singleton,beq_iff_eq,List.sum_map_add,List.map_append,List.sum_append]
      rw [ih,own]
      simp

theorem tally_mono [AddCommMonoid M] [PartialOrder M] [CanonicallyOrderedAdd M] [IsOrderedAddMonoid M]
    {narrow wide : α → Bool} (within : ∀ a, narrow a = true → wide a = true) (stream : List (α × M)) :
    tally narrow stream ≤ tally wide stream := by
  induction stream with
  | nil => exact le_refl _
  | cons entry rest ih =>
      obtain ⟨a,v⟩ := entry
      have split : ∀ select : α → Bool, tally select ((a,v) :: rest) = (if select a then v else 0) + tally select rest :=
        fun select => by rw [← tally_singleton,← tally_append]; rfl
      rw [split,split]
      refine add_le_add ?_ ih
      cases chosen : narrow a with
      | true => simp [within a chosen]
      | false => simp

end PhantomFlow.Library
