import Mathlib.Data.List.Forall2

namespace PhantomFlow.Library

-- A computation in `Except` that succeeds has succeeded in every part.
theorem bind_ok {x : Except ε α} {f : α → Except ε β} (done : (x >>= f) = .ok b) : ∃ a, x = .ok a ∧ f a = .ok b := by
  cases x with
  | error message => cases done
  | ok a => exact ⟨a,rfl,done⟩

theorem foldlM_ok {f : σ → α → Except ε σ} (holds : σ → Prop) (kept : ∀ s a t, holds s → f s a = .ok t → holds t)
    {entries : List α} (start : holds s) (done : entries.foldlM f s = .ok t) : holds t := by
  induction entries generalizing s with
  | nil => cases done; exact start
  | cons a rest ih =>
      rw [List.foldlM_cons] at done
      obtain ⟨next,first,later⟩ := bind_ok done
      exact ih (kept s a next start first) later

theorem mapM_ok {f : α → Except ε β} {related : α → β → Prop} {xs : List α}
    (checked : ∀ x ∈ xs, ∃ y, f x = .ok y ∧ related x y) : ∃ ys, xs.mapM f = .ok ys ∧ List.Forall₂ related xs ys := by
  induction xs with
  | nil => exact ⟨[],rfl,.nil⟩
  | cons x rest ih =>
      rw [List.forall_mem_cons] at checked
      obtain ⟨⟨y,first,known⟩,later⟩ := checked
      obtain ⟨ys,done,others⟩ := ih later
      refine ⟨y :: ys,?_,.cons known others⟩
      rw [List.mapM_cons,first,done]
      rfl

theorem mapM_error {f : α → Except ε β} {xs : List α} (failing : x ∈ xs) (fails : f x = .error reason) :
    ∃ reason, xs.mapM f = .error reason := by
  induction xs with
  | nil => cases failing
  | cons first rest ih =>
      rw [List.mapM_cons]
      cases done : f first with
      | error reason => exact ⟨reason,rfl⟩
      | ok y =>
          rcases List.mem_cons.mp failing with rfl | later
          · rw [fails] at done
            cases done
          · obtain ⟨reason,stopped⟩ := ih later
            exact ⟨reason,by rw [stopped]; rfl⟩

theorem mapM_isSome_iff {f : α → Option β} {xs : List α} :
    (xs.mapM f).isSome = true ↔ ∀ x ∈ xs, (f x).isSome = true := by
  induction xs with
  | nil => simp
  | cons x rest ih =>
      rw [List.mapM_cons,List.forall_mem_cons,← ih]
      cases f x with
      | none => simp
      | some y => cases rest.mapM f <;> simp

theorem exists_of_forall₂ {holds : β → Prop} {known : α → Prop}
    (related : List.Forall₂ (fun x y => holds y ↔ known x) xs ys) : (∃ y ∈ ys, holds y) ↔ ∃ x ∈ xs, known x := by
  induction related with
  | nil => simp
  | cons first _ ih => simp [first,ih]

end PhantomFlow.Library
