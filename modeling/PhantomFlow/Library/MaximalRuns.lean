import Mathlib.Data.List.Basic

namespace PhantomFlow.Library
variable {α : Type u}

-- What holds of every maximal run of `a` in a list, said of its length and of what
-- follows it.
def EveryRun (a : α) (holds : ℕ → List α → Prop) (data : List α) : Prop :=
  ∀ before n after, data = before ++ List.replicate n a ++ after → 0 < n →
    before.getLast? ≠ some a → after.head? ≠ some a → holds n after

theorem replicate_append_unique {a : α} {first second : List α} (ends : first.head? ≠ some a)
    (ends' : second.head? ≠ some a) (same : List.replicate m a ++ first = List.replicate n a ++ second) :
    m = n ∧ first = second := by
  induction m generalizing n with
  | zero =>
      cases n with
      | zero => exact ⟨rfl,by simpa using same⟩
      | succ n =>
          have starts : first = a :: (List.replicate n a ++ second) := by
            simpa [List.replicate_succ] using same
          exact absurd (by rw [starts]; rfl) ends
  | succ m ih =>
      cases n with
      | zero =>
          have starts : a :: (List.replicate m a ++ first) = second := by
            simpa [List.replicate_succ] using same
          exact absurd (by rw [← starts]; rfl) ends'
      | succ n =>
          have tails : List.replicate m a ++ first = List.replicate n a ++ second := by
            simpa [List.replicate_succ] using same
          have rest := ih tails
          exact ⟨by omega,rest.2⟩

theorem exists_head_run [DecidableEq α] (a : α) (data : List α) :
    ∃ n after, data = List.replicate n a ++ after ∧ after.head? ≠ some a := by
  induction data with
  | nil => exact ⟨0,[],rfl,by simp⟩
  | cons first rest ih =>
      by_cases same : first = a
      · subst first
        obtain ⟨n,after,equal,ends⟩ := ih
        exact ⟨n + 1,after,by rw [equal,List.replicate_succ,List.cons_append],ends⟩
      · exact ⟨0,first :: rest,rfl,by simpa using same⟩

-- Every list is built from its end by putting one maximal run before the rest.
theorem runs_induction [DecidableEq α] {motive : List α → Prop} (nil : motive [])
    (run : ∀ a n after, 0 < n → after.head? ≠ some a → motive after → motive (List.replicate n a ++ after))
    (data : List α) : motive data := by
  induction length : data.length using Nat.strongRecOn generalizing data with
  | ind size ih =>
      cases data with
      | nil => exact nil
      | cons first rest =>
          obtain ⟨n,after,equal,ends⟩ := exists_head_run first rest
          have whole : first :: rest = List.replicate (n + 1) first ++ after := by
            rw [equal,List.replicate_succ,List.cons_append]
          have shorter : after.length < size := by
            rw [← length,whole,List.length_append,List.length_replicate]
            omega
          rw [whole]
          exact run first (n + 1) after (by omega) ends (ih _ shorter after rfl)

@[simp] theorem everyRun_nil (a : α) (holds : ℕ → List α → Prop) : EveryRun a holds [] := by
  intro before n after equal positive _ _
  have sizes := congrArg List.length equal
  simp only [List.length_nil,List.length_append,List.length_replicate] at sizes
  omega

theorem everyRun_replicate_append {a b : α} {holds : ℕ → List α → Prop} {after : List α} (positive : 0 < n)
    (ends : after.head? ≠ some b) :
    EveryRun a holds (List.replicate n b ++ after) ↔ (b = a → holds n after) ∧ EveryRun a holds after := by
  constructor
  · intro all
    constructor
    · intro same
      subst b
      exact all [] n after (by simp) positive (by simp) ends
    · intro before m rest equal large starts stops
      apply all (List.replicate n b ++ before) m rest (by rw [equal]; simp) large ?_ stops
      cases before with
      | nil =>
          intro last
          rw [List.append_nil,List.getLast?_replicate,if_neg (by omega)] at last
          obtain ⟨m,rfl⟩ := Nat.exists_eq_succ_of_ne_zero (Nat.pos_iff_ne_zero.mp large)
          apply ends
          rw [equal,last]
          rfl
      | cons first middle => rw [List.getLast?_append_of_ne_nil _ (by simp)]; exact starts
  · intro both before m rest equal large starts stops
    rw [List.append_assoc,List.append_eq_append_iff] at equal
    rcases equal with ⟨inner,split,equal⟩ | ⟨inner,split,equal⟩
    · apply both.2 inner m rest (by rw [equal,List.append_assoc]) large ?_ stops
      intro last
      apply starts
      rw [split,List.getLast?_append,last]
      rfl
    · cases inner with
      | nil => exact both.2 [] m rest (by simpa using equal.symm) large (by simp) stops
      | cons first middle =>
          obtain ⟨_,left,right⟩ := List.replicate_eq_append_iff.mp split
          obtain ⟨m,rfl⟩ := Nat.exists_eq_succ_of_ne_zero (Nat.pos_iff_ne_zero.mp large)
          have same : b = a := by
            have heads := congrArg List.head? equal
            have here : first = b := List.eq_of_mem_replicate (by rw [← right]; exact List.mem_cons_self)
            simpa [List.replicate_succ,here] using heads.symm
          subst b
          have empty : before = [] := by
            rw [List.eq_replicate_iff] at left
            by_contra nonempty
            exact starts (by rw [List.getLast?_eq_some_getLast nonempty,left.2 _ (List.getLast_mem nonempty)])
          rw [empty,List.nil_append] at split
          rw [← split] at equal
          obtain ⟨length,tails⟩ := replicate_append_unique stops ends equal
          rw [length,tails]
          exact both.1 rfl

end PhantomFlow.Library
