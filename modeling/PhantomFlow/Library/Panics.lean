import Mathlib.Algebra.Ring.Nat

namespace PhantomFlow.Library.Panics

-- Operations of a language with bounds and overflow checks. `none` is a panic.
def index (data : List α) (i : ℕ) : Option α := data[i]?

def sliceFrom (data : List α) (first : ℕ) : Option (List α) :=
  if first ≤ data.length then some (data.drop first) else none

def slice (data : List α) (first last : ℕ) : Option (List α) :=
  if first ≤ last ∧ last ≤ data.length then some ((data.drop first).take (last - first)) else none

def copyFromSlice (size : ℕ) (source : List α) : Option (List α) :=
  if source.length = size then some source else none

def indices (data : List α) (first n : ℕ) : Option (List α) := (List.range n).mapM (fun k => index data (first + k))

def within (bits n : ℕ) : Option ℕ := if n < 2 ^ bits then some n else none

theorem index_eq (d : α) (inside : i < data.length) : index data i = some (data.getD i d) := by
  rw [index,List.getD_eq_getElem?_getD,List.getElem?_eq_getElem inside]
  rfl

theorem sliceFrom_eq (inside : first ≤ data.length) : sliceFrom data first = some (data.drop first) := if_pos inside

theorem slice_eq (ordered : first ≤ last) (inside : last ≤ data.length) :
    slice data first last = some ((data.drop first).take (last - first)) := if_pos ⟨ordered,inside⟩

theorem copyFromSlice_eq (fits : source.length = size) : copyFromSlice size source = some source := if_pos fits

theorem within_eq (small : n < 2 ^ bits) : within bits n = some n := if_pos small

theorem mapM_some {f : α → Option β} {xs : List α} (g : α → β) (all : ∀ x ∈ xs, f x = some (g x)) : xs.mapM f = some (xs.map g) := by
  induction xs with
  | nil => rfl
  | cons x rest ih =>
      obtain ⟨first,others⟩ := List.forall_mem_cons.mp all
      rw [List.mapM_cons,first,ih others]
      rfl

theorem indices_eq (d : α) (inside : first + n ≤ data.length) :
    indices data first n = some ((List.range n).map (fun k => data.getD (first + k) d)) := by
  apply mapM_some
  intro k listed
  have below := List.mem_range.mp listed
  exact index_eq d (by omega)

section Lifted
variable {ε : Type u}

-- A computation that may fail as well as panic: no panic is what is left.
def calm (result : Except ε α) : ExceptT ε Option α := .mk (some result)

theorem calm_ok_bind (a : α) (f : α → ExceptT ε Option β) : (calm (.ok a) >>= f) = f a := rfl

theorem ok_bind (a : α) (f : α → Except ε β) : (.ok a >>= f) = f a := rfl

theorem calm_map (result : Except ε α) (f : α → β) :
    (calm result >>= fun a => pure (f a)) = calm (result.map f) := by
  cases result with
  | error reason => rfl
  | ok a => rfl

theorem lift_some (a : α) : (liftM (some a) : ExceptT ε Option α) = pure a := rfl

end Lifted
end PhantomFlow.Library.Panics
