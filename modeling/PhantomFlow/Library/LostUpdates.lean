import Mathlib.Algebra.BigOperators.Group.Finset.Basic
import Mathlib.Data.Fintype.BigOperators

namespace PhantomFlow.Library

-- A register that clients read and later overwrite. Beside the value stands the number
-- of writes so far, and a client that has read holds both as they were.
structure Register (α : Type u) where
  value : α
  writes : ℕ

structure Held (α : Type u) where
  value : α
  seen : ℕ

namespace Register
variable {α : Type u} (size : α → ℕ) {r : Register α} {held : Held α}

def read (r : Register α) : Held α := ⟨r.value,r.writes⟩

def write (r : Register α) (value : α) : Register α := ⟨value,r.writes + 1⟩

-- Nothing makes the size grow but writes, each by one at most. The register is complete
-- where each of them did.
def Bounded (r : Register α) : Prop := size r.value ≤ r.writes

def Complete (r : Register α) : Prop := size r.value = r.writes

structure Holds (r : Register α) (held : Held α) : Prop where
  earlier : held.seen ≤ r.writes
  bounded : size held.value ≤ held.seen
  current : held.seen = r.writes → held.value = r.value

variable {size}

theorem holds_read (bounded : r.Bounded size) : r.Holds size r.read := ⟨le_refl _,bounded,fun _ => rfl⟩

theorem Holds.write (holds : r.Holds size held) (value : α) : (r.write value).Holds size held := by
  refine ⟨Nat.le_succ_of_le holds.earlier,holds.bounded,?_⟩
  intro later
  have earlier := holds.earlier
  simp only [Register.write] at later
  omega

theorem Holds.bounded_write (holds : r.Holds size held) (grown : size next ≤ size held.value + 1) :
    (r.write next).Bounded size := by
  have earlier := holds.earlier
  have bounded := holds.bounded
  simp only [Bounded,Register.write]
  omega

-- A write from what was read completes the register exactly where no other write came
-- in between and none was lost before.
theorem Holds.complete_write_iff (holds : r.Holds size held) (grown : size next = size held.value + 1) :
    (r.write next).Complete size ↔ r.Complete size ∧ held.seen = r.writes := by
  have earlier := holds.earlier
  have bounded := holds.bounded
  simp only [Complete,Register.write,grown]
  constructor
  · intro all
    have fresh : held.seen = r.writes := by omega
    rw [← holds.current fresh]
    exact ⟨by omega,fresh⟩
  · rintro ⟨complete,fresh⟩
    rw [holds.current fresh,complete]

end Register

theorem sum_moved [Fintype ι] [DecidableEq ι] {i : ι} {stage : α} (f : ι → α → ℕ) (stages : ι → α)
    (more : f i stage = f i (stages i) + k) :
    (∑ j, f j (Function.update stages i stage j)) = (∑ j, f j (stages j)) + k := by
  have others : ∑ j ∈ Finset.univ.erase i, f j (Function.update stages i stage j) =
      ∑ j ∈ Finset.univ.erase i, f j (stages j) := by
    apply Finset.sum_congr rfl
    intro j member
    rw [Function.update_of_ne (Finset.ne_of_mem_erase member)]
  rw [← Finset.add_sum_erase _ _ (Finset.mem_univ i),others,Function.update_self,more,
    ← Finset.add_sum_erase _ (fun j => f j (stages j)) (Finset.mem_univ i)]
  omega

end PhantomFlow.Library
