import Mathlib.Data.List.Sort

namespace PhantomFlow.Library

-- The number that an array index is written as; leading zeros and numbers from
-- `2 ^ 32 - 1` on are ordinary names.
def arrayIndex (name : String) : Option ℕ :=
  let digits := name.toList
  let index := digits.foldl (fun n c => n * 10 + (c.toNat - 48)) 0
  if digits ≠ [] ∧ digits.all Char.isDigit ∧ (digits.head? = some '0' → digits = ['0']) ∧ index < 4294967295
  then some index else none

-- The order in which a script enumerates the properties of an object: the array
-- indices by their number, then the other names as they were first written.
def propertyOrder (names : List String) : List String :=
  (names.filter (fun name => (arrayIndex name).isSome)).insertionSort
      (fun one two => (arrayIndex one).getD 0 ≤ (arrayIndex two).getD 0) ++
    names.filter (fun name => (arrayIndex name).isNone)

theorem mem_propertyOrder (names : List String) (name : String) : name ∈ propertyOrder names ↔ name ∈ names := by
  unfold propertyOrder
  rw [List.mem_append,(List.perm_insertionSort _ _).mem_iff,List.mem_filter,List.mem_filter]
  cases index : arrayIndex name with
  | none => simp
  | some n => simp

end PhantomFlow.Library
